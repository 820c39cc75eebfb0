import Mathlib.Data.List.Basic
import QueryDraft.Proofs.Limit

namespace QueryDraft

/-- How many types can still be entered below a path, each of `types` at most twice, and the second
time only right below the first. -/
def room (types path : List String) : Nat :=
  2 * types.countP (fun t => !path.contains t) +
    match path with
    | [] => 0
    | parent :: above => if parent ∈ above then 0 else 1

theorem countP_fresh_lt {types path : List String} {type : String} (h : type ∈ types)
    (hp : type ∉ path) :
    types.countP (fun t => !(type :: path).contains t) <
      types.countP fun t => !path.contains t := by
  have hle : ∀ ts : List String,
      ts.countP (fun t => !(type :: path).contains t) ≤ ts.countP fun t => !path.contains t :=
    fun ts => List.countP_mono_left fun t _ ht => by
      simp only [List.contains_cons, Bool.not_or, Bool.and_eq_true] at ht
      exact ht.2
  obtain ⟨before, after, rfl⟩ := List.append_of_mem h
  have hb := hle before
  have ha := hle after
  rw [List.countP_append, List.countP_append, List.countP_cons_of_neg (by simp),
    List.countP_cons_of_pos (by simpa using hp)]
  omega

theorem room_lt {types path : List String} {type : String} (h : type ∈ types)
    (hc : closesCycle path type = false) : room types (type :: path) < room types path := by
  cases path with
  | nil =>
    have hlt := countP_fresh_lt h (List.not_mem_nil (a := type))
    simp only [room, List.not_mem_nil, if_false]
    omega
  | cons parent above =>
    have ha : type ∉ above := by simpa [closesCycle] using hc
    by_cases hp : type = parent
    · -- No type is left out of the path that was not before; what is spent is the second
      -- entrance of the parent.
      subst hp
      have he : types.countP (fun t => !(type :: type :: above).contains t) =
          types.countP fun t => !(type :: above).contains t :=
        List.countP_congr fun t _ => by simp
      simp only [room, he, List.mem_cons_self, if_true, if_neg ha]
      omega
    · have hlt := countP_fresh_lt h (show type ∉ parent :: above by simp [hp, ha])
      have hn : type ∉ parent :: above := by simp [hp, ha]
      simp only [room, if_neg hn]
      omega

/-- Below its path, a type that was entered twice stands only right below itself. -/
def Entrances : List String → Prop
  | [] => True
  | type :: above => closesCycle above type = false ∧ Entrances above

namespace Entrances

theorem count_le {path : List String} (h : Entrances path) (type : String) :
    path.count type ≤ 2 := by
  induction path with
  | nil => simp
  | cons t above ih =>
    obtain ⟨hc, ha⟩ := h
    by_cases ht : t = type
    · subst ht
      cases above with
      | nil => simp
      | cons parent above =>
        have hz : above.count t = 0 := List.count_eq_zero.mpr (by simpa [closesCycle] using hc)
        rw [List.count_cons_self, List.count_cons, hz]
        split <;> omega
    · rw [List.count_cons_of_ne ht]
      exact ih ha

theorem adjacent {path : List String} (h : Entrances path) {i j : Nat} {type : String} (hij : i < j)
    (hi : path[i]? = some type) (hj : path[j]? = some type) : j = i + 1 := by
  induction path generalizing i j with
  | nil => simp at hi
  | cons t above ih =>
    obtain ⟨hc, ha⟩ := h
    obtain ⟨j, rfl⟩ : ∃ k, j = k + 1 := ⟨j - 1, by omega⟩
    rw [List.getElem?_cons_succ] at hj
    cases i with
    | zero =>
      cases hi
      cases j with
      | zero => rfl
      | succ j =>
        have hm : type ∈ above.tail := by
          rw [← List.getElem?_tail] at hj
          exact List.mem_of_getElem? hj
        exact absurd hm (by simpa [closesCycle] using hc)
    | succ i =>
      have := ih ha (show i < j by omega) hi hj
      omega

end Entrances

def TypeDef.isComposite : TypeDef → Bool
  | .object _ | .interface _ | .union _ => true
  | _ => false

namespace Schema

variable (s : Schema) (skipDeprecated : Bool)

def isComposite (type : String) : Bool := (s.find? type).any TypeDef.isComposite

def composites : List String := (s.types.filter fun t => t.2.isComposite).map Prod.fst

theorem mem_composites {type : String} (h : s.isComposite type = true) : type ∈ s.composites := by
  obtain ⟨d, hd, hc⟩ := (Option.any_eq_true _ _).mp h
  obtain ⟨before, after, hs, -⟩ := List.lookup_eq_some_iff.mp hd
  apply List.mem_map_of_mem (f := Prod.fst) (a := (type, d))
  exact List.mem_filter.mpr ⟨by rw [hs]; simp, hc⟩

variable {s skipDeprecated} in
theorem isComposite_of_step {type : String} {step : Step} (h : step ∈ s.steps skipDeprecated type) :
    s.isComposite type = true := by
  rw [steps] at h
  split at h
  · next fs hd => simp [isComposite, hd, TypeDef.isComposite]
  · next fs hd => simp [isComposite, hd, TypeDef.isComposite]
  · next ms hd => simp [isComposite, hd, TypeDef.isComposite]
  · cases h

/-- The selection from a type with no bound on its depth. -/
def selectFully (path : List String) (type : String) : List Selection :=
  if closesCycle path type then []
  else
    (s.steps skipDeprecated type).attach.flatMap fun ⟨step, _⟩ =>
      match step with
      | .leaf name => [.leaf name]
      | .down label target => labelled label (selectFully (type :: path) target)
termination_by room s.composites path
decreasing_by
  exact room_lt (s.mem_composites (isComposite_of_step ‹_›))
    (by simpa using ‹¬ closesCycle path type = true›)

theorem selectFully_eq (path : List String) (type : String) :
    s.selectFully skipDeprecated path type =
      if closesCycle path type then []
      else
        (s.steps skipDeprecated type).flatMap
          (branch (s.selectFully skipDeprecated (type :: path))) := by
  have hb : ∀ (step : Step) (h : step ∈ s.steps skipDeprecated type),
      (match step with
        | .leaf name => [.leaf name]
        | .down label target =>
          labelled label (s.selectFully skipDeprecated (type :: path) target)) =
      branch (s.selectFully skipDeprecated (type :: path)) step := by
    intro step _
    cases step with
    | leaf name => rfl
    | down label target => rfl
  rw [selectFully]
  split
  · rfl
  · rw [List.flatMap_subtype hb, List.unattach_attach]

end Schema

/-- A call of the walk: from a type, below the types of a path, of which the parent is the first. -/
structure Call where
  path : List String
  type : String

def Call.level (call : Call) : Nat := call.path.length + 1

namespace Schema

variable (s : Schema) (skipDeprecated : Bool)

inductive Makes : Call → Call → Prop where
  | down {path : List String} {type : String} {label : Label} {target : String}
      (hc : closesCycle path type = false) (h : .down label target ∈ s.steps skipDeprecated type) :
      Makes ⟨path, type⟩ ⟨type :: path, target⟩

inductive Calls (start : String) : Call → Prop where
  | first : Calls start ⟨[], start⟩
  | next {call further : Call} (hc : Calls start call)
      (h : s.Makes skipDeprecated call further) : Calls start further

def Expands (call : Call) : Prop :=
  closesCycle call.path call.type = false ∧ s.isComposite call.type = true

/-- A call sees the path it is made on and, if it goes on, that path with its own type. -/
def Sees (call : Call) (path : List String) : Prop :=
  path = call.path ∨ s.Expands call ∧ path = call.type :: call.path

/-- The walk from a type goes through the fields or members of no more than `n` types. -/
def ExpandsAtMost (start : String) (n : Nat) : Prop :=
  ∃ types : List String, types.length ≤ n ∧
    ∀ call, s.Calls skipDeprecated start call → s.Expands call → call.type ∈ types

theorem expandsAtMost_composites (start : String) :
    s.ExpandsAtMost skipDeprecated start s.composites.length :=
  ⟨s.composites, Nat.le_refl _, fun _ _ h => s.mem_composites h.2⟩

variable {s skipDeprecated} {start : String} {call further : Call}

theorem Makes.expands (h : s.Makes skipDeprecated call further) :
    s.Expands call ∧ further.path = call.type :: call.path := by
  obtain ⟨hc, hs⟩ := h
  exact ⟨⟨hc, isComposite_of_step hs⟩, rfl⟩

theorem makes_wellFounded :
    WellFounded fun further call => s.Makes skipDeprecated call further := by
  have hr : ∀ {call further : Call}, s.Makes skipDeprecated call further →
      room s.composites further.path < room s.composites call.path := by
    intro call further h
    obtain ⟨he, hp⟩ := h.expands
    rw [hp]
    exact room_lt (s.mem_composites he.2) he.1
  exact Subrelation.wf (fun h => hr h)
    (InvImage.wf (fun call : Call => room s.composites call.path) Nat.lt_wfRel.wf)

theorem Calls.entrances (h : s.Calls skipDeprecated start call) : Entrances call.path := by
  induction h with
  | first => trivial
  | next _ h ih =>
    obtain ⟨he, hp⟩ := h.expands
    rw [hp]
    exact ⟨he.1, ih⟩

theorem Sees.entrances {path : List String} (hs : s.Sees call path)
    (hc : s.Calls skipDeprecated start call) : Entrances path := by
  obtain rfl | ⟨he, rfl⟩ := hs
  · exact hc.entrances
  · exact ⟨he.1, hc.entrances⟩

section

variable {types : List String}
    (ht : ∀ call, s.Calls skipDeprecated start call → s.Expands call → call.type ∈ types)

include ht

theorem room_add_length_le (h : s.Calls skipDeprecated start call) :
    room types call.path + call.path.length ≤ 2 * types.length := by
  induction h with
  | first => simp [room]
  | next hc h ih =>
    obtain ⟨he, hp⟩ := h.expands
    have hlt := room_lt (ht _ hc he) he.1
    rw [hp, List.length_cons]
    omega

theorem level_le_of_expands (h : s.Calls skipDeprecated start call) (he : s.Expands call) :
    call.level ≤ 2 * types.length := by
  have hr := room_add_length_le ht h
  have hlt := room_lt (ht call h he) he.1
  rw [Call.level]
  omega

/-- With as many levels as there is room on the path, a depth changes nothing. -/
theorem select_eq_selectFully {levels : Nat} (h : s.Calls skipDeprecated start call)
    (hl : room types call.path ≤ levels) :
    select (s.steps skipDeprecated) levels call.path call.type =
      s.selectFully skipDeprecated call.path call.type := by
  induction levels generalizing call with
  | zero =>
    rw [selectFully_eq, select]
    split
    · rfl
    · next hc =>
      have hn : ∀ step, step ∉ s.steps skipDeprecated call.type := by
        intro step hs
        have hc : closesCycle call.path call.type = false := by simpa using hc
        have hlt := room_lt (ht call h ⟨hc, isComposite_of_step hs⟩) hc
        omega
      rw [List.eq_nil_iff_forall_not_mem.mpr hn, List.flatMap_nil]
  | succ levels ih =>
    rw [selectFully_eq, select_succ]
    split
    · rfl
    · next hc =>
      have hc : closesCycle call.path call.type = false := by simpa using hc
      apply List.flatMap_congr
      intro step hs
      cases step with
      | leaf name => rfl
      | down label target =>
        have hlt := room_lt (ht call h ⟨hc, isComposite_of_step hs⟩) hc
        have hb := ih (h.next (.down hc hs)) (by dsimp only; omega)
        rw [branch, branch, hb]

end

theorem body_eq_selectFully {n : Nat} (h : s.ExpandsAtMost skipDeprecated start n) {levels : Nat}
    (hl : 2 * n ≤ levels) :
    select (s.steps skipDeprecated) levels [] start = s.selectFully skipDeprecated [] start := by
  obtain ⟨types, hn, ht⟩ := h
  have hf : s.Calls skipDeprecated start ⟨[], start⟩ := .first
  have hr := room_add_length_le ht hf
  exact select_eq_selectFully ht hf (by omega)

variable (s skipDeprecated)

/-- The operation of a root field with everything below it, however deep that is. -/
def operationFully (root : RootField) : Except DraftError Operation :=
  match root.kind.operationName? root.field.name with
  | none => .error .emptyFieldName
  | some name =>
    .ok ⟨root.kind, name, root.field.name, root.field.args,
      s.selectFully skipDeprecated [] root.field.type.target⟩

end Schema

namespace Options

def documentFully (o : Options) (s : Schema) : Except DraftError (List Char) :=
  (s.roots.mapM (s.operationFully o.skipDeprecated)).map fun ops => ops.flatMap Operation.paragraph

theorem assemble_eq_documentFully (o : Options) (s : Schema) {n : Nat}
    (h : ∀ root ∈ s.roots, s.ExpandsAtMost o.skipDeprecated root.field.type.target n) {depth : Nat}
    (hd : 2 * n ≤ effectiveDepth depth) (begun : Nat) :
    (o.assemble s (fun _ => false) depth false begun).1 = o.documentFully s := by
  have ha : ∀ root ∈ s.roots,
      (Scope.mk depth o.skipDeprecated none).alone s root =
        s.operationFully o.skipDeprecated root := by
    intro root hr
    rw [Schema.operationFully]
    obtain ⟨hn, ha⟩ | ⟨name, hn, ha⟩ := (Scope.mk depth o.skipDeprecated none).alone_cases s root
    · rw [ha, hn]
    · rw [ha, hn, Scope.body, Schema.body_eq_selectFully (h root hr) hd]
  rw [assemble_unlimited, separately, Scope.separately, documentFully, Outcome.mapM_congr ha]

end Options

/-- What cycles alone do to the walk of a schema with `n` composite types. Only the types the walk
reaches count, so `reached` asks for less than `n` levels where a schema has types that no operation
selects from. -/
structure EndsAtCycles (o : Options) (s : Schema) (n : Nat) : Prop where
  wellFounded : WellFounded fun further call => s.Makes o.skipDeprecated call further
  twice : ∀ start call, s.Calls o.skipDeprecated start call → ∀ path, s.Sees call path →
    ∀ type, path.count type ≤ 2
  adjacent : ∀ start call, s.Calls o.skipDeprecated start call → ∀ path, s.Sees call path →
    ∀ i j type, i < j → path[i]? = some type → path[j]? = some type → j = i + 1
  still : ∀ start call, s.Calls o.skipDeprecated start call → 2 * n < call.level → ¬ s.Expands call
  deep : ∀ depth begun, max 1 (2 * n) ≤ depth →
    (o.assemble s (fun _ => false) depth false begun).1 = o.documentFully s
  auto : n ≤ 50 → ∀ begun, (o.assemble s (fun _ => false) 0 false begun).1 = o.documentFully s
  reached : ∀ m, (∀ root ∈ s.roots, s.ExpandsAtMost o.skipDeprecated root.field.type.target m) →
    ∀ depth begun, 2 * m ≤ effectiveDepth depth →
      (o.assemble s (fun _ => false) depth false begun).1 = o.documentFully s

theorem cycles_end_walk (o : Options) (s : Schema) : EndsAtCycles o s s.composites.length := by
  have hn : ∀ start, s.ExpandsAtMost o.skipDeprecated start s.composites.length :=
    s.expandsAtMost_composites o.skipDeprecated
  have hroots := fun root (_ : root ∈ s.roots) => hn root.field.type.target
  refine ⟨Schema.makes_wellFounded, fun _ _ hc _ hs type => (hs.entrances hc).count_le type,
    fun _ _ hc _ hs _ _ _ hij hi hj => (hs.entrances hc).adjacent hij hi hj, ?still, ?deep, ?auto,
    fun m hm depth begun hd => o.assemble_eq_documentFully s hm hd begun⟩
  case still =>
    intro start call hc hl he
    have := Schema.level_le_of_expands (fun call _ he => s.mem_composites he.2) hc he
    omega
  case deep =>
    intro depth begun hd
    apply o.assemble_eq_documentFully s hroots
    rw [effectiveDepth, if_neg (by omega)]
    omega
  case auto =>
    intro hle begun
    apply o.assemble_eq_documentFully s hroots
    rw [effectiveDepth, if_pos rfl]
    simp only [depthCeiling]
    omega

end QueryDraft
