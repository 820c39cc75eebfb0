import QueryDraft.Proofs.Walk

namespace QueryDraft

/-- A step to another type: which of the declared fields or members it takes, under which label it
is written, and where it leads. -/
structure Hop where
  position : Nat
  label : Label
  target : String

structure Route where
  hops : List Hop
  position : Nat
  leaf : String

namespace Route

def below (hop : Hop) (r : Route) : Route := { r with hops := hop :: r.hops }

def types (start : String) (r : Route) : List String := start :: r.hops.map Hop.target

/-- Routes from a type come in the lexicographic order of these. -/
def positions (r : Route) : List Nat := r.hops.map Hop.position ++ [r.position]

def labels (r : Route) : List Label := r.hops.map Hop.label

def path (r : Route) : List Label × String := (r.labels, r.leaf)

/-- At most `depth` types, and none that is among those above its predecessor. -/
def Admissible (depth : Nat) (start : String) (r : Route) : Prop :=
  (r.types start).length ≤ depth ∧ ∀ i type, (r.types start)[i]? = some type →
    type ∉ (r.types start).take (i - 1)

end Route

/-- A route follows what the types declare: their fields, of which leaves end it, and the
members of unions. -/
inductive Schema.Leads (s : Schema) : String → Route → Prop where
  | leaf {type : String} {i : Nat} {f : Field} (h : (s.fieldsOf type)[i]? = some f)
      (hl : s.isLeaf f.type.target = true) : Leads s type ⟨[], i, f.name⟩
  | field {type : String} {i : Nat} {f : Field} {r : Route} (h : (s.fieldsOf type)[i]? = some f)
      (hl : s.isLeaf f.type.target = false) (hr : Leads s f.type.target r) :
      Leads s type (r.below ⟨i, .field f.name, f.type.target⟩)
  | member {type : String} {ms : List String} {i : Nat} {m : String} {r : Route}
      (h : s.find? type = some (.union ms)) (hm : ms[i]? = some m) (hr : Leads s m r) :
      Leads s type (r.below ⟨i, .fragment m, m⟩)

inductive Follows (steps : String → List Step) : String → Route → Prop where
  | leaf {type : String} {i : Nat} {name : String} (h : (steps type)[i]? = some (.leaf name)) :
      Follows steps type ⟨[], i, name⟩
  | down {type : String} {i : Nat} {label : Label} {target : String} {r : Route}
      (h : (steps type)[i]? = some (.down label target)) (hr : Follows steps target r) :
      Follows steps type (r.below ⟨i, label, target⟩)

namespace Schema

variable {s : Schema} {type : String}

theorem steps_union {ms : List String} (h : s.find? type = some (.union ms))
    (skipDeprecated : Bool) :
    s.steps skipDeprecated type = ms.map fun m => .down (.fragment m) m := by
  rw [steps, h]

theorem fieldsOf_union {ms : List String} (h : s.find? type = some (.union ms)) :
    s.fieldsOf type = [] := by
  rw [fieldsOf, h]
  rfl

theorem filter_keeps (fs : List Field) : fs.filter (keeps false) = fs :=
  List.filter_eq_self.mpr fun _ _ => rfl

theorem steps_fields (h : ∀ ms, s.find? type ≠ some (.union ms)) (skipDeprecated : Bool) :
    s.steps skipDeprecated type =
      ((s.fieldsOf type).filter (keeps skipDeprecated)).map s.fieldStep := by
  rw [steps, fieldsOf]
  cases hd : s.find? type with
  | none => rfl
  | some d =>
    cases d with
    | object fs | interface fs => rfl
    | union ms => exact absurd hd (h ms)
    | scalar | enum | inputObject => rfl

theorem steps_of_field {i : Nat} {f : Field} (h : (s.fieldsOf type)[i]? = some f) :
    (s.steps false type)[i]? = some (s.fieldStep f) := by
  have hu : ∀ ms, s.find? type ≠ some (.union ms) := by
    intro ms hm
    rw [fieldsOf_union hm] at h
    cases h
  rw [steps_fields hu, filter_keeps, List.getElem?_map, h]
  rfl

theorem follows_of_leads {r : Route} (h : s.Leads type r) : Follows (s.steps false) type r := by
  induction h with
  | leaf h hl =>
    apply Follows.leaf
    rw [steps_of_field h, fieldStep, if_pos hl]
  | field h hl _ ih =>
    apply Follows.down _ ih
    rw [steps_of_field h, fieldStep, hl]
    rfl
  | member h hm _ ih =>
    apply Follows.down _ ih
    rw [steps_union h, List.getElem?_map, hm]
    rfl

theorem step_cases {i : Nat} {step : Step} (h : (s.steps false type)[i]? = some step) :
    (∃ f, (s.fieldsOf type)[i]? = some f ∧ s.isLeaf f.type.target = true ∧ step = .leaf f.name) ∨
    (∃ f, (s.fieldsOf type)[i]? = some f ∧ s.isLeaf f.type.target = false ∧
      step = .down (.field f.name) f.type.target) ∨
    ∃ ms m, s.find? type = some (.union ms) ∧ ms[i]? = some m ∧ step = .down (.fragment m) m := by
  by_cases hu : ∃ ms, s.find? type = some (.union ms)
  · obtain ⟨ms, hu⟩ := hu
    rw [steps_union hu, List.getElem?_map] at h
    obtain ⟨m, hm, rfl⟩ := Option.map_eq_some_iff.mp h
    exact .inr (.inr ⟨ms, m, hu, hm, rfl⟩)
  · rw [steps_fields fun ms hm => hu ⟨ms, hm⟩, filter_keeps, List.getElem?_map] at h
    obtain ⟨f, hf, rfl⟩ := Option.map_eq_some_iff.mp h
    cases hl : s.isLeaf f.type.target with
    | true => exact .inl ⟨f, hf, hl, by rw [fieldStep, if_pos hl]⟩
    | false => exact .inr (.inl ⟨f, hf, hl, by rw [fieldStep, hl]; rfl⟩)

theorem leads_of_follows {r : Route} (h : Follows (s.steps false) type r) : s.Leads type r := by
  induction h with
  | leaf h =>
    obtain ⟨f, hf, hl, he⟩ | ⟨f, -, -, he⟩ | ⟨ms, m, -, -, he⟩ := step_cases h
    · cases he
      exact .leaf hf hl
    · cases he
    · cases he
  | down h _ ih =>
    obtain ⟨f, -, -, he⟩ | ⟨f, hf, hl, he⟩ | ⟨ms, m, hu, hm, he⟩ := step_cases h
    · cases he
    · cases he
      exact .field hf hl ih
    · cases he
      exact .member hu hm ih

end Schema

/-- The routes that start with a step, `below` being those from the type that it leads to. -/
def Step.routes (below : String → List Route) (i : Nat) : Step → List Route
  | .leaf name => [⟨[], i, name⟩]
  | .down label target => (below target).map (Route.below ⟨i, label, target⟩)

def routes (steps : String → List Step) : (levels : Nat) → (path : List String) → (type : String) →
    List Route
  | 0, _, _ => []
  | levels + 1, path, type =>
    if closesCycle path type then []
    else (steps type).zipIdx.flatMap fun (step, i) =>
      step.routes (routes steps levels (type :: path)) i

/-- Types that are entered one after another below a path, without closing a cycle. -/
def Entered : (path types : List String) → Prop
  | _, [] => True
  | path, type :: types => closesCycle path type = false ∧ Entered (type :: path) types

theorem mem_stepRoutes {below : String → List Route} {i : Nat} {step : Step} {r : Route}
    (h : r ∈ step.routes below i) :
    (∃ name, step = .leaf name ∧ r = ⟨[], i, name⟩) ∨
      ∃ label target r', step = .down label target ∧ r' ∈ below target ∧
      r = r'.below ⟨i, label, target⟩ := by
  cases step with
  | leaf name => exact .inl ⟨name, rfl, List.mem_singleton.mp h⟩
  | down label target =>
    obtain ⟨r', hr, rfl⟩ := List.mem_map.mp h
    exact .inr ⟨label, target, r', rfl, hr, rfl⟩

variable {steps : String → List Step}

theorem routes_sound {levels : Nat} {path : List String} {type : String} {r : Route}
    (h : r ∈ routes steps levels path type) :
    Follows steps type r ∧ (r.types type).length ≤ levels ∧ Entered path (r.types type) := by
  induction levels generalizing path type r with
  | zero => cases h
  | succ levels ih =>
    rw [routes] at h
    split at h
    · cases h
    · next hc =>
      have hc : closesCycle path type = false := by simpa using hc
      obtain ⟨⟨step, i⟩, hs, hr⟩ := List.mem_flatMap.mp h
      have hs := List.mem_zipIdx_iff_getElem?.mp hs
      obtain ⟨name, rfl, rfl⟩ | ⟨label, target, r', rfl, hm, rfl⟩ := mem_stepRoutes hr
      · exact ⟨.leaf hs, Nat.succ_le_succ (Nat.zero_le _), hc, trivial⟩
      · obtain ⟨hf, hl, he⟩ := ih hm
        exact ⟨.down hs hf, Nat.succ_le_succ hl, hc, he⟩

theorem routes_complete {type : String} {r : Route} (h : Follows steps type r) {levels : Nat}
    {path : List String} (hl : (r.types type).length ≤ levels) (he : Entered path (r.types type)) :
    r ∈ routes steps levels path type := by
  induction h generalizing levels path with
  | @leaf type i name h =>
    cases levels with
    | zero => cases hl
    | succ levels =>
      rw [routes, if_neg (by simp [he.1])]
      apply List.mem_flatMap.mpr
      refine ⟨(.leaf name, i), List.mem_zipIdx_iff_getElem?.mpr h, ?_⟩
      exact List.mem_singleton_self _
  | @down type i label target r h _ ih =>
    cases levels with
    | zero => cases hl
    | succ levels =>
      rw [routes, if_neg (by simp [he.1])]
      apply List.mem_flatMap.mpr
      refine ⟨(.down label target, i), List.mem_zipIdx_iff_getElem?.mpr h, ?_⟩
      exact List.mem_map_of_mem (ih (Nat.le_of_succ_le_succ hl) he.2)

theorem entered_iff (path types : List String) :
    Entered path types ↔ ∀ i type, types[i]? = some type →
    type ∉ ((types.take i).reverse ++ path).tail := by
  induction types generalizing path with
  | nil => simp [Entered]
  | cons t types ih =>
    rw [Entered, ih]
    constructor
    · rintro ⟨hc, h⟩ i type hi
      cases i with
      | zero =>
        cases hi
        simpa [closesCycle] using hc
      | succ i => simpa using h i type hi
    · intro h
      refine ⟨by simpa [closesCycle] using h 0 t rfl, fun i type hi => ?_⟩
      simpa using h (i + 1) type hi

theorem entered_nil_iff (types : List String) :
    Entered [] types ↔ ∀ i type, types[i]? = some type → type ∉ types.take (i - 1) := by
  have ht : ∀ i, i < types.length →
      ((types.take i).reverse ++ []).tail = (types.take (i - 1)).reverse := by
    intro i hi
    rw [List.append_nil, List.tail_reverse, List.dropLast_take hi]
  rw [entered_iff]
  refine forall_congr' fun i => forall_congr' fun type => imp_congr_right fun hi => ?_
  obtain ⟨hlt, -⟩ := List.getElem?_eq_some_iff.mp hi
  rw [ht i hlt, List.mem_reverse]

/-- The walk takes the admissible routes that the types declare. -/
theorem mem_routes (s : Schema) (levels : Nat) (type : String) (r : Route) :
    r ∈ routes (s.steps false) levels [] type ↔ s.Leads type r ∧ r.Admissible levels type := by
  constructor
  · intro h
    obtain ⟨hf, hl, he⟩ := routes_sound h
    exact ⟨s.leads_of_follows hf, hl, (entered_nil_iff _).mp he⟩
  · rintro ⟨hs, hl, he⟩
    exact routes_complete (s.follows_of_leads hs) hl ((entered_nil_iff _).mpr he)

theorem positions_stepRoutes {below : String → List Route} {i : Nat} {step : Step} {r : Route}
    (h : r ∈ step.routes below i) : ∃ rest, r.positions = i :: rest := by
  obtain ⟨name, -, rfl⟩ | ⟨label, target, r', -, -, rfl⟩ := mem_stepRoutes h
  · exact ⟨[], rfl⟩
  · exact ⟨r'.positions, rfl⟩

theorem stepRoutes_sorted {below : String → List Route}
    (h : ∀ type, (below type).Pairwise fun a b => a.positions < b.positions) (i : Nat)
    (step : Step) :
    (step.routes below i).Pairwise fun a b => a.positions < b.positions := by
  cases step with
  | leaf name => exact List.pairwise_singleton _ _
  | down label target =>
    apply List.pairwise_map.mpr
    apply (h target).imp
    intro a b hab
    exact List.cons_lt_cons_self.mpr hab

/-- Routes come in the order in which the types declare their fields and members, and none
comes twice. -/
theorem routes_sorted (steps : String → List Step) (levels : Nat) (path : List String)
    (type : String) :
    (routes steps levels path type).Pairwise fun a b => a.positions < b.positions := by
  induction levels generalizing path type with
  | zero => exact List.Pairwise.nil
  | succ levels ih =>
    rw [routes]
    split
    · exact List.Pairwise.nil
    · apply List.pairwise_flatMap.mpr
      refine ⟨fun ⟨step, i⟩ _ => stepRoutes_sorted (ih (type :: path)) i step, ?_⟩
      have hi : (steps type).zipIdx.Pairwise fun a b => a.2 < b.2 := by
        apply List.pairwise_map.mp
        rw [List.zipIdx_map_snd]
        exact List.pairwise_lt_range'
      apply hi.imp
      rintro ⟨step, i⟩ ⟨step', j⟩ hij a ha b hb
      obtain ⟨as, ha⟩ := positions_stepRoutes ha
      obtain ⟨bs, hb⟩ := positions_stepRoutes hb
      rw [ha, hb]
      exact List.Lex.rel hij

end QueryDraft
