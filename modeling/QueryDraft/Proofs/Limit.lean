import QueryDraft.Proofs.Assembly

namespace QueryDraft

open Outcome Selection

def Operation.cost (op : Operation) : Nat := bodyCost op.body

namespace Scope

/-- The operation of a root field, drafted by itself and however large it is. -/
def alone (scope : Scope) (schema : Schema) (root : RootField) : Except DraftError Operation :=
  (Scope.operation { scope with limit := none } schema root.kind root.field.name root.field 0).1

def separately (scope : Scope) (schema : Schema) (roots : List RootField) :
    Except DraftError (List Operation) :=
  roots.mapM (scope.alone schema)

theorem alone_cases (scope : Scope) (schema : Schema) (root : RootField) :
    (root.kind.operationName? root.field.name = none ∧
      scope.alone schema root = .error .emptyFieldName) ∨
      ∃ name, root.kind.operationName? root.field.name = some name ∧ scope.alone schema root =
        .ok ⟨root.kind, name, root.field.name, root.field.args,
          scope.body schema root.field.type.target⟩ := by
  rw [alone, operation]
  cases root.kind.operationName? root.field.name with
  | none => exact .inl ⟨rfl, rfl⟩
  | some name =>
    rw [select_unlimited _ rfl]
    exact .inr ⟨name, rfl, rfl⟩

/-- What was charged before decides whether there is an operation, and not which. -/
theorem operation_cases (scope : Scope) (schema : Schema) (root : RootField) (used : Nat) :
    (∃ e, scope.alone schema root = .error e ∧
      (scope.operation schema root.kind root.field.name root.field used).1 = .error e) ∨
    ∃ op, scope.alone schema root = .ok op ∧
      ((scope.operation schema root.kind root.field.name root.field used =
        (.ok op, used + op.cost) ∧
          (exceeds scope.limit used = false → exceeds scope.limit (used + op.cost) = false)) ∨
        ((scope.operation schema root.kind root.field.name root.field used).1 =
          .error (.tooLarge scope.tooLarge) ∧
          exceeds scope.limit (used + op.cost) = true)) := by
  obtain ⟨hn, ha⟩ | ⟨name, hn, ha⟩ := scope.alone_cases schema root
  · refine .inl ⟨_, ha, ?_⟩
    rw [operation, hn]
  · refine .inr ⟨_, ha, ?_⟩
    rw [operation, hn]
    obtain ⟨hs, hu⟩ | ⟨total, hs, he⟩ := scope.select_cases schema root.field.type.target used
    · simp only [hs]
      exact .inl ⟨rfl, hu⟩
    · refine .inr ⟨?_, he⟩
      simp only [hs]

section

variable {scope : Scope} {schema : Schema} {root : RootField} {rest : List RootField}
    {begun used size : Nat}

theorem paragraphs_ok {op : Operation} {total : Nat}
    (h : scope.operation schema root.kind root.field.name root.field used = (.ok op, total))
    (hs : exceeds scope.limit (size + op.paragraph.length) = false) :
    (scope.paragraphs schema (fun _ => false) (root :: rest) begun used size).1 =
      (scope.paragraphs schema (fun _ => false) rest (begun + 1) total
        (size + op.paragraph.length)).1.map (op.paragraph :: ·) := by
  simp only [paragraphs, Bool.false_eq_true, if_false, h, hs]
  split
  · next hp => simp [hp, Except.map]
  · next hp => simp [hp, Except.map]

theorem paragraphs_long {op : Operation} {total : Nat}
    (h : scope.operation schema root.kind root.field.name root.field used = (.ok op, total))
    (hs : exceeds scope.limit (size + op.paragraph.length) = true) :
    (scope.paragraphs schema (fun _ => false) (root :: rest) begun used size).1 =
      .error (.tooLarge scope.tooLarge) := by
  simp only [paragraphs, Bool.false_eq_true, if_false, h, hs, if_true]

theorem paragraphs_error {e : DraftError}
    (h : (scope.operation schema root.kind root.field.name root.field used).1 = .error e) :
    (scope.paragraphs schema (fun _ => false) (root :: rest) begun used size).1 = .error e := by
  have hp : scope.operation schema root.kind root.field.name root.field used =
      (.error e, (scope.operation schema root.kind root.field.name root.field used).2) :=
    Prod.ext h rfl
  rw [paragraphs, hp]
  rfl

end

variable (scope : Scope) (schema : Schema)

/-- What stands in the way of operations within a limit: the charges for them, or the length of
their text. -/
theorem paragraphs_of_ok {roots : List RootField} {ops : List Operation}
    (h : scope.separately schema roots = .ok ops) (begun used size : Nat) :
    ((scope.paragraphs schema (fun _ => false) roots begun used size).1 =
      .ok (ops.map Operation.paragraph) ∧
        (ops ≠ [] → exceeds scope.limit (size + (ops.flatMap Operation.paragraph).length) = false) ∧
        (exceeds scope.limit used = false →
          exceeds scope.limit (used + bodyCost (ops.flatMap Operation.body)) = false)) ∨
      ((scope.paragraphs schema (fun _ => false) roots begun used size).1 =
        .error (.tooLarge scope.tooLarge) ∧
        ops ≠ [] ∧ (exceeds scope.limit (used + bodyCost (ops.flatMap Operation.body)) = true ∨
          exceeds scope.limit (size + (ops.flatMap Operation.paragraph).length) = true)) := by
  induction roots generalizing ops begun used size with
  | nil =>
    cases h
    exact .inl ⟨rfl, fun hn => absurd rfl hn, fun hu => hu⟩
  | cons root rest ih =>
    rw [separately, List.mapM_cons] at h
    obtain ⟨op, ho, h⟩ := bind_eq_ok.mp h
    obtain ⟨more, hm, h⟩ := bind_eq_ok.mp h
    cases h
    have hcost : used + bodyCost ((op :: more).flatMap Operation.body) =
        used + op.cost + bodyCost (more.flatMap Operation.body) := by
      rw [List.flatMap_cons, bodyCost_append, Operation.cost, Nat.add_assoc]
    have hsize : size + ((op :: more).flatMap Operation.paragraph).length =
        size + op.paragraph.length + (more.flatMap Operation.paragraph).length := by
      rw [List.flatMap_cons, List.length_append, Nat.add_assoc]
    have hne : op :: more ≠ [] := List.cons_ne_nil op more
    rw [hcost, hsize]
    obtain ⟨e, he, -⟩ | ⟨op', ho', hc⟩ := scope.operation_cases schema root used
    · cases ho.symm.trans he
    · cases ho.symm.trans ho'
      obtain ⟨hc, hu⟩ | ⟨hc, he⟩ := hc
      · by_cases hx : exceeds scope.limit (size + op.paragraph.length) = true
        · exact .inr ⟨paragraphs_long hc hx, hne, .inr (exceeds_mono (Nat.le_add_right _ _) hx)⟩
        · have hx : exceeds scope.limit (size + op.paragraph.length) = false := by simpa using hx
          rw [paragraphs_ok hc hx]
          obtain ⟨hp, hs, ha⟩ | ⟨hp, -, he⟩ :=
            ih hm (begun + 1) (used + op.cost) (size + op.paragraph.length)
          · rw [hp]
            refine .inl ⟨rfl, fun _ => ?_, fun h => ha (hu h)⟩
            cases more with
            | nil => simpa using hx
            | cons o more => exact hs (List.cons_ne_nil o more)
          · rw [hp]
            exact .inr ⟨rfl, hne, he⟩
      · exact .inr ⟨paragraphs_error hc, hne, .inl (exceeds_mono (Nat.le_add_right _ _) he)⟩

theorem paragraphs_of_error {roots : List RootField} {e : DraftError}
    (h : scope.separately schema roots = .error e) (begun used size : Nat) :
    (scope.paragraphs schema (fun _ => false) roots begun used size).1 = .error e ∨
      ((scope.paragraphs schema (fun _ => false) roots begun used size).1 =
        .error (.tooLarge scope.tooLarge) ∧
        ∃ n, exceeds scope.limit n = true) := by
  induction roots generalizing begun used size with
  | nil => cases h
  | cons root rest ih =>
    rw [separately, List.mapM_cons] at h
    obtain ⟨e', he, hp⟩ | ⟨op, ho, hc⟩ := scope.operation_cases schema root used
    · rw [he] at h
      cases h
      exact .inl (paragraphs_error hp)
    · obtain he | ⟨op', ho', h⟩ := bind_eq_error.mp h
      · cases ho.symm.trans he
      · cases ho.symm.trans ho'
        obtain hr | ⟨more, -, h⟩ := bind_eq_error.mp h
        · obtain ⟨hc, -⟩ | ⟨hc, hx⟩ := hc
          · by_cases hx : exceeds scope.limit (size + op.paragraph.length) = true
            · exact .inr ⟨paragraphs_long hc hx, _, hx⟩
            · rw [paragraphs_ok hc (by simpa using hx)]
              obtain hp | ⟨hp, hx⟩ :=
                ih hr (begun + 1) (used + op.cost) (size + op.paragraph.length)
              · rw [hp]
                exact .inl rfl
              · rw [hp]
                exact .inr ⟨rfl, hx⟩
          · exact .inr ⟨paragraphs_error hc, _, hx⟩
        · cases h

end Scope

namespace Options

variable (o : Options) (schema : Schema) (depth begun : Nat)

def separately : Except DraftError (List Operation) :=
  (Scope.mk depth o.skipDeprecated none).separately schema schema.roots

/-- The limit allows for operations: for their text as well as for what their selections are charged
for. Where there are none, it is not asked. -/
def Allows (ops : List Operation) : Prop :=
  ops = [] ∨ ((ops.flatMap Operation.paragraph).length ≤ o.maxOutputSize ∧
    bodyCost (ops.flatMap Operation.body) ≤ o.maxOutputSize)

theorem assemble_eq (limited : Bool) :
    (o.assemble schema (fun _ => false) depth limited begun).1 =
      ((Scope.mk depth o.skipDeprecated (if limited then some o.maxOutputSize else none)).paragraphs
        schema (fun _ => false) schema.roots begun 0 0).1.map List.flatten := by
  have hn : ¬ (depth : Int) < 0 := by omega
  rw [assemble, if_neg hn, Int.toNat_natCast]
  simp only [Scope.assemble]
  split
  · next hp => simp [hp, Except.map]
  · next hp => simp [hp, Except.map]

theorem assemble_unlimited :
    (o.assemble schema (fun _ => false) depth false begun).1 =
      (o.separately schema depth).map fun ops => ops.flatMap Operation.paragraph := by
  rw [assemble_eq]
  cases hs : o.separately schema depth with
  | ok ops =>
    obtain ⟨hp, -⟩ | ⟨-, -, he | he⟩ := Scope.paragraphs_of_ok _ schema hs begun 0 0
    · simp only [Bool.false_eq_true, if_false, hp, Except.map, List.flatMap_def]
    · cases he
    · cases he
  | error e =>
    obtain hp | ⟨-, n, hx⟩ := Scope.paragraphs_of_error _ schema hs begun 0 0
    · simp only [Bool.false_eq_true, if_false, hp, Except.map]
    · cases hx

theorem exceeds_some {m : Int} {n : Nat} : exceeds (some m) n = false ↔ n ≤ m := by simp [exceeds]

theorem assemble_limited {ops : List Operation} (h : o.separately schema depth = .ok ops) :
    ((o.assemble schema (fun _ => false) depth true begun).1 =
      .ok (ops.flatMap Operation.paragraph) ∧ o.Allows ops) ∨
      ((o.assemble schema (fun _ => false) depth true begun).1 =
        .error (.tooLarge (.size o.maxOutputSize depth)) ∧ ¬ o.Allows ops) := by
  have hs : (Scope.mk depth o.skipDeprecated (some o.maxOutputSize)).separately schema
      schema.roots = .ok ops := h
  rw [assemble_eq, if_pos rfl]
  obtain ⟨hp, ht, hc⟩ | ⟨hp, hn, he⟩ := Scope.paragraphs_of_ok _ schema hs begun 0 0
  · rw [hp, List.flatMap_def]
    refine .inl ⟨rfl, ?_⟩
    by_cases hn : ops = []
    · exact .inl hn
    · have ht := exceeds_some.mp (ht hn)
      have hc := exceeds_some.mp (hc (exceeds_some.mpr (by omega)))
      rw [Nat.zero_add] at ht hc
      exact .inr ⟨ht, hc⟩
  · rw [hp]
    refine .inr ⟨rfl, ?_⟩
    rintro (hn' | ⟨ht, hc⟩)
    · exact hn hn'
    · rw [Nat.zero_add, Nat.zero_add] at he
      obtain he | he := he
      · rw [exceeds_some.mpr hc] at he
        cases he
      · rw [exceeds_some.mpr ht] at he
        cases he

theorem assemble_limited_error {e : DraftError} (h : o.separately schema depth = .error e) :
    (o.assemble schema (fun _ => false) depth true begun).1 = .error e ∨
      (o.assemble schema (fun _ => false) depth true begun).1 =
        .error (.tooLarge (.size o.maxOutputSize depth)) := by
  have hs : (Scope.mk depth o.skipDeprecated (some o.maxOutputSize)).separately schema
      schema.roots = .error e := h
  rw [assemble_eq, if_pos rfl]
  obtain hp | ⟨hp, -⟩ := Scope.paragraphs_of_error _ schema hs begun 0 0
  · rw [hp]
    exact .inl rfl
  · rw [hp]
    exact .inr rfl

end Options

/-- How the assembly within the limit stands to the one without. The latter joins operations that
have nothing to do with each other; the former gives the same text or none. -/
structure Restricts (o : Options) (schema : Schema) (depth begun : Nat) : Prop where
  joined : (o.assemble schema (fun _ => false) depth false begun).1 =
    (o.separately schema depth).map fun ops => ops.flatMap Operation.paragraph
  unchanged : ∀ text, (o.assemble schema (fun _ => false) depth true begun).1 = .ok text →
    (o.assemble schema (fun _ => false) depth false begun).1 = .ok text ∧
      (text = [] ∨ text.length ≤ o.maxOutputSize)
  granted : ∀ ops, o.separately schema depth = .ok ops →
    ((o.assemble schema (fun _ => false) depth true begun).1 =
      .ok (ops.flatMap Operation.paragraph) ↔ o.Allows ops)
  refused : ∀ e, (o.assemble schema (fun _ => false) depth true begun).1 = .error e →
    (o.assemble schema (fun _ => false) depth false begun).1 = .error e ∨
      e = .tooLarge (.size o.maxOutputSize depth)

theorem assemble_restricts (o : Options) (schema : Schema) (depth begun : Nat) :
    Restricts o schema depth begun where
  joined := o.assemble_unlimited schema depth begun
  unchanged := by
    intro text ht
    rw [o.assemble_unlimited]
    cases hs : o.separately schema depth with
    | ok ops =>
      obtain ⟨ha, hf⟩ | ⟨ha, -⟩ := o.assemble_limited schema depth begun hs
      · cases ha.symm.trans ht
        refine ⟨rfl, ?_⟩
        obtain rfl | ⟨hl, -⟩ := hf
        · exact .inl rfl
        · exact .inr hl
      · cases ha.symm.trans ht
    | error e =>
      obtain ha | ha := o.assemble_limited_error schema depth begun hs
      · cases ha.symm.trans ht
      · cases ha.symm.trans ht
  granted := by
    intro ops hs
    obtain ⟨ha, hf⟩ | ⟨ha, hf⟩ := o.assemble_limited schema depth begun hs
    · exact ⟨fun _ => hf, fun _ => ha⟩
    · refine ⟨fun ht => ?_, fun h => absurd h hf⟩
      cases ha.symm.trans ht
  refused := by
    intro e he
    rw [o.assemble_unlimited]
    cases hs : o.separately schema depth with
    | ok ops =>
      obtain ⟨ha, -⟩ | ⟨ha, -⟩ := o.assemble_limited schema depth begun hs
      · cases ha.symm.trans he
      · cases ha.symm.trans he
        exact .inr rfl
    | error e' =>
      obtain ha | ha := o.assemble_limited_error schema depth begun hs
      · cases ha.symm.trans he
        exact .inl rfl
      · cases ha.symm.trans he
        exact .inr rfl

theorem assemble_restricts_answer :
    let o : Options := { Options.default with maxOutputSize := 381 }
    ∃ text, (o.assemble Sample.schema (fun _ => false) 3 true 0).1 = .ok text ∧ text.length = 381 ∧
      (o.assemble Sample.schema (fun _ => false) 3 false 0).1 = .ok text := by
  intro o
  have hl : (o.assemble Sample.schema (fun _ => false) 3 true 0).1.toOption.map List.length =
      some 381 := by
    decide +kernel
  cases ha : (o.assemble Sample.schema (fun _ => false) 3 true 0).1 with
  | error e =>
    rw [ha] at hl
    cases hl
  | ok text =>
    rw [ha] at hl
    have hr := assemble_restricts o Sample.schema 3 0
    exact ⟨text, rfl, Option.some.inj hl, (hr.unchanged text ha).1⟩

end QueryDraft
