import QueryDraft.Proofs.Assembly

namespace QueryDraft

def Label.name : Label → String
  | .field name => name
  | .fragment member => member

inductive Selection.WellNamed : Selection → Prop where
  | leaf {name : String} (h : Name.isValid name = true) : WellNamed (.leaf name)
  | node {label : Label} {body : List Selection} (h : Name.isValid label.name = true)
      (hb : ∀ s ∈ body, WellNamed s) :
      WellNamed (.node label body)

def Step.name : Step → String
  | .leaf name => name
  | .down label _ => label.name

theorem Schema.fieldStep_name (s : Schema) (f : Field) : (s.fieldStep f).name = f.name := by
  rw [fieldStep]
  split
  · rfl
  · rfl

theorem Schema.steps_isValid {s : Schema} (h : s.WellNamed) (skipDeprecated : Bool)
    (type : String) : ∀ step ∈ s.steps skipDeprecated type, Name.isValid step.name = true := by
  intro step hs
  obtain ⟨f, hf, rfl⟩ | ⟨ms, hd, m, hm, rfl⟩ := mem_steps hs
  · rw [fieldStep_name]
    exact (wellNamed_fieldsOf h f hf).1
  · exact (wellNamed_of_find? h hd).2 m hm

theorem select_wellNamed {steps : String → List Step}
    (h : ∀ type, ∀ step ∈ steps type, Name.isValid step.name = true) (levels : Nat)
    (path : List String) (type : String) : ∀ s ∈ select steps levels path type, s.WellNamed := by
  apply select_forall (P := fun _ s => s.WellNamed)
  · intro type levels name hm
    exact .leaf (h type _ hm)
  · intro type levels label target body hm _ hb
    exact .node (h type _ hm) hb

structure Operation.WellNamed (op : Operation) : Prop where
  name : Name.isValid op.name = true
  field : Name.isValid op.field = true
  args : ∀ a ∈ op.args, a.WellNamed
  body : ∀ s ∈ op.body, s.WellNamed

theorem Name.isValid_append {name : String} (h : isValid name = true) {cs : List Char}
    (hc : ∀ c ∈ cs, isPart c = true) : isValid (name ++ String.ofList cs) = true := by
  rw [isValid] at h ⊢
  rw [String.toList_append, String.toList_ofList]
  cases hn : name.toList with
  | nil => simp [hn] at h
  | cons d rest =>
    simp only [hn, Bool.and_eq_true, List.all_eq_true] at h
    simp only [List.cons_append, Bool.and_eq_true, List.all_eq_true]
    refine ⟨h.1, fun c hm => ?_⟩
    obtain hm | hm := List.mem_append.mp hm
    · exact h.2 c hm
    · exact hc c hm

theorem Name.uppercase_isPart {c : Char} (h : isPart c = true) :
    ∀ d ∈ Text.uppercase c, isPart d = true :=
  List.all_eq_true.mp
    (forall_isPart (P := fun c => (Text.uppercase c).all isPart = true) (by decide +kernel) h)

theorem OperationKind.verb_isValid (kind : OperationKind) : Name.isValid kind.verb = true := by
  cases kind with
  | query => decide
  | mutation => decide

theorem OperationKind.operationName_isValid (kind : OperationKind) {field : String}
    (h : Name.isValid field = true) : Name.isValid (kind.operationName field) = true := by
  have hp : ∀ c ∈ field.toList, Name.isPart c = true := fun _ => Name.isPart_of_isValid h
  rw [operationName, operationName?]
  cases hf : field.toList with
  | nil => simp [Name.isValid, hf] at h
  | cons c rest =>
    rw [hf] at hp
    refine Name.isValid_append kind.verb_isValid fun d hd => ?_
    obtain hd | hd := List.mem_append.mp hd
    · exact Name.uppercase_isPart (hp c List.mem_cons_self) d hd
    · exact hp d (List.mem_cons_of_mem c hd)

theorem Scope.drafted_wellNamed {schema : Schema} (h : schema.WellNamed) (scope : Scope)
    {root : RootField} (hr : root ∈ schema.roots) : (scope.drafted schema root).WellNamed := by
  have hf := Schema.wellNamed_roots h root hr
  exact {
    name := root.kind.operationName_isValid hf.1
    field := hf.1
    args := hf.2
    body := select_wellNamed (Schema.steps_isValid h scope.skipDeprecated) _ _ _ }

end QueryDraft
