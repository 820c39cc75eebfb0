import QueryDraft.Selection.Walk

namespace QueryDraft

namespace Selection

theorem induct {P : Selection → Prop} (leaf : ∀ name, P (.leaf name))
    (node : ∀ label body, (∀ s ∈ body, P s) → P (.node label body)) (s : Selection) : P s :=
  @Selection.rec P (fun body => ∀ s ∈ body, P s) leaf node (List.forall_mem_nil P)
    (fun _ _ hs hrest => List.forall_mem_cons.mpr ⟨hs, hrest⟩) s

inductive Full : Selection → Prop where
  | leaf (name : String) : Full (.leaf name)
  | node (label : Label) {body : List Selection} (hn : body ≠ [])
      (hb : ∀ s ∈ body, Full s) : Full (.node label body)

def line (s : Selection) : List Char := '\n' :: s.text

theorem bodyText_cons (s : Selection) (rest : List Selection) :
    bodyText (s :: rest) = s.text ++ rest.flatMap line := by
  induction rest generalizing s with
  | nil => simp [bodyText]
  | cons t rest ih => rw [bodyText, ih, List.flatMap_cons, line, List.cons_append]

theorem bodyText_sublist_lines (body : List Selection) :
    (bodyText body).Sublist (body.flatMap line) := by
  cases body with
  | nil => exact List.Sublist.refl _
  | cons s rest =>
    rw [bodyText_cons, List.flatMap_cons, line, List.cons_append]
    exact List.sublist_cons_self _ _

theorem bodyCost_append (xs ys : List Selection) :
    bodyCost (xs ++ ys) = bodyCost xs + bodyCost ys := by
  induction xs with
  | nil => simp [bodyCost]
  | cons x xs ih => simp only [List.cons_append, bodyCost, ih, Nat.add_assoc]

end Selection

/-- What a step of the walk adds, `below` being the selection from the type that it leads to. -/
def branch (below : String → List Selection) : Step → List Selection
  | .leaf name => [.leaf name]
  | .down label target => labelled label (below target)

theorem select_succ (steps : String → List Step) (levels : Nat) (path : List String)
    (type : String) :
    select steps (levels + 1) path type =
      if closesCycle path type then []
      else (steps type).flatMap (branch (select steps levels (type :: path))) := by
  rw [select]
  split
  · rfl
  · congr 1

theorem mem_branch {below : String → List Selection} {step : Step} {s : Selection}
    (h : s ∈ branch below step) :
    (∃ name, step = .leaf name ∧ s = .leaf name) ∨
      ∃ label target, step = .down label target ∧ s = .node label (below target) ∧
      below target ≠ [] := by
  cases step with
  | leaf name => exact .inl ⟨name, rfl, List.mem_singleton.mp h⟩
  | down label target =>
    rw [branch, labelled] at h
    split at h
    · cases h
    · next hb => exact .inr ⟨label, target, rfl, List.mem_singleton.mp h, by simpa using hb⟩

/-- What holds of all that a walk selects: of leaves, and of labels with something below them if it
holds of that with a level less. -/
theorem select_forall {steps : String → List Step} {P : Nat → Selection → Prop}
    (leaf : ∀ type levels name, .leaf name ∈ steps type → P (levels + 1) (.leaf name))
    (node : ∀ type levels label target body, .down label target ∈ steps type → body ≠ [] →
      (∀ s ∈ body, P levels s) →
      P (levels + 1) (.node label body))
    (levels : Nat) (path : List String) (type : String) :
    ∀ s ∈ select steps levels path type, P levels s := by
  induction levels generalizing path type with
  | zero => simp [select]
  | succ levels ih =>
    rw [select_succ]
    split
    · simp
    · intro s hs
      obtain ⟨step, hm, hs⟩ := List.mem_flatMap.mp hs
      obtain ⟨name, rfl, rfl⟩ | ⟨label, target, rfl, rfl, hb⟩ := mem_branch hs
      · exact leaf type levels name hm
      · exact node type levels label target _ hm hb (ih (type :: path) target)

theorem select_full (steps : String → List Step) (levels : Nat) (path : List String)
    (type : String) : ∀ s ∈ select steps levels path type, s.Full := by
  apply select_forall (P := fun _ s => s.Full)
  · intro type levels name _
    exact .leaf name
  · intro type levels label target body _ hn hb
    exact .node label hn hb

end QueryDraft
