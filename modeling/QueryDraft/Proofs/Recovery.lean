import QueryDraft.Proofs.Assembly

namespace QueryDraft

variable {o : Options} {schema : Schema} {faults : Faults}

namespace Attempt

def Succeeded (a : Attempt) : Prop := ∃ raw, a.outcome = .ok raw

def OutOfMemory (a : Attempt) : Prop := a.outcome = .error (.tooLarge (.memory a.depth.toNat))

def Made (o : Options) (schema : Schema) (memory : MemoryFaults) (a : Attempt) : Prop :=
  ∃ begun, a.outcome = (o.assemble schema memory a.depth a.limited begun).1

def Lost (a : Attempt) : Prop := a.limited = true ∧ ¬ a.Succeeded

theorem OutOfMemory.not_succeeded {a : Attempt} (h : a.OutOfMemory) : ¬ a.Succeeded := by
  rintro ⟨raw, hr⟩
  rw [OutOfMemory] at h
  rw [h] at hr
  cases hr

end Attempt

theorem layOut_eq_ok {parser : Option Exhaustion} {text document : List Char}
    (h : layOut parser text = .ok document) : Language.format text = .ok document := by
  unfold layOut at h
  cases parser with
  | some cause => cases h
  | none =>
    cases hf : Language.format text with
    | ok laidOut =>
      simp only [hf] at h
      cases h
      rfl
    | error fault => simp [hf] at h

namespace Options

def attempts (o : Options) (schema : Schema) (faults : Faults) : List Attempt :=
  (o.drafting schema faults).2

theorem unlimited_attempts (depth : Int) (warnings : List Warning) (cause : TooLarge)
    (begun : Nat) :
    (o.unlimited schema faults depth warnings cause begun).2 =
      [⟨depth, false, (o.assemble schema faults.memory depth false begun).1⟩] := by
  rw [unlimited]
  split
  · next hu => rw [hu]
  · next hu => rw [hu]

theorem retry_attempts (cause : TooLarge) (begun : Nat) :
    ∃ second rest, (o.retry schema faults cause begun).2 = second :: rest := by
  rw [retry]
  dsimp only
  split
  · exact ⟨_, _, unlimited_attempts _ _ _ _⟩
  · split
    all_goals exact ⟨_, _, rfl⟩

theorem drafting_of_ok {raw : List Char}
    (h : (o.assemble schema faults.memory o.maxDepth true 0).1 = .ok raw) :
    o.drafting schema faults =
      (.ok (o.finish schema faults o.maxDepth [] raw), [⟨o.maxDepth, true, .ok raw⟩]) := by
  rw [drafting]
  simp only [h]

theorem drafting_of_tooLarge {cause : TooLarge}
    (h : (o.assemble schema faults.memory o.maxDepth true 0).1 = .error (.tooLarge cause)) :
    ∃ second rest, o.attempts schema faults =
      ⟨o.maxDepth, true, .error (.tooLarge cause)⟩ :: second :: rest := by
  obtain ⟨second, rest, hr⟩ :=
    @retry_attempts o schema faults cause (o.assemble schema faults.memory o.maxDepth true 0).2
  rw [attempts, drafting]
  simp only [h]
  exact ⟨second, rest, congrArg _ hr⟩

theorem reducedDepth_nonneg (hs : 0 ≤ o.safeDepth) : 0 ≤ o.reducedDepth := by
  rw [reducedDepth]
  split <;> omega

/-- The text at a depth is within the limit. Without root fields none is asked for. -/
def Fits (o : Options) (schema : Schema) (depth : Int) : Prop :=
  schema.roots ≠ [] → (o.plainText schema depth.toNat).length ≤ o.maxOutputSize

/-- How drafting goes: after at most two lost attempts one succeeds within the limit, or the last
one, which has no limit, decides. -/
inductive Course (o : Options) (schema : Schema) (faults : Faults) : Attempted Draft → Prop where
  | within (lost : List Attempt) (a : Attempt) (warnings : List Warning) (few : lost.length ≤ 1)
      (lose : ∀ b ∈ lost, b.Made o schema faults.memory ∧ b.Lost)
      (starts : ∃ b ∈ (lost ++ [a]).head?, b.depth = o.maxDepth ∧ b.limited = true)
      (depth : a.depth = o.maxDepth ∨ a.depth = o.reducedDepth)
      (made : a.Made o schema faults.memory) (limited : a.limited = true) (succeeded : a.Succeeded)
      (fits : o.Fits schema a.depth) (warned : warnings = [] ↔ lost = []) :
      Course o schema faults
        (.ok (o.finish schema faults a.depth warnings (o.plainText schema a.depth.toNat)),
          lost ++ [a])
  | unlimited (lost : List Attempt) (a : Attempt) (warnings : List Warning)
      (outcome : Except DraftError Draft) (few : lost.length ≤ 2) (some_lost : lost ≠ [])
      (lose : ∀ b ∈ lost, b.Made o schema faults.memory ∧ b.Lost)
      (starts : ∃ b ∈ (lost ++ [a]).head?, b.depth = o.maxDepth ∧ b.limited = true)
      (depth : a.depth = o.maxDepth ∨ a.depth = o.reducedDepth)
      (made : a.Made o schema faults.memory) (free : a.limited = false) (warned : warnings ≠ [])
      (decides :
        (a.Succeeded ∧ outcome = .ok
          ⟨o.plainText schema a.depth.toNat, schema.roots.length, a.depth, false, warnings⟩) ∨
        (a.OutOfMemory ∧ outcome = .error (.tooLarge (.memory a.depth.toNat)))) :
      Course o schema faults (outcome, lost ++ [a])

theorem unlimited_course (h : schema.RootsNamed) {depth : Int} (hd : 0 ≤ depth)
    (hdepth : depth = o.maxDepth ∨ depth = o.reducedDepth) (warnings : List Warning)
    (cause : TooLarge) (begun : Nat) (lost : List Attempt) (few : lost.length ≤ 2)
    (some_lost : lost ≠ []) (lose : ∀ b ∈ lost, b.Made o schema faults.memory ∧ b.Lost)
    (starts : ∃ b ∈ lost.head?, b.depth = o.maxDepth ∧ b.limited = true) :
    Course o schema faults
      ((o.unlimited schema faults depth warnings cause begun).1,
        lost ++ (o.unlimited schema faults depth warnings cause begun).2) := by
  have hw : warnings ++ [.unlimited cause] ≠ [] := by simp
  have hstart : ∀ a : Attempt, ∃ b ∈ (lost ++ [a]).head?, b.depth = o.maxDepth ∧
      b.limited = true := by
    obtain ⟨b, hb, hs⟩ := starts
    exact fun a => ⟨b, by rw [List.head?_append, hb]; rfl, hs⟩
  obtain ⟨n, ha, -⟩ | ⟨cause', n, ha, hc⟩ := o.assemble_outcome h faults.memory hd false begun
  · have made : (Attempt.mk depth false _).Made o schema faults.memory := ⟨begun, by rw [ha]⟩
    simp only [unlimited, ha]
    exact .unlimited lost _ _ _ few some_lost lose (hstart _) hdepth made rfl hw
      (.inl ⟨⟨_, rfl⟩, rfl⟩)
  · have made : (Attempt.mk depth false _).Made o schema faults.memory := ⟨begun, by rw [ha]⟩
    obtain ⟨rfl, -⟩ := hc rfl
    simp only [unlimited, ha]
    exact .unlimited lost _ _ _ few some_lost lose (hstart _) hdepth made rfl hw (.inr ⟨rfl, rfl⟩)

theorem lost_of_error {depth : Int} {begun n : Nat} {e : DraftError}
    (h : o.assemble schema faults.memory depth true begun = (.error e, n)) :
    (Attempt.mk depth true (.error e)).Made o schema faults.memory ∧
    (Attempt.mk depth true (.error e)).Lost :=
  ⟨⟨begun, by rw [h]⟩, rfl, fun ⟨_, hr⟩ => by cases hr⟩

theorem drafting_course (h : schema.RootsNamed) (hm : 0 ≤ o.maxDepth) (hs : 0 ≤ o.safeDepth) :
    Course o schema faults (o.drafting schema faults) := by
  have hr := reducedDepth_nonneg hs
  obtain ⟨n, ha, hf⟩ | ⟨cause, n, ha, -⟩ := o.assemble_outcome h faults.memory hm true 0
  · simp only [drafting, ha]
    exact .within [] ⟨o.maxDepth, true, _⟩ [] (by simp) (by simp) (by simp) (.inl rfl)
      ⟨0, by rw [ha]⟩ rfl ⟨_, rfl⟩ (hf rfl) (by simp)
  · have hl := lost_of_error ha
    simp only [drafting, ha, retry]
    by_cases he : o.reducedDepth = o.maxDepth
    · rw [if_pos he]
      exact unlimited_course h hr (.inr rfl) [] cause n [_] (by simp) (by simp)
        (by simpa using hl) (by simp)
    · rw [if_neg he]
      obtain ⟨k, hb, hf⟩ | ⟨cause', k, hb, -⟩ := o.assemble_outcome h faults.memory hr true n
      · simp only [hb]
        exact .within [_] ⟨o.reducedDepth, true, _⟩ _ (by simp) (by simpa using hl) (by simp)
          (.inr rfl) ⟨n, by rw [hb]⟩ rfl ⟨_, rfl⟩ (hf rfl) (by simp)
      · have hl' := lost_of_error hb
        simp only [hb]
        exact unlimited_course h hr (.inr rfl) _ cause' k [_, _] (by simp) (by simp)
          (by simpa using ⟨hl, hl'⟩) (by simp)

end Options

/-- What a returned draft owes to the text `raw` of its depth and to the attempts made. -/
structure Draft.Answers (o : Options) (schema : Schema) (faults : Faults) (attempts : List Attempt)
    (raw : List Char) (d : Draft) : Prop where
  depth : d.depth = o.maxDepth ∨ d.depth = o.reducedDepth
  plain : d.formatted = false → d.document = raw
  laidOut : d.formatted = true → Language.format raw = .ok d.document
  fits : d.formatted = true → o.format = true ∧ raw ≠ [] ∧ raw.length ≤ o.maxOutputSize
  formats : d.formatted = true ↔ o.format = true ∧ raw ≠ [] ∧
    (∃ a ∈ attempts.getLast?, a.limited = true) ∧
    ∃ document, layOut faults.parser raw = .ok document
  count : d.operationCount = schema.roots.length
  silent : d.warnings = [] ↔ (∃ a ∈ attempts.head?, a.Succeeded) ∧
    (o.format = false ∨ raw = [] ∨ ∃ document, layOut faults.parser raw = .ok document)
  quiet : d.warnings = [] ↔ (∃ a ∈ attempts.head?, a.Succeeded) ∧
    (o.format = false ∨ raw = [] ∨ d.formatted = true)

namespace Options

theorem roots_ne_nil_of_plainText {depth : Nat} (h : o.plainText schema depth ≠ []) :
    schema.roots ≠ [] := by
  intro hn
  exact h (by simp [plainText, Scope.texts, hn])

theorem finish_cases (depth : Int) (warnings : List Warning) (raw : List Char) :
    (∃ document, o.format = true ∧ raw ≠ [] ∧ layOut faults.parser raw = .ok document ∧
      o.finish schema faults depth warnings raw =
        ⟨document, schema.roots.length, depth, true, warnings⟩) ∨
    (∃ cause, o.format = true ∧ raw ≠ [] ∧ layOut faults.parser raw = .error cause ∧
      o.finish schema faults depth warnings raw =
        ⟨raw, schema.roots.length, depth, false, warnings ++ [.unformatted cause]⟩) ∨
    ((o.format = false ∨ raw = []) ∧
      o.finish schema faults depth warnings raw =
        ⟨raw, schema.roots.length, depth, false, warnings⟩) := by
  by_cases hf : o.format = true ∧ raw ≠ []
  · have hc : (o.format && !raw.isEmpty) = true := by simpa using hf
    rw [finish, if_pos hc]
    cases hl : layOut faults.parser raw with
    | ok document => exact .inl ⟨document, hf.1, hf.2, rfl, rfl⟩
    | error cause => exact .inr (.inl ⟨cause, hf.1, hf.2, rfl, rfl⟩)
  · have hc : ¬ (o.format && !raw.isEmpty) = true := by simpa using hf
    have hs : o.format = false ∨ raw = [] := by
      by_cases ho : o.format = true
      · exact .inr (by simpa [ho] using hf)
      · exact .inl (by simpa using ho)
    rw [finish, if_neg hc]
    exact .inr (.inr ⟨hs, rfl⟩)

theorem finish_depth (depth : Int) (warnings : List Warning) (raw : List Char) :
    (o.finish schema faults depth warnings raw).depth = depth := by
  obtain ⟨document, -, -, -, h⟩ | ⟨cause, -, -, -, h⟩ | ⟨-, h⟩ :=
    @finish_cases o schema faults depth warnings raw
  · rw [h]
  · rw [h]
  · rw [h]

/-- A draft that was not laid out: because nobody asked, because of its text, or because no limited
attempt came last. -/
theorem answers_raw {d : Draft} {attempts : List Attempt} {raw : List Char}
    (depth : d.depth = o.maxDepth ∨ d.depth = o.reducedDepth) (plain : d.document = raw)
    (hf : d.formatted = false) (count : d.operationCount = schema.roots.length)
    (last : (∃ a ∈ attempts.head?, a.Succeeded) → ∃ a ∈ attempts.getLast?, a.limited = true)
    (failed : o.format = true → raw ≠ [] → (∃ a ∈ attempts.getLast?, a.limited = true) →
      ∀ document, layOut faults.parser raw ≠ .ok document)
    (quiet : d.warnings = [] ↔
      (∃ a ∈ attempts.head?, a.Succeeded) ∧ (o.format = false ∨ raw = [])) :
    d.Answers o schema faults attempts raw := by
  have hn : d.formatted ≠ true := by simp [hf]
  refine ⟨depth, fun _ => plain, fun h => absurd h hn, fun h => absurd h hn, ?formats, count,
    ?silent, ?quiet⟩
  case formats =>
    constructor
    · exact fun h => absurd h hn
    · rintro ⟨ho, hr, hl, document, hd⟩
      exact absurd hd (failed ho hr hl document)
  case silent =>
    rw [quiet]
    refine ⟨And.imp_right (Or.imp_right .inl), ?_⟩
    rintro ⟨hs, ho | hr | ⟨document, hd⟩⟩
    · exact ⟨hs, .inl ho⟩
    · exact ⟨hs, .inr hr⟩
    · refine ⟨hs, Decidable.or_iff_not_imp_left.mpr fun ho => ?_⟩
      refine Decidable.not_not.mp fun hr => ?_
      exact failed (eq_true_of_ne_false ho) hr (last hs) document hd
  case quiet =>
    rw [quiet]
    refine ⟨And.imp_right (Or.imp_right .inl), ?_⟩
    rintro ⟨hs, ho | hr | h⟩
    · exact ⟨hs, .inl ho⟩
    · exact ⟨hs, .inr hr⟩
    · exact absurd h hn

theorem finish_answers {depth : Int} (hd : depth = o.maxDepth ∨ depth = o.reducedDepth)
    (fits : o.Fits schema depth) (warnings : List Warning) {attempts : List Attempt}
    (last : ∃ a ∈ attempts.getLast?, a.limited = true)
    (hw : warnings = [] ↔ ∃ a ∈ attempts.head?, a.Succeeded) :
    (o.finish schema faults depth warnings (o.plainText schema depth.toNat)).Answers o schema
      faults attempts (o.plainText schema depth.toNat) := by
  obtain ⟨document, ho, hr, hl, h⟩ | ⟨cause, ho, hr, hl, h⟩ | ⟨hs, h⟩ :=
    finish_cases depth warnings (o.plainText schema depth.toNat)
  · rw [h]
    exact {
      depth := hd
      plain := fun h => by cases h
      laidOut := fun _ => layOut_eq_ok hl
      fits := fun _ => ⟨ho, hr, fits (roots_ne_nil_of_plainText hr)⟩
      formats := ⟨fun _ => ⟨ho, hr, last, document, hl⟩, fun _ => rfl⟩
      count := rfl
      silent := ⟨fun h => ⟨hw.mp h, .inr (.inr ⟨document, hl⟩)⟩, fun h => hw.mpr h.1⟩
      quiet := ⟨fun h => ⟨hw.mp h, .inr (.inr rfl)⟩, fun h => hw.mpr h.1⟩ }
  · rw [h]
    have failed : ∀ document, layOut faults.parser (o.plainText schema depth.toNat) ≠
        .ok document := by simp [hl]
    exact answers_raw hd rfl rfl rfl (fun _ => last) (fun _ _ _ => failed) (by simp [ho, hr])
  · rw [h]
    refine answers_raw hd rfl rfl rfl (fun _ => last) ?_ ?_
    · intro hf hr
      obtain hn | hn := hs
      · simp [hf] at hn
      · exact absurd hn hr
    · rw [hw]
      exact ⟨fun h => ⟨h, hs⟩, And.left⟩

end Options

structure Recovers (o : Options) (schema : Schema) (faults : Faults)
    (outcome : Except DraftError Draft) (attempts : List Attempt) : Prop where
  made : ∀ a ∈ attempts, a.Made o schema faults.memory
  few : attempts.length ≤ 3
  starts : ∃ a ∈ attempts.head?, a.depth = o.maxDepth ∧ a.limited = true
  tooLarge : ∀ e, outcome = .error e → ∃ cause, e = .tooLarge cause
  fails : (∃ e, outcome = .error e) ↔ (∀ a ∈ attempts, a.limited = true → ¬ a.Succeeded) ∧
    ∃ a ∈ attempts.getLast?, a.limited = false ∧ a.OutOfMemory
  answers : ∀ d, outcome = .ok d → ∃ raw,
    (o.assemble schema (fun _ => false) d.depth false 0).1 = .ok raw ∧
    d.Answers o schema faults attempts raw

theorem Attempt.first_succeeded {lost : List Attempt} (lose : ∀ b ∈ lost, b.Lost) (a : Attempt) :
    (∃ b ∈ (lost ++ [a]).head?, b.Succeeded) ↔ lost = [] ∧ a.Succeeded := by
  cases lost with
  | nil => simp
  | cons b lost => simp [(lose b List.mem_cons_self).2]

theorem Attempt.made_of_mem {lost : List Attempt} {a : Attempt}
    (lose : ∀ b ∈ lost, b.Made o schema faults.memory ∧ b.Lost)
    (made : a.Made o schema faults.memory) :
    ∀ b ∈ lost ++ [a], b.Made o schema faults.memory := by
  intro b hb
  obtain hb | hb := List.mem_append.mp hb
  · exact (lose b hb).1
  · exact List.mem_singleton.mp hb ▸ made

namespace Options.Course

variable {run : Attempted Draft}

theorem made (hc : o.Course schema faults run) : ∀ a ∈ run.2, a.Made o schema faults.memory := by
  cases hc with
  | within lost a warnings few lose starts depth made limited succeeded fits warned =>
    exact Attempt.made_of_mem lose made
  | unlimited lost a warnings outcome few some_lost lose starts depth made free warned decides =>
    exact Attempt.made_of_mem lose made

theorem few (hc : o.Course schema faults run) : run.2.length ≤ 3 := by
  cases hc with
  | within lost a | unlimited lost a =>
    rw [List.length_append, List.length_singleton]
    omega

theorem starts (hc : o.Course schema faults run) :
    ∃ a ∈ run.2.head?, a.depth = o.maxDepth ∧ a.limited = true := by
  cases hc with
  | within lost a warnings few lose starts => exact starts
  | unlimited lost a warnings outcome few some_lost lose starts => exact starts

theorem tooLarge (hc : o.Course schema faults run) (e : DraftError) (he : run.1 = .error e) :
    ∃ cause, e = .tooLarge cause := by
  cases hc with
  | within => cases he
  | unlimited lost a warnings outcome few some_lost lose starts depth made free warned decides =>
    obtain ⟨-, rfl⟩ | ⟨-, rfl⟩ := decides
    · cases he
    · cases he
      exact ⟨_, rfl⟩

theorem fails (hc : o.Course schema faults run) :
    (∃ e, run.1 = .error e) ↔ (∀ a ∈ run.2, a.limited = true → ¬ a.Succeeded) ∧
      ∃ a ∈ run.2.getLast?, a.limited = false ∧ a.OutOfMemory := by
  cases hc with
  | within lost a warnings few lose starts depth made limited succeeded fits warned =>
    constructor
    · rintro ⟨e, he⟩
      cases he
    · rintro ⟨-, b, hb, -, hm⟩
      rw [List.getLast?_concat] at hb
      cases hb
      exact absurd succeeded hm.not_succeeded
  | unlimited lost a warnings outcome few some_lost lose starts depth made free warned decides =>
    constructor
    · rintro ⟨e, he⟩
      obtain ⟨-, rfl⟩ | ⟨hm, -⟩ := decides
      · cases he
      · refine ⟨fun b hb _ => ?_, a, by rw [List.getLast?_concat]; rfl, free, hm⟩
        obtain hb | hb := List.mem_append.mp hb
        · exact (lose b hb).2.2
        · exact List.mem_singleton.mp hb ▸ hm.not_succeeded
    · rintro ⟨-, b, hb, -, hm⟩
      rw [List.getLast?_concat] at hb
      cases hb
      obtain ⟨succeeded, -⟩ | ⟨-, rfl⟩ := decides
      · exact absurd succeeded hm.not_succeeded
      · exact ⟨_, rfl⟩

theorem answers (hc : o.Course schema faults run) (d : Draft) (hd : run.1 = .ok d) :
    d.Answers o schema faults run.2 (o.plainText schema d.depth.toNat) := by
  cases hc with
  | within lost a warnings few lose starts depth made limited succeeded fits warned =>
    cases hd
    rw [finish_depth]
    apply finish_answers depth fits warnings ⟨a, by rw [List.getLast?_concat]; rfl, limited⟩
    rw [warned, Attempt.first_succeeded (fun b hb => (lose b hb).2)]
    exact ⟨fun hn => ⟨hn, succeeded⟩, And.left⟩
  | unlimited lost a warnings outcome few some_lost lose starts depth made free warned decides =>
    obtain ⟨-, rfl⟩ | ⟨-, rfl⟩ := decides
    · cases hd
      have hs : ¬ ∃ b ∈ (lost ++ [a]).head?, b.Succeeded := by
        rw [Attempt.first_succeeded (fun b hb => (lose b hb).2)]
        exact fun h => some_lost h.1
      refine answers_raw depth rfl rfl rfl (fun h => absurd h hs) ?_ ?_
      · rintro - - ⟨b, hb, hl⟩
        rw [List.getLast?_concat] at hb
        cases hb
        rw [free] at hl
        cases hl
      · exact ⟨fun hw => absurd hw warned, fun h => absurd h.1 hs⟩
    · cases hd

end Options.Course

/-- Whatever goes wrong, drafting answers within three assemblies, unless the last one runs
out of memory. -/
theorem draft_recovers (o : Options) (schema : Schema) (h : schema.RootsNamed) (faults : Faults)
    (hm : 0 ≤ o.maxDepth) (hs : 0 ≤ o.safeDepth) :
    Recovers o schema faults (o.draft schema faults) (o.attempts schema faults) := by
  have hc : o.Course schema faults (o.drafting schema faults) := Options.drafting_course h hm hs
  refine ⟨hc.made, hc.few, hc.starts, hc.tooLarge, hc.fails, fun d hd => ?_⟩
  have ha := hc.answers d hd
  refine ⟨o.plainText schema d.depth.toNat, ?_, ha⟩
  obtain hdepth | hdepth := ha.depth
  · rw [hdepth]
    exact o.assemble_plainText h hm 0
  · rw [hdepth]
    exact o.assemble_plainText h (Options.reducedDepth_nonneg hs) 0

/-- Two attempts are too large, and the third runs out of memory at its second operation. -/
theorem draft_recovers_exhausted :
    let o : Options := ⟨4, 2, 10, false, true⟩
    let faults : Faults := ⟨fun i => i == 3, none⟩
    Sample.schema.RootsNamed ∧ 0 ≤ o.maxDepth ∧ 0 ≤ o.safeDepth ∧
      o.draft Sample.schema faults = .error (.tooLarge (.memory 2)) ∧
      Recovers o Sample.schema faults (o.draft Sample.schema faults)
        (o.attempts Sample.schema faults) := by
  intro o faults
  have hn : Sample.schema.RootsNamed :=
    Schema.rootsNamed_of_wellNamed (Schema.wellNamed_ofPayload Sample.ofPayload_answer)
  exact ⟨hn, by decide, by decide, by rfl,
    draft_recovers o Sample.schema hn faults (by decide) (by decide)⟩

end QueryDraft
