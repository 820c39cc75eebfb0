import Mathlib.Data.Set.List
import QueryDraft.Command.Run
import QueryDraft.Proofs.Outcome

namespace QueryDraft

open Json (Members)
open Command (endOfLoad Fatal)

/-- The wrapper of an answer reports errors, whatever its data describes. -/
structure Reports (payload : Json) (errors : List Members) : Prop where
  some_error : errors ≠ []
  wrapper : ∃ ms, payload = .obj ms ∧ ms.lookup "__schema" = none ∧
    (Json.member ms "data" = .null ∨ ∃ data, Json.member ms "data" = .obj data) ∧
    Json.member ms "errors" = .arr (errors.map .obj)

def Worded (e : Members) : Prop := ∀ v, e.lookup "message" = some v → ∃ s, v = .str s

inductive FirstUnworded : List Members → Nat → Json → Prop where
  | here {e : Members} {rest : List Members} {found : Json} (h : e.lookup "message" = some found)
      (hn : ∀ s, found ≠ .str s) : FirstUnworded (e :: rest) 0 found
  | later {e : Members} {rest : List Members} {i : Nat} {found : Json} (h : Worded e)
      (hr : FirstUnworded rest i found) : FirstUnworded (e :: rest) (i + 1) found

namespace Envelope

theorem message_cases (e : Members) :
    (Worded e ∧ ∃ s, message e = .str s) ∨
      ∃ found, e.lookup "message" = some found ∧ message e = found ∧ ∀ s, found ≠ .str s := by
  cases hm : e.lookup "message" with
  | none => exact .inl ⟨fun v hv => (by rw [hm] at hv; cases hv), _, by rw [message, hm]⟩
  | some found =>
    have he : message e = found := by rw [message, hm]
    by_cases hs : ∃ s, found = .str s
    · obtain ⟨s, rfl⟩ := hs
      exact .inl ⟨fun v hv => ⟨s, by rw [hm] at hv; cases hv; rfl⟩, s, he⟩
    · exact .inr ⟨found, rfl, he, fun s hf => hs ⟨s, hf⟩⟩

theorem messages_text {e : Members} {s : String} (h : message e = .str s) (i : Nat)
    (rest : List Members) : messages i (e :: rest) = (messages (i + 1) rest).map (s :: ·) := by
  rw [messages, h]

theorem messages_other {e : Members} {found : Json} (h : message e = found)
    (hn : ∀ s, found ≠ .str s) (i : Nat) (rest : List Members) :
    messages i (e :: rest) = .error (.messageNotText i found) := by
  rw [messages, h]
  split
  · next s => exact absurd rfl (hn s)
  · rfl

theorem messages_eq_ok {i : Nat} {errors : List Members} {texts : List String} :
    messages i errors = .ok texts ↔ errors.map message = texts.map .str := by
  induction errors generalizing i texts with
  | nil => simp [messages, eq_comm]
  | cons e rest ih =>
    obtain ⟨-, s, hm⟩ | ⟨found, -, hm, hn⟩ := message_cases e
    · rw [messages_text hm, Outcome.map_eq_ok, List.map_cons, hm]
      constructor
      · rintro ⟨texts, ht, rfl⟩
        rw [ih.mp ht, List.map_cons]
      · intro ht
        cases texts with
        | nil => cases ht
        | cons t texts =>
          obtain ⟨hs, hts⟩ := List.cons.inj ht
          cases hs
          exact ⟨texts, ih.mpr hts, rfl⟩
    · rw [messages_other hm hn, List.map_cons, hm]
      constructor
      · intro h
        cases h
      · intro ht
        cases texts with
        | nil => cases ht
        | cons t texts =>
          obtain ⟨hs, -⟩ := List.cons.inj ht
          exact absurd hs (hn t)

theorem messages_eq_error {i : Nat} {errors : List Members} {cause : LoadError} :
    messages i errors = .error cause ↔
      ∃ j found, FirstUnworded errors j found ∧ cause = .messageNotText (i + j) found := by
  induction errors generalizing i with
  | nil =>
    constructor
    · intro h
      cases h
    · rintro ⟨j, found, hf, -⟩
      cases hf
  | cons e rest ih =>
    obtain ⟨hw, s, hm⟩ | ⟨found, hl, hm, hn⟩ := message_cases e
    · have hr : (messages (i + 1) rest).map (s :: ·) = .error cause ↔
          messages (i + 1) rest = .error cause := by
        cases messages (i + 1) rest with
        | ok texts => simp [Except.map]
        | error e => simp [Except.map]
      rw [messages_text hm, hr, ih]
      constructor
      · rintro ⟨j, found, hf, rfl⟩
        exact ⟨j + 1, found, .later hw hf, by rw [Nat.add_assoc, Nat.add_comm 1 j]⟩
      · rintro ⟨j, found, hf, rfl⟩
        cases hf with
        | here hl hn =>
          obtain ⟨s, hs⟩ := hw _ hl
          exact absurd hs (hn s)
        | @later _ _ j _ _ hf => exact ⟨j, found, hf, by rw [Nat.add_assoc, Nat.add_comm 1 j]⟩
    · rw [messages_other hm hn]
      constructor
      · intro h
        cases h
        exact ⟨0, found, .here hl hn, rfl⟩
      · rintro ⟨j, found', hf, rfl⟩
        cases hf with
        | here hl' _ =>
          obtain rfl := Option.some.inj (hl.symm.trans hl')
          rfl
        | later hw _ =>
          obtain ⟨s, hs⟩ := hw _ hl
          exact absurd hs (hn s)

theorem worded_iff {e : Members} : Worded e ↔ ∃ s, Json.str s = message e := by
  obtain ⟨hw, s, hm⟩ | ⟨found, hl, hm, hn⟩ := message_cases e
  · exact ⟨fun _ => ⟨s, hm.symm⟩, fun _ => hw⟩
  · constructor
    · intro hw
      obtain ⟨s, hs⟩ := hw _ hl
      exact absurd hs (hn s)
    · rintro ⟨s, hs⟩
      exact absurd (hm.symm.trans hs.symm) (hn s)

theorem exists_texts {errors : List Members} :
    (∃ texts : List String, errors.map message = texts.map .str) ↔ ∀ e ∈ errors, Worded e := by
  have h := Set.ext_iff.mp (Set.range_list_map Json.str) (errors.map message)
  simp only [Set.mem_range, Set.mem_ofPred_eq, List.forall_mem_map] at h
  simp only [worded_iff, ← h]
  exact exists_congr fun _ => eq_comm

theorem dataProblems_eq_nil {v : Json} :
    dataProblems v = [] ↔ v = .null ∨ ∃ data, v = .obj data := by
  cases v <;> simp [dataProblems]

theorem objects_map (errors : List Members) : objects (errors.map .obj) = errors := by
  induction errors with
  | nil => rfl
  | cons e rest ih => rw [List.map_cons, objects, ih]

theorem notObjects_eq_nil {i : Nat} {vs : List Json} :
    notObjects i vs = [] ↔ ∃ errors : List Members, vs = errors.map .obj := by
  induction vs generalizing i with
  | nil => simp [notObjects]
  | cons v rest ih =>
    cases v with
    | obj ms =>
      rw [notObjects, ih]
      constructor
      · rintro ⟨errors, rfl⟩
        exact ⟨ms :: errors, rfl⟩
      · rintro ⟨errors, he⟩
        cases errors with
        | nil => cases he
        | cons e errors => exact ⟨errors, (List.cons.inj he).2⟩
    | _ =>
      constructor
      · intro h
        cases h
      · rintro ⟨errors, he⟩
        cases errors with
        | nil => cases he
        | cons e errors => cases (List.cons.inj he).1

theorem errorsProblems_eq_nil {v : Json} :
    errorsProblems v = [] ↔ v = .null ∨ ∃ errors : List Members, v = .arr (errors.map .obj) := by
  cases v with
  | arr vs => simp [errorsProblems, notObjects_eq_nil]
  | _ => simp [errorsProblems]

theorem ofPayload_error {payload : Json} {cause : LoadError}
    (h : ofPayload payload = .error cause) : ∃ problems, cause = .invalid problems := by
  unfold ofPayload at h
  split at h
  · split at h
    · cases h
    · dsimp only at h
      split at h
      · cases h
      · cases h
        exact ⟨_, rfl⟩
  · cases h
    exact ⟨_, rfl⟩

theorem ofPayload_of_reports {payload : Json} {errors : List Members} (h : Reports payload errors) :
    ∃ data, ofPayload payload = .ok ⟨data, some errors⟩ := by
  obtain ⟨ms, rfl, hl, hd, he⟩ := h.wrapper
  have hp : dataProblems (Json.member ms "data") ++
      errorsProblems (Json.member ms "errors") = [] := by
    rw [dataProblems_eq_nil.mpr hd, he, errorsProblems_eq_nil.mpr (.inr ⟨errors, rfl⟩)]
    rfl
  refine ⟨dataOf (Json.member ms "data"), ?_⟩
  simp only [ofPayload, hl, hp]
  rw [he, errorsOf, objects_map]
  rfl

theorem reports_of_ofPayload {payload : Json} {e : Envelope} (h : ofPayload payload = .ok e)
    {errors : List Members} (he : e.errors = some errors) (hn : errors ≠ []) :
    Reports payload errors := by
  unfold ofPayload at h
  split at h
  · next ms =>
    split at h
    · cases h
      cases he
    · next hl =>
      dsimp only at h
      split at h
      · next hp =>
        cases h
        obtain ⟨hd, hr⟩ := List.append_eq_nil_iff.mp hp
        obtain hr | ⟨errors', hr⟩ := errorsProblems_eq_nil.mp hr
        · rw [hr] at he
          cases he
        · rw [hr] at he
          obtain rfl : objects (errors'.map .obj) = errors := Option.some.inj he
          rw [objects_map] at hn ⊢
          exact ⟨hn, ms, rfl, Option.not_isSome_iff_eq_none.mp hl, dataProblems_eq_nil.mp hd, hr⟩
      · cases h
  · cases h

end Envelope

theorem FirstUnworded.exists_unworded {errors : List Members} {i : Nat} {found : Json}
    (h : FirstUnworded errors i found) : ∃ e ∈ errors, ¬ Worded e := by
  induction h with
  | here h hn =>
    refine ⟨_, List.mem_cons_self, fun hw => ?_⟩
    obtain ⟨s, hs⟩ := hw _ h
    exact hn s hs
  | later _ _ ih =>
    obtain ⟨e, he, hw⟩ := ih
    exact ⟨e, List.mem_cons_of_mem _ he, hw⟩

namespace Schema

variable {payload : Json} {errors : List Members}

theorem ofPayload_of_reports (h : Reports payload errors) :
    ofPayload payload = Envelope.messages 0 errors >>= fun texts =>
      .error (.reported errors texts) := by
  obtain ⟨data, he⟩ := Envelope.ofPayload_of_reports h
  cases errors with
  | nil => exact absurd rfl h.some_error
  | cons e rest =>
    rw [ofPayload, he]
    rfl

theorem ofPayload_reported (h : Reports payload errors) {texts : List String}
    (ht : errors.map Envelope.message = texts.map .str) :
    ofPayload payload = .error (.reported errors texts) := by
  rw [ofPayload_of_reports h, Envelope.messages_eq_ok.mpr ht]
  rfl

theorem ofPayload_unworded (h : Reports payload errors) {i : Nat} {found : Json}
    (hf : FirstUnworded errors i found) : ofPayload payload = .error (.messageNotText i found) := by
  rw [ofPayload_of_reports h, Envelope.messages_eq_error.mpr ⟨i, found, hf, rfl⟩, Nat.zero_add]
  rfl

theorem ofPayload_of_not_reports (h : ∀ errors, ¬ Reports payload errors) {e : Envelope}
    (he : Envelope.ofPayload payload = .ok e) : ofPayload payload = ofData (e.data.getD []) := by
  have hn : e.errors.getD [] = [] := by
    cases hr : e.errors with
    | none => rfl
    | some errors =>
      by_contra hn
      exact h errors (Envelope.reports_of_ofPayload he hr hn)
  rw [ofPayload, he]
  change ofEnvelope e = _
  rw [ofEnvelope, hn]

end Schema

/-- What loading can come to, by what the answer reports. -/
inductive Comes (payload : Json) : Except LoadError Schema → Prop where
  | reported {errors : List Members} {texts : List String} (h : Reports payload errors)
      (ht : errors.map Envelope.message = texts.map .str) :
      Comes payload (.error (.reported errors texts))
  | unworded {errors : List Members} {i : Nat} {found : Json} (h : Reports payload errors)
      (hf : FirstUnworded errors i found) : Comes payload (.error (.messageNotText i found))
  | loaded (h : ∀ errors, ¬ Reports payload errors) (s : Schema) : Comes payload (.ok s)
  | invalid (h : ∀ errors, ¬ Reports payload errors) (problems : List Problem) :
      Comes payload (.error (.invalid problems))
  | noDescription (h : ∀ errors, ¬ Reports payload errors) : Comes payload (.error .noDescription)
  | build (h : ∀ errors, ¬ Reports payload errors)
      (fault : Introspection.Fault) : Comes payload (.error (.build fault))
  | noMembers (h : ∀ errors, ¬ Reports payload errors) {e : Envelope}
      (he : Envelope.ofPayload payload = .ok e)
      {found : Json} (hs : Introspection.schema (e.data.getD []) = .error (.noMembers found)) :
      Comes payload (.error (.noMembers found))

theorem Schema.ofPayload_comes (payload : Json) : Comes payload (ofPayload payload) := by
  by_cases h : ∃ errors, Reports payload errors
  · obtain ⟨errors, h⟩ := h
    cases hm : Envelope.messages 0 errors with
    | ok texts =>
      have ht := Envelope.messages_eq_ok.mp hm
      rw [ofPayload_reported h ht]
      exact .reported h ht
    | error cause =>
      obtain ⟨i, found, hf, -⟩ := Envelope.messages_eq_error.mp hm
      rw [ofPayload_unworded h hf]
      exact .unworded h hf
  · have h : ∀ errors, ¬ Reports payload errors := fun errors hr => h ⟨errors, hr⟩
    cases he : Envelope.ofPayload payload with
    | error cause =>
      obtain ⟨problems, rfl⟩ := Envelope.ofPayload_error he
      rw [ofPayload, he]
      exact .invalid h problems
    | ok e =>
      rw [ofPayload_of_not_reports h he, ofData]
      split
      · split
        · exact .loaded h _
        · next hs => exact .noMembers h he hs
        · exact .build h _
      · exact .noDescription h

namespace Comes

variable {payload : Json} {outcome : Except LoadError Schema}

theorem unreported (hc : Comes payload outcome) (h : ∀ errors, ¬ Reports payload errors) :
    (∃ s, outcome = .ok s) ∨ (∃ problems, outcome = .error (.invalid problems)) ∨
      outcome = .error .noDescription ∨ (∃ fault, outcome = .error (.build fault)) ∨
      ∃ found, outcome = .error (.noMembers found) := by
  cases hc with
  | reported hr | unworded hr => exact absurd hr (h _)
  | loaded _ s => exact .inl ⟨s, rfl⟩
  | invalid _ problems => exact .inr (.inl ⟨problems, rfl⟩)
  | noDescription => exact .inr (.inr (.inl rfl))
  | build _ fault => exact .inr (.inr (.inr (.inl ⟨fault, rfl⟩)))
  | @noMembers _ _ _ found => exact .inr (.inr (.inr (.inr ⟨found, rfl⟩)))

/-- A run without a schema stops with a message, unless an error's message is no text or the reading
of the data broke off. -/
theorem ending (hc : Comes payload outcome) {cause : LoadError} (ho : outcome = .error cause)
    (fatal : Fatal) :
    endOfLoad fatal cause = .fatal fatal ∨
      (endOfLoad fatal cause = .crash .messageNotText ∧ ∃ errors, Reports payload errors ∧
        ∃ e ∈ errors, ¬ Worded e) ∨
      ∃ found, cause = .noMembers found := by
  cases hc with
  | loaded => cases ho
  | unworded h hf =>
    cases ho
    exact .inr (.inl ⟨rfl, _, h, hf.exists_unworded⟩)
  | @noMembers _ _ _ found =>
    cases ho
    exact .inr (.inr ⟨found, rfl⟩)
  | _ =>
    cases ho
    exact .inl rfl

end Comes

/-- What is known of an answer from what loading came to. The last possibility is a value that is no
object where the description needs one. -/
structure Classified (payload : Json) (outcome : Except LoadError Schema) : Prop where
  reported : ∀ errors texts, outcome = .error (.reported errors texts) ↔
    Reports payload errors ∧ errors.map Envelope.message = texts.map .str
  worded : ∀ errors, (∃ texts, outcome = .error (.reported errors texts)) ↔
    Reports payload errors ∧ ∀ e ∈ errors, Worded e
  unworded : ∀ i found, outcome = .error (.messageNotText i found) ↔
    ∃ errors, Reports payload errors ∧ FirstUnworded errors i found
  unreported : (∀ errors, ¬ Reports payload errors) →
    (∃ s, outcome = .ok s) ∨ (∃ problems, outcome = .error (.invalid problems)) ∨
      outcome = .error .noDescription ∨ (∃ fault, outcome = .error (.build fault)) ∨
      ∃ found, outcome = .error (.noMembers found)
  noMembers : ∀ found, outcome = .error (.noMembers found) →
    ∃ e, Envelope.ofPayload payload = .ok e ∧
    Introspection.schema (e.data.getD []) = .error (.noMembers found)
  ending : ∀ cause, outcome = .error cause → ∀ fatal, endOfLoad fatal cause = .fatal fatal ∨
    (endOfLoad fatal cause = .crash .messageNotText ∧ ∃ errors, Reports payload errors ∧
      ∃ e ∈ errors, ¬ Worded e) ∨
    ∃ found, cause = .noMembers found

theorem loading_classified (payload : Json) : Classified payload (Schema.ofPayload payload) := by
  have hc := Schema.ofPayload_comes payload
  have hreported : ∀ errors texts, Schema.ofPayload payload = .error (.reported errors texts) ↔
      Reports payload errors ∧ errors.map Envelope.message = texts.map .str := by
    intro errors texts
    constructor
    · intro h
      rw [h] at hc
      cases hc with
      | reported h ht => exact ⟨h, ht⟩
    · exact fun ⟨h, ht⟩ => Schema.ofPayload_reported h ht
  refine ⟨hreported, ?worded, ?unworded, hc.unreported, ?noMembers,
    fun _ ho fatal => hc.ending ho fatal⟩
  case worded =>
    intro errors
    simp only [hreported, exists_and_left, Envelope.exists_texts]
  case unworded =>
    intro i found
    constructor
    · intro h
      rw [h] at hc
      cases hc with
      | unworded h hf => exact ⟨_, h, hf⟩
    · exact fun ⟨errors, h, hf⟩ => Schema.ofPayload_unworded h hf
  case noMembers =>
    intro found h
    rw [h] at hc
    cases hc with
    | noMembers _ he hs => exact ⟨_, he, hs⟩

/-- An error that says null: nothing is reported, and a run stops without a message. -/
theorem null_message_unreported :
    let errors : List Members := [[("message", .null)]]
    Reports (.obj [("errors", .arr (errors.map .obj))]) errors ∧
      Schema.ofPayload (.obj [("errors", .arr (errors.map .obj))]) =
        .error (.messageNotText 0 .null) ∧
      ∀ fatal, endOfLoad fatal (.messageNotText 0 .null) = .crash .messageNotText :=
  ⟨⟨by simp, _, rfl, rfl, .inl rfl, rfl⟩, rfl, fun _ => rfl⟩

end QueryDraft
