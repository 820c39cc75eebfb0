import QueryDraft.Proofs.Limit
import QueryDraft.Proofs.Recovery

namespace QueryDraft

open Outcome

/-- How a draft was built, the worst way first. -/
inductive Rank where
  | unlimited
  | reduced
  | requested
  deriving DecidableEq, Repr

def Rank.grade : Rank → Nat
  | .unlimited => 0
  | .reduced => 1
  | .requested => 2

instance : LE Rank := ⟨fun r r' => r.grade ≤ r'.grade⟩

instance (r r' : Rank) : Decidable (r ≤ r') := inferInstanceAs (Decidable (r.grade ≤ r'.grade))

def Warning.rank : Warning → Rank
  | .regenerated _ _ => .reduced
  | .unlimited _ => .unlimited
  | .unformatted _ => .requested

/-- The warnings lower a draft to a rank and no further. -/
def Warning.Tell (warnings : List Warning) (r : Rank) : Prop :=
  (∀ w ∈ warnings, r ≤ w.rank) ∧ (r = .requested ∨ ∃ w ∈ warnings, w.rank = r)

/-- The rank of a draft that is made from an attempt, if the attempt succeeded. -/
def Attempt.rank? (o : Options) (a : Attempt) : Option Rank :=
  match a.outcome with
  | .error _ => none
  | .ok _ =>
    some (if a.limited then if a.depth = o.maxDepth then .requested else .reduced else .unlimited)

theorem OperationKind.eq_empty_of_operationName? {kind : OperationKind} {field : String}
    (h : kind.operationName? field = none) : field = "" := by
  by_cases hn : field = ""
  · exact hn
  · cases h.symm.trans (kind.operationName?_eq_some hn)

namespace Options

variable {o : Options} {schema : Schema} {faults : Faults}

theorem separately_named (h : schema.RootsNamed) (depth : Nat) :
    ∃ ops, o.separately schema depth = .ok ops := by
  cases hs : o.separately schema depth with
  | ok ops => exact ⟨ops, rfl⟩
  | error e =>
    obtain ⟨root, hr, he⟩ := exists_of_mapM_error hs
    obtain ⟨hn, -⟩ | ⟨name, -, ha⟩ := Scope.alone_cases ⟨depth, o.skipDeprecated, none⟩ schema root
    · exact absurd (OperationKind.eq_empty_of_operationName? hn) (h root hr)
    · cases ha.symm.trans he

theorem separately_unnamed (h : ¬ schema.RootsNamed) (depth : Nat) :
    o.separately schema depth = .error .emptyFieldName := by
  cases hs : o.separately schema depth with
  | ok ops =>
    refine absurd ?_ h
    intro root hr he
    obtain ⟨op, ho⟩ := ok_of_mapM hs root hr
    obtain ⟨-, ha⟩ | ⟨name, hn, -⟩ := Scope.alone_cases ⟨depth, o.skipDeprecated, none⟩ schema root
    · cases ha.symm.trans ho
    · rw [he] at hn
      cases hn
  | error e =>
    obtain ⟨root, hr, he⟩ := exists_of_mapM_error hs
    obtain ⟨-, ha⟩ | ⟨name, -, ha⟩ := Scope.alone_cases ⟨depth, o.skipDeprecated, none⟩ schema root
    · cases ha.symm.trans he
      rfl
    · cases ha.symm.trans he

def rank? (o : Options) (schema : Schema) (faults : Faults) : Option Rank :=
  (o.attempts schema faults).getLast?.bind (Attempt.rank? o)

def AllowsAt (o : Options) (schema : Schema) (depth : Int) : Prop :=
  ∃ ops, o.separately schema depth.toNat = .ok ops ∧ o.Allows ops

/-- What the limit has to allow, and what to refuse, for a draft of a rank. -/
def Earns (o : Options) (schema : Schema) : Rank → Prop
  | .requested => o.AllowsAt schema o.maxDepth
  | .reduced =>
    ¬ o.AllowsAt schema o.maxDepth ∧ o.reducedDepth ≠ o.maxDepth ∧
      o.AllowsAt schema o.reducedDepth
  | .unlimited =>
    ¬ o.AllowsAt schema o.maxDepth ∧
      (o.reducedDepth = o.maxDepth ∨ ¬ o.AllowsAt schema o.reducedDepth)

/-- A draft with its rank, which its last attempt and its warnings agree on. -/
structure Ranked (o : Options) (schema : Schema) (faults : Faults) (d : Draft)
    (r : Rank) : Prop where
  drafted : o.draft schema faults = .ok d
  ranks : o.rank? schema faults = some r
  told : Warning.Tell d.warnings r
  earned : o.Earns schema r

theorem finish_tells {warnings : List Warning} {r : Rank} (h : Warning.Tell warnings r)
    (depth : Int) (raw : List Char) :
    Warning.Tell (o.finish schema faults depth warnings raw).warnings r := by
  obtain ⟨document, -, -, -, hf⟩ | ⟨cause, -, -, -, hf⟩ | ⟨-, hf⟩ :=
    @finish_cases o schema faults depth warnings raw
  · rwa [hf]
  · have hr : r ≤ .requested := by
      cases r with
      | unlimited | reduced | requested => decide
    rw [hf]
    refine ⟨?_, h.2.imp_right fun ⟨w, hw, hr⟩ => ⟨w, List.mem_append_left _ hw, hr⟩⟩
    intro w hw
    obtain hw | hw := List.mem_append.mp hw
    · exact h.1 w hw
    · cases List.mem_singleton.mp hw
      exact hr
  · rwa [hf]

theorem assemble_named (h : schema.RootsNamed) {depth : Int} (hd : 0 ≤ depth) (begun : Nat) :
    ((o.assemble schema (fun _ => false) depth true begun).1 =
      .ok (o.plainText schema depth.toNat) ∧
        o.AllowsAt schema depth) ∨
      ((o.assemble schema (fun _ => false) depth true begun).1 =
          .error (.tooLarge (.size o.maxOutputSize depth.toNat)) ∧
        ¬ o.AllowsAt schema depth) := by
  obtain ⟨depth, rfl⟩ := Int.eq_ofNat_of_zero_le hd
  obtain ⟨ops, hs⟩ := @separately_named o schema h depth
  obtain ⟨ha, hallows⟩ | ⟨ha, hallows⟩ := o.assemble_limited schema depth begun hs
  · have hp := o.assemble_plainText h hd begun
    rw [assemble_unlimited, hs] at hp
    rw [ha]
    exact .inl ⟨hp, ops, hs, hallows⟩
  · refine .inr ⟨ha, ?_⟩
    rintro ⟨ops', hs', hallows'⟩
    cases hs.symm.trans hs'
    exact hallows hallows'

section

variable {parser : Option Exhaustion} {cause : TooLarge} {begun : Nat}

theorem retry_of_allowed (h : schema.RootsNamed) (hs : 0 ≤ o.safeDepth)
    (hn : o.reducedDepth ≠ o.maxDepth) (ha : o.AllowsAt schema o.reducedDepth) :
    ∃ d raw, o.retry schema ⟨fun _ => false, parser⟩ cause begun =
      (.ok d, [⟨o.reducedDepth, true, .ok raw⟩]) ∧
      Warning.Tell d.warnings .reduced := by
  obtain ⟨hr, -⟩ | ⟨-, hr⟩ := @assemble_named o schema h _ (reducedDepth_nonneg hs) begun
  · have ht : Warning.Tell [.regenerated cause o.reducedDepth] .reduced :=
      ⟨List.forall_mem_singleton.mpr (Nat.le_refl _), .inr ⟨_, List.mem_singleton_self _, rfl⟩⟩
    rw [retry]
    simp only [if_neg hn, hr]
    exact ⟨_, _, rfl, finish_tells ht _ _⟩
  · exact absurd ha hr

theorem unlimited_named (h : schema.RootsNamed) {depth : Int} (hd : 0 ≤ depth)
    (warnings : List Warning) :
    ∃ d raw, o.unlimited schema ⟨fun _ => false, parser⟩ depth warnings cause begun =
      (.ok d, [⟨depth, false, .ok raw⟩]) ∧ Warning.Tell d.warnings .unlimited := by
  rw [unlimited]
  simp only [o.assemble_plainText h hd begun]
  refine ⟨_, _, rfl, fun w _ => Nat.zero_le _, .inr ⟨.unlimited cause, ?_, rfl⟩⟩
  exact List.mem_append_right _ (List.mem_singleton_self _)

theorem retry_of_refused (h : schema.RootsNamed) (hs : 0 ≤ o.safeDepth)
    (ha : o.reducedDepth = o.maxDepth ∨ ¬ o.AllowsAt schema o.reducedDepth) :
    ∃ d lost raw, o.retry schema ⟨fun _ => false, parser⟩ cause begun =
      (.ok d, lost ++ [⟨o.reducedDepth, false, .ok raw⟩]) ∧ Warning.Tell d.warnings .unlimited := by
  have hd := reducedDepth_nonneg hs
  rw [retry]
  by_cases he : o.reducedDepth = o.maxDepth
  · obtain ⟨d, raw, hu, ht⟩ := @unlimited_named o schema parser cause begun h _ hd []
    simp only [if_pos he, hu]
    exact ⟨d, [], raw, rfl, ht⟩
  · obtain ⟨-, hr⟩ | ⟨hr, -⟩ := @assemble_named o schema h _ hd begun
    · exact absurd hr (ha.resolve_left he)
    · simp only [if_neg he, hr]
      obtain ⟨d, raw, hu, ht⟩ :=
        @unlimited_named o schema parser (.size o.maxOutputSize o.reducedDepth.toNat)
          (o.assemble schema (fun _ => false) o.reducedDepth true begun).2 h _ hd
          [.regenerated cause o.reducedDepth]
      rw [hu]
      exact ⟨d, [_], raw, rfl, ht⟩

theorem rank?_of_last {lost : List Attempt} {a : Attempt}
    (h : o.attempts schema faults = lost ++ [a]) : o.rank? schema faults = a.rank? o := by
  rw [rank?, h, List.getLast?_concat]
  rfl

theorem drafting_of_refused {cause : TooLarge}
    (h : (o.assemble schema faults.memory o.maxDepth true 0).1 = .error (.tooLarge cause)) :
    ∃ begun, o.drafting schema faults =
      (o.retry schema faults cause begun).after ⟨o.maxDepth, true, .error (.tooLarge cause)⟩ := by
  rw [drafting]
  simp only [h]
  exact ⟨_, rfl⟩

theorem AllowsAt.named {depth : Int} (h : o.AllowsAt schema depth) : schema.RootsNamed := by
  obtain ⟨ops, hs, -⟩ := h
  by_cases hn : schema.RootsNamed
  · exact hn
  · cases hs.symm.trans (separately_unnamed hn depth.toNat)

theorem ranked_requested (h : o.AllowsAt schema o.maxDepth) (hm : 0 ≤ o.maxDepth) :
    o.Ranked schema ⟨fun _ => false, parser⟩
      (o.finish schema ⟨fun _ => false, parser⟩ o.maxDepth [] (o.plainText schema o.maxDepth.toNat))
      .requested := by
  obtain ⟨ha, -⟩ | ⟨-, hr⟩ := @assemble_named o schema h.named _ hm 0
  · have hd := @drafting_of_ok o schema ⟨fun _ => false, parser⟩ _ ha
    refine ⟨congrArg Prod.fst hd, ?_, finish_tells (by simp [Warning.Tell]) _ _, h⟩
    rw [@rank?_of_last o schema _ [] _ (congrArg Prod.snd hd)]
    simp [Attempt.rank?]
  · exact absurd h hr

theorem drafting_ranked (h : schema.RootsNamed) (hm : 0 ≤ o.maxDepth) (hs : 0 ≤ o.safeDepth) :
    ∃ d r, o.Ranked schema ⟨fun _ => false, parser⟩ d r := by
  obtain ⟨-, hallows⟩ | ⟨ha, hallows⟩ := @assemble_named o schema h _ hm 0
  · exact ⟨_, _, ranked_requested hallows hm⟩
  · obtain ⟨begun, hd⟩ := @drafting_of_refused o schema ⟨fun _ => false, parser⟩ _ ha
    by_cases hr : o.reducedDepth ≠ o.maxDepth ∧ o.AllowsAt schema o.reducedDepth
    · obtain ⟨d, raw, hretry, ht⟩ :=
        @retry_of_allowed o schema parser
          (.size o.maxOutputSize o.maxDepth.toNat) begun h hs hr.1 hr.2
      rw [hretry] at hd
      refine ⟨d, .reduced, congrArg Prod.fst hd, ?_, ht, hallows, hr⟩
      rw [@rank?_of_last o schema _ [_] _ (congrArg Prod.snd hd)]
      simp [Attempt.rank?, hr.1]
    · have hr : o.reducedDepth = o.maxDepth ∨ ¬ o.AllowsAt schema o.reducedDepth :=
        (Classical.not_and_iff_not_or_not.mp hr).imp_left Classical.not_not.mp
      obtain ⟨d, lost, raw, hretry, ht⟩ :=
        @retry_of_refused o schema parser (.size o.maxOutputSize o.maxDepth.toNat) begun h hs hr
      rw [hretry] at hd
      refine ⟨d, .unlimited, congrArg Prod.fst hd, ?_, ht, hallows, hr⟩
      rw [@rank?_of_last o schema _ (_ :: lost) _ (congrArg Prod.snd hd)]
      simp [Attempt.rank?]

theorem assemble_unnamed (h : ¬ schema.RootsNamed) {depth : Int} (hd : 0 ≤ depth) (limited : Bool)
    (begun : Nat) :
    (o.assemble schema (fun _ => false) depth limited begun).1 = .error .emptyFieldName ∨
      (limited = true ∧
        ∃ cause, (o.assemble schema (fun _ => false) depth limited begun).1 =
          .error (.tooLarge cause)) := by
  obtain ⟨depth, rfl⟩ := Int.eq_ofNat_of_zero_le hd
  have hs := @separately_unnamed o schema h depth
  cases limited with
  | false =>
    rw [assemble_unlimited, hs]
    exact .inl rfl
  | true =>
    obtain ha | ha := o.assemble_limited_error schema depth begun hs
    · exact .inl ha
    · exact .inr ⟨rfl, _, ha⟩

theorem unlimited_unnamed (h : ¬ schema.RootsNamed) {depth : Int} (hd : 0 ≤ depth)
    (warnings : List Warning) :
    (o.unlimited schema ⟨fun _ => false, parser⟩ depth warnings cause begun).1 =
      .error .emptyFieldName := by
  obtain ha | ⟨hl, -⟩ := @assemble_unnamed o schema h _ hd false begun
  · rw [unlimited]
    simp only [ha]
  · cases hl

theorem retry_unnamed (h : ¬ schema.RootsNamed) (hs : 0 ≤ o.safeDepth) :
    (o.retry schema ⟨fun _ => false, parser⟩ cause begun).1 = .error .emptyFieldName := by
  have hd := reducedDepth_nonneg hs
  rw [retry]
  dsimp only
  split
  · exact unlimited_unnamed h hd _
  · obtain ha | ⟨-, cause', ha⟩ := @assemble_unnamed o schema h _ hd true begun
    · simp only [ha]
    · simp only [ha]
      exact unlimited_unnamed h hd _

theorem draft_unnamed (h : ¬ schema.RootsNamed) (hm : 0 ≤ o.maxDepth) (hs : 0 ≤ o.safeDepth) :
    o.draft schema ⟨fun _ => false, parser⟩ = .error .emptyFieldName := by
  obtain ha | ⟨-, cause, ha⟩ := @assemble_unnamed o schema h _ hm true 0
  · rw [draft, drafting]
    simp only [ha]
  · obtain ⟨begun, hd⟩ := @drafting_of_refused o schema ⟨fun _ => false, parser⟩ _ ha
    rw [draft, hd]
    exact retry_unnamed h hs

end

variable {wider : Int}

theorem AllowsAt.mono {depth : Int} (h : o.AllowsAt schema depth) (hw : o.maxOutputSize ≤ wider) :
    AllowsAt { o with maxOutputSize := wider } schema depth := by
  obtain ⟨ops, hs, hallows⟩ := h
  refine ⟨ops, hs, hallows.imp_right fun ⟨ht, hc⟩ => ?_⟩
  exact ⟨Int.le_trans ht hw, Int.le_trans hc hw⟩

theorem Earns.mono {r r' : Rank} (h : o.Earns schema r)
    (h' : Earns { o with maxOutputSize := wider } schema r') (hw : o.maxOutputSize ≤ wider) :
    r ≤ r' := by
  cases r with
  | unlimited => exact Nat.zero_le _
  | reduced =>
    obtain ⟨-, hn, ha⟩ := h
    cases r' with
    | unlimited =>
      obtain ⟨-, he | hr⟩ := h'
      · exact absurd he hn
      · exact absurd (ha.mono hw) hr
    | reduced => exact Nat.le_refl _
    | requested => exact Nat.le_succ _
  | requested =>
    have ha := AllowsAt.mono h hw
    cases r' with
    | unlimited => exact absurd ha h'.1
    | reduced => exact absurd ha h'.1
    | requested => exact Nat.le_refl _

end Options

/-- What a wider limit does for drafts: it never lowers the rank, and it leaves a draft of the best
rank as it is. -/
structure Improves (o wider : Options) (schema : Schema) (faults : Faults) : Prop where
  ranked : schema.RootsNamed →
    ∃ d d' r r', o.Ranked schema faults d r ∧ wider.Ranked schema faults d' r' ∧ r ≤ r'
  unnamed : ¬ schema.RootsNamed →
    o.draft schema faults = .error .emptyFieldName ∧
    wider.draft schema faults = .error .emptyFieldName
  best : ∀ d, o.Ranked schema faults d .requested → wider.Ranked schema faults d .requested

theorem raised_limit_improves (o : Options) (schema : Schema) (parser : Option Exhaustion)
    (hm : 0 ≤ o.maxDepth) (hs : 0 ≤ o.safeDepth) {limit : Int} (hl : o.maxOutputSize ≤ limit) :
    Improves o { o with maxOutputSize := limit } schema ⟨fun _ => false, parser⟩ where
  ranked := by
    intro hn
    obtain ⟨d, r, hr⟩ := @Options.drafting_ranked o schema parser hn hm hs
    obtain ⟨d', r', hr'⟩ :=
      @Options.drafting_ranked { o with maxOutputSize := limit } schema parser hn hm hs
    exact ⟨d, d', r, r', hr, hr', hr.earned.mono hr'.earned hl⟩
  unnamed := fun hn => ⟨Options.draft_unnamed hn hm hs, Options.draft_unnamed hn hm hs⟩
  best := by
    intro d hd
    have hr := @Options.ranked_requested o schema parser hd.earned hm
    cases hd.drafted.symm.trans hr.drafted
    exact Options.ranked_requested (Options.AllowsAt.mono hd.earned hl) hm

/-- With room for ten characters the sample is drafted without a limit, with room for 381 three
levels deep, and with room for 440 as deep as was asked for. -/
theorem raised_limit_improves_twice :
    let o : Options := ⟨7, 3, 10, false, true⟩
    let wider : Options := ⟨7, 3, 381, false, true⟩
    let widest : Options := ⟨7, 3, 440, false, true⟩
    0 ≤ o.maxDepth ∧ 0 ≤ o.safeDepth ∧ o.rank? Sample.schema .none = some .unlimited ∧
      wider.rank? Sample.schema .none = some .reduced ∧
      widest.rank? Sample.schema .none = some .requested ∧
      Improves o wider Sample.schema .none ∧ Improves wider widest Sample.schema .none := by
  intro o wider widest
  refine ⟨by decide, by decide, by decide +kernel, by decide +kernel, by decide +kernel, ?_, ?_⟩
  · exact raised_limit_improves o Sample.schema none (by decide) (by decide) (by decide)
  · exact raised_limit_improves wider Sample.schema none (by decide) (by decide) (by decide)

end QueryDraft
