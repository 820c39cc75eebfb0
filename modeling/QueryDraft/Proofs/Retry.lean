import QueryDraft.Proofs.Limit
import QueryDraft.Proofs.Recovery
import QueryDraft.Proofs.Truncation

namespace QueryDraft

namespace Scope

variable {scope deeper : Scope} (h : effectiveDepth scope.depth ≤ effectiveDepth deeper.depth)
  (hs : scope.skipDeprecated = deeper.skipDeprecated) (schema : Schema)

include h hs

theorem alone_truncated (root : RootField) :
    scope.alone schema root =
      (deeper.alone schema root).map (Operation.truncated (effectiveDepth scope.depth)) := by
  obtain ⟨hn, ha⟩ | ⟨name, hn, ha⟩ := scope.alone_cases schema root
  · obtain ⟨-, hd⟩ | ⟨name', hn', -⟩ := deeper.alone_cases schema root
    · rw [ha, hd]
      rfl
    · cases hn.symm.trans hn'
  · obtain ⟨hn', -⟩ | ⟨name', hn', hd⟩ := deeper.alone_cases schema root
    · cases hn.symm.trans hn'
    · cases hn.symm.trans hn'
      rw [ha, hd, body_truncated h hs]
      rfl

theorem separately_truncated (roots : List RootField) :
    scope.separately schema roots =
      (deeper.separately schema roots).map
        (List.map (Operation.truncated (effectiveDepth scope.depth))) :=
  Outcome.mapM_map (alone_truncated h hs schema) roots

end Scope

theorem Operation.truncated_paragraphs_sublist (last : Nat) (ops : List Operation) :
    ((ops.map (truncated last)).flatMap paragraph).Sublist (ops.flatMap paragraph) := by
  rw [List.flatMap_map]
  exact List.Sublist.flatMap_right ops fun op _ => truncated_sublist last op

namespace Options

variable {o : Options} {schema : Schema} {faults : Faults}

/-- The document of the lesser effective depth is a part of the other. -/
theorem assemble_parts (o : Options) (schema : Schema) {depth more : Int} (hd : 0 ≤ depth)
    (hm : 0 ≤ more) (h : effectiveDepth depth.toNat ≤ effectiveDepth more.toNat) (begun : Nat) :
    (∃ e, (o.assemble schema (fun _ => false) depth false begun).1 = .error e ∧
      (o.assemble schema (fun _ => false) more false begun).1 = .error e) ∨
    ∃ less text, (o.assemble schema (fun _ => false) depth false begun).1 = .ok less ∧
      (o.assemble schema (fun _ => false) more false begun).1 = .ok text ∧ less.Sublist text := by
  obtain ⟨depth, rfl⟩ := Int.eq_ofNat_of_zero_le hd
  obtain ⟨more, rfl⟩ := Int.eq_ofNat_of_zero_le hm
  rw [Int.toNat_natCast, Int.toNat_natCast] at h
  have hs : o.separately schema depth =
      (o.separately schema more).map (List.map (Operation.truncated (effectiveDepth depth))) :=
    @Scope.separately_truncated ⟨depth, o.skipDeprecated, none⟩
      ⟨more, o.skipDeprecated, none⟩ h rfl schema schema.roots
  rw [assemble_unlimited, assemble_unlimited, hs]
  cases o.separately schema more with
  | error e => exact .inl ⟨e, rfl, rfl⟩
  | ok ops => exact .inr ⟨_, _, rfl, rfl, Operation.truncated_paragraphs_sublist _ ops⟩

theorem attempts_retried {first second : Attempt} {rest : List Attempt}
    (h : o.attempts schema faults = first :: second :: rest) (hl : second.limited = true) :
    first.depth = o.maxDepth ∧ first.limited = true ∧
      (∃ cause, first.outcome = .error (.tooLarge cause)) ∧
      second.depth = o.reducedDepth ∧ o.reducedDepth ≠ o.maxDepth := by
  rw [attempts, drafting] at h
  dsimp only at h
  split at h
  · cases h
  · next cause ha =>
    obtain ⟨rfl, hr⟩ := List.cons.inj h
    refine ⟨rfl, rfl, ⟨cause, ha⟩, ?_⟩
    rw [retry] at hr
    dsimp only at hr
    split at hr
    · rw [unlimited_attempts] at hr
      cases hr
      cases hl
    · next hn =>
      split at hr
      all_goals
        cases hr
        exact ⟨rfl, hn⟩
  · cases h

theorem effectiveDepth_pos {depth : Nat} (h : 0 < depth) : effectiveDepth depth = depth :=
  if_neg (Nat.ne_of_gt h)

/-- The depth to fall back to lies below the request, or the request is halved. -/
def Descends (o : Options) : Prop :=
  effectiveDepth o.safeDepth.toNat < effectiveDepth o.maxDepth.toNat ∨
    (0 < o.maxDepth ∧ o.maxDepth ≤ o.safeDepth)

theorem effectiveDepth_reducedDepth_lt (hm : 0 ≤ o.maxDepth) (hn : o.reducedDepth ≠ o.maxDepth) :
    effectiveDepth o.reducedDepth.toNat < effectiveDepth o.maxDepth.toNat ↔ o.Descends := by
  rw [Descends]
  rw [reducedDepth] at hn ⊢
  split at hn
  · next hc =>
    rw [if_pos hc]
    exact ⟨.inl, Or.rec id fun hh => by omega⟩
  · next hc =>
    rw [if_neg hc]
    -- A request of one level would be halved to itself, so there are at least two.
    have hhalved : 0 < o.maxDepth ∧ o.maxDepth ≤ o.safeDepth := by omega
    refine ⟨fun _ => .inr hhalved, fun _ => ?_⟩
    rw [effectiveDepth_pos (by omega), effectiveDepth_pos (by omega)]
    omega

theorem descends_of_lt_ceiling (hm : 0 ≤ o.maxDepth) (h : 0 < o.safeDepth)
    (hc : o.safeDepth < depthCeiling) : o.Descends := by
  by_cases hle : 0 < o.maxDepth ∧ o.maxDepth ≤ o.safeDepth
  · exact .inr hle
  · refine .inl ?_
    rw [effectiveDepth_pos (by omega)]
    by_cases hz : o.maxDepth = 0
    · rw [hz]
      exact (Int.toNat_lt (Int.le_of_lt h)).mpr hc
    · rw [effectiveDepth_pos (by omega)]
      omega

end Options

/-- What a second attempt has to do with the first. It is shallower if and only if the depth to fall
back to is, or the request is halved; then its document is a part of the one refused, and else that
document is a part of its own. -/
structure Retries (o : Options) (schema : Schema) (first second : Attempt) : Prop where
  refused : first.depth = o.maxDepth ∧ first.limited = true ∧
    ∃ cause, first.outcome = .error (.tooLarge cause)
  retried : second.depth = o.reducedDepth ∧ second.depth ≠ first.depth
  shallower : effectiveDepth second.depth.toNat < effectiveDepth first.depth.toNat ↔ o.Descends
  usual : 0 < o.safeDepth → o.safeDepth < depthCeiling → o.Descends
  shorter : o.Descends →
    ∀ text, (o.assemble schema (fun _ => false) first.depth false 0).1 = .ok text →
    ∃ less, (o.assemble schema (fun _ => false) second.depth false 0).1 = .ok less ∧
      less.Sublist text ∧ less.length ≤ text.length
  longer : ¬ o.Descends →
    ∀ text, (o.assemble schema (fun _ => false) first.depth false 0).1 = .ok text →
    ∃ more, (o.assemble schema (fun _ => false) second.depth false 0).1 = .ok more ∧
      text.Sublist more ∧ text.length ≤ more.length

/-- Drafting tries again, within the limit, after its first attempt failed: at a lesser depth
exactly where the options descend. -/
theorem retry_shallower_iff (o : Options) (schema : Schema) (faults : Faults) (hm : 0 ≤ o.maxDepth)
    (hs : 0 ≤ o.safeDepth) {first second : Attempt} {rest : List Attempt}
    (h : o.attempts schema faults = first :: second :: rest) (hl : second.limited = true) :
    Retries o schema first second := by
  obtain ⟨hf, hlf, hc, hsec, hn⟩ := Options.attempts_retried h hl
  have hd := Options.effectiveDepth_reducedDepth_lt hm hn
  have hfirst : 0 ≤ first.depth := by rwa [hf]
  have hsecond : 0 ≤ second.depth := by
    rw [hsec]
    exact Options.reducedDepth_nonneg hs
  rw [← hsec, ← hf] at hd
  refine ⟨⟨hf, hlf, hc⟩, ⟨hsec, by rwa [hsec, hf]⟩, hd, Options.descends_of_lt_ceiling hm,
    ?shorter, ?longer⟩
  case shorter =>
    intro hdesc text ht
    have he := Nat.le_of_lt (hd.mpr hdesc)
    obtain ⟨e, -, hfail⟩ | ⟨less, text', hless, htext, hsub⟩ :=
      o.assemble_parts schema hsecond hfirst he 0
    · cases ht.symm.trans hfail
    · cases ht.symm.trans htext
      exact ⟨less, hless, hsub, hsub.length_le⟩
  case longer =>
    intro hdesc text ht
    have he := Nat.le_of_not_lt fun hlt => hdesc (hd.mp hlt)
    obtain ⟨e, hfail, -⟩ | ⟨text', more, htext, hmore, hsub⟩ :=
      o.assemble_parts schema hfirst hsecond he 0
    · cases ht.symm.trans hfail
    · cases ht.symm.trans htext
      exact ⟨more, hmore, hsub, hsub.length_le⟩

theorem retry_shallower_iff_answer :
    let o : Options := ⟨7, 3, 10, false, true⟩
    ∃ first second rest, o.attempts Sample.schema Faults.none = first :: second :: rest ∧
      second.limited = true ∧ o.Descends ∧ Retries o Sample.schema first second := by
  intro o
  refine ⟨_, _, _, rfl, rfl, .inl (by decide), ?_⟩
  exact retry_shallower_iff o Sample.schema Faults.none (by decide) (by decide) rfl rfl

/-- A first attempt at depth one falls back to depth zero, which is as deep as the
ceiling allows. -/
theorem retry_at_ceiling :
    let o : Options := ⟨1, 0, 10, false, true⟩
    let size (depth : Int) :=
      (o.assemble Sample.schema (fun _ => false) depth false 0).1.toOption.map List.length
    ∃ first second rest, o.attempts Sample.schema Faults.none = first :: second :: rest ∧
      second.limited = true ∧
      effectiveDepth first.depth.toNat = 1 ∧ effectiveDepth second.depth.toNat = 100 ∧
      size first.depth = some 135 ∧ size second.depth = some 440 := by
  intro o size
  refine ⟨_, _, _, rfl, rfl, by rfl, by rfl, ?_, ?_⟩
  · change size 1 = some 135
    decide +kernel
  · change size 0 = some 440
    decide +kernel

end QueryDraft
