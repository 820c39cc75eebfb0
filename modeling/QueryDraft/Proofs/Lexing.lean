import QueryDraft.Language.Lexer
import QueryDraft.Proofs.Names

namespace QueryDraft.Language

/-- A text is read to its end, and these are its lexemes. -/
def Scans (cs : List Char) (ls : List Lexeme) : Prop :=
  ∀ fuel, cs.length < fuel →
    (scanFrom fuel cs).fault = none ∧ (scanFrom fuel cs).tokens.map (·.lexeme) = ls

theorem scanFrom_ignored {c : Char} (h : isIgnored c = true) (fuel : Nat) (cs : List Char) :
    scanFrom fuel (c :: cs) = scanFrom fuel cs := by
  have hs : skipIgnored false (c :: cs) = skipIgnored false cs := by simp [skipIgnored, h]
  cases fuel with
  | zero => rfl
  | succ fuel => rw [scanFrom, scanFrom, hs]

theorem scanFrom_first {c : Char} {cs rest : List Char} {l : Lexeme} (hi : isIgnored c = false)
    (hc : c ≠ '#') (hf : first (c :: cs) = .ok (l, rest)) (fuel : Nat) :
    scanFrom (fuel + 1) (c :: cs) =
      ⟨⟨l, c :: cs⟩ :: (scanFrom fuel rest).tokens, (scanFrom fuel rest).fault⟩ := by
  have hs : skipIgnored false (c :: cs) = c :: cs := by simp [skipIgnored, hi, hc]
  rw [scanFrom, hs]
  simp only [hf]

namespace Scans

theorem nil : Scans [] [] := by
  intro fuel hf
  cases fuel with
  | zero => omega
  | succ fuel => exact ⟨rfl, rfl⟩

theorem ignored {c : Char} (hc : isIgnored c = true) {cs : List Char} {ls : List Lexeme}
    (h : Scans cs ls) : Scans (c :: cs) ls := by
  intro fuel hf
  rw [scanFrom_ignored hc]
  rw [List.length_cons] at hf
  exact h fuel (by omega)

theorem first {c : Char} {cs rest : List Char} {l : Lexeme} {ls : List Lexeme}
    (hi : isIgnored c = false) (hc : c ≠ '#') (hf : Language.first (c :: cs) = .ok (l, rest))
    (hl : rest.length ≤ cs.length) (h : Scans rest ls) :
    Scans (c :: cs) (l :: ls) := by
  intro fuel hfuel
  rw [List.length_cons] at hfuel
  cases fuel with
  | zero => omega
  | succ fuel =>
    obtain ⟨hn, ht⟩ := h fuel (by omega)
    rw [scanFrom_first hi hc hf]
    exact ⟨hn, by rw [List.map_cons, ht]⟩

theorem unique {text : List Char} {ls ms : List Lexeme} (h : Scans text ls) (hm : Scans text ms) :
    ls = ms :=
  (h _ (Nat.lt_succ_self _)).2.symm.trans (hm _ (Nat.lt_succ_self _)).2

theorem punctuator {c : Char} {p : Punctuator} (hp : Punctuator.ofChar? c = some p) {cs : List Char}
    {ls : List Lexeme} (h : Scans cs ls) : Scans (c :: cs) (.punctuator p :: ls) := by
  have hc : isIgnored c = false ∧ c ≠ '#' ∧ Language.first (c :: cs) = .ok (.punctuator p, cs) := by
    unfold Punctuator.ofChar? at hp
    split at hp
    case h_14 => cases hp
    all_goals
      cases hp
      exact ⟨by decide, by decide, rfl⟩
  exact first hc.1 hc.2.1 hc.2.2 (Nat.le_refl _) h

theorem spread {cs : List Char} {ls : List Lexeme} (h : Scans cs ls) :
    Scans ('.' :: '.' :: '.' :: cs) (.punctuator .spread :: ls) :=
  first (by decide) (by decide) rfl (by simp only [List.length_cons]; omega) h

end Scans

def Apart (cs : List Char) : Prop := ∀ c ∈ cs.head?, Name.isPart c = false

theorem Apart.nil : Apart [] := by simp [Apart]

theorem Apart.cons {c : Char} (h : Name.isPart c = false) (cs : List Char) : Apart (c :: cs) := by
  simpa [Apart] using h

theorem Apart.append {cs ds : List Char} (hc : Apart cs) (hd : Apart ds) : Apart (cs ++ ds) := by
  cases cs with
  | nil => exact hd
  | cons c cs => exact hc

theorem Apart.ignored {c : Char} (h : isIgnored c = true) (cs : List Char) : Apart (c :: cs) := by
  apply Apart.cons
  cases hp : Name.isPart c with
  | false => rfl
  | true =>
    have hi := Name.forall_isPart (P := fun c => isIgnored c = false) (by decide) hp
    rw [h] at hi
    cases hi

theorem first_name {c : Char} (h : Name.isStart c = true) (cs : List Char) :
    isIgnored c = false ∧ c ≠ '#' ∧ first (c :: cs) = .ok (name (c :: cs)) := by
  have hp :=
    Name.forall_isPart (P := fun c => Name.isStart c = true → isIgnored c = false ∧ c ≠ '#' ∧
      c ≠ '"' ∧ c ≠ '.' ∧ Punctuator.ofChar? c = none ∧ (c.isDigit || c == '-') = false)
      (by decide) (Name.isPart_of_isStart h)
  obtain ⟨hi, hc, hq, hd, ho, hn⟩ := hp h
  refine ⟨hi, hc, ?_⟩
  unfold first
  split
  case h_6 c' rest heq =>
    cases heq
    simp [ho, hn, h]
  all_goals simp_all

theorem takeWhile_isPart {s : List Char} (hs : s.all Name.isPart = true) {cs : List Char}
    (ha : Apart cs) :
    (s ++ cs).takeWhile Name.isPart = s ∧ (s ++ cs).dropWhile Name.isPart = cs := by
  have hs : ∀ c ∈ s, Name.isPart c = true := by simpa using hs
  rw [List.takeWhile_append_of_pos hs, List.dropWhile_append_of_pos hs]
  cases cs with
  | nil => simp
  | cons c cs =>
    have hc : Name.isPart c = false := ha c rfl
    simp [hc]

theorem Scans.name {s : String} (hs : Name.isValid s = true) {cs : List Char} {ls : List Lexeme}
    (ha : Apart cs) (h : Scans cs ls) : Scans (s.toList ++ cs) (.name s :: ls) := by
  cases hn : s.toList with
  | nil => simp [Name.isValid, hn] at hs
  | cons c rest =>
    obtain ⟨hc, hr⟩ : Name.isStart c = true ∧ rest.all Name.isPart = true := by
      simpa [Name.isValid, hn] using hs
    have hall : (c :: rest).all Name.isPart = true := by
      rw [List.all_cons, Name.isPart_of_isStart hc, hr]
      rfl
    obtain ⟨ht, hd⟩ := takeWhile_isPart hall ha
    obtain ⟨hi, hh, hf⟩ := first_name hc (rest ++ cs)
    rw [List.cons_append] at ht hd ⊢
    have hw : Language.name (c :: (rest ++ cs)) = (.name s, cs) := by
      rw [Language.name, ht, hd, ← hn, String.ofList_toList]
    rw [hw] at hf
    exact Scans.first hi hh hf (by simp) h

/-- A text with its lexemes, before anything that does not go on with a name. -/
def Lexes (text : List Char) (ls : List Lexeme) : Prop :=
  ∀ rest tail, Apart rest → Scans rest tail → Scans (text ++ rest) (ls ++ tail)

namespace Lexes

variable {text more : List Char} {ls ms : List Lexeme}

theorem scans (h : Lexes text ls) : Scans text ls := by
  simpa using h [] [] Apart.nil Scans.nil

theorem nil : Lexes [] [] := fun _ _ _ h => h

theorem append (h : Lexes text ls) (hm : Lexes more ms) (ha : Apart more) :
    Lexes (text ++ more) (ls ++ ms) := by
  intro rest tail hr ht
  rw [List.append_assoc, List.append_assoc]
  exact h _ _ (ha.append hr) (hm rest tail hr ht)

theorem ignored {c : Char} (hc : isIgnored c = true) (h : Lexes text ls) : Lexes (c :: text) ls :=
  fun rest tail hr ht => (h rest tail hr ht).ignored hc

theorem blank {pad : List Char} (hp : ∀ c ∈ pad, isIgnored c = true) (h : Lexes text ls) :
    Lexes (pad ++ text) ls := by
  induction pad with
  | nil => exact h
  | cons c pad ih =>
    exact (ih fun d hd => hp d (List.mem_cons_of_mem c hd)).ignored (hp c List.mem_cons_self)

theorem punctuator {c : Char} {p : Punctuator} (hp : Punctuator.ofChar? c = some p)
    (h : Lexes text ls) : Lexes (c :: text) (.punctuator p :: ls) :=
  fun rest tail hr ht => (h rest tail hr ht).punctuator hp

theorem spread (h : Lexes text ls) :
    Lexes ('.' :: '.' :: '.' :: text) (.punctuator .spread :: ls) :=
  fun rest tail hr ht => (h rest tail hr ht).spread

theorem name {s : String} (hs : Name.isValid s = true) (ha : Apart text) (h : Lexes text ls) :
    Lexes (s.toList ++ text) (.name s :: ls) := by
  intro rest tail hr ht
  rw [List.append_assoc]
  exact (h rest tail hr ht).name hs (ha.append hr)

theorem word {s : String} (hs : Name.isValid s = true) : Lexes s.toList [.name s] := by
  simpa using name hs Apart.nil nil

end Lexes

end QueryDraft.Language
