import QueryDraft.Proofs.Outcome
import QueryDraft.Proofs.Sessions

namespace QueryDraft

/-- Names that HTTP does not tell apart. -/
def sameName (a b : String) : Bool := Address.lower a.toList == Address.lower b.toList

def valuesOf (same : String → Bool) (hs : List (String × String)) : List String :=
  (hs.filter fun h => same h.1).map (·.2)

def SpelledAlike (hs : List (String × String)) : Prop :=
  ∀ h ∈ hs, ∀ h' ∈ hs, sameName h.1 h'.1 = true → h.1 = h'.1

/-- For each name the first value, and no other. -/
def Prefers (same : String → String → Bool) (sources sent : List (String × String)) : Prop :=
  ∀ name, valuesOf (same name) sent = (valuesOf (same name) sources).head?.toList

theorem sameName_refl (a : String) : sameName a a = true := by
  simp [sameName]

theorem sameName_left {a b c : String} (hb : sameName a b = true) (hc : sameName a c = true) :
    sameName b c = true := by
  rw [sameName, beq_iff_eq] at hb hc ⊢
  exact hb.symm.trans hc

theorem valuesOf_congr {same same' : String → Bool} {hs : List (String × String)}
    (h : ∀ x ∈ hs, same x.1 = same' x.1) : valuesOf same hs = valuesOf same' hs := by
  rw [valuesOf, valuesOf, List.filter_congr h]

theorem valuesOf_eq_nil {same : String → Bool} {hs : List (String × String)} :
    valuesOf same hs = [] ↔ ∀ x ∈ hs, same x.1 = false := by
  simp [valuesOf, List.filter_eq_nil_iff]

theorem exists_named {name : String} {hs : List (String × String)} :
    (∃ x ∈ hs, x.1 = name) ↔ valuesOf (name == ·) hs ≠ [] := by
  rw [ne_eq, valuesOf_eq_nil]
  constructor
  · rintro ⟨x, hx, rfl⟩ hn
    simpa using hn x hx
  · intro hn
    by_cases he : ∃ x ∈ hs, x.1 = name
    · exact he
    · refine absurd (fun x hx => ?_) hn
      rw [beq_eq_false_iff_ne]
      exact fun hs => he ⟨x, hx, hs.symm⟩

theorem eq_of_length_le_one {α : Type} {xs : List α} (h : xs.length ≤ 1) {a b : α} (ha : a ∈ xs)
    (hb : b ∈ xs) : a = b := by
  match xs, h with
  | [x], _ => rw [List.mem_singleton.mp ha, List.mem_singleton.mp hb]

namespace Prefers

variable {sources sent : List (String × String)}

theorem named_iff (h : Prefers (· == ·) sources sent) (name : String) :
    (∃ x ∈ sent, x.1 = name) ↔ ∃ x ∈ sources, x.1 = name := by
  rw [exists_named, exists_named, h name]
  cases valuesOf (name == ·) sources with
  | nil => simp
  | cons v vs => simp

theorem length_le_one {same : String → String → Bool} (h : Prefers same sources sent)
    (name : String) : (sent.filter fun x => same name x.1).length ≤ 1 := by
  have hl := congrArg List.length (h name)
  rw [valuesOf, List.length_map] at hl
  rw [hl]
  cases (valuesOf (same name) sources).head? with
  | none => exact Nat.zero_le 1
  | some v => exact Nat.le_refl 1

theorem spelledAlike (h : Prefers (· == ·) sources sent) (hs : Prefers sameName sources sent) :
    SpelledAlike sources := by
  intro x hx x' hx' he
  obtain ⟨y, hy, hn⟩ := (h.named_iff x.1).mpr ⟨x, hx, rfl⟩
  obtain ⟨y', hy', hn'⟩ := (h.named_iff x'.1).mpr ⟨x', hx', rfl⟩
  have hm : y ∈ sent.filter fun z => sameName x.1 z.1 := by simp [hy, hn, sameName_refl]
  have hm' : y' ∈ sent.filter fun z => sameName x.1 z.1 := by simp [hy', hn', he]
  rw [← hn, ← hn', eq_of_length_le_one (hs.length_le_one x.1) hm hm']

theorem forall_named (h : Prefers (· == ·) sources sent) {P : String → Prop}
    (hp : ∀ x ∈ sources, P x.1) : ∀ x ∈ sent, P x.1 := by
  intro x hx
  obtain ⟨y, hy, hn⟩ := (h.named_iff x.1).mp ⟨x, hx, rfl⟩
  rw [← hn]
  exact hp y hy

theorem of_spelledAlike (h : Prefers (· == ·) sources sent) (hs : SpelledAlike sources) :
    Prefers sameName sources sent := by
  intro name
  by_cases hn : ∃ x ∈ sources, sameName name x.1 = true
  · -- The one spelling that there is stands for the name.
    obtain ⟨x, hx, he⟩ := hn
    have hone : ∀ y ∈ sources, sameName name y.1 = (x.1 == y.1) := by
      intro y hy
      rw [Bool.eq_iff_iff, beq_iff_eq]
      constructor
      · exact fun hy' => hs x hx y hy (sameName_left he hy')
      · exact fun hxy => hxy ▸ he
    have hsent := h.forall_named (P := fun y => sameName name y = (x.1 == y)) hone
    rw [valuesOf_congr hsent, valuesOf_congr hone]
    exact h x.1
  · have hnone : ∀ y ∈ sources, sameName name y.1 = false := by simpa using hn
    have hsent := h.forall_named (P := fun y => sameName name y = false) hnone
    rw [valuesOf_eq_nil.mpr hsent, valuesOf_eq_nil.mpr hnone]
    rfl

/-- What counts for each spelling counts for each name as well if the names are spelled alike,
and only then. -/
theorem sameName_iff (h : Prefers (· == ·) sources sent) :
    Prefers sameName sources sent ↔ SpelledAlike sources :=
  ⟨h.spelledAlike, h.of_spelledAlike⟩

end Prefers

def bearer : Option String → List (String × String)
  | none => []
  | some token => if token = "" then [] else [("Authorization", "Bearer " ++ token)]

/-- The headers that are asked for, in order of precedence: those of the option texts, the last
first, then the token, then the kind of the body. -/
def requested (token : Option String) (texts : List String) : List (String × String) :=
  texts.reverse.filterMap (fun text => (header text).toOption) ++ bearer token ++
    [("Content-Type", "application/json")]

/-- A user that an address names takes the place of all credentials. -/
def requestedAt (a : Address) (hs : List (String × String)) : List (String × String) :=
  match a.credentials? with
  | none => hs
  | some text => (Endpoint.authorization, text) :: hs.filter fun h => !Endpoint.isAuthorization h

theorem valuesOf_cons (same : String → Bool) (x : String × String) (hs : List (String × String)) :
    valuesOf same (x :: hs) = if same x.1 then x.2 :: valuesOf same hs else valuesOf same hs := by
  simp only [valuesOf, List.filter_cons]
  split
  · rfl
  · rfl

theorem valuesOf_head (name : String) (hs : List (String × String)) :
    (valuesOf (name == ·) hs).head? = hs.lookup name := by
  induction hs with
  | nil => rfl
  | cons x rest ih =>
    rw [Keyed.lookup_cons, valuesOf_cons]
    by_cases h : name = x.1
    · simp [h]
    · simpa [h] using ih

theorem valuesOf_nodup (name : String) {hs : List (String × String)} (h : (hs.map Prod.fst).Nodup) :
    valuesOf (name == ·) hs = (hs.lookup name).toList := by
  induction hs with
  | nil => rfl
  | cons x rest ih =>
    obtain ⟨hx, hr⟩ := List.nodup_cons.mp h
    rw [Keyed.lookup_cons, valuesOf_cons, ih hr]
    by_cases he : name = x.1
    · simp [he, Keyed.lookup_eq_none hx]
    · simp [he]

theorem headers_eq_ofList {texts : List String} {extra : Keyed String}
    (h : headers texts = .ok extra) :
    extra = Keyed.ofList (texts.filterMap fun text => (header text).toOption) := by
  obtain ⟨parsed, hp, rfl⟩ := Outcome.map_eq_ok.mp h
  rw [Outcome.filterMap_of_mapM hp]

theorem lookup_credentials (token : Option String) (base : Keyed String) (name : String) :
    List.lookup name (Keyed.update base (Credentials.ofToken token).headers) =
      (List.lookup name (bearer token)).or (List.lookup name base) := by
  rw [Keyed.lookup_update]
  cases token with
  | none => rfl
  | some t =>
    by_cases ht : t = ""
    · simp [Credentials.ofToken, Credentials.headers, bearer, ht]
    · simp [Credentials.ofToken, Credentials.headers, bearer, ht]

theorem lookup_requestHeaders {texts : List String} {extra : Keyed String}
    (h : headers texts = .ok extra) (token : Option String) (address name : String) :
    List.lookup name (Endpoint.mk address (.ofToken token) extra).requestHeaders =
      List.lookup name (requested token texts) := by
  have hn : (extra.map Prod.fst).Nodup := by
    rw [headers_eq_ofList h]
    exact Keyed.nodup_keys_ofList _
  have hx : List.lookup name extra =
      List.lookup name (texts.reverse.filterMap fun text => (header text).toOption) := by
    rw [headers_eq_ofList h, Keyed.ofList, Keyed.lookup_update, List.lookup_nil, Option.or_none,
      List.filterMap_reverse]
  rw [Endpoint.requestHeaders, Keyed.lookup_update, Keyed.lookup_reverse hn, hx, lookup_credentials,
    requested, List.lookup_append, List.lookup_append, Option.or_assoc]

theorem nodup_requestHeaders (e : Endpoint) : (e.requestHeaders.map Prod.fst).Nodup := by
  have hb : ([("Content-Type", "application/json")].map Prod.fst).Nodup := by simp
  exact Keyed.nodup_keys_update (Keyed.nodup_keys_update hb _) _

theorem requestHeaders_prefers {texts : List String} {extra : Keyed String}
    (h : headers texts = .ok extra) (token : Option String) (address : String) :
    Prefers (· == ·) (requested token texts)
      (Endpoint.mk address (.ofToken token) extra).requestHeaders := by
  intro name
  rw [valuesOf_head, valuesOf_nodup name (nodup_requestHeaders _), lookup_requestHeaders h]

theorem replaceFirst_eq {α : Type} (isOld : α → Bool) (new : α) (xs : List α) :
    ∃ before after, replaceFirst isOld new xs = before ++ new :: after ∧
      before ++ after = xs.filter fun x => !isOld x := by
  induction xs with
  | nil => exact ⟨[], [], rfl, rfl⟩
  | cons x rest ih =>
    by_cases hx : isOld x = true
    · exact ⟨[], rest.filter fun x => !isOld x, by simp [replaceFirst, hx], by simp [hx]⟩
    · obtain ⟨before, after, hr, hf⟩ := ih
      have hc : replaceFirst isOld new (x :: rest) = x :: replaceFirst isOld new rest := by
        have hx : (!isOld x) = true := by simpa using hx
        have hd : (x :: rest).dropWhile (fun y => !isOld y) = rest.dropWhile fun y => !isOld y :=
          List.dropWhile_cons_of_pos hx
        have ht : (x :: rest).takeWhile (fun y => !isOld y) =
            x :: rest.takeWhile fun y => !isOld y :=
          List.takeWhile_cons_of_pos hx
        rw [replaceFirst, replaceFirst, hd, ht]
        cases rest.dropWhile fun y => !isOld y with
        | nil => rfl
        | cons y ys => rfl
      refine ⟨x :: before, after, ?_, ?_⟩
      · rw [hc, hr, List.cons_append]
      · simp [hx, hf]

theorem valuesOf_append (same : String → Bool) (hs hs' : List (String × String)) :
    valuesOf same (hs ++ hs') = valuesOf same hs ++ valuesOf same hs' := by
  rw [valuesOf, valuesOf, valuesOf, List.filter_append, List.map_append]

theorem valuesOf_filter (name : String) (hs : List (String × String)) :
    valuesOf (name == ·) (hs.filter fun h => !Endpoint.isAuthorization h) =
      if sameName name Endpoint.authorization then [] else valuesOf (name == ·) hs := by
  rw [valuesOf, List.filter_filter]
  split
  · next hs =>
    rw [List.map_eq_nil_iff, List.filter_eq_nil_iff]
    intro x _ hx
    simp only [Bool.and_eq_true, beq_iff_eq, Bool.not_eq_true'] at hx
    obtain ⟨rfl, hx⟩ := hx
    exact Bool.false_ne_true (hx.symm.trans hs)
  · next hs =>
    refine congrArg (List.map Prod.snd) (List.filter_congr fun x _ => ?_)
    by_cases hn : name = x.1
    · subst hn
      have hx : Endpoint.isAuthorization x = false := Bool.eq_false_iff.mpr hs
      simp [hx]
    · simp [hn]

theorem requestTo_prefers {e : Endpoint} {sources : List (String × String)}
    (h : Prefers (· == ·) sources e.requestHeaders) (a : Address) :
    Prefers (· == ·) (requestedAt a sources) (e.requestTo a).headers := by
  intro name
  rw [Endpoint.requestTo, requestedAt]
  cases a.credentials? with
  | none => exact h name
  | some text =>
    obtain ⟨before, after, hr, hf⟩ :=
      replaceFirst_eq Endpoint.isAuthorization (Endpoint.authorization, text) e.requestHeaders
    have hv : valuesOf (name == ·) before ++ valuesOf (name == ·) after =
        if sameName name Endpoint.authorization then []
        else valuesOf (name == ·) e.requestHeaders := by
      rw [← valuesOf_append, hf, valuesOf_filter]
    simp only [hr, valuesOf_append, valuesOf_cons, valuesOf_filter]
    by_cases hn : name = Endpoint.authorization
    · rw [hn, sameName_refl, if_pos rfl] at hv
      obtain ⟨hb, ha⟩ := List.append_eq_nil_iff.mp hv
      simp [hn, hb, ha]
    · have hn : (name == Endpoint.authorization) = false := beq_eq_false_iff_ne.mpr hn
      rw [hn, if_neg (by simp), if_neg (by simp), hv]
      split
      · rfl
      · exact h name

def Ascii (text : String) : Prop := ∀ c ∈ text.toList, c.toNat < 0x80

instance (text : String) : Decidable (Ascii text) :=
  List.decidableBAll (fun c : Char => c.toNat < 0x80) text.toList

theorem ascii_append {a b : String} (ha : Ascii a) (hb : Ascii b) : Ascii (a ++ b) := by
  intro c hc
  rw [String.toList_append] at hc
  obtain hc | hc := List.mem_append.mp hc
  · exact ha c hc
  · exact hb c hc

theorem trim_subset (cs : List Char) : Text.trim cs ⊆ cs := by
  intro c hc
  rw [Text.trim, List.mem_reverse] at hc
  have hc := (List.dropWhile_sublist _).subset hc
  rw [List.mem_reverse] at hc
  exact (List.dropWhile_sublist _).subset hc

theorem header_ascii {text : String} (ht : Ascii text) {x : String × String}
    (h : header text = .ok x) : Ascii x.1 ∧ Ascii x.2 := by
  simp only [header] at h
  split at h
  · cases h
  · next colon value hd =>
    split at h
    · cases h
    · cases h
      have hv : value ⊆ text.toList := by
        intro c hc
        have hm : c ∈ text.toList.dropWhile (· != ':') := hd ▸ List.mem_cons_of_mem colon hc
        exact (List.dropWhile_sublist _).subset hm
      refine ⟨fun c hc => ?_, fun c hc => ?_⟩
      · rw [String.toList_ofList] at hc
        exact ht c ((List.takeWhile_sublist _).subset (trim_subset _ hc))
      · rw [String.toList_ofList] at hc
        exact ht c (hv (trim_subset _ hc))

theorem canConnect_ascii {texts : List String} {extra : Keyed String}
    (h : headers texts = .ok extra) (ht : ∀ text ∈ texts, Ascii text) {token : Option String}
    (hk : ∀ t ∈ token, Ascii t) (address : String) :
    (Endpoint.mk address (.ofToken token) extra).canConnect = true := by
  have hall : ∀ x ∈ (Endpoint.mk address (.ofToken token) extra).requestHeaders,
      Ascii x.1 ∧ Ascii x.2 := by
    intro x hx
    obtain hx | hx := Keyed.mem_update hx
    · obtain hx | hx := Keyed.mem_update hx
      · obtain rfl := List.mem_singleton.mp hx
        exact ⟨by decide, by decide⟩
      · cases token with
        | none => exact absurd hx List.not_mem_nil
        | some t =>
          simp only [Credentials.ofToken] at hx
          split at hx
          · exact absurd hx List.not_mem_nil
          · obtain rfl := List.mem_singleton.mp hx
            have hn : Ascii Endpoint.authorization := by decide
            exact ⟨hn, ascii_append (by decide) (hk t rfl)⟩
    · obtain ⟨parsed, hp, rfl⟩ := Outcome.map_eq_ok.mp h
      obtain ⟨text, hm, hx⟩ := Outcome.mem_of_mapM hp x (Keyed.mem_ofList hx)
      exact header_ascii (ht text hm) hx
  simpa [Endpoint.canConnect, Ascii] using hall

/-- The headers of a request: the first of each spelling in order of precedence, which is the first
of each name if no name is spelled in two ways. -/
structure Preferred (token : Option String) (texts : List String) (a : Address)
    (r : Request) : Prop where
  spelled : Prefers (· == ·) (requestedAt a (requested token texts)) r.headers
  named : Prefers sameName (requestedAt a (requested token texts)) r.headers ↔
    SpelledAlike (requestedAt a (requested token texts))

theorem headers_preferred {texts : List String} {extra : Keyed String}
    (h : headers texts = .ok extra) (ht : ∀ text ∈ texts, Ascii text) {token : Option String}
    (hk : ∀ t ∈ token, Ascii t) {address : String} {a : Address}
    (ha : Address.ofText address = .ok a) (replies : List Reply) :
    ∃ r, ((Endpoint.mk address (.ofToken token) extra).fetchSchema replies).2.requests = [r] ∧
      r.address = a.target ∧ Preferred token texts a r := by
  have hp := requestTo_prefers (requestHeaders_prefers h token address) a
  refine ⟨_, ?_, rfl, hp, hp.sameName_iff⟩
  rw [Endpoint.fetchSchema_eq (canConnect_ascii h ht hk address) ha, Session.requests_close,
    Session.requests_post]
  rfl

theorem headers_preferred_twice :
    headers ["X-Tenant: a", "X-Tenant: b:c", "Authorization: Basic y"] =
        .ok [("X-Tenant", "b:c"), ("Authorization", "Basic y")] ∧
      (∀ text ∈ ["X-Tenant: a", "X-Tenant: b:c", "Authorization: Basic y"], Ascii text) ∧
      (∀ t ∈ some "t", Ascii t) ∧ Address.ofText "http://api/" = .ok Sample.address ∧
      ∃ r, ((Endpoint.mk "http://api/" (.ofToken (some "t"))
          [("X-Tenant", "b:c"), ("Authorization", "Basic y")]).fetchSchema []).2.requests = [r] ∧
        r.address = Sample.address.target ∧
        Preferred (some "t") ["X-Tenant: a", "X-Tenant: b:c", "Authorization: Basic y"]
          Sample.address r := by
  have hh : headers ["X-Tenant: a", "X-Tenant: b:c", "Authorization: Basic y"] =
      .ok [("X-Tenant", "b:c"), ("Authorization", "Basic y")] := by rfl
  have ht : ∀ text ∈ ["X-Tenant: a", "X-Tenant: b:c", "Authorization: Basic y"], Ascii text := by
    decide
  have hk : ∀ t ∈ some "t", Ascii t := by decide
  exact ⟨hh, ht, hk, Sample.ofText_address, headers_preferred hh ht hk Sample.ofText_address []⟩

/-- Another spelling of a name replaces nothing: both credentials are sent. -/
theorem credentials_sent_twice :
    headers ["authorization: Basic x"] = .ok [("authorization", "Basic x")] ∧
      ∃ r, ((Endpoint.mk "http://api/" (.ofToken (some "t"))
          [("authorization", "Basic x")]).fetchSchema []).2.requests = [r] ∧
        valuesOf (sameName "Authorization") r.headers = ["Bearer t", "Basic x"] ∧
        (valuesOf (sameName "Authorization")
          (requested (some "t") ["authorization: Basic x"])).head? = some "Basic x" :=
  ⟨rfl, _, rfl, rfl, rfl⟩

end QueryDraft
