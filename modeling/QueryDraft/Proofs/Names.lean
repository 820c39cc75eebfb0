import QueryDraft.Proofs.Outcome
import QueryDraft.Schema.Envelope

namespace QueryDraft

open Outcome

namespace Name

theorem isPart_of_isStart {c : Char} (h : isStart c = true) : isPart c = true := by
  simp only [isStart, isPart, Char.isAlphanum, Bool.or_eq_true] at h ⊢
  exact h.imp_left .inl

theorem toNat_lt_of_isPart {c : Char} (h : isPart c = true) : c.toNat < 128 := by
  have hc : c.toNat = c.val.toNat := rfl
  delta isPart Char.isAlphanum Char.isAlpha Char.isUpper Char.isLower Char.isDigit at h
  simp only [Bool.or_eq_true, Bool.and_eq_true, decide_eq_true_eq, beq_iff_eq, ge_iff_le,
    UInt32.le_iff_toNat_le] at h
  obtain ((⟨-, h⟩ | ⟨-, h⟩) | ⟨-, h⟩) | rfl := h
  · exact Nat.lt_of_le_of_lt (hc ▸ h) (by decide)
  · exact Nat.lt_of_le_of_lt (hc ▸ h) (by decide)
  · exact Nat.lt_of_le_of_lt (hc ▸ h) (by decide)
  · decide

theorem forall_isPart {P : Char → Prop}
    (h : ∀ n < 128, isPart (Char.ofNat n) = true → P (Char.ofNat n)) {c : Char}
    (hc : isPart c = true) : P c := by
  have hp := h c.toNat (toNat_lt_of_isPart hc)
  rw [Char.ofNat_toNat] at hp
  exact hp hc

def isValid (name : String) : Bool :=
  match name.toList with
  | [] => false
  | c :: rest => isStart c && rest.all isPart

theorem isPart_of_isValid {name : String} (h : isValid name = true) {c : Char}
    (hc : c ∈ name.toList) : isPart c = true := by
  rw [isValid] at h
  cases hn : name.toList with
  | nil => simp [hn] at h
  | cons d rest =>
    obtain ⟨hd, hr⟩ : isStart d = true ∧ ∀ c ∈ rest, isPart c = true := by simpa [hn] using h
    obtain rfl | hc := List.mem_cons.mp (hn ▸ hc)
    · exact isPart_of_isStart hd
    · exact hr c hc

theorem isValid_of_check {name : String} (h : check name = .ok ()) : isValid name = true := by
  rw [check] at h
  rw [isValid]
  cases hn : name.toList with
  | nil => simp [hn] at h
  | cons c rest =>
    by_cases hp : rest.all isPart = true
    · by_cases hs : isStart c = true
      · simp [hs, hp]
      · simp [hn, hp, hs] at h
    · simp [hn, hp] at h

end Name

/-- A reference that can be written: its name is valid, and no non-null layer holds
another directly. -/
def TypeRef.WellNamed : TypeRef → Prop
  | .named name => Name.isValid name = true
  | .list item => item.WellNamed
  | .nonNull inner => inner.isNonNull = false ∧ inner.WellNamed

def Argument.WellNamed (a : Argument) : Prop := Name.isValid a.name = true ∧ a.type.WellNamed

def Field.WellNamed (f : Field) : Prop := Name.isValid f.name = true ∧ ∀ a ∈ f.args, a.WellNamed

def TypeDef.members : TypeDef → List String
  | .union ms => ms
  | _ => []

def TypeDef.WellNamed (d : TypeDef) : Prop :=
  (∀ f ∈ d.fields, f.WellNamed) ∧ ∀ m ∈ d.members, Name.isValid m = true

def Schema.WellNamed (s : Schema) : Prop := ∀ t ∈ s.types, t.2.WellNamed

def TypeRef.decideWellNamed : (t : TypeRef) → Decidable t.WellNamed
  | .named name => inferInstanceAs (Decidable (Name.isValid name = true))
  | .list item => item.decideWellNamed
  | .nonNull inner => @instDecidableAnd _ _ _ inner.decideWellNamed

instance : DecidablePred TypeRef.WellNamed := TypeRef.decideWellNamed

instance : DecidablePred Argument.WellNamed := fun _ => inferInstanceAs (Decidable (_ ∧ _))

instance : DecidablePred Field.WellNamed := fun _ => inferInstanceAs (Decidable (_ ∧ _))

instance : DecidablePred TypeDef.WellNamed := fun _ => inferInstanceAs (Decidable (_ ∧ _))

instance : DecidablePred Schema.WellNamed := fun s => inferInstanceAs (Decidable (∀ t ∈ s.types, _))

namespace Standard

theorem wellNamed : ∀ t ∈ always ++ optionalScalars, Name.isValid t.1 = true ∧ t.2.WellNamed := by
  decide +kernel

theorem wellNamed_of_find? {name : String} {d : TypeDef} (h : find? name = some d) :
    Name.isValid name = true ∧ d.WellNamed := by
  obtain ⟨l₁, l₂, hl, -⟩ := List.lookup_eq_some_iff.mp h
  exact wellNamed (name, d) (by rw [hl]; simp)

theorem find?_of_always {t : String × TypeDef} (h : t ∈ always) : find? t.1 = some t.2 := by
  revert t
  decide +kernel

end Standard

namespace Introspection

/-- What the listing of types promises: valid names, and standard types under their own
names only. -/
def Listed.WellNamed : Listed → Prop
  | .standard type => type.WellNamed
  | .described _ _ => True

theorem isValid_of_checkName {v : Json} {name : String} (h : checkName v = .ok name) :
    Name.isValid name = true := by
  unfold checkName at h
  split at h
  · cases h
  · split at h
    · next hc =>
      cases h
      exact Name.isValid_of_check hc
    · cases h
  · cases h

theorem described_cases {kind : Kind} {entry : Json.Members} {name : Json} {t : String × Listed}
    (h : (do
      checkReserved name
      let s ← checkName name
      .ok (s, Listed.described kind entry)) = .ok t) :
    Name.isValid t.1 = true ∧ t.2 = .described kind entry := by
  obtain ⟨_, -, h⟩ := bind_eq_ok.mp h
  obtain ⟨s, hs, h⟩ := bind_eq_ok.mp h
  cases h
  exact ⟨isValid_of_checkName hs, rfl⟩

theorem listed_cases {v : Json} {t : String × Listed} (h : listed v = .ok t) :
    (∃ type, Standard.find? t.1 = some type ∧ t.2 = .standard type) ∨
      (Name.isValid t.1 = true ∧ ∃ kind entry, t.2 = .described kind entry) := by
  rw [listed] at h
  obtain ⟨name, -, h⟩ := bind_eq_ok.mp h
  obtain ⟨entry, -, h⟩ := bind_eq_ok.mp h
  obtain ⟨kind, -, h⟩ := bind_eq_ok.mp h
  obtain ⟨_, -, h⟩ := bind_eq_ok.mp h
  obtain ⟨_, -, h⟩ := bind_eq_ok.mp h
  split at h
  · cases h
    exact .inl ⟨_, ‹standard? (.str _) = some _›, rfl⟩
  · dsimp only at h
    split at h
    · obtain ⟨_, -, h⟩ := bind_eq_ok.mp h
      obtain ⟨hv, hd⟩ := described_cases h
      exact .inr ⟨hv, kind, entry, hd⟩
    · obtain ⟨hv, hd⟩ := described_cases h
      exact .inr ⟨hv, kind, entry, hd⟩

theorem listed_wellNamed {v : Json} {t : String × Listed} (h : listed v = .ok t) :
    Name.isValid t.1 = true ∧ t.2.WellNamed := by
  obtain ⟨type, hf, ht⟩ | ⟨hv, kind, entry, ht⟩ := listed_cases h
  · obtain ⟨hv, hw⟩ := Standard.wellNamed_of_find? hf
    exact ⟨hv, by rwa [ht]⟩
  · exact ⟨hv, by rw [ht]; trivial⟩

def Listing.WellNamed (l : Listing) : Prop := ∀ t ∈ l, Name.isValid t.1 = true ∧ t.2.WellNamed

theorem mem_listing {description : Json.Members} {l : Listing} (h : listing description = .ok l) :
    ∀ t ∈ l, ∃ v, listed v = .ok t := by
  rw [listing] at h
  obtain ⟨_, -, h⟩ := bind_eq_ok.mp h
  obtain ⟨entries, -, h⟩ := bind_eq_ok.mp h
  obtain ⟨named, hn, h⟩ := bind_eq_ok.mp h
  cases h
  intro t ht
  obtain ⟨v, -, hv⟩ := mem_of_mapM hn t (Keyed.mem_ofList ht)
  exact ⟨v, hv⟩

theorem listing_wellNamed {description : Json.Members} {l : Listing}
    (h : listing description = .ok l) : l.WellNamed := by
  intro t ht
  obtain ⟨v, hv⟩ := mem_listing h t ht
  exact listed_wellNamed hv

theorem known_wellNamed {l : Listing} (hl : l.WellNamed) {name : String} {t : TypeRef}
    (h : known l name = .ok t) : t.WellNamed := by
  rw [known] at h
  split at h
  · next type hk =>
    cases h
    obtain ⟨l₁, l₂, he, -⟩ := List.lookup_eq_some_iff.mp hk
    exact (hl (name, type) (by rw [he]; simp)).1
  · cases h

theorem named_wellNamed {l : Listing} (hl : l.WellNamed) {ref : Json.Members} {t : TypeRef}
    (h : named l ref = .ok t) : t.WellNamed := by
  unfold named at h
  dsimp only at h
  split at h
  · cases h
  · split at h
    · exact known_wellNamed hl h
    all_goals cases h

theorem nonNull_wellNamed {t u : TypeRef} (ht : t.WellNamed) (h : nonNull t = .ok u) :
    u.WellNamed := by
  rw [nonNull] at h
  split at h
  · cases h
  · next hn =>
    cases h
    exact ⟨by simpa using hn, ht⟩

mutual

theorem reference_wellNamed {l : Listing} (hl : l.WellNamed) {v : Json} {t : TypeRef}
    (h : reference l v = .ok t) : t.WellNamed := by
  cases v with
  | obj ms =>
    rw [reference] at h
    split at h
    · obtain ⟨item, hi, he⟩ := map_eq_ok.mp h
      subst he
      have hw : item.WellNamed := inner_wellNamed hl hi
      exact hw
    · split at h
      · obtain ⟨item, hi, h⟩ := bind_eq_ok.mp h
        exact nonNull_wellNamed (inner_wellNamed hl hi) h
      · exact named_wellNamed hl h
  | _ => simp [reference] at h

theorem inner_wellNamed {l : Listing} (hl : l.WellNamed) {ms : List (String × Json)} {t : TypeRef}
    (h : inner l ms = .ok t) : t.WellNamed := by
  cases ms with
  | nil => simp [inner] at h
  | cons m rest =>
    obtain ⟨key, v⟩ := m
    rw [inner] at h
    split at h
    · split at h
      · exact reference_wellNamed hl h
      · cases h
    · exact inner_wellNamed hl h

end

theorem objectName_isValid {l : Listing} (hl : l.WellNamed) {ref : Json} {name : String}
    (h : objectName l ref = .ok name) : Name.isValid name = true := by
  obtain ⟨t, ht, h⟩ := bind_eq_ok.mp h
  split at h
  · next hk =>
    cases h
    cases t with
    | named name => exact reference_wellNamed hl ht
    | list item | nonNull inner => simp [hasKind] at hk
  · cases h

theorem mem_checkNames {α : Type} {xs : Unchecked α} {ys : List (String × α)}
    (h : checkNames xs = .ok ys) : ∀ y ∈ ys, Name.isValid y.1 = true ∧ ∃ x ∈ xs, x.2 = y.2 := by
  intro y hy
  obtain ⟨x, hx, h⟩ := mem_of_mapM h y hy
  obtain ⟨name, hn, h⟩ := bind_eq_ok.mp h
  cases h
  exact ⟨isValid_of_checkName hn, x, hx, rfl⟩

theorem inputValue_wellNamed {l : Listing} (hl : l.WellNamed) {role : InputRole} {v : Json}
    {x : Json × TypeRef} (h : inputValue l role v = .ok x) : x.2.WellNamed := by
  rw [inputValue] at h
  obtain ⟨name, -, h⟩ := bind_eq_ok.mp h
  obtain ⟨ref, -, h⟩ := bind_eq_ok.mp h
  obtain ⟨t, ht, h⟩ := bind_eq_ok.mp h
  have h := eq_ok_of_guard h
  obtain ⟨_, -, h⟩ := bind_eq_ok.mp h
  obtain ⟨_, -, h⟩ := bind_eq_ok.mp h
  obtain ⟨_, -, h⟩ := bind_eq_ok.mp h
  cases h
  exact reference_wellNamed hl ht

theorem arguments_wellNamed {l : Listing} (hl : l.WellNamed) {v : Json} {args : List Argument}
    (h : arguments l v = .ok args) : ∀ a ∈ args, a.WellNamed := by
  rw [arguments] at h
  obtain ⟨unchecked, hu, h⟩ := bind_eq_ok.mp h
  obtain ⟨named, hn, h⟩ := bind_eq_ok.mp h
  cases h
  intro a ha
  obtain ⟨x, hx, rfl⟩ := List.mem_map.mp ha
  obtain ⟨hv, y, hy, he⟩ := mem_checkNames hn x (Keyed.mem_ofList hx)
  obtain ⟨vs, -, hu⟩ := bind_eq_ok.mp hu
  obtain ⟨w, -, hw⟩ := mem_of_mapM hu y hy
  exact ⟨hv, he ▸ inputValue_wellNamed hl hw⟩

theorem field_wellNamed {l : Listing} (hl : l.WellNamed) {v : Json} {x : Json × (String → Field)}
    (h : field l v = .ok x) (name : String) (hn : Name.isValid name = true) :
    (x.2 name).WellNamed := by
  rw [field] at h
  obtain ⟨_, -, h⟩ := bind_eq_ok.mp h
  obtain ⟨_, -, h⟩ := bind_eq_ok.mp h
  obtain ⟨t, -, h⟩ := bind_eq_ok.mp h
  have h := eq_ok_of_guard h
  obtain ⟨_, -, h⟩ := bind_eq_ok.mp h
  obtain ⟨_, -, h⟩ := bind_eq_ok.mp h
  obtain ⟨args, ha, h⟩ := bind_eq_ok.mp h
  obtain ⟨_, -, h⟩ := bind_eq_ok.mp h
  cases h
  exact ⟨hn, arguments_wellNamed hl ha⟩

theorem eq_ok_of_within {α : Type} {owner : String} {side : Side} {x : Read α} {a : α}
    (h : within owner side x = .ok a) : x = .ok a := by
  cases x with
  | ok b => exact h
  | error cause => cases h

theorem fields_wellNamed {l : Listing} (hl : l.WellNamed) {owner : String} {kind : Kind}
    {entry : Json.Members} {fs : List Field} (h : fields l owner kind entry = .ok fs) :
    ∀ f ∈ fs, f.WellNamed := by
  rw [fields] at h
  obtain ⟨_, -, h⟩ := bind_eq_ok.mp h
  obtain ⟨unchecked, hu, h⟩ := bind_eq_ok.mp h
  obtain ⟨named, hn, h⟩ := bind_eq_ok.mp h
  cases h
  have hu := eq_ok_of_within hu
  rw [fieldList] at hu
  intro f hf
  obtain ⟨x, hx, rfl⟩ := List.mem_map.mp hf
  obtain ⟨hv, y, hy, he⟩ := mem_checkNames hn x (Keyed.mem_ofList hx)
  split at hu
  · cases hu
  · obtain ⟨vs, -, hu⟩ := bind_eq_ok.mp hu
    obtain ⟨w, -, hw⟩ := mem_of_mapM hu y hy
    exact he ▸ field_wellNamed hl hw x.1 hv

theorem unionMembers_isValid {l : Listing} (hl : l.WellNamed) {entry : Json.Members}
    {ms : List String} (h : unionMembers l entry = .ok ms) : ∀ m ∈ ms, Name.isValid m = true := by
  obtain ⟨vs, -, h⟩ := bind_eq_ok.mp h
  intro m hm
  obtain ⟨v, -, hv⟩ := mem_of_mapM h m hm
  exact objectName_isValid hl hv

theorem definition_wellNamed {l : Listing} (hl : l.WellNamed) {name : String} {x : Listed}
    {d : TypeDef} (hx : x.WellNamed) (h : definition l name x = .ok d) : d.WellNamed := by
  cases x with
  | standard type =>
    cases h
    exact hx
  | described kind entry =>
    cases kind with
    | scalar | enum =>
      cases h
      exact ⟨by simp [TypeDef.fields], by simp [TypeDef.members]⟩
    | object | interface =>
      obtain ⟨fs, hf, rfl⟩ := map_eq_ok.mp h
      exact ⟨fields_wellNamed hl hf, by simp [TypeDef.members]⟩
    | union =>
      obtain ⟨ms, hm, rfl⟩ := map_eq_ok.mp h
      exact ⟨by simp [TypeDef.fields], unionMembers_isValid hl (eq_ok_of_within hm)⟩
    | inputObject =>
      obtain ⟨_, -, h⟩ := bind_eq_ok.mp h
      obtain ⟨_, -, h⟩ := bind_eq_ok.mp h
      cases h
      exact ⟨by simp [TypeDef.fields], by simp [TypeDef.members]⟩

/-- What holds of the standard types and of all that descriptions come to holds of every type
of a schema. -/
theorem schema_forall {P : TypeDef → Prop} (standard : ∀ name d, Standard.find? name = some d → P d)
    (described : ∀ (l : Listing), l.WellNamed → ∀ name kind entry d,
      definition l name (.described kind entry) = .ok d → P d)
    {data : Json.Members} {s : Schema} (h : schema data = .ok s) : ∀ t ∈ s.types, P t.2 := by
  rw [schema] at h
  split at h
  · obtain ⟨l, hl, h⟩ := bind_eq_ok.mp h
    obtain ⟨_, -, h⟩ := bind_eq_ok.mp h
    obtain ⟨_, -, h⟩ := bind_eq_ok.mp h
    obtain ⟨_, -, h⟩ := bind_eq_ok.mp h
    obtain ⟨_, -, h⟩ := bind_eq_ok.mp h
    obtain ⟨types, ht, h⟩ := bind_eq_ok.mp h
    cases h
    intro t hm
    obtain hm | hm := List.mem_append.mp hm
    · obtain ⟨x, hx, hf⟩ := mem_of_mapM ht t hm
      obtain ⟨d, hd, he⟩ := bind_eq_ok.mp hf
      cases he
      obtain ⟨v, hv⟩ := mem_listing hl x hx
      obtain ⟨type, hs, hx⟩ | ⟨-, kind, entry, hx⟩ := listed_cases hv
      · rw [hx] at hd
        cases hd
        exact standard x.1 _ hs
      · rw [hx] at hd
        exact described l (listing_wellNamed hl) x.1 kind entry d hd
    · exact standard t.1 t.2 (Standard.find?_of_always (List.mem_filter.mp hm).1)
  · cases h

theorem schema_wellNamed {data : Json.Members} {s : Schema} (h : schema data = .ok s) :
    s.WellNamed := by
  refine schema_forall (P := TypeDef.WellNamed) ?standard ?described h
  case standard =>
    intro name d hd
    exact (Standard.wellNamed_of_find? hd).2
  case described =>
    intro l hl name kind entry d hd
    have hx : (Listed.described kind entry).WellNamed := trivial
    exact definition_wellNamed hl hx hd

end Introspection

namespace Schema

theorem ofData_described {data : Json.Members} {s : Schema} (h : ofData data = .ok s) :
    Introspection.schema data = .ok s := by
  rw [ofData] at h
  split at h
  · split at h
    · next hs =>
      cases h
      exact hs
    all_goals cases h
  · cases h

theorem ofPayload_described {payload : Json} {s : Schema} (h : ofPayload payload = .ok s) :
    ∃ data, Introspection.schema data = .ok s := by
  obtain ⟨e, -, h⟩ := bind_eq_ok.mp h
  rw [ofEnvelope] at h
  split at h
  · exact ⟨_, ofData_described h⟩
  · obtain ⟨_, -, h⟩ := bind_eq_ok.mp h
    cases h

/-- What the rest of the library relies on when it writes the names of a schema down. -/
theorem wellNamed_ofPayload {payload : Json} {s : Schema} (h : ofPayload payload = .ok s) :
    s.WellNamed := by
  obtain ⟨data, h⟩ := ofPayload_described h
  exact Introspection.schema_wellNamed h

end Schema

namespace Sample

def named (name : String) : Json := .obj [("kind", .str "OBJECT"), ("name", .str name)]

def nonNull (ref : Json) : Json := .obj [("kind", .str "NON_NULL"), ("ofType", ref)]

def list (ref : Json) : Json := .obj [("kind", .str "LIST"), ("ofType", ref)]

def argument (name : String) (type : Json) : Json := .obj [("name", .str name), ("type", type)]

def field (name : String) (type : Json) (args : List Json) : Json :=
  .obj [("name", .str name), ("type", type), ("args", .arr args)]

def object (name : String) (fields : List Json) : Json :=
  .obj [("kind", .str "OBJECT"), ("name", .str name), ("interfaces", .arr []),
    ("fields", .arr fields)]

def scalar (name : String) : Json := .obj [("kind", .str "SCALAR"), ("name", .str name)]

def union (name : String) (members : List Json) : Json :=
  .obj [("kind", .str "UNION"), ("name", .str name), ("possibleTypes", .arr members)]

def answer : Json := .obj [("__schema", .obj [
  ("queryType", named "Query"),
  ("mutationType", named "Mutation"),
  ("types", .arr [scalar "String", scalar "Boolean",
    object "Query"
      [field "person" (named "Person") [argument "true" (list (nonNull (named "String")))],
        field "search" (list (named "Found")) []],
    object "Mutation" [field "on" (named "Boolean") []],
    object "Person" [field "query" (named "String") [], field "friend" (named "Person") [],
      field "group" (named "on") []],
    object "on" [field "members" (list (named "Person")) [],
      field "null" (nonNull (named "String")) []],
    union "Found" [named "Person", named "on", named "Person"]])])]

def schema : Schema := ⟨Introspection.complete [("String", .scalar), ("Boolean", .scalar),
  ("Query", .object
    [⟨"person", .named "Person", [⟨"true", .list (.nonNull (.named "String"))⟩], false⟩,
      ⟨"search", .list (.named "Found"), [], false⟩]),
  ("Mutation", .object [⟨"on", .named "Boolean", [], false⟩]),
  ("Person", .object [⟨"query", .named "String", [], false⟩, ⟨"friend", .named "Person", [], false⟩,
    ⟨"group", .named "on", [], false⟩]),
  ("on", .object [⟨"members", .list (.named "Person"), [], false⟩,
    ⟨"null", .nonNull (.named "String"), [], false⟩]),
  ("Found", .union ["Person", "on", "Person"])], some "Query", some "Mutation"⟩

theorem ofPayload_answer : Schema.ofPayload answer = .ok schema := by rfl

end Sample

end QueryDraft
