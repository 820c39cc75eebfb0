import Mathlib.Data.List.Nodup
import Mathlib.Data.Prod.Basic
import QueryDraft.Proofs.RoundTrip

namespace QueryDraft

open Outcome

def TypeDef.FieldsOnce (d : TypeDef) : Prop := (d.fields.map Field.name).Nodup

def Schema.FieldsOnce (s : Schema) : Prop := ∀ t ∈ s.types, t.2.FieldsOnce

instance : DecidablePred TypeDef.FieldsOnce :=
  fun d => inferInstanceAs (Decidable (d.fields.map Field.name).Nodup)

theorem Standard.fieldsOnce_of_find? {name : String} {d : TypeDef} (h : find? name = some d) :
    d.FieldsOnce := by
  have ha : ∀ t ∈ always ++ optionalScalars, t.2.FieldsOnce := by decide +kernel
  obtain ⟨before, after, hl, -⟩ := List.lookup_eq_some_iff.mp h
  exact ha (name, d) (by rw [hl]; simp)

namespace Introspection

theorem field_name {l : Listing} {v : Json} {x : Json × (String → Field)} (h : field l v = .ok x)
    (name : String) : (x.2 name).name = name := by
  rw [field] at h
  obtain ⟨_, -, h⟩ := bind_eq_ok.mp h
  obtain ⟨_, -, h⟩ := bind_eq_ok.mp h
  obtain ⟨_, -, h⟩ := bind_eq_ok.mp h
  have h := eq_ok_of_guard h
  obtain ⟨_, -, h⟩ := bind_eq_ok.mp h
  obtain ⟨_, -, h⟩ := bind_eq_ok.mp h
  obtain ⟨_, -, h⟩ := bind_eq_ok.mp h
  obtain ⟨_, -, h⟩ := bind_eq_ok.mp h
  cases h
  rfl

theorem fieldList_name {l : Listing} {entry : Json.Members} {xs : Unchecked (String → Field)}
    (h : fieldList l entry = .ok xs) : ∀ x ∈ xs, ∀ name, (x.2 name).name = name := by
  intro x hx
  rw [fieldList] at h
  split at h
  · cases h
  · obtain ⟨vs, -, h⟩ := bind_eq_ok.mp h
    obtain ⟨v, -, hv⟩ := mem_of_mapM h x hx
    exact field_name hv

theorem fields_once {l : Listing} {owner : String} {kind : Kind} {entry : Json.Members}
    {fs : List Field} (h : fields l owner kind entry = .ok fs) : (fs.map Field.name).Nodup := by
  rw [fields] at h
  obtain ⟨_, -, h⟩ := bind_eq_ok.mp h
  obtain ⟨unchecked, hu, h⟩ := bind_eq_ok.mp h
  obtain ⟨named, hn, h⟩ := bind_eq_ok.mp h
  cases h
  have hname : ∀ x ∈ Keyed.ofList named, (x.2 x.1).name = x.1 := by
    intro x hx
    obtain ⟨-, y, hy, he⟩ := mem_checkNames hn x (Keyed.mem_ofList hx)
    rw [← he]
    exact fieldList_name (eq_ok_of_within hu) y hy x.1
  have hm : ((Keyed.ofList named).map fun x => x.2 x.1).map Field.name =
      (Keyed.ofList named).map Prod.fst := by
    rw [List.map_map]
    exact List.map_congr_left hname
  rw [hm]
  exact Keyed.nodup_keys_ofList named

theorem definition_once {l : Listing} {name : String} {kind : Kind} {entry : Json.Members}
    {d : TypeDef} (h : definition l name (.described kind entry) = .ok d) : d.FieldsOnce := by
  cases kind with
  | scalar | enum =>
    cases h
    exact List.nodup_nil
  | object | interface =>
    obtain ⟨fs, hf, rfl⟩ := map_eq_ok.mp h
    exact fields_once hf
  | union =>
    obtain ⟨ms, -, rfl⟩ := map_eq_ok.mp h
    exact List.nodup_nil
  | inputObject =>
    obtain ⟨_, -, h⟩ := bind_eq_ok.mp h
    obtain ⟨_, -, h⟩ := bind_eq_ok.mp h
    cases h
    exact List.nodup_nil

end Introspection

namespace Schema

theorem fieldsOnce_ofPayload {payload : Json} {s : Schema} (h : ofPayload payload = .ok s) :
    s.FieldsOnce := by
  obtain ⟨data, h⟩ := ofPayload_described h
  exact Introspection.schema_forall (fun _ _ => Standard.fieldsOnce_of_find?)
    (fun _ _ _ _ _ _ => Introspection.definition_once) h

variable {s : Schema}

theorem fieldsOf_once (h : s.FieldsOnce) (type : String) :
    ((s.fieldsOf type).map Field.name).Nodup := by
  cases hd : s.find? type with
  | none => simp [fieldsOf, hd]
  | some d =>
    obtain ⟨before, after, hs, -⟩ := List.lookup_eq_some_iff.mp hd
    have hf : (d.fields.map Field.name).Nodup := h (type, d) (by rw [hs]; simp)
    simpa [fieldsOf, hd] using hf

theorem rootFields_once (h : s.FieldsOnce) (root : Option String) :
    ((s.rootFields root).map Field.name).Nodup := by
  cases root with
  | none => exact List.nodup_nil
  | some type => exact fieldsOf_once h type

theorem roots_once (h : s.FieldsOnce) : (s.roots.map fun r => (r.kind, r.field.name)).Nodup := by
  have hk : ∀ kind root,
      (((s.rootFields root).map (RootField.mk kind)).map fun r =>
        (r.kind, r.field.name)).Nodup := by
    intro kind root
    have hn := (rootFields_once h root).map (Prod.mk_right_injective kind)
    rwa [List.map_map] at hn ⊢
  rw [roots, List.map_append, List.nodup_append]
  refine ⟨hk _ _, hk _ _, ?_⟩
  intro x hx y hy he
  simp only [List.map_map, List.mem_map, Function.comp_apply] at hx hy
  obtain ⟨f, -, rfl⟩ := hx
  obtain ⟨f', -, rfl⟩ := hy
  cases he

end Schema

/-- Names that differ in the case of their first letter, and in nothing else. -/
def Recased (a b : String) : Prop :=
  a ≠ b ∧ ∃ c d rest, a.toList = c :: rest ∧ b.toList = d :: rest ∧ c.toUpper = d.toUpper

theorem Recased.symm {a b : String} (h : Recased a b) : Recased b a := by
  obtain ⟨hn, c, d, rest, ha, hb, hc⟩ := h
  exact ⟨hn.symm, d, c, rest, hb, ha, hc.symm⟩

namespace OperationKind

theorem verb_append_inj {k k' : OperationKind} {xs ys : List Char} :
    k.verb ++ String.ofList xs = k'.verb ++ String.ofList ys ↔ k = k' ∧ xs = ys := by
  rw [← String.toList_inj, String.toList_append, String.toList_append, String.toList_ofList,
    String.toList_ofList]
  cases k with
  | query => cases k' with
    | query => simp
    | mutation => simp [verb]
  | mutation => cases k' with
    | query => simp [verb]
    | mutation => simp

theorem operationName_eq (kind : OperationKind) {field : String} (h : Name.isValid field = true) :
    ∃ c rest, field.toList = c :: rest ∧
    kind.operationName field = kind.verb ++ String.ofList (c.toUpper :: rest) := by
  cases hf : field.toList with
  | nil => simp [Name.isValid, hf] at h
  | cons c rest =>
    have hc : c.toNat < 0x80 :=
      Name.toNat_lt_of_isPart (Name.isPart_of_isValid h (by rw [hf]; exact List.mem_cons_self))
    refine ⟨c, rest, rfl, ?_⟩
    simp only [operationName, operationName?, hf, Text.uppercase, if_pos hc, Option.getD_some,
      List.singleton_append]

theorem operationName_eq_iff {k k' : OperationKind} {a b : String} (ha : Name.isValid a = true)
    (hb : Name.isValid b = true) :
    k.operationName a = k'.operationName b ↔ k = k' ∧ (a = b ∨ Recased a b) := by
  obtain ⟨c, rest, hac, hka⟩ := k.operationName_eq ha
  obtain ⟨d, more, hbd, hkb⟩ := k'.operationName_eq hb
  rw [hka, hkb, verb_append_inj, List.cons.injEq]
  refine and_congr_right fun _ => ⟨?_, ?_⟩
  · rintro ⟨hc, rfl⟩
    exact (Decidable.em (a = b)).imp_right fun hn => ⟨hn, c, d, rest, hac, hbd, hc⟩
  · rintro (rfl | ⟨-, c', d', rest', hac', hbd', hc⟩)
    · cases hac.symm.trans hbd
      exact ⟨rfl, rfl⟩
    · cases hac.symm.trans hac'
      cases hbd.symm.trans hbd'
      exact ⟨hc, rfl⟩

end OperationKind

def RootField.Alike (r r' : RootField) : Prop :=
  r.kind = r'.kind ∧ Recased r.field.name r'.field.name

theorem RootField.Alike.ne {r r' : RootField} (h : r.Alike r') : r ≠ r' :=
  fun he => h.2.1 (congrArg (fun r => r.field.name) he)

namespace Schema

variable {s : Schema}

theorem drafted_name_eq_iff (hw : s.WellNamed) (ho : s.FieldsOnce) (scope : Scope)
    {r r' : RootField} (hr : r ∈ s.roots) (hr' : r' ∈ s.roots) :
    (scope.drafted s r).name = (scope.drafted s r').name ↔ r = r' ∨ r.Alike r' := by
  rw [Scope.drafted, Scope.drafted,
    OperationKind.operationName_eq_iff (wellNamed_roots hw r hr).1 (wellNamed_roots hw r' hr').1]
  constructor
  · rintro ⟨hk, hn | hn⟩
    · exact .inl (List.inj_on_of_nodup_map (roots_once ho) hr hr' (Prod.ext hk hn))
    · exact .inr ⟨hk, hn⟩
  · rintro (rfl | ⟨hk, hn⟩)
    · exact ⟨rfl, .inl rfl⟩
    · exact ⟨hk, .inr hn⟩

section

variable {operations : RootField → Operation} (ho : s.FieldsOnce)
  (hs : ∀ r ∈ s.roots, ∀ r' ∈ s.roots, (operations r).name = (operations r').name ↔
    r = r' ∨ r.Alike r')

include ho hs

theorem names_nodup_iff :
    (s.roots.map fun r => (operations r).name).Nodup ↔
    ∀ r ∈ s.roots, ∀ r' ∈ s.roots, ¬ r.Alike r' := by
  rw [List.nodup_map_iff_inj_on (roots_once ho).of_map]
  refine forall₂_congr fun r hr => forall₂_congr fun r' hr' => ?_
  rw [hs r hr r' hr']
  exact ⟨fun h ha => ha.ne (h (.inr ha)), fun h => Or.rec id fun ha => absurd ha h⟩

theorem filter_name_eq_iff {r : RootField} (hr : r ∈ s.roots) :
    (s.roots.map operations).filter (·.name = (operations r).name) = [operations r] ↔
      ∀ r' ∈ s.roots, ¬ r.Alike r' := by
  rw [List.filter_map]
  constructor
  · intro h r' hr' ha
    obtain ⟨r₀, hf, -⟩ := List.map_eq_singleton_iff.mp h
    have hm : ∀ x ∈ s.roots, r = x ∨ r.Alike x → x = r₀ := by
      intro x hx he
      have hx' : x ∈ s.roots.filter
          ((fun op : Operation => decide (op.name = (operations r).name)) ∘ operations) := by
        simpa [hx] using ((hs r hr x hx).mpr he).symm
      rw [hf] at hx'
      exact List.mem_singleton.mp hx'
    exact ha.ne ((hm r hr (.inl rfl)).trans (hm r' hr' (.inr ha)).symm)
  · intro h
    have hf :
        s.roots.filter
          ((fun op : Operation => decide (op.name = (operations r).name)) ∘ operations) =
        s.roots.filter (· == r) := by
      refine List.filter_congr fun x hx => ?_
      have hx : (operations x).name = (operations r).name ↔ x = r := by
        rw [eq_comm, hs r hr x hx, or_iff_left (h x hx), eq_comm]
      rw [Function.comp_apply, decide_eq_decide.mpr hx]
      rfl
    rw [hf, List.filter_beq, List.count_eq_one_of_mem (roots_once ho).of_map hr]
    rfl

end

end Schema

/-- The names of the operations in a document. An operation can be called by its name where no other
field of the same root has its field's name but for the case of the first letter. -/
structure NamesShared (o : Options) (schema : Schema) (depth : Nat)
    (operations : RootField → Operation) : Prop where
  built : ∀ root ∈ schema.roots, Built ⟨depth, o.skipDeprecated, none⟩ schema root (operations root)
  assembled : (o.assemble schema (fun _ => false) depth false 0).1 =
    .ok (schema.document operations)
  only : ∀ memory limited begun raw n, o.assemble schema memory depth limited begun = (.ok raw, n) →
    raw = schema.document operations
  shared : ∀ r ∈ schema.roots, ∀ r' ∈ schema.roots,
    (operations r).name = (operations r').name ↔ r = r' ∨ r.Alike r'
  distinct : (schema.roots.map fun r => (operations r).name).Nodup ↔
    ∀ r ∈ schema.roots, ∀ r' ∈ schema.roots, ¬ r.Alike r'
  called : ∀ r ∈ schema.roots,
    (schema.roots.map operations).filter (·.name = (operations r).name) = [operations r] ↔
      ∀ r' ∈ schema.roots, ¬ r.Alike r'

theorem operation_names_shared {payload : Json} {schema : Schema}
    (h : Schema.ofPayload payload = .ok schema) (o : Options) (depth : Nat) :
    ∃ operations, NamesShared o schema depth operations := by
  have hw := Schema.wellNamed_ofPayload h
  have hn := Schema.rootsNamed_of_wellNamed hw
  have ho := Schema.fieldsOnce_ofPayload h
  let scope : Scope := ⟨depth, o.skipDeprecated, none⟩
  have hs : ∀ r ∈ schema.roots, ∀ r' ∈ schema.roots,
      (scope.drafted schema r).name = (scope.drafted schema r').name ↔ r = r' ∨ r.Alike r' :=
    fun _ hr _ hr' => Schema.drafted_name_eq_iff hw ho scope hr hr'
  refine ⟨scope.drafted schema, ?_⟩
  exact {
    built := fun root hm => scope.drafted_built hn rfl hm
    assembled := o.assemble_document hn depth
    only := fun _ _ _ _ _ ha => o.assembled_eq hn ha
    shared := hs
    distinct := Schema.names_nodup_iff ho hs
    called := fun _ hr => Schema.filter_name_eq_iff ho hs hr }

namespace Sample

/-- Two fields of the query root that differ in the case of their first letters, and a mutation
named like one of them. -/
def twinAnswer : Json := .obj [("__schema", .obj [
  ("queryType", named "Query"),
  ("mutationType", named "Mutation"),
  ("types", .arr [scalar "String",
    object "Query" [field "user" (named "String") [], field "User" (named "String") []],
    object "Mutation" [field "user" (named "String") []]])])]

def twinField (name : String) : Field := ⟨name, .named "String", [], false⟩

def twinSchema : Schema := ⟨Introspection.complete [("String", .scalar),
  ("Query", .object [twinField "user", twinField "User"]),
  ("Mutation", .object [twinField "user"])], some "Query", some "Mutation"⟩

theorem ofPayload_twinAnswer : Schema.ofPayload twinAnswer = .ok twinSchema := by rfl

theorem roots_twinSchema : twinSchema.roots =
    [⟨.query, twinField "user"⟩, ⟨.query, twinField "User"⟩, ⟨.mutation, twinField "user"⟩] := by
  rfl

end Sample

theorem operation_names_shared_twins :
    Schema.ofPayload Sample.twinAnswer = .ok Sample.twinSchema ∧
      ∃ operations, NamesShared .default Sample.twinSchema 7 operations :=
  ⟨Sample.ofPayload_twinAnswer, operation_names_shared Sample.ofPayload_twinAnswer .default 7⟩

theorem one_name_for_two_queries :
    Schema.ofPayload Sample.twinAnswer = .ok Sample.twinSchema ∧
      (Options.default.assemble Sample.twinSchema (fun _ => false) 7 false 0).1 =
        .ok ("query GetUser \x7b\n  user\n\x7d\n\nquery GetUser \x7b\n  User\n\x7d\n\n"
          ++ "mutation MutateUser \x7b\n  user\n\x7d\n\n").toList ∧
      ∀ operations : RootField → Operation,
        (∀ root ∈ Sample.twinSchema.roots, Built ⟨7, false, none⟩ Sample.twinSchema root
          (operations root)) →
          ¬ (Sample.twinSchema.roots.map fun root => (operations root).name).Nodup := by
  refine ⟨Sample.ofPayload_twinAnswer, by rfl, ?_⟩
  intro operations hb hn
  rw [Sample.roots_twinSchema] at hb hn
  have hlow := (hb ⟨.query, Sample.twinField "user"⟩ (by simp)).name
  have hup := (hb ⟨.query, Sample.twinField "User"⟩ (by simp)).name
  have hname : OperationKind.operationName? .query "user" =
      OperationKind.operationName? .query "User" := by
    decide +kernel
  have he := Option.some.inj (hlow.symm.trans (hname.trans hup))
  simp [he] at hn

end QueryDraft
