import QueryDraft.Language.Format
import QueryDraft.Proofs.Ast
import QueryDraft.Proofs.Rendering

namespace QueryDraft.Language.Parser

/-- A reader's outcome on something written: it is read as `a` if it fits, and otherwise it
is too deep. -/
structure Reads {α : Type} (fits : Prop) (out : Except Fault α) (a : α) : Prop where
  ok : fits → out = .ok a
  deep : ¬ fits → ∃ f, out = .error f ∧ f.cause = .tooDeep

namespace Reads

variable {α β : Type} {p q : Prop} {x : Except Fault α} {a : α} {b : β}

theorem pure (a : α) : Reads True (.ok a) a := ⟨fun _ => rfl, fun h => absurd trivial h⟩

theorem of_eq (h : x = .ok a) : Reads True x a := h ▸ pure a

theorem tooDeep (hp : ¬ p) (ts : Lexemes) (a : α) : Reads p (faultAt .tooDeep ts) a :=
  ⟨fun h => absurd h hp, fun _ => ⟨_, rfl, rfl⟩⟩

theorem congr (h : p ↔ q) (hx : Reads p x a) : Reads q x a :=
  ⟨fun hq => hx.ok (h.mpr hq), fun hq => hx.deep fun hp => hq (h.mp hp)⟩

theorem bind {f : α → Except Fault β} (hx : Reads p x a) (hf : Reads q (f a) b) :
    Reads (p ∧ q) (x >>= f) b := by
  by_cases hp : p
  · rw [hx.ok hp]
    exact hf.congr ⟨fun hq => ⟨hp, hq⟩, fun h => h.2⟩
  · obtain ⟨e, he, hc⟩ := hx.deep hp
    rw [he]
    exact ⟨fun h => absurd h.1 hp, fun _ => ⟨e, rfl, hc⟩⟩

theorem last {f : α → Except Fault β} (hx : Reads p x a) (hf : f a = .ok b) :
    Reads p (x >>= f) b := by
  have hb : Reads True (f a) b := hf ▸ pure b
  exact (hx.bind hb).congr ⟨fun h => h.1, fun h => ⟨h, trivial⟩⟩

theorem map (f : α → β) (hx : Reads p x a) : Reads p (x.map f) (f a) := by
  by_cases hp : p
  · rw [hx.ok hp]
    exact ⟨fun _ => rfl, fun h => absurd hp h⟩
  · obtain ⟨e, he, hc⟩ := hx.deep hp
    rw [he]
    exact ⟨fun h => absurd h hp, fun _ => ⟨e, rfl, hc⟩⟩

end Reads

theorem aliasAndName_bare (name : String) {ts : Lexemes}
    (h : ts.head? ≠ some (.punctuator .colon)) :
    aliasAndName (.name name :: ts) = .ok ((none, name), ts) := by
  rw [aliasAndName]
  simp only [Parser.name, bind, Except.bind]
  split
  · exact absurd rfl h
  · rfl

theorem optionalParens_absent {α : Type} (item : Reader α) {ts : Lexemes}
    (h : ts.head? ≠ some (.punctuator .parenL)) : optionalParens item ts = .ok ([], ts) := by
  unfold optionalParens
  split
  · exact absurd rfl h
  · rfl

theorem directives_absent (const : Bool) (room : Nat) {ts : Lexemes}
    (h : ts.head? ≠ some (.punctuator .at)) : directives const room ts = .ok ([], ts) := by
  unfold directives directivesFrom
  split
  · exact absurd rfl h
  · rfl

theorem defaultValue_absent (room : Nat) {ts : Lexemes}
    (h : ts.head? ≠ some (.punctuator .equals)) : defaultValue room ts = .ok (none, ts) := by
  unfold defaultValue
  split
  · exact absurd rfl h
  · rfl

theorem afterBang_absent (t : TypeRef) {ts : Lexemes} (h : ts.head? ≠ some (.punctuator .bang)) :
    afterBang t ts = (t, ts) := by
  unfold afterBang
  split
  · exact absurd rfl h
  · rfl

def continues : Lexeme → Bool
  | .punctuator p => p ∈ [Punctuator.bang, .parenL, .colon, .equals, .at, .braceL]
  | _ => false

def Ends (ts : Lexemes) : Prop := ∀ l ∈ ts.head?, continues l = false

theorem Ends.head_ne {ts : Lexemes} (h : Ends ts) {p : Punctuator}
    (hp : continues (.punctuator p) = true) : ts.head? ≠ some (.punctuator p) := by
  intro he
  rw [h _ he] at hp
  cases hp

theorem Ends.cons {l : Lexeme} (h : continues l = false) (ts : Lexemes) : Ends (l :: ts) := by
  intro m hm
  cases hm
  exact h

/-- Items that can stand in a row before a closing punctuator: `lex` writes them and `out` is what
they are read as. -/
structure Row {α β : Type} (item : Reader α) (close : Punctuator) (lex : β → Lexemes) (out : β → α)
    (fits : β → Prop) (xs : List β) : Prop where
  reads : ∀ x ∈ xs, ∀ rest, Ends rest → Reads (fits x) (item (lex x ++ rest)) (out x, rest)
  starts : ∀ x ∈ xs, ∃ l ls, lex x = l :: ls ∧ l ≠ .punctuator close ∧ continues l = false
  closes : continues (.punctuator close) = false

namespace Row

variable {α β : Type} {item : Reader α} {close : Punctuator} {lex : β → Lexemes} {out : β → α}
    {fits : β → Prop}
  {x : β} {xs : List β}

theorem tail (h : Row item close lex out fits (x :: xs)) : Row item close lex out fits xs :=
  ⟨fun y hy => h.reads y (List.mem_cons_of_mem x hy),
    fun y hy => h.starts y (List.mem_cons_of_mem x hy), h.closes⟩

theorem ends (h : Row item close lex out fits xs) (rest : Lexemes) :
    Ends (xs.flatMap lex ++ .punctuator close :: rest) := by
  cases xs with
  | nil => exact .cons h.closes rest
  | cons x xs =>
    obtain ⟨l, ls, hl, -, hc⟩ := h.starts x List.mem_cons_self
    rw [List.flatMap_cons, hl]
    exact .cons hc _

theorem length_le (h : Row item close lex out fits xs) : xs.length ≤ (xs.flatMap lex).length := by
  induction xs with
  | nil => exact Nat.le_refl _
  | cons x xs ih =>
    obtain ⟨l, ls, hl, -⟩ := h.starts x List.mem_cons_self
    have hxs := ih h.tail
    rw [List.flatMap_cons, hl]
    simp only [List.length_append, List.length_cons]
    omega

theorem untilClose_step {l : Lexeme} (hl : l ≠ .punctuator close) (f : Lexeme) (fuel ls : Lexemes) :
    untilClose close item (f :: fuel) (l :: ls) = (do
      let (x, rest) ← item (l :: ls)
      let (xs, rest) ← untilClose close item fuel rest
      .ok (x :: xs, rest)) := by
  cases l with
  | punctuator p =>
    have hp : p ≠ close := fun he => hl (he ▸ rfl)
    exact if_neg hp
  | _ => rfl

theorem untilClose_reads (h : Row item close lex out fits xs) {fuel : Lexemes}
    (hf : xs.length < fuel.length) (rest : Lexemes) :
    Reads (∀ x ∈ xs, fits x)
      (untilClose close item fuel (xs.flatMap lex ++ .punctuator close :: rest))
      (xs.map out, rest) := by
  induction xs generalizing fuel with
  | nil =>
    cases fuel with
    | nil => cases hf
    | cons f fuel =>
      have hc : untilClose close item (f :: fuel) (.punctuator close :: rest) = .ok ([], rest) := by
        rw [untilClose]
        exact if_pos rfl
      rw [List.flatMap_nil, List.nil_append, hc]
      exact (Reads.pure _).congr (by simp)
  | cons x xs ih =>
    cases fuel with
    | nil => cases hf
    | cons f fuel =>
      obtain ⟨l, ls, hl, hn, -⟩ := h.starts x List.mem_cons_self
      have hx := h.reads x List.mem_cons_self _ (h.tail.ends rest)
      have hxs := ih h.tail (show xs.length < fuel.length from Nat.lt_of_succ_lt_succ hf)
      rw [List.flatMap_cons, List.append_assoc]
      rw [hl] at hx ⊢
      rw [List.cons_append, untilClose_step hn]
      exact (hx.bind (hxs.last (by rfl))).congr List.forall_mem_cons.symm

theorem someUntilClose_reads (h : Row item close lex out fits (x :: xs)) (rest : Lexemes) :
    Reads (∀ y ∈ x :: xs, fits y)
      (someUntilClose close item ((x :: xs).flatMap lex ++ .punctuator close :: rest))
      ((x :: xs).map out, rest) := by
  have hx := h.reads x List.mem_cons_self _ (h.tail.ends rest)
  have hl := h.length_le
  have hf : xs.length < ((x :: xs).flatMap lex ++ .punctuator close :: rest).length := by
    simp only [List.length_append, List.length_cons] at hl ⊢
    omega
  have hxs := h.tail.untilClose_reads hf rest
  rw [List.flatMap_cons, List.append_assoc] at hxs ⊢
  exact (hx.bind (hxs.last (by rfl))).congr List.forall_mem_cons.symm

theorem optionalParens_reads (h : Row item .parenR lex out fits xs) {rest : Lexemes}
    (hr : rest.head? ≠ some (.punctuator .parenL)) :
    Reads (∀ x ∈ xs, fits x) (optionalParens item (Operation.parenLexemes (xs.flatMap lex) ++ rest))
      (xs.map out, rest) := by
  cases xs with
  | nil =>
    have ha : optionalParens item (Operation.parenLexemes [] ++ rest) = .ok ([], rest) :=
      optionalParens_absent item hr
    rw [List.flatMap_nil, ha]
    exact (Reads.pure _).congr (by simp)
  | cons x xs =>
    obtain ⟨l, ls, hl, -⟩ := h.starts x List.mem_cons_self
    have hn : ((x :: xs).flatMap lex).isEmpty = false := by simp [hl]
    have hp : Operation.parenLexemes ((x :: xs).flatMap lex) ++ rest =
        .punctuator .parenL :: ((x :: xs).flatMap lex ++ .punctuator .parenR :: rest) := by
      rw [Operation.parenLexemes, hn]
      simp
    rw [hp]
    exact h.someUntilClose_reads rest

end Row

/-- How a reference is read before other lexemes: one that is not non-null becomes so by a bang. -/
def followed (t : TypeRef) (rest : Lexemes) : TypeRef × Lexemes :=
  if t.isNonNull then (t, rest) else afterBang t rest

theorem followed_of_ends (t : TypeRef) {rest : Lexemes} (h : Ends rest) :
    followed t rest = (t, rest) := by
  rw [followed]
  split
  · rfl
  · exact afterBang_absent t (h.head_ne (by decide))

theorem followed_bang {t : TypeRef} (h : t.isNonNull = false) (rest : Lexemes) :
    followed t (.punctuator .bang :: rest) = (.nonNull t, rest) := by
  rw [followed, h]
  rfl

theorem typeRef_name (room : Nat) (name : String) (rest : Lexemes) :
    typeRef room (.name name :: rest) = .ok (followed (.named name) rest) := by
  cases room with
  | zero => rfl
  | succ room => rfl

theorem typeRef_list {item : TypeRef} {rest ts : Lexemes} {p : Nat → Prop} (hz : ¬ p 0)
    (h : ∀ room, Reads (p (room + 1)) (typeRef room ts) (item, .punctuator .bracketR :: rest))
    (room : Nat) :
    Reads (p room) (typeRef room (.punctuator .bracketL :: ts)) (followed (.list item) rest) := by
  cases room with
  | zero => exact Reads.tooDeep hz _ _
  | succ room => exact (h room).last (by rfl)

theorem typeRef_reads (t : TypeRef) (h : t.WellNamed) (room : Nat) (rest : Lexemes) :
    Reads (t.layers ≤ room) (typeRef room (t.lexemes ++ rest)) (followed t rest) := by
  induction t generalizing room rest with
  | named name => exact (Reads.of_eq (typeRef_name room name rest)).congr (by simp [TypeRef.layers])
  | list item ih =>
    have hl : (TypeRef.list item).lexemes ++ rest =
        .punctuator .bracketL :: (item.lexemes ++ .punctuator .bracketR :: rest) := by
      simp [TypeRef.lexemes]
    have hi := followed_of_ends item (.cons (by decide) rest : Ends (.punctuator .bracketR :: rest))
    rw [hl]
    apply typeRef_list (p := fun room => (TypeRef.list item).layers ≤ room) (Nat.not_succ_le_zero _)
    intro room
    exact (hi ▸ ih h room (.punctuator .bracketR :: rest)).congr Nat.succ_le_succ_iff.symm
  | nonNull inner ih =>
    have hl : (TypeRef.nonNull inner).lexemes ++ rest =
        inner.lexemes ++ .punctuator .bang :: rest := by
      simp [TypeRef.lexemes]
    have hx := ih h.2 room (.punctuator .bang :: rest)
    rw [followed_bang h.1] at hx
    rw [hl]
    exact hx

theorem parenLexemes_head {p : Punctuator} (hp : p ≠ .parenL) {rest : Lexemes}
    (h : rest.head? ≠ some (.punctuator p)) (parts : Lexemes) :
    (Operation.parenLexemes parts ++ rest).head? ≠ some (.punctuator p) := by
  rw [Operation.parenLexemes]
  split
  · exact h
  · intro he
    cases he
    exact hp rfl

theorem uses_row (args : List Argument) (room : Nat) :
    Row (namedValue (value false room)) .parenR Operation.useLexemes
      (fun a => (a.name, .variable a.name)) (fun _ => True) args := by
  refine ⟨fun a _ rest _ => ?_, fun a _ => ⟨_, _, rfl, by simp, rfl⟩, by decide⟩
  have hv : namedValue (value false room) (Operation.useLexemes a ++ rest) =
      .ok ((a.name, .variable a.name), rest) := by
    cases room with
    | zero => rfl
    | succ room => rfl
  exact hv ▸ Reads.pure _

/-- The head of a field is read before what is neither a colon, nor in parentheses, nor
a directive. -/
theorem headWith_read (args : List Argument) (room : Nat) (name : String) {ts : Lexemes}
    (hc : ts.head? ≠ some (.punctuator .colon)) (hp : ts.head? ≠ some (.punctuator .parenL))
    (ha : ts.head? ≠ some (.punctuator .at)) :
    fieldHead room
      (.name name :: (Operation.parenLexemes (args.flatMap Operation.useLexemes) ++ ts)) =
      .ok (headWith args name, ts) := by
  have hargs := ((uses_row args room).optionalParens_reads hp).ok fun _ _ => trivial
  rw [fieldHead]
  rw [aliasAndName_bare name (parenLexemes_head (by decide) hc _)]
  simp only [bind, Except.bind, arguments, hargs, directives_absent false room ha]
  rfl

theorem selection_leaf (args : List Argument) (room : Nat) (set : Reader (List Selection))
    (name : String) {ts : Lexemes} (h : Ends ts) :
    selection room set
      (.name name :: (Operation.parenLexemes (args.flatMap Operation.useLexemes) ++ ts)) =
      .ok (.leaf (headWith args name), ts) := by
  have hh :=
    headWith_read args room name (h.head_ne (by decide)) (h.head_ne (by decide))
      (h.head_ne (by decide))
  simp only [selection, hh, bind, Except.bind]
  split
  · exact absurd rfl (h.head_ne (p := .braceL) (by decide))
  · rfl

theorem selection_field (args : List Argument) (room : Nat) (set : Reader (List Selection))
    (name : String) (ts : Lexemes) :
    selection room set (.name name ::
        (Operation.parenLexemes (args.flatMap Operation.useLexemes) ++ .punctuator .braceL :: ts)) =
      (set (.punctuator .braceL :: ts)).map fun below =>
        (.field (headWith args name) below.1, below.2) := by
  have hh := @headWith_read args room name (.punctuator .braceL :: ts) (by simp) (by simp) (by simp)
  simp only [selection, hh, bind, Except.bind]

theorem selection_fragment (room : Nat) (set : Reader (List Selection)) (member : String)
    (ts : Lexemes) :
    selection room set
      (.punctuator .spread :: .name "on" :: .name member :: .punctuator .braceL :: ts) =
      (set (.punctuator .braceL :: ts)).bind fun below =>
        .ok (.inline (some member) [] below.1, below.2) := rfl

theorem selection_starts (s : QueryDraft.Selection) :
    ∃ l ls, s.lexemes = l :: ls ∧ l ≠ .punctuator .braceR ∧ continues l = false := by
  cases s with
  | leaf name => exact ⟨_, _, rfl, by simp, rfl⟩
  | node label body =>
    cases label with
    | field name => exact ⟨_, _, rfl, by simp, rfl⟩
    | fragment member => exact ⟨_, _, rfl, by decide, by decide⟩

def Readable (s : QueryDraft.Selection) : Prop :=
  ∀ room rest, Ends rest →
    Reads (s.nesting ≤ room) (selection room (selectionSet room) (s.lexemes ++ rest)) (s.ast, rest)

/-- A selection set is read if its selections are, `depth` being how many sets each of
them opens. -/
theorem selectionSet_row {β : Type} {lex : β → Lexemes} {out : β → Selection} {depth : β → Nat}
    {xs : List β}
    (h : ∀ room, Row (selection room (selectionSet room)) .braceR lex out
      (fun x => depth x ≤ room) xs) (room : Nat) (rest : Lexemes) :
    Reads (0 < room ∧ ∀ x ∈ xs, depth x < room)
      (selectionSet room (.punctuator .braceL :: (xs.flatMap lex ++ .punctuator .braceR :: rest)))
      (xs.map out, rest) := by
  cases room with
  | zero => exact Reads.tooDeep (fun h => absurd h.1 (Nat.lt_irrefl 0)) _ _
  | succ room =>
    have hl := (h room).length_le
    have hf : xs.length <
        (Lexeme.punctuator .braceL :: (xs.flatMap lex ++ .punctuator .braceR :: rest)).length := by
      simp only [List.length_append, List.length_cons]
      omega
    have hs : ∀ ts, selectionSet (room + 1) (.punctuator .braceL :: ts) =
        untilClose .braceR (selection room (selectionSet room)) (.punctuator .braceL :: ts) ts :=
      fun _ => rfl
    rw [hs]
    apply ((h room).untilClose_reads hf rest).congr
    simp only [Nat.lt_succ_iff, Nat.zero_le, true_and]

theorem selectionSet_reads {body : List QueryDraft.Selection} (h : ∀ s ∈ body, Readable s)
    (room : Nat) (rest : Lexemes) :
    Reads (Selection.bodyNesting body + 1 ≤ room)
      (selectionSet room
        (.punctuator .braceL :: (Selection.bodyLexemes body ++ .punctuator .braceR :: rest)))
      (Selection.bodyAst body, rest) := by
  have hb :=
    selectionSet_row
      (fun room => ⟨fun s hs => h s hs room, fun s _ => selection_starts s, by decide⟩) room rest
  rw [Selection.bodyLexemes_eq, Selection.bodyAst_eq]
  refine hb.congr ⟨fun ⟨hpos, hs⟩ => ?_, fun hn => ⟨by omega, fun s hs => ?_⟩⟩
  · have hn := Selection.bodyNesting_le.mpr fun s hm => Nat.le_sub_one_of_lt (hs s hm)
    omega
  · have hle := Selection.bodyNesting_le.mp (Nat.le_refl (Selection.bodyNesting body)) s hs
    omega

theorem selection_readable (s : QueryDraft.Selection) : Readable s := by
  induction s using Selection.induct with
  | leaf name =>
    intro room rest hr
    have hs : selection room (selectionSet room) (.name name :: rest) =
        .ok (.leaf (headWith [] name), rest) :=
      selection_leaf [] room _ name hr
    exact (Reads.of_eq hs).congr (by simp [Selection.nesting])
  | node label body ih =>
    intro room rest hr
    have hset := selectionSet_reads ih room rest
    cases label with
    | field name =>
      have hl : (Selection.node (.field name) body).lexemes ++ rest =
          .name name :: (Operation.parenLexemes [] ++ .punctuator .braceL ::
            (Selection.bodyLexemes body ++ .punctuator .braceR :: rest)) := by
        simp [Selection.lexemes, Label.lexemes, Operation.parenLexemes]
      rw [hl]
      exact selection_field [] room _ name _ ▸ hset.map _
    | fragment member =>
      have hl : (Selection.node (.fragment member) body).lexemes ++ rest =
          .punctuator .spread :: .name "on" :: .name member :: .punctuator .braceL ::
            (Selection.bodyLexemes body ++ .punctuator .braceR :: rest) := by
        simp [Selection.lexemes, Label.lexemes]
      rw [hl, selection_fragment]
      exact hset.last (by rfl)

theorem declarations_row {args : List Argument} (h : ∀ a ∈ args, a.WellNamed) (room : Nat) :
    Row (variableDefinition room) .parenR Operation.declarationLexemes Operation.variableDefinition
      (fun a => a.type.layers ≤ room) args := by
  refine ⟨fun a ha rest hr => ?_, fun a _ => ⟨_, _, rfl, by decide, by decide⟩, by decide⟩
  have hv : ∀ ts,
      variableDefinition room (.punctuator .dollar :: .name a.name :: .punctuator .colon :: ts) =
        (typeRef room ts).bind fun type => (defaultValue room type.2).bind fun v =>
          (directives true room v.2).bind fun ds =>
            .ok (⟨none, a.name, type.1, v.1, ds.1⟩, ds.2) :=
    fun _ => rfl
  have ht := typeRef_reads a.type (h a ha).2 room rest
  rw [followed_of_ends a.type hr] at ht
  refine (hv _) ▸ ht.last ?_
  simp only [defaultValue_absent room (hr.head_ne (by decide)),
    directives_absent true room (hr.head_ne (by decide)), Except.bind, Operation.variableDefinition]

def rootLexemes (op : Operation) : Lexemes :=
  .name op.field ::
    (Operation.parenLexemes (op.args.flatMap Operation.useLexemes) ++ Operation.setLexemes op.body)

theorem root_reads (op : Operation) (room : Nat) {rest : Lexemes} (hr : Ends rest) :
    Reads (op.fieldNesting ≤ room) (selection room (selectionSet room) (rootLexemes op ++ rest))
      (op.rootAst, rest) := by
  cases hb : op.body with
  | nil =>
    have hs := selection_leaf op.args room (selectionSet room) op.field hr
    simp only [rootLexemes, Operation.setLexemes, Operation.rootAst, Operation.fieldNesting, hb,
      List.isEmpty_nil, if_true, List.append_nil, List.cons_append]
    exact (Reads.of_eq hs).congr (by simp)
  | cons s body =>
    have hset := selectionSet_reads (fun t (_ : t ∈ s :: body) => selection_readable t) room rest
    simp only [rootLexemes, Operation.setLexemes, Operation.rootAst, Operation.fieldNesting, hb,
      List.isEmpty_cons, Bool.false_eq_true, if_false, List.cons_append, List.append_assoc,
      List.nil_append]
    exact selection_field op.args room _ op.field _ ▸ hset.map _

theorem rootSet_reads (op : Operation) (room : Nat) (rest : Lexemes) :
    Reads (op.fieldNesting < room)
      (selectionSet room (.punctuator .braceL :: (rootLexemes op ++ .punctuator .braceR :: rest)))
      ([op.rootAst], rest) := by
  have hrow : ∀ room, Row (selection room (selectionSet room)) .braceR rootLexemes Operation.rootAst
      (fun o => o.fieldNesting ≤ room) [op] := fun room =>
    ⟨fun o _ _ hr => root_reads o room hr, fun o _ => ⟨_, _, rfl, by simp, rfl⟩, by decide⟩
  have hs := selectionSet_row hrow room rest
  rw [List.flatMap_singleton] at hs
  refine hs.congr ⟨fun h => h.2 op (List.mem_singleton_self op),
    fun h => ⟨by omega, fun o ho => ?_⟩⟩
  rwa [List.mem_singleton.mp ho]

theorem definition_reads {op : Operation} (h : op.WellNamed) (room : Nat) (rest : Lexemes) :
    Reads (op.Fits room) (definition room (op.lexemes ++ rest)) (op.ast, rest) := by
  generalize hts : Lexeme.punctuator .braceL :: (rootLexemes op ++ .punctuator .braceR :: rest) = ts
  have hl : op.lexemes ++ rest = .name op.kind.keyword :: .name op.name ::
      (Operation.parenLexemes (op.args.flatMap Operation.declarationLexemes) ++ ts) := by
    simp [Operation.lexemes, rootLexemes, ← hts]
  have hd : ∀ ts, definition room (.name op.kind.keyword :: .name op.name :: ts) =
      (optionalParens (variableDefinition room) ts).bind fun vars =>
        (directives false room vars.2).bind fun ds =>
        (selectionSet room ds.2).bind fun set =>
          .ok (.operation none op.kind.type (some op.name) vars.1 ds.1 set.1, set.2) := by
    intro ts
    cases op.kind with
    | query => rfl
    | mutation => rfl
  have hp : ts.head? ≠ some (.punctuator .parenL) := by simp [← hts]
  have ha : ts.head? ≠ some (.punctuator .at) := by simp [← hts]
  have hset : Reads (op.fieldNesting < room) (selectionSet room ts) ([op.rootAst], rest) :=
    hts ▸ rootSet_reads op room rest
  have hvars := (declarations_row h.args room).optionalParens_reads hp
  have hdirs := Reads.of_eq (directives_absent false room ha)
  rw [hl, hd]
  exact (hvars.bind (hdirs.bind (hset.last (by rfl)))).congr (and_congr_right' (true_and _).to_iff)

theorem definitions_reads {ops : List Operation} (h : ∀ op ∈ ops, op.WellNamed) (hn : ops ≠ [])
    (room : Nat) {fuel : Lexemes} (hf : ops.length ≤ fuel.length) :
    Reads (∀ op ∈ ops, op.Fits room) (definitions room fuel (ops.flatMap Operation.lexemes))
      (ops.map Operation.ast) := by
  induction ops generalizing fuel with
  | nil => exact absurd rfl hn
  | cons op rest ih =>
    cases fuel with
    | nil => simp at hf
    | cons f fuel =>
      have hop := definition_reads (h op List.mem_cons_self) room (rest.flatMap Operation.lexemes)
      rw [List.flatMap_cons, definitions]
      cases rest with
      | nil => exact (hop.last (by rfl)).congr (by simp)
      | cons o rest =>
        have hr := ih (fun p hp => h p (List.mem_cons_of_mem op hp)) (by simp)
          (show (o :: rest).length ≤ fuel.length from Nat.le_of_succ_le_succ hf)
        exact (hop.bind (hr.last (by rfl))).congr List.forall_mem_cons.symm

theorem document_reads {ops : List Operation} (h : ∀ op ∈ ops, op.WellNamed) (hn : ops ≠ []) :
    Reads (∀ op ∈ ops, op.Fits nesting) (document (ops.flatMap Operation.lexemes))
      (ops.map Operation.ast) := by
  apply definitions_reads h hn nesting
  clear h hn
  induction ops with
  | nil => exact Nat.le_refl _
  | cons op rest ih =>
    simp only [List.flatMap_cons, List.length_append, Operation.lexemes, List.length_cons]
    omega

end QueryDraft.Language.Parser

namespace QueryDraft.Language

theorem scan_of_scans {text : List Char} {ls : List Lexeme} (h : Scans text ls) :
    (scan text).fault = none ∧ (scan text).tokens.map (·.lexeme) = ls := h _ (Nat.lt_succ_self _)

theorem readText_ok {α : Type} {reader : List Lexeme → Except Parser.Fault α} {text : List Char}
    {ls : List Lexeme} (h : Scans text ls) {p : Prop} {a : α} (hr : Parser.Reads p (reader ls) a)
    (hp : p) :
    readText reader text = .ok a := by
  obtain ⟨hf, ht⟩ := scan_of_scans h
  rw [readText]
  simp only [ht, hf, hr.ok hp]

theorem readText_deep {α : Type} {reader : List Lexeme → Except Parser.Fault α} {text : List Char}
    {ls : List Lexeme} (h : Scans text ls) {p : Prop} {a : α} (hr : Parser.Reads p (reader ls) a)
    (hp : ¬ p) :
    ∃ fault, readText reader text = .error fault ∧ fault.cause = .grammatical .tooDeep := by
  obtain ⟨hf, ht⟩ := scan_of_scans h
  obtain ⟨e, he, hc⟩ := hr.deep hp
  rw [readText]
  simp only [ht, hf, he]
  exact ⟨_, rfl, congrArg Cause.grammatical hc⟩

end QueryDraft.Language
