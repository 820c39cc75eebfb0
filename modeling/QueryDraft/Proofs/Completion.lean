import QueryDraft.Command.Run
import QueryDraft.Proofs.Counting

namespace QueryDraft

open Outcome

namespace Workspace

/-- The files after one was written, if one was. The directories on the way to it are
there with it. -/
def after (w : Workspace) : Option (Path × List Char) → Workspace
  | none => w
  | some (path, text) =>
    { w with entries := (path, .file (text.flatMap Text.Percent.bytes)) :: w.entries }

theorem entry?_after_self (w : Workspace) (path : Path) (text : List Char) :
    Workspace.entry? (w.after (some (path, text))) path =
      some (.file (text.flatMap Text.Percent.bytes)) := by
  simp [after, entry?]

theorem entry?_after_ne (w : Workspace) {path q : Path} (h : q ≠ path) (text : List Char) :
    Workspace.entry? (w.after (some (path, text))) q = w.entry? q ∨
      (q <+: path ∧ w.entry? q = none ∧
        Workspace.entry? (w.after (some (path, text))) q = some .directory) := by
  have hl : (w.after (some (path, text))).entries.lookup q = w.entries.lookup q := by
    rw [after, List.lookup_cons, beq_false_of_ne h]
  unfold Workspace.entry?
  rw [hl]
  cases w.entries.lookup q with
  | some e => exact .inl rfl
  | none =>
    -- What no entry names is a directory if it leads to one that does, and the new entry may be the
    -- first.
    by_cases hq : q.isPrefixOf path = true
    · by_cases hw : (q.isPrefixOf w.directory || w.entries.any fun e => q.isPrefixOf e.1) = true
      · exact .inl (by simp [after, hq, hw])
      · exact .inr ⟨List.isPrefixOf_iff_prefix.mp hq, if_neg hw, by simp [after, hq]⟩
    · have hn : q.isPrefixOf path = false := eq_false_of_ne_true hq
      simp only [after, List.any_cons, hn, Bool.false_or]
      exact .inl trivial

end Workspace

namespace Command

def announces (line : String) : Bool := "Done! ".toList.isPrefixOf line.toList

def Report.announces (r : Report) : Bool := r.progress.any Command.announces

def Quiet (lines : List String) : Prop := ∀ line ∈ lines, announces line = false

instance (lines : List String) : Decidable (Quiet lines) :=
  inferInstanceAs (Decidable (∀ line ∈ lines, announces line = false))

def Begins (c : Char) (line : String) : Prop := line.toList.head? = some c

theorem begins_ofList (c : Char) (cs : List Char) : Begins c (String.ofList (c :: cs)) := by
  rw [Begins, String.toList_ofList]
  rfl

theorem Begins.append {c : Char} {line : String} (h : Begins c line) (more : String) :
    Begins c (line ++ more) := by
  rw [Begins, String.toList_append, List.head?_append, h]
  rfl

theorem Begins.quiet {c : Char} {line : String} (h : Begins c line) (hc : c ≠ 'D') :
    announces line = false := by
  have hd : "Done! ".toList = 'D' :: "one! ".toList := rfl
  rw [announces, hd]
  cases hl : line.toList with
  | nil => rfl
  | cons c' rest =>
    rw [Begins, hl] at h
    cases h
    rw [List.isPrefixOf, beq_false_of_ne hc.symm, Bool.false_and]

namespace Quiet

theorem nil : Quiet [] := List.forall_mem_nil _

theorem append {lines more : List String} (h : Quiet lines) (hm : Quiet more) :
    Quiet (lines ++ more) :=
  List.forall_mem_append.mpr ⟨h, hm⟩

theorem verbosely {s : Settings} {lines : List String} (h : Quiet lines) :
    Quiet (verbosely s lines) := by
  rw [Command.verbosely]
  split
  · exact h
  · exact nil

theorem announces {r : Report} (h : Quiet r.progress) : r.announces = false :=
  List.any_eq_false.mpr fun line hl => by rw [h line hl]; decide

end Quiet

/-- No line of the help begins with the first letter of the last line of a run; some are empty. -/
theorem helpLines_quiet : Quiet helpLines := by
  have blank : announces "" = false := rfl
  have line (c : Char) (hc : c ≠ 'D')
      (cs : List Char) : announces (String.ofList (c :: cs)) = false :=
    (begins_ofList c cs).quiet hc
  have indented := line ' ' (by decide)
  rw [Quiet, helpLines, usageLine]
  simp only [List.forall_mem_cons]
  exact ⟨line 'U' (by decide) _, blank, indented _, blank, indented _, indented _, blank,
    indented _, blank, indented _, blank, indented _, blank, indented _, blank,
    line 'O' (by decide) _, indented _, indented _, indented _, indented _, indented _, indented _,
    indented _, indented _, indented _, indented _, indented _, List.forall_mem_nil _⟩

theorem headLines_quiet (w : Workspace) (s : Settings) : Quiet (headLines w s) := by
  have hverb : ∃ c, c ≠ 'D' ∧
      Begins c (if Address.isEndpoint s.source then "Fetching" else "Loading") := by
    split
    · exact ⟨'F', by decide, begins_ofList _ _⟩
    · exact ⟨'L', by decide, begins_ofList _ _⟩
  obtain ⟨c, hc, hv⟩ := hverb
  have hsource : Begins 'S' "Source: " := begins_ofList _ _
  have houtput : Begins 'O' "Output: " := begins_ofList _ _
  have hdepth : Begins 'M' "Max Depth: " := begins_ofList _ _
  rw [Quiet, headLines]
  simp only [List.forall_mem_cons]
  exact ⟨(hsource.append _).quiet (by decide), (houtput.append _).quiet (by decide),
    (hdepth.append _).quiet (by decide), (((hv.append _).append _).append _).quiet hc,
    List.forall_mem_nil _⟩

theorem schemaLines_quiet (schema : Schema) : Quiet (schemaLines schema) := by
  have ht : Begins ' ' "  Types: " := begins_ofList _ _
  have hq : Begins ' ' "  Queries: " := begins_ofList _ _
  have hm : Begins ' ' "  Mutations: " := begins_ofList _ _
  rw [Quiet, schemaLines]
  simp only [List.forall_mem_cons]
  exact ⟨(ht.append _).quiet (by decide), (hq.append _).quiet (by decide),
    (hm.append _).quiet (by decide), List.forall_mem_nil _⟩

theorem draftLines_quiet (d : Draft) : Quiet (draftLines d) := by
  have ho : Begins ' ' "  Operations: " := begins_ofList _ _
  have hd : Begins ' ' "  Depth used: " := begins_ofList _ _
  have hf : Begins ' ' "  Formatted: " := begins_ofList _ _
  rw [Quiet, draftLines]
  simp only [List.forall_mem_cons]
  exact ⟨(ho.append _).quiet (by decide), (hd.append _).quiet (by decide),
    (hf.append _).quiet (by decide), List.forall_mem_nil _⟩

theorem announces_append {line : String} (h : announces line = true) (more : String) :
    announces (line ++ more) = true := by
  rw [announces, List.isPrefixOf_iff_prefix] at h ⊢
  rw [String.toList_append]
  exact h.trans (List.prefix_append _ _)

theorem doneLine_announces (d : Draft) (p : Path) : announces (doneLine d p) = true := by
  have hd : announces "Done! Generated " = true := rfl
  exact announces_append (announces_append (announces_append hd _) _) _

structure Asks (scanned : Scanned) (s : Settings) : Prop where
  source : scanned.positional.head? = some s.source
  output : s.output = scanned.positional[1]?.filter (!·.isEmpty)
  few : scanned.positional.length ≤ 2
  depth : (scanned.last? .depth = none ∧ s.depth = 7) ∨
    ∃ text, scanned.last? .depth = some text ∧ Numeral.int? text = some (s.depth : Int)
  skipDeprecated : s.skipDeprecated = scanned.has .skipDeprecated
  format : s.format = !scanned.has .noFormat

theorem output_eq_ok {w : Workspace} {text : Option String} {out : Option String}
    (h : output w text = .ok out) : out = text.filter (!·.isEmpty) := by
  cases text with
  | none =>
    cases h
    rfl
  | some t =>
    rw [output] at h
    split at h
    · cases h
    · split at h
      · cases h
      · split at h
        · next he =>
          cases h
          rw [Option.filter_some, he]
          rfl
        · next he =>
          cases h
          rw [Option.filter_some, eq_false_of_ne_true he]
          rfl

theorem depth_eq_ok {scanned : Scanned} {n : Nat} (h : depth scanned = .ok n) :
    (scanned.last? .depth = none ∧ n = 7) ∨
      ∃ text, scanned.last? .depth = some text ∧ Numeral.int? text = some (n : Int) := by
  rw [depth] at h
  split at h
  · next hl =>
    cases h
    exact .inl ⟨hl, rfl⟩
  · next text hl =>
    split at h
    · cases h
    · next m hm =>
      split at h
      · cases h
      · next hn =>
        cases h
        exact .inr ⟨text, hl, by rw [hm, Int.toNat_of_nonneg (Int.not_lt.mp hn)]⟩

theorem settings_eq_ok {w : Workspace} {environment : Option String} {scanned : Scanned}
    {s : Settings} (h : settings w environment scanned = .ok s) : Asks scanned s := by
  rw [settings] at h
  obtain ⟨-, -, h⟩ := bind_eq_ok.mp h
  cases hp : scanned.positional with
  | nil =>
    rw [hp] at h
    cases h
  | cons source others =>
    rw [hp] at h
    obtain ⟨out, hout, h⟩ := bind_eq_ok.mp h
    by_cases hl : 1 < others.length
    · rw [if_pos hl] at h
      cases h
    · rw [if_neg hl] at h
      obtain ⟨hs, -, h⟩ := bind_eq_ok.mp h
      obtain ⟨n, hd, h⟩ := bind_eq_ok.mp h
      cases h
      have hfirst : others.head? = scanned.positional[1]? := by
        rw [hp, List.getElem?_cons_succ, List.head?_eq_getElem?]
      exact {
        source := by rw [hp]; rfl
        output := by rw [output_eq_ok hout, hfirst]
        few := by rw [hp, List.length_cons]; omega
        depth := depth_eq_ok hd
        skipDeprecated := rfl
        format := rfl }

theorem load_described {i : Invocation} {s : Settings} {schema : Schema}
    (h : (load i s).schema = .ok schema) : ∃ payload, Schema.ofPayload payload = .ok schema := by
  rw [load] at h
  split at h
  · replace h := eq_ok_of_mapError h
    rw [Endpoint.fetchSchema] at h
    obtain ⟨reply, -, h⟩ := bind_eq_ok.mp h
    rw [Reply.schema] at h
    split at h
    · cases h
    · next payload _ => exact ⟨payload, eq_ok_of_mapError h⟩
  · replace h := eq_ok_of_mapError h
    unfold Schema.ofFile at h
    split at h
    · cases h
    · cases h
    · split at h
      · cases h
      · next payload _ => exact ⟨payload, eq_ok_of_mapError h⟩

/-- Nothing stops the run: its command line is understood, there is a schema, a draft of it, and
room for the file. -/
structure Completes (i : Invocation) (scanned : Scanned) (s : Settings) (schema : Schema)
    (d : Draft) : Prop where
  understood : scan i.args = .ok scanned
  works : scanned.shows? = none
  settings : settings i.workspace i.token scanned = .ok s
  source : checkSource i.workspace s = .ok ()
  loaded : (load i s).schema = .ok schema
  drafted : s.options.draft schema i.faults = .ok d
  writable : i.workspace.writeFault? (outputPath i.workspace s) = none

theorem Completes.run {i : Invocation} {scanned : Scanned} {s : Settings} {schema : Schema}
    {d : Draft} (h : Completes i scanned s schema d) :
    (run i).ending = .done ∧ (run i).written = some (outputPath i.workspace s, d.document) ∧
      ∃ lines, (run i).progress = lines ++ [doneLine d (outputPath i.workspace s)] := by
  unfold Command.run
  simp only [h.understood, h.works, h.settings, h.source, generate, h.loaded, h.drafted, deliver,
    h.writable, true_and]
  exact ⟨_, rfl⟩

def Report.Idle (r : Report) : Prop := r.written = none ∧ Quiet r.progress

theorem deliver_cases (i : Invocation) (s : Settings) (d : Draft) {before : Report}
    (h : before.Idle) :
    i.workspace.writeFault? (outputPath i.workspace s) = none ∨ (deliver i s d before).Idle := by
  rw [deliver]
  split
  · exact .inr ⟨h.1, h.2.append (draftLines_quiet d).verbosely⟩
  · next hf => exact .inl hf

theorem generate_cases (i : Invocation) (s : Settings) :
    (∃ schema d, (load i s).schema = .ok schema ∧ s.options.draft schema i.faults = .ok d ∧
      i.workspace.writeFault? (outputPath i.workspace s) = none) ∨ (generate i s).Idle := by
  have hhead := headLines_quiet i.workspace s
  rw [generate]
  dsimp only
  split
  · exact .inr ⟨rfl, hhead⟩
  · next schema hl =>
    have hlines : Quiet
        (headLines i.workspace s ++ verbosely s (schemaLines schema) ++
          ["Generating operations..."]) :=
      (hhead.append (schemaLines_quiet schema).verbosely).append (List.forall_mem_singleton.mpr rfl)
    split
    · exact .inr ⟨rfl, hlines⟩
    · next d hd =>
      have hbefore : (Report.mk _ [] .done (load i s).requests none).Idle := ⟨rfl, hlines⟩
      obtain hw | hidle := deliver_cases i s d hbefore
      · exact .inl ⟨schema, d, hl, hd, hw⟩
      · exact .inr hidle

theorem run_cases (i : Invocation) :
    (∃ scanned s schema d, Completes i scanned s schema d) ∨ (run i).Idle := by
  unfold run
  split
  · exact .inr ⟨rfl, Quiet.nil⟩
  · next scanned hscan =>
    split
    · exact .inr ⟨rfl, by decide⟩
    · exact .inr ⟨rfl, helpLines_quiet⟩
    · next hshows =>
      split
      · exact .inr ⟨rfl, Quiet.nil⟩
      · next s hsettings =>
        split
        · exact .inr ⟨rfl, Quiet.nil⟩
        · next hsource =>
          obtain ⟨schema, d, hl, hd, hw⟩ | hidle := generate_cases i s
          · exact .inl ⟨scanned, s, schema, d, hscan, hshows, hsettings, hsource, hl, hd, hw⟩
          · exact .inr hidle

theorem Completes.announces {i : Invocation} {scanned : Scanned} {s : Settings} {schema : Schema}
    {d : Draft} (h : Completes i scanned s schema d) : (Command.run i).announces = true := by
  obtain ⟨-, -, lines, hp⟩ := h.run
  rw [Report.announces, hp, List.any_append, Bool.or_eq_true]
  exact .inr (by rw [List.any_cons, doneLine_announces, Bool.true_or])

/-- What a run that comes to its end was asked for, what it says, and what becomes of the files. -/
structure Delivers (i : Invocation) (scanned : Scanned) (s : Settings) (d : Draft) : Prop where
  asked : Asks scanned s
  options : s.options = ⟨s.depth, 7, 50000000, scanned.has .skipDeprecated, !scanned.has .noFormat⟩
  path : outputPath i.workspace s =
    i.workspace.resolve ((scanned.positional[1]?.filter (!·.isEmpty)).getD "query.graphql")
  ending : (run i).ending = .done
  written : (run i).written = some (outputPath i.workspace s, d.document)
  said : ∃ n, Counts d.document n ∧ (run i).progress.getLast? =
    some ("Done! Generated " ++ Nat.repr n ++ " operations in " ++ (outputPath i.workspace s).text)
  held : Workspace.entry? (i.workspace.after (run i).written) (outputPath i.workspace s) =
    some (.file (d.document.flatMap Text.Percent.bytes))
  others : ∀ q, q ≠ outputPath i.workspace s →
    Workspace.entry? (i.workspace.after (run i).written) q = i.workspace.entry? q ∨
      (q <+: outputPath i.workspace s ∧ i.workspace.entry? q = none ∧
        Workspace.entry? (i.workspace.after (run i).written) q = some .directory)

theorem Completes.delivers {i : Invocation} {scanned : Scanned} {s : Settings} {schema : Schema}
    {d : Draft} (h : Completes i scanned s schema d) : Delivers i scanned s d := by
  have ha := settings_eq_ok h.settings
  obtain ⟨payload, hschema⟩ := load_described h.loaded
  have hcount : Counts d.document d.operationCount :=
    draft_counted hschema s.options (Int.natCast_nonneg s.depth)
      (Int.natCast_nonneg 7) i.faults h.drafted
  obtain ⟨hend, hwritten, lines, hlines⟩ := h.run
  exact {
    asked := ha
    options := by
      rw [Settings.options, ha.skipDeprecated, ha.format]
      rfl
    path := by
      rw [outputPath, ha.output]
      rfl
    ending := hend
    written := hwritten
    said := by
      refine ⟨d.operationCount, hcount, ?_⟩
      rw [hlines, List.getLast?_concat]
      rfl
    held := by
      rw [hwritten]
      exact i.workspace.entry?_after_self _ _
    others := by
      rw [hwritten]
      exact fun q hq => i.workspace.entry?_after_ne hq _ }

/-- A run says that it is done if and only if nothing stopped it, and only then is there a file that
it has written. -/
structure WritesLast (i : Invocation) : Prop where
  done : (run i).announces = true ↔ ∃ scanned s schema d, Completes i scanned s schema d
  untouched : (run i).announces = false →
    (run i).written = none ∧ i.workspace.after (run i).written = i.workspace
  delivers : ∀ scanned s schema d, Completes i scanned s schema d → Delivers i scanned s d

theorem run_writes_last (i : Invocation) : WritesLast i where
  done := by
    obtain ⟨scanned, s, schema, d, h⟩ | hidle := run_cases i
    · exact ⟨fun _ => ⟨scanned, s, schema, d, h⟩, fun _ => h.announces⟩
    · refine ⟨fun ha => ?_, fun ⟨_, _, _, _, h⟩ => h.announces⟩
      rw [hidle.2.announces] at ha
      cases ha
  untouched := by
    intro hn
    obtain ⟨scanned, s, schema, d, h⟩ | hidle := run_cases i
    · rw [h.announces] at hn
      cases hn
    · rw [hidle.1]
      exact ⟨rfl, rfl⟩
  delivers := fun _ _ _ _ h => h.delivers

end Command

namespace Sample

def answerText : List Char :=
  "\x7b\"__schema\":\x7b\"queryType\":\x7b\"name\":\"Q\"\x7d,\"types\":[".toList ++
  "\x7b\"kind\":\"SCALAR\",\"name\":\"Int\"\x7d,".toList ++
  "\x7b\"kind\":\"OBJECT\",\"name\":\"Q\",\"interfaces\":[],\"fields\":[".toList ++
  "\x7b\"name\":\"a\",\"args\":[],\"type\":".toList ++
  "\x7b\"kind\":\"SCALAR\",\"name\":\"Int\"\x7d\x7d]\x7d]\x7d\x7d".toList

def workspace : Workspace :=
  ⟨["home"], [(["home", "answer.json"], .file (answerText.flatMap Text.Percent.bytes))]⟩

def invocation : Command.Invocation := ⟨["answer.json", "--no-format"], workspace, none, [], .none⟩

theorem invocation_writes :
    (Command.run invocation).written.map Prod.fst = some ["home", "query.graphql"] := by
  decide +kernel

end Sample

namespace Command

theorem run_writes_last_file :
    ∃ scanned s schema d, Completes Sample.invocation scanned s schema d ∧
      Delivers Sample.invocation scanned s d ∧
      outputPath Sample.workspace s = ["home", "query.graphql"] := by
  have hp := Sample.invocation_writes
  have hr := run_writes_last Sample.invocation
  have ha : (run Sample.invocation).announces = true := by
    cases hn : (run Sample.invocation).announces with
    | true => rfl
    | false =>
      rw [(hr.untouched hn).1] at hp
      cases hp
  obtain ⟨scanned, s, schema, d, h⟩ := hr.done.mp ha
  have hd := hr.delivers scanned s schema d h
  rw [hd.written] at hp
  exact ⟨scanned, s, schema, d, h, hd, Option.some.inj hp⟩

end Command

end QueryDraft
