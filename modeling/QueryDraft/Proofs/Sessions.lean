import QueryDraft.Http.Session
import QueryDraft.Proofs.Outcome

namespace QueryDraft

namespace Session

/-- As many connections were opened as were closed, but for one that is open. -/
def Balanced (s : Session) : Prop :=
  s.history.count .opened = s.history.count .closed + if s.isOpen then 1 else 0

variable {s : Session}

theorem start_balanced : start.Balanced := rfl

theorem connect_balanced (h : s.Balanced) : s.connect.Balanced ∧ s.connect.isOpen = true := by
  rw [connect]
  split
  · next ho => exact ⟨h, ho⟩
  · next ho => simpa [Balanced, ho] using h

theorem post_balanced (h : s.Balanced) (r : Request) : (s.post r).Balanced := by
  obtain ⟨hc, -⟩ := connect_balanced h
  rw [Balanced, post, List.count_cons_of_ne (by simp), List.count_cons_of_ne (by simp)]
  exact hc

theorem close_balanced (h : s.Balanced) : s.close.Balanced := by
  rw [close]
  split
  · next ho => simpa [Balanced, ho] using h
  · exact h

theorem isOpen_close (s : Session) : s.close.isOpen = false := by
  rw [close]
  split
  · rfl
  · next ho => simpa using ho

theorem exchange_balanced (h : s.Balanced) (e : Endpoint) (replies : List Reply) :
    (s.exchange e replies).2.1.Balanced := by
  rw [exchange]
  split
  · split
    · exact (connect_balanced h).1
    · next r _ => exact post_balanced h r
  · exact h

@[simp] theorem requests_start : start.requests = [] := rfl

@[simp] theorem requests_connect (s : Session) : s.connect.requests = s.requests := by
  rw [connect]
  split
  · rfl
  · simp [requests]

@[simp] theorem requests_post (s : Session) (r : Request) :
    (s.post r).requests = s.requests ++ [r] := by
  have hp : (s.post r).requests = s.connect.requests ++ [r] := by simp [requests, post]
  rw [hp, requests_connect]

@[simp] theorem requests_close (s : Session) : s.close.requests = s.requests := by
  rw [close]
  split
  · simp [requests]
  · rfl

end Session

def BodyFault.TooDeep : BodyFault → Prop
  | .json fault _ => fault.cause.limit? = some .nesting
  | .encoding _ => False

inductive Fetched : Reply → Except FetchError Json → Prop where
  | network (text : String) : Fetched (.failure text) (.error (.network text))
  | breakdown (name text : String) : Fetched (.breakdown name text) (.error (.breakdown name text))
  | status {code : Int} (hc : code < 200 ∨ 300 ≤ code) (body : List Nat) :
      Fetched (.answer code body) (.error (.status code))
  | decoded {code : Int} (hc : 200 ≤ code ∧ code < 300) {body : List Nat} {v : Json}
      (hd : decodeBody body = .ok v) :
      Fetched (.answer code body) (.ok v)
  | malformed {code : Int} (hc : 200 ≤ code ∧ code < 300) {body : List Nat} {fault : BodyFault}
      (hd : decodeBody body = .error fault) (hf : ¬ fault.TooDeep) :
      Fetched (.answer code body) (.error (.body fault))
  | nested {code : Int} (hc : 200 ≤ code ∧ code < 300) {body : List Nat} {fault : Json.Fault}
      {text : List Char}
      (hd : decodeBody body = .error (.json fault text))
      (hf : BodyFault.TooDeep (.json fault text)) :
      Fetched (.answer code body) (.error (.nested fault.cause))

theorem fetched_json (r : Reply) : Fetched r r.json := by
  cases r with
  | failure text => exact .network text
  | breakdown name text => exact .breakdown name text
  | answer code body =>
    rw [Reply.json]
    split
    · next hs =>
      have hc : 200 ≤ code ∧ code < 300 := by simpa [Status.isSuccess] using hs
      cases hd : decodeBody body with
      | ok v => exact .decoded hc hd
      | error fault =>
        cases fault with
        | encoding fault => exact .malformed hc hd id
        | json fault text =>
          change Fetched _ (.error (FetchError.ofBody (.json fault text)))
          rw [FetchError.ofBody]
          split
          · next hf => exact .nested hc hd hf
          · next hf => exact .malformed hc hd hf
    · next hs =>
      have hc : code < 200 ∨ 300 ≤ code := by
        simp only [Status.isSuccess, Bool.and_eq_true, decide_eq_true_eq] at hs
        omega
      exact .status hc body

inductive Answered : Action → Reply → Outcome → Prop where
  | body {r : Reply} {v : Json} (hf : Fetched r (.ok v)) : Answered .fetchIntrospection r (.body v)
  | schema {r : Reply} {v : Json} (hf : Fetched r (.ok v)) {s : Schema}
      (hs : Schema.ofPayload v = .ok s) :
      Answered .fetchSchema r (.schema s)
  | unloaded {r : Reply} {v : Json} (hf : Fetched r (.ok v)) {cause : LoadError}
      (hs : Schema.ofPayload v = .error cause) : Answered .fetchSchema r (.failed (.load cause))
  | failed {action : Action} (ha : action ≠ .close) {r : Reply} {cause : FetchError}
      (hf : Fetched r (.error cause)) :
      Answered action r (.failed cause)
  | closed (r : Reply) : Answered .close r .closed

def Action.outcome : Action → Reply → Outcome
  | .fetchIntrospection, r => .ofBody r.json
  | .fetchSchema, r => .ofSchema r.schema
  | .close, _ => .closed

theorem answered_outcome (action : Action) (r : Reply) : Answered action r (action.outcome r) := by
  have hf := fetched_json r
  cases action with
  | close => exact .closed r
  | fetchIntrospection =>
    rw [Action.outcome]
    cases hr : r.json with
    | error cause => exact .failed (by simp) (hr ▸ hf)
    | ok v => exact .body (hr ▸ hf)
  | fetchSchema =>
    rw [Action.outcome, Reply.schema]
    cases hr : r.json with
    | error cause => exact .failed (by simp) (hr ▸ hf)
    | ok v =>
      dsimp only
      cases hs : Schema.ofPayload v with
      | error cause => exact .unloaded (hr ▸ hf) hs
      | ok s => exact .schema (hr ▸ hf) hs

def fetches (actions : List Action) : Nat := actions.countP (· ≠ .close)

theorem fetches_cons (action : Action) (rest : List Action) :
    fetches (action :: rest) = fetches [action] + fetches rest := by
  rw [fetches, fetches, fetches, ← List.countP_append, List.singleton_append]

/-- The reply to a request that `n` requests were made before. -/
def replyTo (replies : List Reply) (n : Nat) : Reply := replies.getD n (.failure "")

theorem replyTo_drop (replies : List Reply) (m n : Nat) :
    replyTo (replies.drop m) n = replyTo replies (m + n) := by
  simp [replyTo, List.getD_eq_getElem?_getD, List.getElem?_drop]

theorem next_eq (replies : List Reply) :
    Reply.next replies = (replyTo replies 0, replies.drop 1) := by
  cases replies with
  | nil => rfl
  | cons r rest => rfl

namespace Session

theorem step_balanced {s : Session} (h : s.Balanced) (e : Endpoint) (action : Action)
    (replies : List Reply) : (step e action replies s).2.1.Balanced := by
  cases action with
  | close => exact close_balanced h
  | fetchIntrospection => exact exchange_balanced h e replies
  | fetchSchema => exact exchange_balanced h e replies

variable {e : Endpoint} {a : Address}

theorem exchange_eq (hc : e.canConnect = true) (ha : Address.ofText e.address = .ok a)
    (replies : List Reply) (s : Session) :
    s.exchange e replies = (.ok (replyTo replies 0), s.post (e.requestTo a), replies.drop 1) := by
  have hr : e.request = .ok (e.requestTo a) := by rw [Endpoint.request, ha, Except.map]
  simp only [exchange, hc, if_true, hr, next_eq]

/-- One action posts its request, takes one reply for it, and depends on nothing else. -/
theorem step_eq (hc : e.canConnect = true) (ha : Address.ofText e.address = .ok a) (action : Action)
    (replies : List Reply) (s : Session) :
    ∃ after, step e action replies s =
      (action.outcome (replyTo replies 0), after, replies.drop (fetches [action])) ∧
      after.requests = s.requests ++ List.replicate (fetches [action]) (e.requestTo a) := by
  cases action with
  | close =>
    refine ⟨s.close, rfl, ?_⟩
    rw [requests_close]
    exact (List.append_nil _).symm
  | fetchIntrospection =>
    refine ⟨s.post (e.requestTo a), ?_, requests_post s _⟩
    rw [step, exchange_eq hc ha]
    rfl
  | fetchSchema =>
    refine ⟨s.post (e.requestTo a), ?_, requests_post s _⟩
    rw [step, exchange_eq hc ha]
    rfl

theorem run_singleton (hc : e.canConnect = true) (ha : Address.ofText e.address = .ok a)
    (action : Action) (r : Reply) :
    ∃ after, run e [action] [r] .start = [(action.outcome r, after)] := by
  obtain ⟨after, hs, -⟩ := step_eq hc ha action [r] .start
  refine ⟨after, ?_⟩
  rw [run, hs]
  rfl

theorem length_run (e : Endpoint) (actions : List Action) (replies : List Reply) (s : Session) :
    (run e actions replies s).length = actions.length := by
  induction actions generalizing replies s with
  | nil => rfl
  | cons action rest ih => rw [run, List.length_cons, List.length_cons, ih]

theorem run_getElem? (hc : e.canConnect = true) (ha : Address.ofText e.address = .ok a)
    {actions : List Action} (replies : List Reply) {s : Session} (hs : s.Balanced) {i : Nat}
    {action : Action} (hi : actions[i]? = some action) :
    ∃ after, (run e actions replies s)[i]? =
        some (action.outcome (replyTo replies (fetches (actions.take i))), after) ∧
      after.Balanced ∧
      after.requests = s.requests ++ List.replicate (fetches (actions.take (i + 1)))
        (e.requestTo a) := by
  induction actions generalizing replies s i with
  | nil => cases hi
  | cons first rest ih =>
    obtain ⟨after, hstep, hr⟩ := step_eq hc ha first replies s
    have hb : after.Balanced := by
      have h := step_balanced hs e first replies
      rwa [hstep] at h
    rw [run, hstep]
    cases i with
    | zero =>
      cases hi
      exact ⟨after, rfl, hb, hr⟩
    | succ i =>
      -- The rest runs from the session and with the replies that the first action leaves.
      obtain ⟨last, hl, hlb, hlr⟩ := ih (replies.drop (fetches [first])) hb hi
      refine ⟨last, ?_, hlb, ?_⟩
      · rw [List.getElem?_cons_succ, hl, List.take_succ_cons, fetches_cons first (rest.take i),
          replyTo_drop]
      · rw [hlr, hr, List.take_succ_cons, fetches_cons first (rest.take (i + 1)),
          ← List.replicate_append_replicate, List.append_assoc]

end Session

theorem Endpoint.fetchSchema_eq {e : Endpoint} (hc : e.canConnect = true) {a : Address}
    (ha : Address.ofText e.address = .ok a) (replies : List Reply) :
    e.fetchSchema replies =
      ((replyTo replies 0).schema, (Session.start.post (e.requestTo a)).close) := by
  rw [Endpoint.fetchSchema, Session.exchange_eq hc ha]
  rfl

/-- A whole run: each action in turn, the session after it, and what it gives. -/
structure Endpoint.Course (e : Endpoint) (a : Address) (actions : List Action)
    (replies : List Reply) : Prop where
  length : (Session.run e actions replies .start).length = actions.length
  each : ∀ i action, actions[i]? = some action → ∃ outcome after,
    (Session.run e actions replies .start)[i]? = some (outcome, after) ∧ after.Balanced ∧
      after.requests = List.replicate (fetches (actions.take (i + 1))) (e.requestTo a) ∧
      outcome = action.outcome (replyTo replies (fetches (actions.take i))) ∧
      Answered action (replyTo replies (fetches (actions.take i))) outcome
  brief : (e.fetchSchema replies).2.requests = [e.requestTo a] ∧
    Answered .fetchSchema (replyTo replies 0) (.ofSchema (e.fetchSchema replies).1)
  request : (e.requestTo a).address = a.target ∧ (e.requestTo a).query = Introspection.query ∧
    (a.credentials? = none → (e.requestTo a).headers = e.requestHeaders)

/-- A session that is opened for one fetch and closed at its end, whatever this gives. -/
def Endpoint.Released (e : Endpoint) (replies : List Reply) : Prop :=
  (e.fetchSchema replies).2.isOpen = false ∧ (e.fetchSchema replies).2.Balanced

theorem Endpoint.released (e : Endpoint) (replies : List Reply) : e.Released replies := by
  have hb := Session.exchange_balanced Session.start_balanced e replies
  exact ⟨Session.isOpen_close _, Session.close_balanced hb⟩

/-- Whatever an endpoint answers, its session posts the same request at each fetch, and what comes
of it depends on the reply to it alone. -/
theorem session_runs {e : Endpoint} (hc : e.canConnect = true) {a : Address}
    (ha : Address.ofText e.address = .ok a) (actions : List Action) (replies : List Reply) :
    e.Course a actions replies ∧
    ∀ (other : Endpoint) (replies : List Reply), other.Released replies := by
  refine ⟨⟨Session.length_run e actions replies .start, fun i action hi => ?_, ?_, ?_⟩,
    Endpoint.released⟩
  · obtain ⟨after, hr, hb, hp⟩ := Session.run_getElem? hc ha replies Session.start_balanced hi
    rw [Session.requests_start, List.nil_append] at hp
    exact ⟨_, after, hr, hb, hp, rfl, answered_outcome action _⟩
  · rw [Endpoint.fetchSchema_eq hc ha]
    exact ⟨by simp, answered_outcome .fetchSchema _⟩
  · refine ⟨rfl, rfl, fun hn => ?_⟩
    rw [Endpoint.requestTo, hn]

namespace Sample

def address : Address := ⟨"http".toList, [], "api".toList, none, "/".toList, none, none⟩

theorem ofText_address : Address.ofText "http://api/" = .ok address := by rfl

def endpoint : Endpoint := ⟨"http://api/", .bearer "t", [("X-Tenant", "a")]⟩

theorem canConnect_endpoint : endpoint.canConnect = true := by decide

end Sample

/-- A fetch that fails, a connection that is opened again, and one action more than there are
replies for. -/
theorem session_runs_again :
    Sample.endpoint.canConnect = true ∧
      Address.ofText Sample.endpoint.address = .ok Sample.address ∧
      Sample.endpoint.Course Sample.address
        [.fetchIntrospection, .close, .fetchSchema, .fetchIntrospection]
        [.failure "down", .answer 200 [0x7b, 0x7d]] ∧
      ∀ (other : Endpoint) (replies : List Reply), other.Released replies :=
  ⟨Sample.canConnect_endpoint, Sample.ofText_address,
    session_runs Sample.canConnect_endpoint Sample.ofText_address
      [.fetchIntrospection, .close, .fetchSchema, .fetchIntrospection]
      [.failure "down", .answer 200 [0x7b, 0x7d]]⟩

def unclosed (n : Nat) : List Char := List.replicate n '['

theorem skipSpace_unclosed (n : Nat) : Json.skipSpace (unclosed n) = unclosed n := by
  cases n with
  | zero => rfl
  | succ n => rfl

theorem value_unclosed (n room : Nat) {fuel : Nat} (h : 2 * n < fuel) :
    Json.value fuel room (unclosed n) =
      .error (if room < n then ⟨.nestedArray, unclosed (n - room)⟩ else ⟨.value, []⟩) := by
  induction n generalizing room fuel with
  | zero =>
    obtain ⟨f, rfl⟩ := Nat.exists_eq_add_of_lt h
    rfl
  | succ n ih =>
    -- A bracket takes two calls, one for the array and one for its items.
    obtain ⟨f, rfl⟩ : ∃ f, fuel = f + 2 := ⟨fuel - 2, by omega⟩
    have hf : 2 * n < f := by omega
    cases room with
    | zero =>
      rw [if_pos (Nat.succ_pos n)]
      rfl
    | succ room =>
      have hv : Json.value (f + 2) (room + 1) (unclosed (n + 1)) =
          Json.items (f + 1) room [] (unclosed n) := by
        cases n with
        | zero => rfl
        | succ n => rfl
      rw [hv, Json.items, ih room hf]
      simp only [Nat.succ_lt_succ_iff, Nat.succ_sub_succ]

theorem utf8From_unclosed (n position : Nat) (acc : List Char) {fuel : Nat} (h : n < fuel) :
    Text.utf8From true position acc fuel (List.replicate n 0x5b) =
      .ok (acc.reverse ++ unclosed n) := by
  induction n generalizing position acc fuel with
  | zero =>
    obtain ⟨f, rfl⟩ := Nat.exists_eq_add_of_lt h
    rw [List.replicate_zero, Text.utf8From]
    simp [unclosed]
  | succ n ih =>
    obtain ⟨f, rfl⟩ : ∃ f, fuel = f + 1 := ⟨fuel - 1, by omega⟩
    have hstep : Text.utf8From true position acc (f + 1) (List.replicate (n + 1) 0x5b) =
        Text.utf8From true (position + 1) ('[' :: acc) f (List.replicate n 0x5b) := rfl
    rw [hstep, ih (position + 1) ('[' :: acc) (by omega)]
    simp [unclosed, List.replicate_succ]

theorem detect_unclosed (n : Nat) : Text.detect (List.replicate n 0x5b) = .ok (unclosed n) := by
  have hd : Text.detect (List.replicate n 0x5b) = Text.utf8 true (List.replicate n 0x5b) := by
    match n with
    | 0 => rfl
    | 1 => rfl
    | 2 => rfl
    | 3 => rfl
    | n + 4 => rfl
  rw [hd, Text.utf8, List.length_replicate, utf8From_unclosed n 0 [] (Nat.lt_succ_self n)]
  rfl

/-- A body that is not JSON, and refused before that shows. -/
theorem json_unclosed {n : Nat} (h : Json.nesting < n) {code : Int} (hc : 200 ≤ code ∧ code < 300) :
    (Reply.answer code (List.replicate n 0x5b)).json = .error (.nested .nestedArray) := by
  have hd : decodeBody (List.replicate n 0x5b) =
      .error (.json ⟨.nestedArray, unclosed (n - Json.nesting)⟩ (unclosed n)) := by
    rw [decodeBody, detect_unclosed]
    simp only [Json.readValue, skipSpace_unclosed]
    rw [value_unclosed n Json.nesting (by simp [unclosed]), if_pos h]
  have hs : Status.isSuccess code = true := by simpa [Status.isSuccess] using hc
  rw [Reply.json, if_pos hs, hd]
  rfl

/-- The decoder gives up before the end of a text that is no JSON, even with room for all of it. -/
theorem unclosed_body_breaks :
    Json.value 24001 12000 (unclosed 12000) = .error ⟨.value, []⟩ ∧
      ∃ after, Session.run Sample.endpoint [.fetchIntrospection]
        [.answer 200 (List.replicate 12000 0x5b)] .start =
        [(.failed (.nested .nestedArray), after)] := by
  constructor
  · rw [value_unclosed 12000 12000 (by decide), if_neg (by decide)]
  · obtain ⟨after, hr⟩ :=
      Session.run_singleton Sample.canConnect_endpoint Sample.ofText_address .fetchIntrospection
      (.answer 200 (List.replicate 12000 0x5b))
    rw [Action.outcome, json_unclosed (by decide) (by decide)] at hr
    exact ⟨after, hr⟩

end QueryDraft
