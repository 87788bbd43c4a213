/-
What each client of the HTTP/1.1 proxy is served, over whole runs.

A run interleaves the operations of many sessions, with calls on the routing table and the
cleanup in between. `answer` says what a client is answered from what its own session has
heard of alone: the request it has read, the table as it was then, and how its operations
towards the backend completed. Nothing of another session, and nothing of what the table
becomes later, is in it.

The invariant keeps each session where its own completions have taken it (`Serving`), and
its request object in step with its record (`Holds`): what the session writes to a backend
is what that object holds, so `every_session_served` is also about what backends get.
-/
import Http2Server.Http1Accounting

set_option autoImplicit false

open ByteString UnorderedMap

namespace Http2Server

/-! ## What a session hears of -/

/-- An operation of a session completes, with the routing table as it stands. -/
structure Heard where
  session : ℕ
  completion : Http1Completion
  table : BackendRegistry
  enumerate : Enumeration

/-- The request a completion brings, if it is that of a read from the client. -/
def Http1Completion.request : Http1Completion → Option Http1Request
  | .received_request request => some request
  | _ => none

namespace Http1ProxySession

/-- The answer when an operation towards the backend fails. -/
def badGateway (text : Bytes) : HttpMessage :=
  send_response.response 502 text (bytes "application/json")

/-- The answer a chain of operations towards a backend leads to: the backend's own when each
succeeds, else one that names the first that failed; none while there is nothing to say. -/
def backendAnswer : List Http1Completion → Option HttpMessage
  | .failed _ :: _ => some (badGateway (bytes "\x7b\"error\":\"Backend resolve failed\"\x7d"))
  | .resolved _ :: .failed _ :: _ =>
      some (badGateway (bytes "\x7b\"error\":\"Backend connection failed\"\x7d"))
  | .resolved _ :: .connected :: .failed _ :: _ =>
      some (badGateway (bytes "\x7b\"error\":\"Backend write failed\"\x7d"))
  | .resolved _ :: .connected :: .written :: .failed _ :: _ =>
      some (badGateway (bytes "\x7b\"error\":\"Backend read failed\"\x7d"))
  | .resolved _ :: .connected :: .written :: .received_response response :: _ => some response
  | _ => none

/-- **The answer**, from what a session has heard of. -/
def answer (json : JsonLibrary) : List Heard → Option HttpMessage
  | [] => none
  | first :: rest =>
      first.completion.request.bind fun request =>
        match decision json first.enumerate first.table request with
        | .send_response status_code body =>
            some (send_response.response status_code body (bytes "application/json"))
        | .forward _ => backendAnswer (rest.map Heard.completion)

/-- An answer is final: nothing heard of later changes it. -/
theorem backendAnswer_append {completions : List Http1Completion} {response : HttpMessage}
    (h : backendAnswer completions = some response) (more : List Http1Completion) :
    backendAnswer (completions ++ more) = some response := by
  revert h
  fun_cases backendAnswer completions <;> intro h
  all_goals first
    | exact h
    | cases h

theorem answer_append {json : JsonLibrary} {heard : List Heard} {response : HttpMessage}
    (h : answer json heard = some response) (more : List Heard) :
    answer json (heard ++ more) = some response := by
  cases heard with
  | nil => cases h
  | cons first rest =>
      rw [List.cons_append, answer, Option.bind_eq_some_iff]
      rw [answer, Option.bind_eq_some_iff] at h
      obtain ⟨request, hread, h⟩ := h
      refine ⟨request, hread, ?_⟩
      cases hdecision : decision json first.enumerate first.table request with
      | send_response status_code body =>
          rw [hdecision] at h
          exact h
      | forward rule =>
          rw [hdecision] at h
          dsimp only at h ⊢
          rw [List.map_append]
          exact backendAnswer_append h _

/-- A request that is answered with a response of the session's own. -/
theorem answer_of_own {json : JsonLibrary} {first : Heard} {request : Http1Request}
    {status_code : ℤ} {body : Bytes} (hread : first.completion.request = some request)
    (hdecision : decision json first.enumerate first.table request
      = .send_response status_code body) (rest : List Heard) :
    answer json (first :: rest)
      = some (send_response.response status_code body (bytes "application/json")) := by
  rw [answer, hread, Option.bind_some, hdecision]

/-- A request that is answered with what comes of the backend. -/
theorem answer_of_forward {json : JsonLibrary} {first : Heard} {request : Http1Request}
    {rule : ForwardingRule} (hread : first.completion.request = some request)
    (hdecision : decision json first.enumerate first.table request = .forward rule)
    (rest : List Heard) :
    answer json (first :: rest) = backendAnswer (rest.map Heard.completion) := by
  rw [answer, hread, Option.bind_some, hdecision]

end Http1ProxySession

/-! ## Where a session is -/

/-- On the way to a backend: what has completed so far, and what is outstanding. -/
inductive Towards (rule : ForwardingRule) : List Http1Completion → Http1Stage → Prop
  | resolve : Towards rule [] (.resolve rule)
  | connect (results : Results) : Towards rule [.resolved results] (.connect results.endpoint rule)
  | write (results : Results) : Towards rule [.resolved results, .connected] .backend_write
  | read (results : Results) : Towards rule [.resolved results, .connected, .written] .backend_read

/-- **A session is where its own completions have taken it.** -/
inductive Serving (json : JsonLibrary) : List Heard → Http1SessionObject → Prop
  | reading {session : Http1SessionObject} (hpending : session.pending = some .read_request)
      (hreceived : session.received = none) (hwrites : session.client_writes = []) :
      Serving json [] session
  | unread {first : Heard} {session : Http1SessionObject} (hread : first.completion.request = none)
      (hpending : session.pending = none) (hreceived : session.received = none)
      (hwrites : session.client_writes = []) : Serving json [first] session
  | underway {first : Heard} {rest : List Heard} {session : Http1SessionObject}
      {request : Http1Request} {rule : ForwardingRule} {stage : Http1Stage}
      (hread : first.completion.request = some request)
      (hdecision : Http1ProxySession.decision json first.enumerate first.table request
        = .forward rule)
      (htowards : Towards rule (rest.map Heard.completion) stage)
      (hpending : session.pending = some stage) (hreceived : session.received = some request)
      (hwrites : session.client_writes = []) : Serving json (first :: rest) session
  | answered {first : Heard} {rest : List Heard} {session : Http1SessionObject}
      {response : HttpMessage}
      (hanswer : Http1ProxySession.answer json (first :: rest) = some response)
      (hpending : session.pending = none ∨ session.pending = some (.client_write response))
      (hreceived : session.received = first.completion.request)
      (hwrites : session.client_writes = [response]) : Serving json (first :: rest) session

/-- A request object has what its session has on record. -/
structure Holds (session : Http1SessionObject) (request : ActiveRequest) : Prop where
  request_ : request.request_ = session.received
  response_ : request.response_ = session.client_writes.head?

namespace Http1ProxySession

variable {json : JsonLibrary} {enumerate : Enumeration} {session : Http1SessionObject}
  {request : ActiveRequest} {completion : Http1Completion} {w w' : World Unit}
  {handled : Handled} {heard : List Heard}

/-- The read from the client completes: with no request, or with one that is decided on. -/
theorem complete_read_request (hpending : session.pending = some .read_request)
    (h : complete json enumerate session request completion w = some (handled, w')) :
    (∃ message, completion = .failed message
        ∧ handled = read_failed (session.record completion) request)
      ∨ ∃ message, completion = .received_request message
        ∧ handled = act (session.record completion) (request.set_request message)
          (decision json enumerate w.registry message) := by
  simp only [complete, Http1SessionObject.record_pending, hpending] at h
  cases completion with
  | failed message =>
      obtain ⟨rfl, -⟩ := Prod.mk.inj (Option.some.inj h)
      exact Or.inl ⟨message, rfl, rfl⟩
  | received_request message =>
      dsimp only at h
      rw [exec_handle_request_eq] at h
      obtain ⟨rfl, -⟩ := Prod.mk.inj (Option.some.inj h)
      exact Or.inr ⟨message, rfl, rfl⟩
  | _ => cases h

/-- An operation towards the backend completes: the session goes on towards it, or has its
answer. -/
theorem complete_towards {rule : ForwardingRule} {before : List Http1Completion}
    {stage : Http1Stage} (htowards : Towards rule before stage)
    (hpending : session.pending = some stage)
    (h : complete json enumerate session request completion w = some (handled, w')) :
    (∃ next, Towards rule (before ++ [completion]) next
        ∧ handled.session = session.await next
        ∧ handled.request.request_ = request.request_
        ∧ handled.request.response_ = request.response_)
      ∨ ∃ response, backendAnswer (before ++ [completion]) = some response
        ∧ handled.session = session.async_write response
        ∧ handled.request.request_ = request.request_
        ∧ handled.request.response_ = some response := by
  -- what a session has on record is about its client, and none of these completions is
  have hrecord : session.record completion = session := by
    cases htowards <;> cases completion <;> simp [Http1SessionObject.record, hpending]
  simp only [complete, hrecord, hpending] at h
  cases htowards with
  | resolve =>
      cases completion with
      | failed message =>
          obtain ⟨rfl, -⟩ := Prod.mk.inj (Option.some.inj h)
          exact Or.inr ⟨_, rfl, rfl, rfl, rfl⟩
      | resolved results =>
          obtain ⟨rfl, -⟩ := Prod.mk.inj (Option.some.inj h)
          exact Or.inl ⟨_, .connect results, rfl, rfl, rfl⟩
      | _ => cases h
  | connect results =>
      cases completion with
      | failed message =>
          obtain ⟨rfl, -⟩ := Prod.mk.inj (Option.some.inj h)
          exact Or.inr ⟨_, rfl, rfl, rfl, rfl⟩
      | connected =>
          obtain ⟨rfl, -⟩ := Prod.mk.inj (Option.some.inj h)
          exact Or.inl ⟨_, .write results, rfl, rfl, rfl⟩
      | _ => cases h
  | write results =>
      cases completion with
      | failed message =>
          obtain ⟨rfl, -⟩ := Prod.mk.inj (Option.some.inj h)
          exact Or.inr ⟨_, rfl, rfl, rfl, rfl⟩
      | written =>
          obtain ⟨rfl, -⟩ := Prod.mk.inj (Option.some.inj h)
          exact Or.inl ⟨_, .read results, rfl, rfl, rfl⟩
      | _ => cases h
  | read results =>
      cases completion with
      | failed message =>
          obtain ⟨rfl, -⟩ := Prod.mk.inj (Option.some.inj h)
          exact Or.inr ⟨_, rfl, rfl, rfl, rfl⟩
      | received_response response =>
          obtain ⟨rfl, -⟩ := Prod.mk.inj (Option.some.inj h)
          exact Or.inr ⟨_, rfl, rfl, rfl, rfl⟩
      | _ => cases h

/-- The write to the client completes, and the session has ended. -/
theorem complete_client_write {response : HttpMessage}
    (hpending : session.pending = some (.client_write response))
    (h : complete json enumerate session request completion w = some (handled, w')) :
    handled.session = (session.record completion).finish
      ∧ handled.request.request_ = request.request_
      ∧ handled.request.response_ = request.response_ := by
  simp only [complete, Http1SessionObject.record_pending, hpending] at h
  cases completion with
  | failed message =>
      obtain ⟨rfl, -⟩ := Prod.mk.inj (Option.some.inj h)
      exact ⟨rfl, rfl, rfl⟩
  | written =>
      obtain ⟨rfl, -⟩ := Prod.mk.inj (Option.some.inj h)
      exact ⟨rfl, rfl, rfl⟩
  | _ => cases h

/-- A write to the client brings no request. -/
theorem record_received_of_client_write {response : HttpMessage}
    (hpending : session.pending = some (.client_write response)) :
    (session.record completion).received = session.received := by
  cases completion <;> simp [Http1SessionObject.record, hpending]

/-- After the read from the client, the session has ended, has its answer, or is on its way
to a backend. -/
theorem serving_of_read {k : ℕ} (hpending : session.pending = some .read_request)
    (hreceived : session.received = none) (hwrites : session.client_writes = [])
    (hholds : Holds session request)
    (h : complete json enumerate session request completion w = some (handled, w')) :
    Serving json [⟨k, completion, w.registry, enumerate⟩] handled.session
      ∧ Holds handled.session handled.request := by
  rcases complete_read_request hpending h with ⟨message, rfl, rfl⟩ | ⟨message, rfl, rfl⟩
  · -- the read has failed: there is nothing to answer
    have hrecord : (session.record (.failed message)).received = none := by
      simp [Http1SessionObject.record, hpending, hreceived]
    refine ⟨.unread rfl rfl hrecord ?_, ?_, ?_⟩
    · exact (Http1SessionObject.record_client_writes _ _).trans hwrites
    · exact hholds.request_.trans (hreceived.trans hrecord.symm)
    · rw [read_failed, Http1SessionObject.finish_client_writes,
        Http1SessionObject.record_client_writes]
      exact hholds.response_
  · have hrecord : (session.record (.received_request message)).received = some message := by
      simp [Http1SessionObject.record, hpending]
    have hnone : (session.record (.received_request message)).client_writes = [] :=
      (Http1SessionObject.record_client_writes _ _).trans hwrites
    -- the decision is by the table of this moment
    cases hdecision : decision json enumerate w.registry message with
    | send_response status_code body =>
        refine ⟨.answered (answer_of_own rfl hdecision []) (Or.inr rfl) hrecord ?_, ?_, ?_⟩
        · rw [act, send_response, Http1SessionObject.async_write_client_writes, hnone]
          rfl
        · exact hrecord.symm
        · rw [act, send_response, Http1SessionObject.async_write_client_writes, hnone]
          rfl
    | forward rule =>
        refine ⟨.underway rfl hdecision .resolve rfl hrecord hnone, hrecord.symm, ?_⟩
        rw [act, Http1SessionObject.await_client_writes, hnone]
        exact hholds.response_.trans (congrArg List.head? hwrites)

/-- After an operation towards the backend, the session is still on its way, or has its
answer. -/
theorem serving_of_towards {first : Heard} {rest : List Heard} {message : Http1Request}
    {rule : ForwardingRule} {stage : Http1Stage} {k : ℕ}
    (hread : first.completion.request = some message)
    (hdecision : decision json first.enumerate first.table message = .forward rule)
    (htowards : Towards rule (rest.map Heard.completion) stage)
    (hpending : session.pending = some stage) (hreceived : session.received = some message)
    (hwrites : session.client_writes = []) (hholds : Holds session request)
    (h : complete json enumerate session request completion w = some (handled, w')) :
    Serving json (first :: (rest ++ [⟨k, completion, w.registry, enumerate⟩])) handled.session
      ∧ Holds handled.session handled.request := by
  rcases complete_towards htowards hpending h with
    ⟨next, hnext, hsession, hrequest, hresponse⟩ | ⟨response, hback, hsession, hrequest, hresponse⟩
  · rw [hsession]
    refine ⟨.underway hread hdecision ?_ rfl hreceived hwrites, ?_, ?_⟩
    · rw [List.map_append]
      exact hnext
    · exact hrequest.trans hholds.request_
    · exact hresponse.trans hholds.response_
  · rw [hsession]
    refine ⟨.answered ?_ (Or.inr rfl) (hreceived.trans hread.symm) ?_, ?_, ?_⟩
    · rw [answer_of_forward hread hdecision, List.map_append]
      exact hback
    · rw [Http1SessionObject.async_write_client_writes, hwrites, List.nil_append]
    · exact hrequest.trans hholds.request_
    · rw [hresponse, Http1SessionObject.async_write_client_writes, hwrites]
      rfl

/-- After the write to the client, the session has ended with its answer. -/
theorem serving_of_client_write {first : Heard} {rest : List Heard} {response : HttpMessage}
    {k : ℕ} (hanswer : answer json (first :: rest) = some response)
    (hpending : session.pending = some (.client_write response))
    (hreceived : session.received = first.completion.request)
    (hwrites : session.client_writes = [response]) (hholds : Holds session request)
    (h : complete json enumerate session request completion w = some (handled, w')) :
    Serving json (first :: (rest ++ [⟨k, completion, w.registry, enumerate⟩])) handled.session
      ∧ Holds handled.session handled.request := by
  obtain ⟨hsession, hrequest, hresponse⟩ := complete_client_write hpending h
  have hkept : handled.session.client_writes = session.client_writes := by
    rw [hsession, Http1SessionObject.finish_client_writes, Http1SessionObject.record_client_writes]
  have hsame : handled.session.received = session.received := by
    rw [hsession]
    exact record_received_of_client_write hpending
  refine ⟨.answered (answer_append hanswer _) (Or.inl ?_) (hsame.trans hreceived)
    (hkept.trans hwrites), ?_, ?_⟩
  · rw [hsession, Http1SessionObject.finish_pending]
  · exact hrequest.trans (hholds.request_.trans hsame.symm)
  · rw [hresponse, hkept]
    exact hholds.response_

/-- **One more completion, one more thing heard.** The session stays where its completions
have taken it, and its request object in step. -/
theorem serving_complete {k : ℕ} (hserving : Serving json heard session)
    (hholds : Holds session request)
    (h : complete json enumerate session request completion w = some (handled, w')) :
    Serving json (heard ++ [⟨k, completion, w.registry, enumerate⟩]) handled.session
      ∧ Holds handled.session handled.request := by
  obtain ⟨stage, hstage⟩ := exists_pending h
  cases hserving with
  | reading hpending hreceived hwrites =>
      exact serving_of_read hpending hreceived hwrites hholds h
  | unread hread hpending hreceived hwrites => exact nomatch hpending.symm.trans hstage
  | underway hread hdecision htowards hpending hreceived hwrites =>
      exact serving_of_towards hread hdecision htowards hpending hreceived hwrites hholds h
  | answered hanswer hpending hreceived hwrites =>
      rcases hpending with hpending | hpending
      · exact nomatch hpending.symm.trans hstage
      · exact serving_of_client_write hanswer hpending hreceived hwrites hholds h

end Http1ProxySession

/-! ## The request objects -/

namespace ActiveRequestManager

/-- The request and the response an object holds. -/
def messages (manager : ActiveRequestManager) (ptr : RequestPtr) :
    Option (Option Http1Request × Option HttpMessage) :=
  (manager.requests[ptr]?).map fun request => (request.request_, request.response_)

/-- Setting a state leaves the messages of every object. -/
theorem messages_update_set_state (manager : ActiveRequestManager) (ptr other : RequestPtr)
    (state : RequestState) :
    (manager.update ptr fun request => request.set_state state).messages other
      = manager.messages other := by
  rw [messages, messages]
  by_cases h : ptr = other
  · subst h
    rw [getElem?_update_self, Option.map_map]
    rfl
  · rw [getElem?_update_of_ne _ _ h]

/-- Completing a request leaves the messages of every object. -/
theorem messages_complete_request (manager : ActiveRequestManager) (request_id : UInt64)
    (ptr : RequestPtr) :
    (manager.complete_request request_id).messages ptr = manager.messages ptr := by
  rw [complete_request]
  split
  · exact messages_update_set_state manager _ ptr .Completed
  · rfl

theorem CleanedUp.messages {manager : ActiveRequestManager} {now : ℤ}
    {result : ActiveRequestManager × List RequestPtr} (h : CleanedUp manager now result)
    (ptr : RequestPtr) : result.1.messages ptr = manager.messages ptr := by
  by_cases hhit : ∃ id, manager.active_requests_.lookup id = some ptr ∧ manager.HasExpired now ptr
  · obtain ⟨id, hid, hexpired⟩ := hhit
    rw [ActiveRequestManager.messages, h.failed id ptr hid hexpired, Option.map_map]
    rfl
  · rw [ActiveRequestManager.messages, h.same ptr fun id hid hexpired => hhit ⟨id, hid, hexpired⟩]
    rfl

/-- A new object holds no message. -/
theorem messages_create_request_self (manager : ActiveRequestManager) (now : ℤ) :
    (manager.create_request now).1.messages manager.requests.length = some (none, none) := by
  simp [messages, create_request]

/-- Creating a request leaves the messages of the others. -/
theorem messages_create_request_of_ne (manager : ActiveRequestManager) (now : ℤ)
    {ptr : RequestPtr} (h : ptr ≠ manager.requests.length) :
    (manager.create_request now).1.messages ptr = manager.messages ptr := by
  simp only [messages, create_request]
  rcases Nat.lt_or_gt_of_ne h with hlt | hgt
  · rw [List.getElem?_append_left hlt]
  · rw [List.getElem?_eq_none_iff.mpr (Nat.le_of_lt hgt), List.getElem?_eq_none_iff.mpr (by
      rw [List.length_append, List.length_singleton]; exact hgt)]

end ActiveRequestManager

/-! ## Any number of sessions -/

namespace Http1Proxy

open Http1ProxySession

variable {json : JsonLibrary} {st st' : Http1Proxy} {log : List Heard}

/-- What is heard of an event, by the session whose operation it completes. -/
def heard (st : Http1Proxy) : Event → List Heard
  | .complete k completion enumerate => [⟨k, completion, st.world.registry, enumerate⟩]
  | _ => []

/-- Each session is where its completions have taken it, and its request object in step. -/
structure Serves (json : JsonLibrary) (st : Http1Proxy) (log : List Heard) : Prop where
  tracked : Tracked st
  heard_lt : ∀ h ∈ log, h.session < st.sessions.length
  serving : ∀ (k : ℕ) (session : Http1SessionObject), st.sessions[k]? = some session →
    Serving json (Pool.owned Heard.session log k) session
  messages : ∀ (k : ℕ) (session : Http1SessionObject), st.sessions[k]? = some session →
    st.manager.messages k = some (session.received, session.client_writes.head?)

theorem serves_start (registry : BackendRegistry) : Serves json (start registry) [] where
  tracked := tracked_start registry
  heard_lt := fun _ h => absurd h List.not_mem_nil
  serving := by simp [start]
  messages := by simp [start]

/-- A new session has heard of nothing. -/
theorem Serves.accept (h : Serves json st log) (now : ℤ) : Serves json (st.accept now) log := by
  have hlen : (st.accept now).sessions.length = st.sessions.length + 1 := List.length_append
  have hmessages : ∀ k, (st.accept now).manager.messages k
      = (st.manager.create_request now).1.messages k :=
    fun k => ActiveRequestManager.messages_update_set_state _ _ k .Parsing
  refine ⟨h.tracked.accept now, fun e he => ?_, fun k session hsession => ?_,
    fun k session hsession => ?_⟩
  · exact lt_of_lt_of_eq (Nat.lt_succ_of_lt (h.heard_lt e he)) hlen.symm
  · rcases Record.getElem?_concat_cases hsession with hold | ⟨rfl, rfl⟩
    · exact h.serving k session hold
    · rw [Pool.owned_eq_nil fun e he => (h.heard_lt e he).ne]
      exact .reading rfl rfl rfl
  · rw [hmessages]
    rcases Record.getElem?_concat_cases hsession with hold | ⟨rfl, rfl⟩
    · have hne : k ≠ st.manager.requests.length :=
        h.tracked.length ▸ (List.getElem?_eq_some_iff.mp hold).1.ne
      rw [ActiveRequestManager.messages_create_request_of_ne _ _ hne]
      exact h.messages k session hold
    · rw [h.tracked.length, ActiveRequestManager.messages_create_request_self]
      rfl

/-- A completion is heard of by its own session, and by no other. -/
theorem Serves.complete {k : ℕ} {completion : Http1Completion} {enumerate : Enumeration}
    (h : Serves json st log)
    (hstep : step json st (.complete k completion enumerate) = some st') :
    Serves json st' (log ++ [⟨k, completion, st.world.registry, enumerate⟩]) := by
  have htracked := h.tracked.complete hstep
  obtain ⟨session, request, handled, world, hsession, hrequest, hcomplete, rfl⟩ :=
    step_complete_eq_some hstep
  obtain ⟨hptr, -⟩ := Http1ProxySession.complete_ids hcomplete
  have hown : session.active_request_ = k := h.tracked.own k session hsession
  have hlt : k < st.sessions.length := (List.getElem?_eq_some_iff.mp hsession).1
  have hholds : Holds session request := by
    have hmessages := h.messages k session hsession
    rw [ActiveRequestManager.messages, ← hown, hrequest, Option.map_some] at hmessages
    obtain ⟨hreceived, hresponse⟩ := Prod.mk.inj (Option.some.inj hmessages)
    exact ⟨hreceived, hresponse⟩
  obtain ⟨hserving, hafter⟩ := serving_complete (h.serving k session hsession) hholds
    (k := k) hcomplete
  -- the handler writes to its own request object only
  have hmessages : ∀ j, (st.store k handled world).manager.messages j
      = if j = k then some (handled.request.request_, handled.request.response_)
        else st.manager.messages j := by
    intro j
    have hupdate : (st.manager.update handled.session.active_request_
        fun _ => handled.request).messages j
          = if j = k then some (handled.request.request_, handled.request.response_)
            else st.manager.messages j := by
      rw [ActiveRequestManager.messages, ActiveRequestManager.messages, hptr, hown]
      split_ifs with hj
      · rw [hj, ActiveRequestManager.getElem?_update_self, ← hown, hrequest]
        rfl
      · rw [ActiveRequestManager.getElem?_update_of_ne _ _ (Ne.symm hj)]
    -- completing a request takes it from the table, not from its owner
    rw [store]
    split_ifs
    · rw [ActiveRequestManager.messages_complete_request, hupdate, if_pos ‹j = k›]
    · rw [ActiveRequestManager.messages_complete_request, hupdate, if_neg ‹¬j = k›]
    · rw [hupdate, if_pos ‹j = k›]
    · rw [hupdate, if_neg ‹¬j = k›]
  refine ⟨htracked, ?_, fun j s hs => ?_, fun j s hs => ?_⟩
  · refine Record.forall_mem_concat (fun e he => ?_) ?_
    · exact lt_of_lt_of_eq (h.heard_lt e he) (List.length_set ..).symm
    · exact lt_of_lt_of_eq hlt (List.length_set ..).symm
  · rcases Record.getElem?_set_cases hs with ⟨rfl, rfl⟩ | ⟨hj, hs⟩
    · rw [Pool.owned_concat_self rfl]
      exact hserving
    · rw [Pool.owned_concat_of_ne (Ne.symm hj)]
      exact h.serving j s hs
  · rw [hmessages]
    rcases Record.getElem?_set_cases hs with ⟨rfl, rfl⟩ | ⟨hj, hs⟩
    · rw [if_pos rfl, hafter.request_, hafter.response_]
    · rw [if_neg hj]
      exact h.messages j s hs

theorem Serves.cleanup (h : Serves json st log) (now : ℤ)
    (order : Order st.manager.active_requests_) : Serves json (st.cleanup now order) log where
  tracked := h.tracked.cleanup now order
  heard_lt := h.heard_lt
  serving := h.serving
  messages := fun k session hsession =>
    ((st.manager.cleanup_expired_requests_spec order now).messages k).trans
      (h.messages k session hsession)

/-- **Every step serves.** -/
theorem serves_step (st : Http1Proxy) (log : List Heard) (e : Event) (st' : Http1Proxy)
    (h : Serves json st log) (hstep : step json st e = some st') :
    Serves json st' (log ++ heard st e) := by
  cases e with
  | accept now =>
      obtain rfl := Option.some.inj hstep
      exact (List.append_nil log).symm ▸ h.accept now
  | complete k completion enumerate => exact h.complete hstep
  | registry call =>
      have htracked := tracked_step st (.registry call) st' h.tracked hstep
      obtain rfl := Option.some.inj hstep
      exact (List.append_nil log).symm ▸ ⟨htracked, h.heard_lt, h.serving, h.messages⟩
  | cleanup now order =>
      obtain rfl := Option.some.inj hstep
      exact (List.append_nil log).symm ▸ h.cleanup now _

end Http1Proxy

/-! ## What every client is served -/

namespace Http1ProxySession

variable {json : JsonLibrary} {session : Http1SessionObject}

/-- On the way to a backend there is nothing to answer yet. -/
theorem backendAnswer_of_towards {rule : ForwardingRule} {completions : List Http1Completion}
    {stage : Http1Stage} (h : Towards rule completions stage) :
    backendAnswer completions = none := by
  cases h <;> rfl

/-- A request is forwarded by the rule the table has for it. -/
theorem find_backend_of_forward {enumerate : Enumeration} {table : BackendRegistry}
    {request : Http1Request} {rule : ForwardingRule}
    (h : decision json enumerate table request = .forward rule) :
    table.find_backend (enumerate table.backends_) request.target = some rule := by
  rw [decision] at h
  split_ifs at h
  cases hfind : table.find_backend (enumerate table.backends_) request.target with
  | none =>
      rw [hfind] at h
      cases h
  | some found =>
      rw [hfind] at h
      rw [Http1Action.forward.inj h]

end Http1ProxySession

namespace Http1Proxy

open Http1ProxySession

/-- **A client is served from what its own session has heard of.** -/
structure Served (json : JsonLibrary) (st : Http1Proxy) (k : ℕ) (heard : List Heard)
    (session : Http1SessionObject) : Prop where
  /-- The request is the one its read brought. -/
  received : session.received = heard.head?.bind fun first => first.completion.request
  /-- It has started to write the answer, once, as soon as there is one. -/
  client_writes : session.client_writes = (answer json heard).toList
  /-- Its request object, which is written to a backend, holds that request, and that answer. -/
  messages : st.manager.messages k = some (session.received, session.client_writes.head?)
  /-- What it does with a backend, it does with that of the rule found for the path when the
  request was read, at the first endpoint its own resolution gave. -/
  towards : ∀ stage, session.pending = some stage → ¬ stage.FacesClient →
    ∃ first rest request rule, heard = first :: rest
      ∧ first.completion.request = some request
      ∧ first.table.find_backend (first.enumerate first.table.backends_) request.target = some rule
      ∧ Towards rule (rest.map Heard.completion) stage
  /-- It ends with its answer, unless there was no request. -/
  ended : session.pending = none → session.received.isSome → (answer json heard).isSome

theorem served_of_serving {json : JsonLibrary} {st : Http1Proxy} {k : ℕ} {heard : List Heard}
    {session : Http1SessionObject} (h : Serving json heard session)
    (hmessages : st.manager.messages k = some (session.received, session.client_writes.head?)) :
    Served json st k heard session := by
  cases h with
  | reading hpending hreceived hwrites =>
      refine ⟨hreceived, hwrites, hmessages, fun stage hstage hface => ?_, fun hended => ?_⟩
      · rw [hpending] at hstage
        exact absurd (Option.some.inj hstage ▸ trivial) hface
      · rw [hpending] at hended
        cases hended
  | @unread first _ hread hpending hreceived hwrites =>
      refine ⟨hreceived.trans hread.symm, ?_, hmessages, fun stage hstage => ?_, fun _ hsome => ?_⟩
      · -- without a request there is no answer
        rw [hwrites, answer, hread]
        rfl
      · rw [hpending] at hstage
        cases hstage
      · rw [hreceived] at hsome
        cases hsome
  | @underway first rest _ request rule stage hread hdecision htowards hpending hreceived hwrites =>
      refine ⟨hreceived.trans hread.symm, ?_, hmessages, fun stage' hstage _ => ?_,
        fun hended => ?_⟩
      · -- nor is there one before the backend has had its say
        rw [hwrites, answer_of_forward hread hdecision, backendAnswer_of_towards htowards]
        rfl
      · rw [hpending] at hstage
        obtain rfl := Option.some.inj hstage
        exact ⟨first, rest, request, rule, rfl, hread, find_backend_of_forward hdecision, htowards⟩
      · rw [hpending] at hended
        cases hended
  | @answered first rest _ response hanswer hpending hreceived hwrites =>
      refine ⟨hreceived, ?_, hmessages, fun stage hstage hface => ?_, fun _ _ => ?_⟩
      · rw [hwrites, hanswer]
        rfl
      · rcases hpending with hpending | hpending
        · rw [hpending] at hstage
          cases hstage
        · rw [hpending] at hstage
          exact absurd (Option.some.inj hstage ▸ trivial) hface
      · rw [hanswer]
        rfl

/-- **Every client is served from its own session.** In every run, whatever other sessions,
the cleanup and calls on the table do in between: each session has read the request its own
read brought, answers it with what its own completions say, and is on its way to no backend
but that of the rule the table had for it. -/
theorem every_session_served (json : JsonLibrary) (registry : BackendRegistry)
    (events : List Event) (st : Http1Proxy)
    (hrun : Machine.exec (step json) (start registry) events = some st) (k : ℕ)
    (session : Http1SessionObject) (hsession : st.sessions[k]? = some session) :
    Served json st k
      (Pool.owned Heard.session (Machine.outputs (step json) heard (start registry) events) k)
      session := by
  have hserves := Machine.exec_invariant_log (Serves json) serves_step (serves_start registry) hrun
  exact served_of_serving (hserves.serving k session hsession) (hserves.messages k session hsession)

theorem every_session_served_twoSessions :
    ∃ (json : JsonLibrary) (enumerate : Enumeration) (st : Http1Proxy)
      (session : Http1SessionObject),
      st.sessions[0]? = some session
        ∧ session.client_writes = [send_response.response 400
          (bytes "\x7b\"error\":\"Invalid JSON\"\x7d") (bytes "application/json")]
        ∧ Served json st 0
          (Pool.owned Heard.session
            (Machine.outputs (step json) heard (start .empty) (twoSessions enumerate)) 0)
          session := by
  let json : JsonLibrary := ⟨fun _ => none, fun _ => []⟩
  have hwrites : (Machine.exec (step json) (start .empty) (twoSessions anyOrder)).bind
      (fun st => (st.sessions[0]?).map fun session => session.client_writes)
      = some [send_response.response 400
          (bytes "\x7b\"error\":\"Invalid JSON\"\x7d") (bytes "application/json")] := rfl
  obtain ⟨st, hrun, hmap⟩ := Option.bind_eq_some_iff.mp hwrites
  obtain ⟨session, hsession, hwrote⟩ := Option.map_eq_some_iff.mp hmap
  exact ⟨json, anyOrder, st, session, hsession, hwrote,
    every_session_served json .empty _ st hrun 0 session hsession⟩

end Http1Proxy

end Http2Server
