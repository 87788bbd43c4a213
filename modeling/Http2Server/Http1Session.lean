/-
`Http1ProxySession` over its whole life (`transport/http1_proxy.cpp`): the handlers its
asynchronous operations complete with, and the proxy that runs any number of sessions.

A session has one operation outstanding at a time, and its handler starts the next or
ends the session. What `handle_request` decides is the subject of `Http1Proxy`;
this file adds what the decision leads to. The two lambdas that wait for a client write,
of `send_response` and of the relay, do the same and are one definition.

`complete_cases` is the one place the handlers are taken apart: a completion ends the
session, starts the response write, or moves it to its next stage. A step of the proxy
completes one operation of one session, accepts a connection, or runs the cleanup or a
call on the routing table; sessions and requests stay on record after they have ended.
-/
import Http2Server.ActiveRequest
import Http2Server.Lib.Machine

set_option autoImplicit false

open ByteString UnorderedMap

namespace Http2Server

/-! ## The operations of a session -/

/-- Which operation is outstanding, with what its lambda captures beside the session. -/
inductive Http1Stage
  | read_request
  | resolve (rule : ForwardingRule)
  | connect (endpoint : Endpoint) (rule : ForwardingRule)
  | backend_write
  | backend_read
  | client_write (response : HttpMessage)
  deriving DecidableEq, Repr

/-- How an operation completes: with an `error_code`, or with its result. -/
inductive Http1Completion
  | failed (message : Bytes)
  | received_request (request : Http1Request)
  | resolved (results : Results)
  | connected
  | written
  | received_response (response : HttpMessage)
  deriving DecidableEq, Repr

/-- Whether the completion is an error. -/
def Http1Completion.fails : Http1Completion → Bool
  | .failed _ => true
  | _ => false

/-- A read from the client or a write to it. -/
def Http1Stage.FacesClient : Http1Stage → Prop
  | .read_request => True
  | .client_write _ => True
  | _ => False

instance : DecidablePred Http1Stage.FacesClient
  | .read_request => isTrue trivial
  | .client_write _ => isTrue trivial
  | .resolve _ => isFalse id
  | .connect _ _ => isFalse id
  | .backend_write => isFalse id
  | .backend_read => isFalse id

/-- A session: its request, and the operation it waits for; and on record the request
once it is read, the responses it has started to write to its client, and whether a read
from the client or a write to it has failed. -/
structure Http1SessionObject where
  active_request_ : RequestPtr
  pending : Option Http1Stage
  received : Option Http1Request := none
  client_writes : List HttpMessage := []
  client_failed : Bool := false
  deriving DecidableEq

namespace Http1SessionObject

/-- A completion of the pending operation, recorded. -/
def record (session : Http1SessionObject) (completion : Http1Completion) : Http1SessionObject :=
  match session.pending, completion with
  | some .read_request, .received_request request => { session with received := some request }
  | some .read_request, .failed _ => { session with client_failed := true }
  | some (.client_write _), .failed _ => { session with client_failed := true }
  | _, _ => session

/-- An operation is started. -/
def await (session : Http1SessionObject) (stage : Http1Stage) : Http1SessionObject :=
  { session with pending := some stage }

/-- `http::async_write` to the client. -/
def async_write (session : Http1SessionObject) (response : HttpMessage) : Http1SessionObject :=
  { session with
    pending := some (.client_write response)
    client_writes := session.client_writes ++ [response] }

/-- Nothing is started: the session ends with its handler. -/
def finish (session : Http1SessionObject) : Http1SessionObject := { session with pending := none }

end Http1SessionObject

/-- What a handler leaves: the session, its request, and whether it has called
`complete_request`, the last thing a handler that does so does. -/
structure Handled where
  session : Http1SessionObject
  request : ActiveRequest
  completes : Bool := false

/-! ## The handlers -/

namespace Http1ProxySession

/-- The response `send_response` makes. -/
def send_response.response (status_code : ℤ) (body content_type : Bytes) : HttpMessage where
  result_int := status_code
  fields := [(bytes "Server", bytes "HTTP1-Proxy/1.0"), (bytes "Content-Type", content_type),
    (bytes "Content-Length", decimal body.length)]
  body := body

/-- `Http1ProxySession::send_response`. -/
def send_response (session : Http1SessionObject) (request : ActiveRequest) (status_code : ℤ)
    (body : Bytes) (content_type : Bytes := bytes "application/json") : Handled :=
  let response := send_response.response status_code body content_type
  { session := session.async_write response
    request := (request.set_response response).set_state .SendingResponse }

/-- The lambda of a client write, of `send_response` and of the relay: the state is set,
and then set again by `complete_request`. -/
def client_written (session : Http1SessionObject) (request : ActiveRequest)
    (ec : Option Bytes) : Handled :=
  match ec with
  | some _ =>
      { session := session.finish, request := request.set_state .Failed, completes := true }
  | none =>
      { session := session.finish, request := request.set_state .Completed, completes := true }

/-- The lambda of `read_request`, when the read fails. -/
def read_failed (session : Http1SessionObject) (request : ActiveRequest) : Handled where
  session := session.finish
  request := request.set_state .Failed
  completes := true

/-- What `handle_request` has decided is done: `forward_to_backend` starts resolving. -/
def act (session : Http1SessionObject) (request : ActiveRequest) : Http1Action → Handled
  | .send_response status_code body => send_response session request status_code body
  | .forward rule =>
      { session := session.await (.resolve rule), request := request.set_state .Forwarding }

/-- The lambda of `async_resolve`: one endpoint of the results is tried, the first. -/
def resolved (session : Http1SessionObject) (request : ActiveRequest) (rule : ForwardingRule)
    (ec : Except Bytes Results) : Handled :=
  match ec with
  | .error _ => send_response session request 502
      (bytes "\x7b\"error\":\"Backend resolve failed\"\x7d")
  | .ok results => { session := session.await (.connect results.endpoint rule), request }

/-- The lambda of `async_connect`. -/
def connected (session : Http1SessionObject) (request : ActiveRequest) (ec : Option Bytes) :
    Handled :=
  match ec with
  | some _ => send_response session request 502
      (bytes "\x7b\"error\":\"Backend connection failed\"\x7d")
  | none =>
      { session := session.await .backend_write, request := request.set_state .WaitingBackend }

/-- The lambda of the write to the backend. -/
def backend_written (session : Http1SessionObject) (request : ActiveRequest)
    (ec : Option Bytes) : Handled :=
  match ec with
  | some _ => send_response session request 502
      (bytes "\x7b\"error\":\"Backend write failed\"\x7d")
  | none => { session := session.await .backend_read, request }

/-- The lambda of the read from the backend: the response is relayed as it is. -/
def backend_received (session : Http1SessionObject) (request : ActiveRequest)
    (ec : Except Bytes HttpMessage) : Handled :=
  match ec with
  | .error _ => send_response session request 502
      (bytes "\x7b\"error\":\"Backend read failed\"\x7d")
  | .ok response =>
      { session := session.async_write response
        request := (request.set_response response).set_state .SendingResponse }

/-- The handler a completion runs; `none` when the completion is not one of the pending
operation's. -/
def complete (json : JsonLibrary) (enumerate : Enumeration) (session : Http1SessionObject)
    (request : ActiveRequest) (completion : Http1Completion) (w : World Unit) :
    Option (Handled × World Unit) :=
  let session := session.record completion
  match session.pending, completion with
  | some .read_request, .failed _ => some (read_failed session request, w)
  | some .read_request, .received_request message =>
      match HandlerM.exec (handle_request json enumerate message) w with
      | (.ok action, w) => some (act session (request.set_request message) action, w)
      | (.error _, _) => none
  | some (.resolve rule), .failed message =>
      some (resolved session request rule (.error message), w)
  | some (.resolve rule), .resolved results =>
      some (resolved session request rule (.ok results), w)
  | some (.connect _ _), .failed message => some (connected session request (some message), w)
  | some (.connect _ _), .connected => some (connected session request none, w)
  | some .backend_write, .failed message =>
      some (backend_written session request (some message), w)
  | some .backend_write, .written => some (backend_written session request none, w)
  | some .backend_read, .failed message =>
      some (backend_received session request (.error message), w)
  | some .backend_read, .received_response response =>
      some (backend_received session request (.ok response), w)
  | some (.client_write _), .failed message =>
      some (client_written session request (some message), w)
  | some (.client_write _), .written => some (client_written session request none, w)
  | _, _ => none

end Http1ProxySession

/-! ## What a completion does to a session -/

/-- The state a request is given when its session starts to wait for an operation. -/
def Http1Stage.state : Http1Stage → RequestState
  | .read_request => .Parsing
  | .resolve _ => .Forwarding
  | .connect _ _ => .Forwarding
  | .backend_write => .WaitingBackend
  | .backend_read => .WaitingBackend
  | .client_write _ => .SendingResponse

/-- The stages whose success sets no state. -/
def Http1Stage.Silent : Http1Stage → Prop
  | .resolve _ => True
  | .backend_write => True
  | _ => False

instance : DecidablePred Http1Stage.Silent
  | .read_request => isFalse id
  | .resolve _ => isTrue trivial
  | .connect _ _ => isFalse id
  | .backend_write => isTrue trivial
  | .backend_read => isFalse id
  | .client_write _ => isFalse id

namespace Http1SessionObject

section Record

variable (session : Http1SessionObject) (completion : Http1Completion) (stage : Http1Stage)
  (response : HttpMessage)

@[simp] theorem record_active_request :
    (session.record completion).active_request_ = session.active_request_ := by
  unfold record
  split <;> rfl

@[simp] theorem record_pending : (session.record completion).pending = session.pending := by
  unfold record
  split <;> rfl

@[simp] theorem record_client_writes :
    (session.record completion).client_writes = session.client_writes := by
  unfold record
  split <;> rfl

/-- A session loses its client with a failed read from it or write to it, for good. -/
theorem record_client_failed {session : Http1SessionObject} {stage : Http1Stage}
    (hpending : session.pending = some stage) (completion : Http1Completion) :
    (session.record completion).client_failed = true
      ↔ session.client_failed = true ∨ (stage.FacesClient ∧ completion.fails = true) := by
  cases stage <;> cases completion <;>
    simp [record, hpending, Http1Stage.FacesClient, Http1Completion.fails]

@[simp] theorem await_active_request :
    (session.await stage).active_request_ = session.active_request_ := rfl
@[simp] theorem await_pending : (session.await stage).pending = some stage := rfl
@[simp] theorem await_client_writes :
    (session.await stage).client_writes = session.client_writes := rfl
@[simp] theorem async_write_active_request :
    (session.async_write response).active_request_ = session.active_request_ := rfl
@[simp] theorem async_write_pending :
    (session.async_write response).pending = some (.client_write response) := rfl
@[simp] theorem async_write_client_writes :
    (session.async_write response).client_writes = session.client_writes ++ [response] := rfl
@[simp] theorem finish_active_request :
    session.finish.active_request_ = session.active_request_ := rfl
@[simp] theorem finish_pending : session.finish.pending = none := rfl
@[simp] theorem finish_client_writes : session.finish.client_writes = session.client_writes := rfl

end Record

end Http1SessionObject

/-- What a completion of the pending operation leads to. -/
inductive Progress (session : Http1SessionObject) (request : ActiveRequest) (stage : Http1Stage)
    (completion : Http1Completion) (handled : Handled) : Prop
  /-- The session ends: its read failed, or its response is written or could not be. -/
  | ended (hclient : stage.FacesClient)
      (hread : stage = .read_request → completion.fails = true)
      (hsession : handled.session = (session.record completion).finish)
      (hstate : handled.request.state_ = if completion.fails then .Failed else .Completed)
      (hcompletes : handled.completes = true)
  /-- It starts to write a response, of its own or the backend's. -/
  | responded (response : HttpMessage) (hwrite : ∀ written, stage ≠ .client_write written)
      (hread : stage = .read_request → ∃ message, completion = .received_request message)
      (hsilent : stage.Silent → completion.fails = true)
      (hsession : handled.session = (session.record completion).async_write response)
      (hstate : handled.request.state_ = .SendingResponse)
      (hcompletes : handled.completes = false)
  /-- It goes on towards the backend. -/
  | moved (next : Http1Stage) (hwrite : ∀ written, stage ≠ .client_write written)
      (hread : stage = .read_request → ∃ message, completion = .received_request message)
      (hfails : completion.fails = false)
      (hnext : ¬ next.FacesClient)
      (hkept : stage.Silent → next.state = stage.state)
      (hsession : handled.session = (session.record completion).await next)
      (hstate : handled.request.state_ = if stage.Silent then request.state_ else next.state)
      (hcompletes : handled.completes = false)

namespace Http1ProxySession

open HandlerM

variable {json : JsonLibrary} {enumerate : Enumeration} {session : Http1SessionObject}
  {request : ActiveRequest} {completion : Http1Completion} {w w' : World Unit}
  {handled : Handled} {stage : Http1Stage}

/-- **One completion.** The session ends, responds or goes on. -/
theorem complete_cases (hpending : session.pending = some stage)
    (h : complete json enumerate session request completion w = some (handled, w')) :
    Progress session request stage completion handled := by
  simp only [complete, Http1SessionObject.record_pending, hpending] at h
  cases stage with
  | read_request =>
      cases completion with
      | failed message =>
          obtain ⟨rfl, -⟩ := Prod.mk.inj (Option.some.inj h)
          exact .ended trivial (fun _ => rfl) rfl rfl rfl
      | received_request message =>
          dsimp only at h
          split at h
          · rename_i action w₁ hexec
            obtain ⟨rfl, -⟩ := Prod.mk.inj (Option.some.inj h)
            cases action with
            | send_response status_code body =>
                exact .responded _ (by simp) (fun _ => ⟨message, rfl⟩) False.elim rfl rfl rfl
            | forward rule =>
                exact .moved (.resolve rule) (by simp) (fun _ => ⟨message, rfl⟩) rfl id False.elim
                  rfl rfl rfl
          · simp at h
      | _ => simp at h
  | resolve rule =>
      cases completion with
      | failed message =>
          obtain ⟨rfl, -⟩ := Prod.mk.inj (Option.some.inj h)
          exact .responded _ (by simp) (by simp) (fun _ => rfl) rfl rfl rfl
      | resolved results =>
          obtain ⟨rfl, -⟩ := Prod.mk.inj (Option.some.inj h)
          exact .moved (.connect results.endpoint rule) (by simp) (by simp) rfl id (fun _ => rfl)
            rfl rfl rfl
      | _ => simp at h
  | connect endpoint rule =>
      cases completion with
      | failed message =>
          obtain ⟨rfl, -⟩ := Prod.mk.inj (Option.some.inj h)
          exact .responded _ (by simp) (by simp) (fun _ => rfl) rfl rfl rfl
      | connected =>
          obtain ⟨rfl, -⟩ := Prod.mk.inj (Option.some.inj h)
          exact .moved .backend_write (by simp) (by simp) rfl id False.elim rfl rfl rfl
      | _ => simp at h
  | backend_write =>
      cases completion with
      | failed message =>
          obtain ⟨rfl, -⟩ := Prod.mk.inj (Option.some.inj h)
          exact .responded _ (by simp) (by simp) (fun _ => rfl) rfl rfl rfl
      | written =>
          obtain ⟨rfl, -⟩ := Prod.mk.inj (Option.some.inj h)
          exact .moved .backend_read (by simp) (by simp) rfl id (fun _ => rfl) rfl rfl rfl
      | _ => simp at h
  | backend_read =>
      cases completion with
      | failed message =>
          obtain ⟨rfl, -⟩ := Prod.mk.inj (Option.some.inj h)
          exact .responded _ (by simp) (by simp) (fun _ => rfl) rfl rfl rfl
      | received_response response =>
          obtain ⟨rfl, -⟩ := Prod.mk.inj (Option.some.inj h)
          exact .responded _ (by simp) (by simp) False.elim rfl rfl rfl
      | _ => simp at h
  | client_write response =>
      cases completion with
      | failed message =>
          obtain ⟨rfl, -⟩ := Prod.mk.inj (Option.some.inj h)
          exact .ended trivial (by simp) rfl rfl rfl
      | written =>
          obtain ⟨rfl, -⟩ := Prod.mk.inj (Option.some.inj h)
          exact .ended trivial (by simp) rfl rfl rfl
      | _ => simp at h

/-- A handler leaves the session its request and the request its id. -/
theorem complete_ids (h : complete json enumerate session request completion w
      = some (handled, w')) :
    handled.session.active_request_ = session.active_request_
      ∧ handled.request.request_id_ = request.request_id_ := by
  simp only [complete, Http1SessionObject.record_pending] at h
  split at h
  case h_2 =>
    split at h
    · rename_i action w₁ hexec
      obtain ⟨rfl, -⟩ := Prod.mk.inj (Option.some.inj h)
      cases action with
      | send_response status_code body => exact ⟨Http1SessionObject.record_active_request .., rfl⟩
      | forward rule => exact ⟨Http1SessionObject.record_active_request .., rfl⟩
    · simp at h
  case h_13 => simp at h
  all_goals
    obtain ⟨rfl, -⟩ := Prod.mk.inj (Option.some.inj h)
    exact ⟨Http1SessionObject.record_active_request .., rfl⟩

/-- Only a session that waits for something has a handler to run. -/
theorem exists_pending (h : complete json enumerate session request completion w
      = some (handled, w')) : ∃ stage, session.pending = some stage := by
  rcases hpending : session.pending with _ | stage
  · simp [complete, hpending] at h
  · exact ⟨stage, rfl⟩

/-- A request that has been read is handled. -/
theorem exists_complete_received (json : JsonLibrary) (enumerate : Enumeration)
    (request : ActiveRequest) (w : World Unit) (hpending : session.pending = some .read_request)
    (message : Http1Request) :
    ∃ handled w', complete json enumerate session request (.received_request message) w
      = some (handled, w') := by
  -- nothing that `handle_request` runs into escapes it
  simp only [complete, Http1SessionObject.record_pending, hpending, exec_handle_request_eq]
  exact ⟨_, _, rfl⟩

/-- Any operation may fail. -/
theorem exists_complete_failed (json : JsonLibrary) (enumerate : Enumeration)
    (request : ActiveRequest) (w : World Unit) (hpending : session.pending = some stage)
    (message : Bytes) :
    ∃ handled, complete json enumerate session request (.failed message) w
      = some (handled, w) := by
  simp only [complete, Http1SessionObject.record_pending, hpending]
  cases stage <;> exact ⟨_, rfl⟩

end Http1ProxySession

/-! ## The proxy -/

/-- The HTTP/1.1 proxy: the process it shares with the HTTP/2 server, the requests, the
sessions in the order they were accepted; and on record which requests
`complete_request` has been called for, and which the cleanup has found expired. -/
structure Http1Proxy where
  world : World Unit
  manager : ActiveRequestManager
  sessions : List Http1SessionObject
  completed : List RequestPtr
  expired : List RequestPtr

namespace Http1Proxy

/-- What can happen next. -/
inductive Event
  | accept (now : ℤ)
  | complete (k : ℕ) (completion : Http1Completion) (enumerate : Enumeration)
  | registry (call : RegistryCall)
  | cleanup (now : ℤ)
      (order : ∀ active_requests_ : UnorderedMap UInt64 RequestPtr, Order active_requests_)

/-- The constructor and `start` of a session: its request is created, and the read
started. -/
def accept (st : Http1Proxy) (now : ℤ) : Http1Proxy :=
  let (manager, active_request_) := st.manager.create_request now
  { st with
    manager := manager.update active_request_ fun request => request.set_state .Parsing
    sessions := st.sessions ++ [{ active_request_, pending := some .read_request }] }

/-- What the handler of the `k`-th session leaves is put in its place. -/
def store (st : Http1Proxy) (k : ℕ) (handled : Handled) (world : World Unit) : Http1Proxy :=
  let ptr := handled.session.active_request_
  let manager := st.manager.update ptr fun _ => handled.request
  { st with
    world := world
    sessions := st.sessions.set k handled.session
    manager :=
      if handled.completes then manager.complete_request handled.request.request_id_ else manager
    completed := if handled.completes then st.completed ++ [ptr] else st.completed }

/-- A call of `cleanup_expired_requests`. -/
def cleanup (st : Http1Proxy) (now : ℤ) (order : Order st.manager.active_requests_) : Http1Proxy :=
  { st with
    manager := (st.manager.cleanup_expired_requests order now).1
    expired := st.expired ++ (st.manager.cleanup_expired_requests order now).2 }

/-- One event. -/
def step (json : JsonLibrary) (st : Http1Proxy) : Event → Option Http1Proxy
  | .accept now => some (st.accept now)
  | .complete k completion enumerate => do
      let session ← st.sessions[k]?
      let request ← st.manager.requests[session.active_request_]?
      let (handled, world) ←
        Http1ProxySession.complete json enumerate session request completion st.world
      some (st.store k handled world)
  | .registry call => some { st with world := st.world.call call }
  | .cleanup now order => some (st.cleanup now (order st.manager.active_requests_))

/-- A proxy that has accepted nobody yet. -/
def start (registry : BackendRegistry) : Http1Proxy where
  world := World.serving registry
  manager := {}
  sessions := []
  completed := []
  expired := []

variable {json : JsonLibrary} {st st' : Http1Proxy}

/-- A completion, in the proxy. -/
theorem step_complete_eq_some {k : ℕ} {completion : Http1Completion} {enumerate : Enumeration}
    (h : step json st (.complete k completion enumerate) = some st') :
    ∃ session request handled world, st.sessions[k]? = some session
      ∧ st.manager.requests[session.active_request_]? = some request
      ∧ Http1ProxySession.complete json enumerate session request completion st.world
          = some (handled, world)
      ∧ st' = st.store k handled world := by
  simp only [step, bind, Option.bind_eq_some_iff] at h
  obtain ⟨session, hsession, request, hrequest, ⟨handled, world⟩, hcomplete, h⟩ := h
  exact ⟨session, request, handled, world, hsession, hrequest, hcomplete,
    (Option.some.inj h).symm⟩

end Http1Proxy

end Http2Server
