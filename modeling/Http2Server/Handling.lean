/-
Requests through the handler `main` installs, over whole runs: any number of them, of any
kind, the completions of the forwarded ones interleaved with each other, with further
requests and with what the other front end does to the routing table.

A request is one of two kinds. Some the handler answers on the spot, and `ownAnswer` says
with what, and which call on the routing table comes before: the test service, the
registration endpoint with every path that starts like it, and the 404 of the route table.
The others it forwards, and those are `Forwarding`'s subject, whose account of one call is
used here as it is.

The ledger has one account per request. `every_request_answered` reads it off: whatever the
order of events, an own answer has been sent by the time the handler returns, a forwarded
request is served as forwarding promises, and no request's answer goes to another.
-/
import Http2Server.Main
import Http2Server.Forwarding
import Http2Server.Lib.Ledger

set_option autoImplicit false

open ByteString

namespace Http2Server

/-! ## What the handler answers itself -/

namespace ProxyRequestHandler

open HandlerM

variable {S : Type}

/-- What the registration handler answers, and the call it makes on the table first. -/
def registrationAnswer (json : JsonLibrary) (method body : Bytes) :
    Option RegistryCall × HttpResponse :=
  match json.parse body with
  | none => (none, invalidRequest)
  | some value =>
      if method = bytes "POST" then
        match registrationFields value with
        | .ok (backend_id, host, port, path_pattern) =>
            (some (.register_backend (bytes backend_id) (bytes host) port (bytes path_pattern)),
              succeeded json backend_id "Backend registered successfully")
        | .error _ => (none, invalidRequest)
      else if method = bytes "DELETE" then
        match value.stringField "backend_id" with
        | .ok (backend_id, _) =>
            (some (.unregister_backend (bytes backend_id)),
              succeeded json backend_id "Backend unregistered successfully")
        | .error _ => (none, invalidRequest)
      else (none, methodNotAllowed)

/-- **The registration handler in one line.** -/
theorem exec_handle_registration_request_eq (json : JsonLibrary) (method body : StringView)
    (stream_id : StreamId) (sender : S) (w : World S) :
    exec (handle_registration_request json method body stream_id sender) w
      = (.ok (), (w.perform (registrationAnswer json method.chars body.chars).1).reply sender
          stream_id (registrationAnswer json method.chars body.chars).2) := by
  rw [handle_registration_request, exec_tryCatch, exec_bind, exec_lift, JsonLibrary.parseOrThrow,
    registrationAnswer]
  rcases json.parse body.chars with _ | value
  · rfl
  dsimp only
  by_cases hpost : method.chars = bytes "POST"
  · rw [if_pos hpost, if_pos hpost, exec_registrationFields]
    rcases registrationFields value with e | ⟨backend_id, host, port, path_pattern⟩
    · rfl
    · simp only [exec_bind, exec_callRegistry, exec_send]
      rfl
  rw [if_neg hpost, if_neg hpost]
  by_cases hdelete : method.chars = bytes "DELETE"
  · rw [if_pos hdelete, if_pos hdelete, exec_bind, exec_lift]
    rcases value.stringField "backend_id" with e | ⟨backend_id, value'⟩
    · rfl
    · simp only [exec_bind, exec_callRegistry, exec_send]
      rfl
  · rw [if_neg hdelete, if_neg hdelete]
    rfl

/-- The call a registration makes is the one its request asks for. -/
theorem registrationAnswer_fst (json : JsonLibrary) (method body : Bytes) :
    (registrationAnswer json method body).1 = requested json method body := by
  rw [registrationAnswer, requested, registrationOf_eq, unregistrationOf_eq,
    JsonLibrary.parseOrThrow]
  rcases json.parse body with _ | value
  · simp
  dsimp only
  by_cases hpost : method = bytes "POST"
  · rw [if_pos hpost, if_pos hpost]
    rcases registrationFields value with e | ⟨backend_id, host, port, path_pattern⟩ <;> rfl
  rw [if_neg hpost, if_neg hpost]
  by_cases hdelete : method = bytes "DELETE"
  · rw [if_pos hdelete, if_pos hdelete]
    rcases value.stringField "backend_id" with e | ⟨backend_id, value'⟩ <;> rfl
  · rw [if_neg hdelete, if_neg hdelete]

/-- The status of the answer to a registration says whether its call was made. -/
theorem registrationAnswer_status (json : JsonLibrary) (method body : Bytes) :
    (registrationAnswer json method body).2.status_code = 200
      ↔ ((registrationAnswer json method body).1).isSome := by
  have hinvalid : ¬ invalidRequest.status_code = 200 := by decide
  have hnot : ¬ methodNotAllowed.status_code = 200 := by decide
  rw [registrationAnswer]
  rcases json.parse body with _ | value
  · exact iff_of_false hinvalid (by simp)
  dsimp only
  split_ifs
  · rcases registrationFields value with e | ⟨backend_id, host, port, path_pattern⟩
    · exact iff_of_false hinvalid (by simp)
    · exact iff_of_true rfl rfl
  · rcases value.stringField "backend_id" with e | ⟨backend_id, value'⟩
    · exact iff_of_false hinvalid (by simp)
    · exact iff_of_true rfl rfl
  · exact iff_of_false hnot (by simp)

end ProxyRequestHandler

namespace ForwardingHandler

/-- **What forwarding comes to**, where it does not throw: the answer that there is no backend,
or a chain of operations on its way to that of the rule found. -/
theorem forward_request_cases {S : Type} {verbs : List Bytes} {enumerate : Enumeration}
    {method path body : StringView} {stream_id : StreamId} {sender : S} {w w' : World S}
    (h : HandlerM.exec (forward_request verbs enumerate method path body stream_id sender) w
      = (.ok (), w')) :
    (lookup enumerate w path.chars = none ∧ w' = w.reply sender stream_id noBackend)
      ∨ ∃ rule, lookup enumerate w path.chars = some rule
          ∧ HttpClient.Accepts verbs method.chars body.chars
          ∧ w' = w.withClient (w.http_client_.started rule.target_host rule.target_port
            method.chars path.chars body.chars ⟨sender, stream_id⟩) := by
  rcases hlookup : lookup enumerate w path.chars with _ | rule
  · rw [exec_forward_request_of_none _ _ _ _ _ _ _ _ hlookup] at h
    exact .inl ⟨rfl, (Prod.mk.inj h).2.symm⟩
  by_cases haccepts : HttpClient.Accepts verbs method.chars body.chars
  · rw [exec_forward_request_of_accepts _ _ _ _ _ _ _ _ hlookup haccepts] at h
    exact .inr ⟨rule, rfl, haccepts, (Prod.mk.inj h).2.symm⟩
  · rw [exec_forward_request_of_not_accepts _ _ _ _ _ _ _ _ hlookup haccepts] at h
    exact absurd (Prod.mk.inj h).1 (by simp)

end ForwardingHandler

namespace Main

open HandlerM ProxyRequestHandler

variable {S : Type}

/-- The default handler's answer to a path that is not `/health`. -/
def noRoute (json : JsonLibrary) : HttpResponse where
  status_code := 404
  body := json.dump (RequestHandler.create_error_response 404 "Route not found")

/-- What the handler answers itself, with the call it makes on the table first; `none` for a
request it forwards. The route table goes by the method up to its first NUL. -/
def ownAnswer (json : JsonLibrary) (method path body : Bytes) :
    Option (Option RegistryCall × HttpResponse) :=
  if path = bytes "/test" then
    some (none, if cStr method = bytes "GET" then { status_code := 204, body := [] }
      else noRoute json)
  else if path = bytes "/proxy/register" then
    some (if cStr method = bytes "POST" ∨ cStr method = bytes "DELETE" then
      registrationAnswer json method body else (none, noRoute json))
  else if bytes "/proxy/register" <+: path then some (registrationAnswer json method body)
  else none

/-- Forwarded is what is neither the test path nor starts like the registration path. -/
theorem ownAnswer_eq_none_iff (json : JsonLibrary) (method path body : Bytes) :
    ownAnswer json method path body = none
      ↔ path ≠ bytes "/test" ∧ ¬ bytes "/proxy/register" <+: path := by
  rw [ownAnswer]
  split_ifs with htest hpath hstarts
  · simp [htest]
  · simp [hpath]
  · simp [hstarts]
  · simp [htest, hstarts]

/-- The key a view of a string looks a route up by. -/
theorem routeKey_of (method path : Bytes) :
    RequestHandler.routeKey (.of method) (.of path) = (cStr method, cStr path) := by
  rw [RequestHandler.routeKey, StringView.of, StringView.of, cStr_nulTerminated,
    cStr_nulTerminated, cStr, cStr]

/-- What the route table holds, for the two paths `main` asks it about. -/
theorem find_route_test (json : JsonLibrary) (method : Bytes) :
    (routes (S := S) json).find_route (.of method) (.of (bytes "/test"))
      = if cStr method = bytes "GET" then some test_service else none := by
  have hpath : cStr (bytes "/test") = bytes "/test" := by decide
  rw [RequestHandler.find_route, routes, RequestHandler.register_route,
    RequestHandler.register_route, RequestHandler.register_route, RequestHandler.empty]
  dsimp only
  rw [routeKey_of, routeKey_of, routeKey_of, routeKey_of, Finmap.lookup_insert_of_ne,
    Finmap.lookup_insert_of_ne]
  · split_ifs with hget
    · rw [hget]
      exact Finmap.lookup_insert _
    · rw [Finmap.lookup_insert_of_ne, Finmap.lookup_empty]
      intro heq
      exact hget ((Prod.mk.inj heq).1.trans (by decide))
  · intro heq
    exact absurd (Prod.mk.inj heq).2 (by decide)
  · intro heq
    exact absurd (Prod.mk.inj heq).2 (by decide)

theorem find_route_register (json : JsonLibrary) (method : Bytes) :
    (routes (S := S) json).find_route (.of method) (.of (bytes "/proxy/register"))
      = if cStr method = bytes "POST" ∨ cStr method = bytes "DELETE" then
          some (registration_service json) else none := by
  rw [RequestHandler.find_route, routes, RequestHandler.register_route,
    RequestHandler.register_route, RequestHandler.register_route, RequestHandler.empty]
  dsimp only
  rw [routeKey_of, routeKey_of, routeKey_of, routeKey_of]
  have hdel : cStr (bytes "DELETE") = bytes "DELETE" := by decide
  have hpos : cStr (bytes "POST") = bytes "POST" := by decide
  by_cases hdelete : cStr method = bytes "DELETE"
  · rw [if_pos (Or.inr hdelete), hdel, hdelete]
    exact Finmap.lookup_insert _
  rw [Finmap.lookup_insert_of_ne]
  · by_cases hpost : cStr method = bytes "POST"
    · rw [if_pos (Or.inl hpost), hpos, hpost]
      exact Finmap.lookup_insert _
    · rw [if_neg (not_or.mpr ⟨hpost, hdelete⟩), Finmap.lookup_insert_of_ne,
        Finmap.lookup_insert_of_ne, Finmap.lookup_empty]
      · intro heq
        exact absurd (Prod.mk.inj heq).2 (by decide)
      · intro heq
        exact hpost ((Prod.mk.inj heq).1.trans hpos)
  · intro heq
    exact hdelete ((Prod.mk.inj heq).1.trans hdel)

/-- **The handler, for a request it answers itself**: the call is made, and the answer
sent. -/
theorem exec_request_handler_of_own {json : JsonLibrary} (verbs : List Bytes)
    (enumerate : Enumeration) {method path body : Bytes} (stream_id : StreamId) (sender : S)
    {w : World S} (hinit : w.forwarding_handler_ = true) {asked : Option RegistryCall}
    {response : HttpResponse} (h : ownAnswer json method path body = some (asked, response)) :
    exec (request_handler json verbs enumerate (.of method) (.of path) (.of body) stream_id sender)
        w
      = (.ok (), (w.perform asked).reply sender stream_id response) := by
  have hregister := exec_handle_registration_request_eq json (.of method) (.of body) stream_id
    sender w
  rw [StringView.chars_of, StringView.chars_of] at hregister
  rw [ownAnswer] at h
  split_ifs at h with htest hget hpath hmethod hstarts
  · -- the test service
    obtain ⟨rfl, rfl⟩ := Prod.mk.inj (Option.some.inj h)
    subst htest
    rw [request_handler, if_pos (Or.inl (StringView.chars_of _))]
    have hroute : (routes json).find_route (.of method) (.of (bytes "/test"))
        = some (test_service (S := S)) := by rw [find_route_test, if_pos hget]
    exact RequestHandler.exec_handle_request_of_route _ _ _ _ _ _ _ _ _ hroute rfl
  · -- by another method: the table has no route, and the defaults only know `/health`
    obtain ⟨rfl, rfl⟩ := Prod.mk.inj (Option.some.inj h)
    subst htest
    rw [request_handler, if_pos (Or.inl (StringView.chars_of _)), RequestHandler.handle_request,
      exec_tryCatch, find_route_test, if_neg hget]
    dsimp only
    rw [RequestHandler.handle_default_routes, if_neg]
    · rfl
    · rw [StringView.chars_of, StringView.chars_of]
      exact fun hhealth => absurd hhealth.2 (by decide)
  · -- the two registration routes
    subst hpath
    rw [request_handler, if_pos (Or.inr (StringView.chars_of _))]
    have hroute : (routes json).find_route (.of method) (.of (bytes "/proxy/register"))
        = some (registration_service (S := S) json) := by rw [find_route_register, if_pos hmethod]
    refine RequestHandler.exec_handle_request_of_route _ _ _ _ _ _ _ _ _ hroute ?_
    rw [registration_service, hregister, Option.some.inj h]
  · -- and again by another method
    obtain ⟨rfl, rfl⟩ := Prod.mk.inj (Option.some.inj h)
    subst hpath
    rw [request_handler, if_pos (Or.inr (StringView.chars_of _)), RequestHandler.handle_request,
      exec_tryCatch, find_route_register, if_neg hmethod]
    dsimp only
    rw [RequestHandler.handle_default_routes, if_neg]
    · rfl
    · rw [StringView.chars_of, StringView.chars_of]
      exact fun hhealth => absurd hhealth.2 (by decide)
  · -- a longer path
    rw [exec_request_handler_of_extension json verbs enumerate _ _ _ stream_id sender w hinit
      (by rwa [StringView.chars_of]) (by rwa [StringView.chars_of]), hregister, Option.some.inj h]

/-- **For a request it forwards** it is `forward_request`. -/
theorem exec_request_handler_of_not_own {json : JsonLibrary} (verbs : List Bytes)
    (enumerate : Enumeration) {method path body : Bytes} (stream_id : StreamId) (sender : S)
    {w : World S} (hinit : w.forwarding_handler_ = true)
    (h : ownAnswer json method path body = none) :
    exec (request_handler json verbs enumerate (.of method) (.of path) (.of body) stream_id sender)
        w
      = exec (ForwardingHandler.forward_request verbs enumerate (.of method) (.of path) (.of body)
          stream_id sender) w := by
  obtain ⟨htest, hstarts⟩ := (ownAnswer_eq_none_iff json method path body).mp h
  exact exec_request_handler_of_forwarded json verbs enumerate _ _ _ stream_id sender w hinit
    (by rwa [StringView.chars_of]) (by rwa [StringView.chars_of])

end Main

/-! ## Whole runs -/

namespace Handling

open HandlerM Main Forwarding HttpClient

/-- What can happen next: a request is handed to the handler, an outstanding operation
completes, or the other front end calls the registry. -/
inductive Event
  | request (method path body : Bytes) (stream_id : StreamId) (enumerate : Enumeration)
  | complete (k : ℕ) (completion : Completion)
  | registry (call : RegistryCall)

/-- What is kept of a request: for one that is forwarded, what its lookup found and the
socket its chain is given. -/
def record (json : JsonLibrary) (st : Forwarding) (method path body : Bytes)
    (stream_id : StreamId) (enumerate : Enumeration) : ForwardCall where
  method := method
  path := path
  body := body
  stream_id := stream_id
  registry := st.world.registry
  rule := if (ownAnswer json method path body).isNone then
    ForwardingHandler.lookup enumerate st.world path else none
  socket := st.world.http_client_.connections.length

/-- One event, on a process and the requests made of it. The sender of the `i`-th request
is the number `i`. A request whose handler throws ends the process: there is no step. -/
def step (json : JsonLibrary) (verbs : List Bytes) (st : Forwarding) : Event → Option Forwarding
  | .request method path body stream_id enumerate =>
      match exec (request_handler json verbs enumerate (.of method) (.of path) (.of body)
          stream_id st.calls.length) st.world with
      | (.ok (), world) => some {
          world := world
          calls := st.calls ++ [record json st method path body stream_id enumerate] }
      | (.error _, _) => none
  | .complete k completion => (st.world.complete k completion).map fun world => { st with world }
  | .registry call => some { st with world := st.world.call call }

/-! ## The account of one request -/

/-- What is outstanding for a request and what its sender has been invoked with: its own
answer, or what forwarding accounts for. -/
inductive Share (json : JsonLibrary) (connections : List Connection) (i : ℕ)
    (call : ForwardCall) : List (Op (ForwardCallback ℕ)) → List (Reply ℕ) → Prop
  | own {asked : Option RegistryCall} {response : HttpResponse}
      (hown : ownAnswer json call.method call.path call.body = some (asked, response))
      (hrule : call.rule = none) :
      Share json connections i call [] [⟨i, call.stream_id, response⟩]
  | forwarded {operations : List (Op (ForwardCallback ℕ))} {replies : List (Reply ℕ)}
      (hown : ownAnswer json call.method call.path call.body = none)
      (hlooked : call.LookedUp) (haccount : Account connections i call operations replies) :
      Share json connections i call operations replies

variable {json : JsonLibrary} {verbs : List Bytes} {connections connections' : List Connection}
  {i : ℕ} {call : ForwardCall} {operations : List (Op (ForwardCallback ℕ))}
  {replies : List (Reply ℕ)} {st st' : Forwarding}

theorem Share.frame (h : Share json connections i call operations replies)
    (hsame : call.rule.isSome → connections'[call.socket]? = connections[call.socket]?) :
    Share json connections' i call operations replies := by
  cases h with
  | own hown hrule => exact .own hown hrule
  | forwarded hown hlooked haccount => exact .forwarded hown hlooked (haccount.frame hsame)

theorem Share.socket_lt (h : Share json connections i call operations replies)
    (hrule : call.rule.isSome) : call.socket < connections.length := by
  cases h with
  | own hown hnone => simp [hnone] at hrule
  | forwarded hown hlooked haccount => exact haccount.socket_lt hrule

/-- One completion, in the account of the request it belongs to. -/
theorem Share.complete {op : Op (ForwardCallback ℕ)} {completion : Completion}
    {next : Next (ForwardCallback ℕ)} (h : Share json connections i call operations replies)
    (hop : op ∈ operations) (hnext : HttpClient.complete op completion = some next) :
    operations = [op] ∧ replies = [] ∧ op.socket = call.socket ∧ call.rule.isSome
      ∧ Share json (connections.modify op.socket fun c => c.record op.stage completion) i call
          next.started next.replies := by
  cases h with
  | own hown hrule => simp at hop
  | forwarded hown hlooked haccount =>
      obtain ⟨hsingle, hnone, hsocket, hrouted, haccount'⟩ := haccount.complete hop hnext
      exact ⟨hsingle, hnone, hsocket, hrouted, .forwarded hown hlooked haccount'⟩

/-- What is sent for a request is sent on its own stream. -/
theorem Share.stream_id_eq (h : Share json connections i call operations replies) :
    ∀ reply ∈ replies, reply.stream_id = call.stream_id := by
  cases h with
  | own hown hrule => simp
  | forwarded hown hlooked haccount => cases haccount <;> simp

/-- What is under way for a request will be sent on its own stream. -/
theorem Share.callback_stream_id_eq (h : Share json connections i call operations replies) :
    ∀ op ∈ operations, op.callback.stream_id = call.stream_id := by
  cases h with
  | own hown hrule => simp
  | forwarded hown hlooked haccount => cases haccount <;> simp

/-- An account has one entry: the operation under way, or the answer. -/
theorem Share.length_add_length (h : Share json connections i call operations replies) :
    operations.length + replies.length = 1 := by
  cases h with
  | own hown hrule => rfl
  | forwarded hown hlooked haccount => cases haccount <;> rfl

/-- The accounts of all requests: the ledger goes by the number of the sender. -/
abbrev Books (json : JsonLibrary) (st : Forwarding) : Prop :=
  Pool.Ledger (fun op : Op (ForwardCallback ℕ) => op.callback.sender)
    (fun reply : Reply ℕ => reply.sender)
    (fun i operations replies => ∀ call, st.calls[i]? = some call →
      Share json st.world.http_client_.connections i call operations replies)
    st.calls.length st.world.http_client_.pending st.world.replies

/-- The books are in order, and no two chains share a socket. -/
structure Invariant (json : JsonLibrary) (st : Forwarding) : Prop where
  books : Books json st
  own_socket : ∀ (i j : ℕ) (call other : ForwardCall), st.calls[i]? = some call →
    st.calls[j]? = some other → call.rule.isSome → other.rule.isSome →
    other.socket = call.socket → j = i
  initialized : st.world.forwarding_handler_ = true

theorem invariant_start (registry : BackendRegistry) : Invariant json (start registry) where
  books := Pool.ledger_nil
  own_socket := by simp [start]
  initialized := rfl

/-! ## One request -/

/-- What the handler does with a request it answers itself. -/
theorem step_request_of_own {method path body : Bytes} (stream_id : StreamId)
    (enumerate : Enumeration) (hinit : st.world.forwarding_handler_ = true)
    {asked : Option RegistryCall} {response : HttpResponse}
    (hown : ownAnswer json method path body = some (asked, response)) :
    step json verbs st (.request method path body stream_id enumerate)
      = some {
          world := (st.world.perform asked).reply st.calls.length stream_id response
          calls := st.calls ++ [record json st method path body stream_id enumerate] } := by
  rw [step, exec_request_handler_of_own verbs enumerate stream_id _ hinit hown]

/-- What the handler does with a request for which it starts a chain. -/
theorem step_request_of_accepts {method path body : Bytes} (stream_id : StreamId)
    (enumerate : Enumeration) (hinit : st.world.forwarding_handler_ = true)
    (hown : ownAnswer json method path body = none) {rule : ForwardingRule}
    (hlookup : ForwardingHandler.lookup enumerate st.world path = some rule)
    (haccepts : Accepts verbs method body) :
    step json verbs st (.request method path body stream_id enumerate)
      = some {
          world := st.world.withClient (st.world.http_client_.started rule.target_host
            rule.target_port method path body ⟨st.calls.length, stream_id⟩)
          calls := st.calls ++ [record json st method path body stream_id enumerate] } := by
  rw [step, exec_request_handler_of_not_own verbs enumerate stream_id _ hinit hown,
    ForwardingHandler.exec_forward_request_of_accepts _ _ _ _ _ _ _ _ (by rwa [StringView.chars_of])
      (by rwa [StringView.chars_of, StringView.chars_of])]
  simp only [StringView.chars_of]

/-- **What a request does.** It is recorded, and adds one reply, or one socket with one
operation on it. -/
theorem step_request {method path body : Bytes} {stream_id : StreamId} {enumerate : Enumeration}
    (hinit : st.world.forwarding_handler_ = true)
    (h : step json verbs st (.request method path body stream_id enumerate) = some st') :
    st'.calls = st.calls ++ [record json st method path body stream_id enumerate]
      ∧ st'.world.forwarding_handler_ = true
      ∧ ∃ newConnections newOperations newReplies,
          st'.world.http_client_.connections
              = st.world.http_client_.connections ++ newConnections
          ∧ st'.world.http_client_.pending = st.world.http_client_.pending ++ newOperations
          ∧ st'.world.replies = st.world.replies ++ newReplies
          ∧ (∀ op ∈ newOperations, op.callback.sender = st.calls.length)
          ∧ (∀ reply ∈ newReplies, reply.sender = st.calls.length)
          ∧ Share json st'.world.http_client_.connections st.calls.length
              (record json st method path body stream_id enumerate) newOperations newReplies := by
  rcases hown : ownAnswer json method path body with _ | ⟨asked, response⟩
  · -- forwarded: the step of `Forwarding`, with the same record
    rw [step, exec_request_handler_of_not_own verbs enumerate stream_id _ hinit hown] at h
    have hrecord : record json st method path body stream_id enumerate = {
        method := method, path := path, body := body, stream_id := stream_id
        registry := st.world.registry
        rule := ForwardingHandler.lookup enumerate st.world path
        socket := st.world.http_client_.connections.length } := by
      simp [record, hown]
    have hforwarded : Forwarding.step verbs st
        (.forward_request method path body stream_id enumerate) = some st' := by
      rw [Forwarding.step.eq_def]
      dsimp only
      rw [← hrecord]
      exact h
    have hkept : st'.calls = st.calls ++ [record json st method path body stream_id enumerate]
        ∧ st'.world.forwarding_handler_ = true := by
      split at h
      · rename_i world hexec
        obtain rfl := Option.some.inj h
        -- forwarding leaves the handler as it is
        rcases ForwardingHandler.forward_request_cases hexec with ⟨-, rfl⟩ | ⟨rule, -, -, rfl⟩ <;>
          exact ⟨rfl, hinit⟩
      · cases h
    obtain ⟨call, hcalls, hlooked, -, newConnections, newOperations, newReplies, hconnections,
      hpending, hreplies, hops, hreps, haccount⟩ := step_forward_request hforwarded
    have hcall : call = record json st method path body stream_id enumerate :=
      List.singleton_inj.mp (List.append_cancel_left (hcalls.symm.trans hkept.1))
    rw [hcall] at hlooked haccount
    exact ⟨hkept.1, hkept.2, newConnections, newOperations, newReplies, hconnections, hpending,
      hreplies, hops, hreps, .forwarded hown hlooked haccount⟩
  · -- answered at once: one reply, and nothing for a backend
    rw [step_request_of_own stream_id enumerate hinit hown] at h
    obtain rfl := Option.some.inj h
    refine ⟨rfl, ?_, [], [], [⟨st.calls.length, stream_id, response⟩], ?_, ?_, ?_, by simp,
      by simp, ?_⟩
    · exact (World.perform_forwarding_handler _ asked).trans hinit
    · rw [World.reply_http_client, World.perform_http_client, List.append_nil]
    · rw [World.reply_http_client, World.perform_http_client, List.append_nil]
    · rw [World.reply_replies, World.perform_replies]
    · have hrule : (record json st method path body stream_id enumerate).rule = none := by
        simp [record, hown]
      exact .own hown hrule

/-! ## The books stay in order -/

/-- The account of a recorded request. -/
theorem Invariant.share (h : Invariant json st) (hcall : st.calls[i]? = some call) :
    Share json st.world.http_client_.connections i call (st.operationsOf i) (st.repliesOf i) :=
  h.books.account i (List.getElem?_eq_some_iff.mp hcall).1 call hcall

theorem invariant_request {method path body : Bytes} {stream_id : StreamId}
    {enumerate : Enumeration} (hinv : Invariant json st)
    (h : step json verbs st (.request method path body stream_id enumerate) = some st') :
    Invariant json st' := by
  obtain ⟨hcalls, hinit, newConnections, newOperations, newReplies, hconnections, hpending,
    hreplies, hops, hreps, hshare⟩ := step_request hinv.initialized h
  have hcases : ∀ i c, st'.calls[i]? = some c → st.calls[i]? = some c
      ∨ (i = st.calls.length ∧ c = record json st method path body stream_id enumerate) :=
    fun i c hc => Record.getElem?_concat_cases (hcalls ▸ hc)
  refine ⟨?_, ?_, hinit⟩
  · -- one more owner in the ledger, with what its request has added
    have hlen : st'.calls.length = st.calls.length + 1 := by
      rw [hcalls, List.length_append, List.length_singleton]
    rw [Books, hlen, hpending, hreplies]
    refine hinv.books.enroll hops hreps (fun i hi operations replies haccount c hc => ?_) ?_
    · rcases hcases i c hc with hc | ⟨rfl, -⟩
      · -- an earlier request: its socket, if it has one, is there already
        refine (haccount c hc).frame fun hrule => ?_
        rw [hconnections, List.getElem?_append_left ((haccount c hc).socket_lt hrule)]
      · exact absurd hi (lt_irrefl _)
    · intro c hc
      rcases hcases _ c hc with hc | ⟨-, rfl⟩
      · exact absurd (List.getElem?_eq_some_iff.mp hc).1 (lt_irrefl _)
      · exact hshare
  · intro i j c other hc hother hrule hrule' hsame
    rcases hcases i c hc with hc | ⟨rfl, rfl⟩ <;>
      rcases hcases j other hother with hother | ⟨rfl, rfl⟩
    · exact hinv.own_socket i j c other hc hother hrule hrule' hsame
    · -- the new request's socket is one that did not exist before
      have hlt := (hinv.share hc).socket_lt hrule
      rw [← hsame, record] at hlt
      exact absurd hlt (lt_irrefl _)
    · have hlt := (hinv.share hother).socket_lt hrule'
      rw [hsame, record] at hlt
      exact absurd hlt (lt_irrefl _)
    · rfl

theorem invariant_complete {k : ℕ} {completion : Completion} (hinv : Invariant json st)
    (h : step json verbs st (.complete k completion) = some st') : Invariant json st' := by
  rw [step, Option.map_eq_some_iff] at h
  obtain ⟨world, hcomplete, rfl⟩ := h
  obtain ⟨op, next, hop, hnext, hconnections, hpending, hreplies, -, hinit⟩ :=
    World.complete_eq_some hcomplete
  obtain ⟨hstarted, hsent⟩ := next_callback hnext
  -- the request the operation belongs to, and its account
  have hmem : op ∈ st.world.http_client_.pending := List.mem_of_getElem? hop
  have howner := List.getElem?_eq_getElem (hinv.books.pool_lt op hmem)
  obtain ⟨-, -, hsocket, hrouted, -⟩ :=
    (hinv.share howner).complete (Pool.mem_owned.mpr ⟨hmem, rfl⟩) hnext
  refine ⟨?_, hinv.own_socket, hinit.trans hinv.initialized⟩
  rw [Books, hpending, hreplies, hconnections]
  refine hinv.books.take hop (fun op' hop' => by rw [hstarted op' hop']) hsent
    (fun i hi hne operations replies haccount c hc => ?_)
    (fun operations replies hop haccount => ?_)
  · -- another one's socket is not the one the operation is on
    refine (haccount c hc).frame fun hrule => ?_
    have hother : op.socket ≠ c.socket := by
      rw [hsocket]
      exact fun hsame => hne.symm (hinv.own_socket i _ c _ hc howner hrule hrouted hsame)
    exact List.getElem?_modify_ne _ _ hother
  · obtain ⟨hsingle, hnone, -, -, hshare⟩ := (haccount _ howner).complete hop hnext
    refine ⟨hsingle, fun c hc => ?_⟩
    obtain rfl := Option.some.inj (howner.symm.trans hc)
    rw [hnone, List.nil_append]
    exact hshare

/-- **Every step keeps the books in order.** -/
theorem invariant_step (st : Forwarding) (e : Event) (st' : Forwarding)
    (hinv : Invariant json st) (h : step json verbs st e = some st') : Invariant json st' := by
  cases e with
  | request method path body stream_id enumerate => exact invariant_request hinv h
  | complete k completion => exact invariant_complete hinv h
  | registry c =>
      obtain rfl := Option.some.inj h
      exact ⟨hinv.books, hinv.own_socket, hinv.initialized⟩

/-! ## Every request is answered once -/

/-- What becomes of a request. One the handler answers itself has its answer, and nothing is
outstanding for it; one it forwards is served as `Forwarding` promises. -/
structure Answered (json : JsonLibrary) (st : Forwarding) (i : ℕ) (call : ForwardCall) : Prop where
  own : ∀ asked response, ownAnswer json call.method call.path call.body = some (asked, response) →
    st.operationsOf i = [] ∧ st.repliesOf i = [⟨i, call.stream_id, response⟩]
  forwarded : ownAnswer json call.method call.path call.body = none → Served st i call

theorem answered_of_invariant (hinv : Invariant json st) (hcall : st.calls[i]? = some call) :
    Answered json st i call := by
  -- the account as one of any two lists, so that its case can be told
  have hshare := hinv.share hcall
  obtain ⟨operations, hoperations⟩ : ∃ operations, st.operationsOf i = operations := ⟨_, rfl⟩
  obtain ⟨replies, hreplies⟩ : ∃ replies, st.repliesOf i = replies := ⟨_, rfl⟩
  rw [hoperations, hreplies] at hshare
  cases hshare with
  | own hown hrule =>
      refine ⟨fun asked response h => ?_, fun h => ?_⟩
      · obtain ⟨-, rfl⟩ := Prod.mk.inj (Option.some.inj (hown.symm.trans h))
        exact ⟨hoperations, hreplies⟩
      · rw [hown] at h
        cases h
  | forwarded hown hlooked haccount =>
      refine ⟨fun asked response h => ?_, fun _ => ?_⟩
      · rw [hown] at h
        cases h
      · rw [← hoperations, ← hreplies] at haccount
        exact served_of_account hlooked haccount fun j other hother =>
          hinv.own_socket i j call other hcall hother

/-- The handler throws exactly at a request Beast refuses. -/
theorem step_request_eq_none_iff (hinv : Invariant json st) (method path body : Bytes)
    (stream_id : StreamId) (enumerate : Enumeration) :
    step json verbs st (.request method path body stream_id enumerate) = none
      ↔ Refused verbs st.world.registry method path body := by
  have hfound : ∀ rule, ForwardingHandler.lookup enumerate st.world path = some rule →
      ∃ id rule, st.world.registry.backends_.lookup id = some rule
        ∧ BackendRegistry.Matches rule path := by
    intro rule hlookup
    obtain ⟨id, hid, hmatch⟩ := BackendRegistry.find_backend_eq_some _ _ hlookup
    exact ⟨id, rule, hid, hmatch⟩
  rw [step]
  rcases hown : ownAnswer json method path body with _ | ⟨asked, response⟩
  · obtain ⟨htest, hstarts⟩ := (ownAnswer_eq_none_iff json method path body).mp hown
    rw [exec_request_handler_of_not_own verbs enumerate stream_id _ hinv.initialized hown]
    rcases hlookup : ForwardingHandler.lookup enumerate st.world path with _ | rule
    · -- no backend is found, so nothing is built that Beast could refuse
      rw [ForwardingHandler.exec_forward_request_of_none _ _ _ _ _ _ _ _
        (by rwa [StringView.chars_of])]
      refine iff_of_false (by simp) ?_
      rintro ⟨-, -, ⟨id, rule, hid, hmatch⟩, -⟩
      exact (BackendRegistry.find_backend_eq_none_iff _ _ _).mp hlookup id rule hid hmatch
    · by_cases haccepts : Accepts verbs method body
      · rw [ForwardingHandler.exec_forward_request_of_accepts _ _ _ _ _ _ _ _
          (by rwa [StringView.chars_of]) (by rwa [StringView.chars_of, StringView.chars_of])]
        exact iff_of_false (by simp) fun h => h.2.2.2 haccepts
      · rw [ForwardingHandler.exec_forward_request_of_not_accepts _ _ _ _ _ _ _ _
          (by rwa [StringView.chars_of]) (by rwa [StringView.chars_of, StringView.chars_of])]
        exact iff_of_true rfl ⟨htest, hstarts, hfound rule hlookup, haccepts⟩
  · rw [exec_request_handler_of_own verbs enumerate stream_id _ hinv.initialized hown]
    refine iff_of_false (by simp) fun h => ?_
    rw [(ownAnswer_eq_none_iff json method path body).mpr ⟨h.1, h.2.1⟩] at hown
    cases hown

/-- **Every request is answered once, on its own stream, by its own answer.** After any run
of requests through the handler, whatever is registered, completes and fails in between:
each has had the handler's own answer, or is served as a forwarded request; no sender but
theirs has been invoked; and the process takes any further request, but for those Beast
refuses. -/
theorem every_request_answered (json : JsonLibrary) (verbs : List Bytes)
    (registry : BackendRegistry) (events : List Event) (st : Forwarding)
    (hrun : Machine.exec (step json verbs) (start registry) events = some st) :
    (∀ (i : ℕ) (call : ForwardCall), st.calls[i]? = some call → Answered json st i call)
      ∧ (∀ reply ∈ st.world.replies, ∃ call, st.calls[reply.sender]? = some call
          ∧ reply.stream_id = call.stream_id)
      ∧ ∀ method path body stream_id enumerate,
          step json verbs st (.request method path body stream_id enumerate) = none
            ↔ Refused verbs st.world.registry method path body := by
  have hinv : Invariant json st :=
    Machine.exec_invariant (Invariant json) invariant_step (invariant_start registry) hrun
  refine ⟨fun i call hcall => answered_of_invariant hinv hcall, fun reply hreply => ?_,
    step_request_eq_none_iff hinv⟩
  have hcall := List.getElem?_eq_getElem (hinv.books.log_lt reply hreply)
  refine ⟨_, hcall, ?_⟩
  have hmem : reply ∈ st.repliesOf reply.sender := Pool.mem_owned.mpr ⟨hreply, rfl⟩
  exact (hinv.share hcall).stream_id_eq reply hmem

/-- The test service and a request for a catch-all backend, which fails to resolve. -/
def testAndForward (enumerate : Enumeration) : List Event :=
  [.request (bytes "GET") (bytes "/a") [] 1 enumerate,
    .request (bytes "GET") (bytes "/test") [] 3 enumerate,
    .complete 0 (.failed (bytes "Host not found"))]

theorem every_request_answered_testAndForward :
    ∃ (json : JsonLibrary) (st : Forwarding) (call other : ForwardCall),
      st.world.replies.map (fun reply => (reply.stream_id, reply.response.status_code))
          = [(3, 204), (1, 502)]
        ∧ st.calls[0]? = some call ∧ st.calls[1]? = some other
        ∧ Answered json st 0 call ∧ Answered json st 1 other := by
  let json : JsonLibrary := ⟨fun _ => none, fun _ => []⟩
  have hlookup : ForwardingHandler.lookup UnorderedMap.anyOrder
      (start BackendRegistry.catchAll).world (bytes "/a") = some BackendRegistry.catchAllRule :=
    BackendRegistry.find_backend_catchAll _ ⟨bytes "a", by decide⟩
  have hforwarded : ownAnswer json (bytes "GET") (bytes "/a") [] = none :=
    (ownAnswer_eq_none_iff json _ _ _).mpr ⟨by decide, by decide⟩
  have htest : ownAnswer json (bytes "GET") (bytes "/test") []
      = some (none, { status_code := 204, body := [] }) := by
    rw [ownAnswer, if_pos rfl, if_pos (by decide)]
  have hrun : (Machine.exec (step json documentedVerbs) (start BackendRegistry.catchAll)
        (testAndForward UnorderedMap.anyOrder)).map (fun st => (st.calls.length,
          st.world.replies.map fun reply => (reply.stream_id, reply.response.status_code)))
      = some (2, [(3, 204), (1, 502)]) := by
    rw [testAndForward, Machine.exec_cons,
      step_request_of_accepts 1 _ rfl hforwarded hlookup (by decide), Option.bind_some,
      Machine.exec_cons, step_request_of_own 3 _ rfl htest, Option.bind_some]
    rfl
  obtain ⟨st, hrun, hst⟩ := Option.map_eq_some_iff.mp hrun
  obtain ⟨hlen, hreplies⟩ := Prod.mk.inj hst
  obtain ⟨hanswered, -, -⟩ := every_request_answered json documentedVerbs _ _ st hrun
  have hfirst := List.getElem?_eq_getElem (show 0 < st.calls.length by omega)
  have hsecond := List.getElem?_eq_getElem (show 1 < st.calls.length by omega)
  exact ⟨json, st, _, _, hreplies, hfirst, hsecond, hanswered 0 _ hfirst, hanswered 1 _ hsecond⟩

end Handling

end Http2Server
