/-
Registering with the proxy from another machine: a `ProxyClient` on the one side, the
HTTP/1.1 proxy on the other, and connections between them.

Each side runs as it was modelled, and the network decides which of its operations
complete, when and how. What it may do is what TCP and HTTP allow. Any operation may fail,
on either side and whatever has become of the other. A session the proxy accepts has at
most one of the client's connections at its other end, or a stranger; on a shared connection
the proxy reads the request that the client's chain is writing or has written, and the client
reads a response the session has started to write. That a connection reaches the proxy at
all shows in the endpoint it is made to. Strangers send what they like, and so does whoever
answers at other endpoints.

A failure tells a caller nothing: its registration may have been performed before the
connection was lost. `registered_once` says what is certain all the same. A call is performed
at most once, as it was asked for, and once by the time its caller is told of success; and
the proxy refuses none of them.
-/
import Http2Server.Process
import Http2Server.Http1Serving
import Http2Server.ProxyCalls
import Http2Server.Registration

set_option autoImplicit false

open ByteString UnorderedMap

namespace Http2Server

/-- A request as it is read at the other end. -/
def HttpRequest.read (req : HttpRequest) : Http1Request where
  method_string := match req.method with
    | .known token => token
    | .unknown => []
  target := req.target
  body := req.body

/-- The request an operation writes. -/
def Stage.writing : Stage → Option HttpRequest
  | .write req => some req
  | _ => none

/-- The two sides; and for each session of the proxy the connection of the client at its
other end, if it is one of these. -/
structure RemoteRegistration where
  client : ProxyCalls
  proxy : Http1Proxy
  peers : List (Option SocketPtr)

namespace RemoteRegistration

/-- The connections of the client. -/
def connections (st : RemoteRegistration) : List Connection :=
  st.client.client.http_client_.connections

/-- The operations it waits for. -/
def pending (st : RemoteRegistration) : List (Op (RegistrationLambda ℕ)) :=
  st.client.client.http_client_.pending

/-- The requests written to a connection so far, and the one being written. -/
def requestsOn (st : RemoteRegistration) (socket : SocketPtr) : List HttpRequest :=
  (st.pending.filter fun op => op.socket = socket).filterMap (fun op => op.stage.writing)
    ++ ((st.connections[socket]?).bind fun connection => connection.written).toList

/-- The responses the proxy has started to write to a connection. -/
def responsesOn (st : RemoteRegistration) (socket : SocketPtr) : List HttpMessage :=
  ((st.peers.zip st.proxy.sessions).filter fun p => p.1 = some socket).flatMap
    fun p => p.2.client_writes

/-- The peer of a session. -/
def peerOf (st : RemoteRegistration) (k : ℕ) : Option SocketPtr := (st.peers[k]?).join

/-- What can happen next. -/
inductive Event
  | call (call : ProxyCall)
  | client (k : ℕ) (completion : Completion)
  | accept (now : ℤ) (peer : Option SocketPtr)
  | proxy (k : ℕ) (completion : Http1Completion) (enumerate : Enumeration)
  | registry (call : RegistryCall)
  | cleanup (now : ℤ)
      (order : ∀ active_requests_ : UnorderedMap UInt64 RequestPtr, Order active_requests_)

/-- **What the network allows.** -/
def Allowed (address : Endpoint) (st : RemoteRegistration) : Event → Prop
  | .client k (.received res) =>
      ∀ op ∈ st.pending[k]?, ∀ connection ∈ st.connections[op.socket]?,
        connection.peer = some address → res ∈ st.responsesOn op.socket
  | .accept _ peer => ∀ socket ∈ peer, socket < st.connections.length ∧ some socket ∉ st.peers
  | .proxy k (.received_request request) _ =>
      ∀ socket ∈ st.peerOf k, ∃ req ∈ st.requestsOn socket, request = req.read
  | _ => True

instance (address : Endpoint) (st : RemoteRegistration) (e : Event) :
    Decidable (Allowed address st e) := by
  cases e with
  | client k completion =>
      cases completion <;> (unfold Allowed; infer_instance)
  | proxy k completion enumerate =>
      cases completion <;> (unfold Allowed; infer_instance)
  | _ => unfold Allowed; infer_instance

/-- One event that the network allows. -/
def step (json : JsonLibrary) (verbs : List Bytes) (address : Endpoint)
    (st : RemoteRegistration) (e : Event) : Option RemoteRegistration :=
  if Allowed address st e then
    match e with
    | .call call =>
        (ProxyCalls.step json verbs st.client (.call call)).map fun client => { st with client }
    | .client k completion =>
        (ProxyCalls.step json verbs st.client (.complete k completion)).map
          fun client => { st with client }
    | .accept now peer =>
        (Http1Proxy.step json st.proxy (.accept now)).map
          fun proxy => { st with proxy, peers := st.peers ++ [peer] }
    | .proxy k completion enumerate =>
        (Http1Proxy.step json st.proxy (.complete k completion enumerate)).map
          fun proxy => { st with proxy }
    | .registry call =>
        (Http1Proxy.step json st.proxy (.registry call)).map fun proxy => { st with proxy }
    | .cleanup now order =>
        (Http1Proxy.step json st.proxy (.cleanup now order)).map fun proxy => { st with proxy }
  else none

/-- A client that has made no call, and a proxy that has accepted nobody. -/
def start (registry : BackendRegistry) : RemoteRegistration where
  client := {}
  proxy := Http1Proxy.start registry
  peers := []

/-- The calls an event makes on the routing table, with the connection of the client each is
made for. -/
def performed (json : JsonLibrary) (st : RemoteRegistration) :
    Event → List (Option SocketPtr × RegistryCall)
  | .proxy k completion enumerate =>
      (Http1Proxy.calls json st.proxy (.complete k completion enumerate)).map
        fun call => (st.peerOf k, call)
  | .registry call => [(none, call)]
  | _ => []

end RemoteRegistration

/-! ## What a call asks of the proxy -/

namespace ProxyCall

/-- The call on the routing table it is for. -/
def wanted (call : ProxyCall) : RegistryCall :=
  match call.action with
  | .register_backend request => .registering (Registration.ruleOf request)
  | .unregister_backend backend_id => .unregister_backend (bytes backend_id)

/-- The value it prints. -/
def data (call : ProxyCall) : Json :=
  match call.action with
  | .register_backend request => ProxyClient.register_backend.registration_data request
  | .unregister_backend backend_id => ProxyClient.unregister_backend.unregistration_data backend_id

/-- What the proxy reads of a call. -/
def received (json : JsonLibrary) (call : ProxyCall) : Http1Request := (call.request json).read

/-- What the proxy answers. -/
def answer (json : JsonLibrary) (call : ProxyCall) : HttpMessage :=
  if (Http1ProxySession.asked json (call.received json)).isSome then
    Http1ProxySession.send_response.response 200
      (Http1ProxySession.registered call.action.method) (bytes "application/json")
  else
    Http1ProxySession.send_response.response 400
      (bytes "\x7b\"error\":\"Invalid JSON\"\x7d") (bytes "application/json")

variable {json : JsonLibrary} {call : ProxyCall}

/-- The proxy reads the registration path, the method of the call and its body. -/
theorem received_eq (json : JsonLibrary) (call : ProxyCall) :
    call.received json = ⟨call.action.method, bytes "/proxy/register", call.action.body json⟩ := by
  rw [received, request, HttpRequest.read, HttpClient.request_method, HttpClient.request_body]
  congr 1
  rw [HttpClient.send_request.request]
  split_ifs <;> rfl

theorem method_eq (action : ProxyAction) :
    action.method = bytes "POST" ∨ action.method = bytes "DELETE" := by
  cases action with
  | register_backend request => exact Or.inl rfl
  | unregister_backend backend_id => exact Or.inr rfl

/-- **The proxy never forwards it**: it is decided on the spot, whatever the table. -/
theorem decision_eq (enumerate : Enumeration) (table : BackendRegistry)
    (session : Http1SessionObject) (request : ActiveRequest) :
    Http1ProxySession.act session request
        (Http1ProxySession.decision json enumerate table (call.received json))
      = { session := session.async_write (call.answer json)
          request := (request.set_response (call.answer json)).set_state .SendingResponse } := by
  rw [Http1ProxySession.decision, answer, if_pos]
  · split_ifs
    · rw [received_eq]
      rfl
    · rfl
  · rw [received_eq]
    exact ⟨rfl, method_eq call.action⟩

/-- When the library parses what it prints, the proxy reads what is wanted. -/
theorem asked_eq (hjson : json.Undoes call.data) :
    Http1ProxySession.asked json (call.received json) = some call.wanted := by
  rw [Http1ProxySession.asked, received_eq, if_pos rfl]
  rw [data] at hjson
  rw [wanted]
  cases haction : call.action with
  | register_backend request =>
      rw [haction] at hjson
      exact Registration.requested_registrationBody (.proxy_client rfl) hjson
  | unregister_backend backend_id =>
      rw [haction] at hjson
      exact Registration.requested_unregistrationBody (.proxy_client rfl) hjson

/-- When the library parses what it prints, the proxy answers with status 200. -/
theorem answer_status (hjson : json.Undoes call.data) : (call.answer json).result_int = 200 := by
  rw [answer, asked_eq hjson, if_pos Option.isSome_some]
  rfl

end ProxyCall

/-! ## What both sides know of each other -/

namespace RemoteRegistration

variable {json : JsonLibrary} {verbs : List Bytes} {address : Endpoint}
  {st st' : RemoteRegistration} {log : List (Option SocketPtr × RegistryCall)}

/-- The calls made on the table for a connection. -/
def callsFor (log : List (Option SocketPtr × RegistryCall)) (socket : SocketPtr) :
    List RegistryCall :=
  (Pool.owned Prod.fst log (some socket)).map Prod.snd

theorem callsFor_append (log more : List (Option SocketPtr × RegistryCall))
    (socket : SocketPtr) : callsFor (log ++ more) socket
      = callsFor log socket ++ callsFor more socket := by
  rw [callsFor, Pool.owned_append, List.map_append]
  rfl

/-- Calls made for somebody else are not among those made for a connection. -/
theorem callsFor_of_ne {peer : Option SocketPtr} {socket : SocketPtr} (h : peer ≠ some socket)
    (calls : List RegistryCall) : callsFor (calls.map fun call => (peer, call)) socket = [] := by
  rw [callsFor, Pool.owned_eq_nil, List.map_nil]
  intro entry hentry
  obtain ⟨call, -, rfl⟩ := List.mem_map.mp hentry
  exact h

theorem callsFor_self (socket : SocketPtr) (calls : List RegistryCall) :
    callsFor (calls.map fun call => (some socket, call)) socket = calls := by
  rw [callsFor, Pool.owned_eq_self, List.map_map]
  · exact List.map_id calls
  · intro entry hentry
    obtain ⟨call, -, rfl⟩ := List.mem_map.mp hentry
    rfl

theorem mem_responsesOn {socket : SocketPtr} {res : HttpMessage} :
    res ∈ st.responsesOn socket
      ↔ ∃ (j : ℕ) (session : Http1SessionObject), st.peers[j]? = some (some socket)
        ∧ st.proxy.sessions[j]? = some session ∧ res ∈ session.client_writes := by
  rw [responsesOn, List.mem_flatMap]
  constructor
  · rintro ⟨⟨peer, session⟩, hmem, hres⟩
    obtain ⟨hzip, hpeer⟩ := List.mem_filter.mp hmem
    obtain ⟨j, hj⟩ := List.getElem?_of_mem hzip
    obtain ⟨hpeers, hsessions⟩ := List.getElem?_zip_eq_some.mp hj
    have hpeer' : peer = some socket := by simpa using hpeer
    exact ⟨j, session, hpeer' ▸ hpeers, hsessions, hres⟩
  · rintro ⟨j, session, hpeers, hsessions, hres⟩
    have hzip : (st.peers.zip st.proxy.sessions)[j]? = some (some socket, session) :=
      List.getElem?_zip_eq_some.mpr ⟨hpeers, hsessions⟩
    refine ⟨(some socket, session), List.mem_filter.mpr ⟨List.mem_of_getElem? hzip, ?_⟩, hres⟩
    exact decide_eq_true rfl

/-- A session that has read a call has its answer, and only that to write. -/
structure Answering (json : JsonLibrary) (call : ProxyCall) (session : Http1SessionObject) :
    Prop where
  client_writes : session.client_writes = [call.answer json]
  pending : ∀ stage, session.pending = some stage → ∃ response, stage = .client_write response

/-- The table has been called for a connection exactly when the session at its other end has
read its call, and then the session answers; and what the client has read from the proxy is
such an answer. -/
structure Invariant (json : JsonLibrary) (address : Endpoint) (st : RemoteRegistration)
    (log : List (Option SocketPtr × RegistryCall)) : Prop where
  client : ProxyCalls.Invariant json st.client
  tracked : Http1Proxy.Tracked st.proxy
  peers_length : st.peers.length = st.proxy.sessions.length
  peers_lt : ∀ socket, some socket ∈ st.peers → socket < st.client.calls.length
  peers_inj : ∀ (i j : ℕ) (socket : SocketPtr), st.peers[i]? = some (some socket) →
    st.peers[j]? = some (some socket) → i = j
  unread : ∀ socket, (∀ (j : ℕ) (session : Http1SessionObject),
      st.peers[j]? = some (some socket) → st.proxy.sessions[j]? = some session →
      session.received = none) → callsFor log socket = []
  read : ∀ (j : ℕ) (socket : SocketPtr) (session : Http1SessionObject),
    st.peers[j]? = some (some socket) → st.proxy.sessions[j]? = some session →
    session.received.isSome → ∃ call, st.client.calls[socket]? = some call
      ∧ Answering json call session
      ∧ callsFor log socket = (Http1ProxySession.asked json (call.received json)).toList
  answered : ∀ (socket : SocketPtr) (connection : Connection) (res : HttpMessage),
    st.connections[socket]? = some connection → connection.peer = some address →
    connection.received = some res → res ∈ st.responsesOn socket

theorem invariant_start (registry : BackendRegistry) : Invariant json address (start registry) []
    where
  client := ProxyCalls.invariant_init
  tracked := Http1Proxy.tracked_start registry
  peers_length := rfl
  peers_lt := by simp [start]
  peers_inj := by simp [start]
  unread := fun _ _ => rfl
  read := by simp [start]
  answered := by simp [start, connections]

/-- What is on its way to the proxy on a connection is the request of its call. -/
theorem Invariant.requestsOn_eq (h : Invariant json address st log) {socket : SocketPtr}
    {req : HttpRequest} (hreq : req ∈ st.requestsOn socket) :
    ∃ call, st.client.calls[socket]? = some call ∧ req = call.request json := by
  rcases List.mem_append.mp hreq with hwriting | hwritten
  · -- being written: only an operation at that point of its chain holds a request
    obtain ⟨op, hop, hstage⟩ := List.mem_filterMap.mp hwriting
    obtain ⟨hpending, hsocket⟩ := List.mem_filter.mp hop
    obtain ⟨call, connection, hcall, -, hchain⟩ := h.client.underway hpending
    have hsocket' : op.socket = socket := by simpa using hsocket
    refine ⟨call, hsocket' ▸ hcall, ?_⟩
    cases hcase : op.stage with
    | write req' =>
        rw [hcase] at hchain hstage
        obtain rfl := Option.some.inj hstage
        cases hchain
        rfl
    | _ =>
        rw [hcase] at hstage
        cases hstage
  · obtain ⟨connection, hconnection, hwritten⟩ :=
      Option.bind_eq_some_iff.mp (Option.mem_toList.mp hwritten)
    have hlt := (List.getElem?_eq_some_iff.mp hconnection).1
    rw [connections, h.client.connections] at hlt
    have hcall := List.getElem?_eq_getElem hlt
    have htold := ProxyCalls.told_of_account hconnection (h.client.books.account socket hlt _ hcall)
    exact ⟨_, hcall, htold.written req hwritten⟩

/-! ## One step -/

/-- A connection that has just brought a response has read it, from the peer it had. -/
theorem received_of_record {host service : Bytes} {req : HttpRequest} {stage : Stage}
    {connection : Connection} {completion : Completion} {res : HttpMessage}
    (hchain : HttpClient.Underway host service req stage connection)
    (h : (connection.record stage completion).received = some res) :
    completion = .received res ∧ (connection.record stage completion).peer = connection.peer := by
  cases hchain <;> cases completion <;> simp_all [Connection.record]

/-- The client calls: a connection more, and nothing on it yet. -/
theorem Invariant.call (h : Invariant json address st log) {call : ProxyCall} {client : ProxyCalls}
    (hstep : ProxyCalls.step json verbs st.client (.call call) = some client) :
    Invariant json address { st with client } log := by
  obtain ⟨hcalls, -, hconnections⟩ := ProxyCalls.step_call hstep
  refine ⟨h.client.send hstep, h.tracked, h.peers_length, fun socket hsocket => ?_, h.peers_inj,
    h.unread, fun j socket session hpeer hsession hread => ?_,
    fun socket connection res hconnection hpeer hres => ?_⟩
  · rw [hcalls, List.length_append]
    exact Nat.lt_add_right _ (h.peers_lt socket hsocket)
  · obtain ⟨earlier, hearlier, hrest⟩ := h.read j socket session hpeer hsession hread
    refine ⟨earlier, ?_, hrest⟩
    rw [hcalls]
    exact Record.getElem?_append_of_some hearlier _
  · rw [connections, hconnections] at hconnection
    rcases Record.getElem?_concat_cases hconnection with hold | ⟨-, rfl⟩
    · exact h.answered socket connection res hold hpeer hres
    · cases hres

/-- An operation of the client completes: what it reads from the proxy, the proxy has written. -/
theorem Invariant.complete (h : Invariant json address st log) {k : ℕ} {completion : Completion}
    {client : ProxyCalls} (hallowed : Allowed address st (.client k completion))
    (hstep : ProxyCalls.step json verbs st.client (.complete k completion) = some client) :
    Invariant json address { st with client } log := by
  obtain ⟨hcalls, op, hop, hconnections⟩ := ProxyCalls.step_complete hstep
  refine ⟨h.client.complete hstep, h.tracked, h.peers_length, fun socket hsocket => ?_,
    h.peers_inj, h.unread, fun j socket session hpeer hsession hread => ?_,
    fun socket connection res hconnection hpeer hres => ?_⟩
  · rw [hcalls]
    exact h.peers_lt socket hsocket
  · rw [hcalls]
    exact h.read j socket session hpeer hsession hread
  · rw [connections, hconnections] at hconnection
    by_cases hsocket : op.socket = socket
    · -- what has been read just now is what the network let it read
      subst hsocket
      obtain ⟨call, before, -, hbefore, hchain⟩ := h.client.underway (List.mem_of_getElem? hop)
      rw [List.getElem?_modify_eq, hbefore] at hconnection
      obtain rfl := Option.some.inj hconnection
      obtain ⟨rfl, hsame⟩ := received_of_record hchain hres
      exact hallowed op hop before hbefore (hsame.symm.trans hpeer)
    · rw [List.getElem?_modify_ne _ _ hsocket] at hconnection
      exact h.answered socket connection res hconnection hpeer hres

/-- The proxy accepts: the new session has read nothing. -/
theorem Invariant.accept (h : Invariant json address st log) {now : ℤ} {peer : Option SocketPtr}
    (hallowed : Allowed address st (.accept now peer)) :
    Invariant json address
      { st with proxy := st.proxy.accept now, peers := st.peers ++ [peer] } log := by
  have hsessions : (st.proxy.accept now).sessions
      = st.proxy.sessions ++ [⟨_, some .read_request, none, [], false⟩] := rfl
  refine ⟨h.client, h.tracked.accept now, ?_, fun socket hsocket => ?_,
    fun i j socket hi hj => ?_, fun socket hnone => ?_,
    fun j socket session hpeer hsession hread => ?_,
    fun socket connection res hconnection hpeer hres => ?_⟩
  · rw [hsessions, List.length_append, List.length_append, h.peers_length]
    rfl
  · rcases List.mem_append.mp hsocket with hold | hnew
    · exact h.peers_lt socket hold
    · rw [← h.client.connections]
      exact (hallowed socket (List.mem_singleton.mp hnew).symm).1
  · rcases Record.getElem?_concat_cases hi with hold | ⟨hlast, hnew⟩ <;>
      rcases Record.getElem?_concat_cases hj with hold' | ⟨hlast', hnew'⟩
    · exact h.peers_inj i j socket hold hold'
    · -- the proxy accepts a connection once
      exact absurd (List.mem_of_getElem? hold) (hallowed socket hnew'.symm).2
    · exact absurd (List.mem_of_getElem? hold') (hallowed socket hnew.symm).2
    · exact hlast.trans hlast'.symm
  · refine h.unread socket fun j session hpeer hsession => hnone j session ?_ ?_
    · exact Record.getElem?_append_of_some hpeer _
    · rw [hsessions]
      exact Record.getElem?_append_of_some hsession _
  · rw [hsessions] at hsession
    rcases Record.getElem?_concat_cases hsession with hold | ⟨-, rfl⟩
    · refine h.read j socket session ?_ hold hread
      have hlt := (List.getElem?_eq_some_iff.mp hold).1
      rwa [List.getElem?_append_left (h.peers_length ▸ hlt)] at hpeer
    · cases hread
  · obtain ⟨j, session, hj, hsession, hmem⟩ :=
      mem_responsesOn.mp (h.answered socket connection res hconnection hpeer hres)
    refine mem_responsesOn.mpr ⟨j, session, Record.getElem?_append_of_some hj _, ?_, hmem⟩
    exact Record.getElem?_append_of_some hsession _

/-- A session that has written something has read a request. -/
theorem Invariant.received_of_client_writes (h : Invariant json address st log) {k : ℕ}
    {session : Http1SessionObject} (hsession : st.proxy.sessions[k]? = some session)
    {res : HttpMessage} (hres : res ∈ session.client_writes) : session.received.isSome := by
  by_contra hnot
  have hwrites := (h.tracked.disciplined session (List.mem_of_getElem? hsession)).writes
  rw [hwrites.2.1 (Option.not_isSome_iff_eq_none.mp hnot)] at hres
  exact absurd hres List.not_mem_nil

/-- A session that has read its call has only its answer to write, and goes on answering. -/
theorem Invariant.answering_complete (h : Invariant json address st log) {k : ℕ}
    {completion : Http1Completion} {enumerate : Enumeration} {session : Http1SessionObject}
    {request : ActiveRequest} {handled : Handled} {w w' : World Unit} {socket : SocketPtr}
    (hpeer : st.peers[k]? = some (some socket))
    (hsession : st.proxy.sessions[k]? = some session) (hread : session.received.isSome)
    (hcomplete : Http1ProxySession.complete json enumerate session request completion w
      = some (handled, w')) :
    session.receives completion = none ∧ handled.session.received.isSome
      ∧ ∃ call, st.client.calls[socket]? = some call ∧ Answering json call handled.session
        ∧ callsFor log socket
          = (Http1ProxySession.asked json (call.received json)).toList := by
  obtain ⟨stage, hpending⟩ := Http1ProxySession.exists_pending hcomplete
  obtain ⟨call, hcall, hanswering, hcalls⟩ := h.read k socket session hpeer hsession hread
  obtain ⟨response, rfl⟩ := hanswering.pending stage hpending
  obtain ⟨hhandled, -, -⟩ := Http1ProxySession.complete_client_write hpending hcomplete
  have hreceived : handled.session.received = session.received := by
    rw [hhandled]
    exact Http1ProxySession.record_received_of_client_write hpending
  refine ⟨?_, hreceived ▸ hread, call, hcall, ⟨?_, ?_⟩, hcalls⟩
  · rw [Http1SessionObject.receives.eq_def, hpending]
  · rw [hhandled, Http1SessionObject.finish_client_writes,
      Http1SessionObject.record_client_writes, hanswering.client_writes]
  · rw [hhandled, Http1SessionObject.finish_pending]
    intro _ hnone
    cases hnone

/-- A session that has read nothing fails to read, or reads the call of its connection and
answers it. -/
theorem Invariant.reading_complete (h : Invariant json address st log) {k : ℕ}
    {completion : Http1Completion} {enumerate : Enumeration} {session : Http1SessionObject}
    {request : ActiveRequest} {handled : Handled} {w w' : World Unit} {socket : SocketPtr}
    (hallowed : Allowed address st (.proxy k completion enumerate))
    (hpeer : st.peers[k]? = some (some socket))
    (hsession : st.proxy.sessions[k]? = some session) (hnone : session.received = none)
    (hcomplete : Http1ProxySession.complete json enumerate session request completion w
      = some (handled, w')) :
    (session.receives completion = none ∧ handled.session.received = none)
      ∨ ∃ call, session.receives completion = some (call.received json)
        ∧ handled.session.received.isSome
        ∧ st.client.calls[socket]? = some call ∧ Answering json call handled.session := by
  obtain ⟨stage, hpending⟩ := Http1ProxySession.exists_pending hcomplete
  have hdisciplined := h.tracked.disciplined session (List.mem_of_getElem? hsession)
  rw [Disciplined, hpending] at hdisciplined
  -- only a read from the client is left to a session without a request
  obtain rfl : stage = .read_request := by
    cases stage with
    | read_request => rfl
    | _ => exact absurd hdisciplined.1 (by rw [hnone]; exact Bool.false_ne_true)
  rcases Http1ProxySession.complete_read_request hpending hcomplete with
    ⟨message, rfl, rfl⟩ | ⟨message, rfl, rfl⟩
  · refine Or.inl ⟨?_, ?_⟩
    · rw [Http1SessionObject.receives.eq_def, hpending]
    · simp [Http1ProxySession.read_failed, Http1SessionObject.finish, Http1SessionObject.record,
        hpending, hnone]
  · -- what it reads is what has been sent on its connection
    obtain ⟨req, hreq, hmessage⟩ := hallowed socket (by rw [peerOf, hpeer]; rfl)
    obtain ⟨call, hcall, hsent⟩ := h.requestsOn_eq hreq
    obtain rfl : message = call.received json := by
      rw [hmessage, hsent]
      rfl
    have hreceives : session.receives (.received_request (call.received json))
        = some (call.received json) := by
      rw [Http1SessionObject.receives.eq_def, hpending]
    refine Or.inr ⟨call, hreceives, ?_, hcall, ?_⟩
    · rw [ProxyCall.decision_eq]
      simp [Http1SessionObject.async_write, Http1SessionObject.record, hpending]
    · rw [ProxyCall.decision_eq]
      refine ⟨?_, fun stage' hstage => ⟨call.answer json, (Option.some.inj hstage).symm⟩⟩
      rw [Http1SessionObject.async_write_client_writes, Http1SessionObject.record_client_writes,
        hdisciplined.2, List.nil_append]

section Completion

variable {k : ℕ} {completion : Http1Completion} {enumerate : Enumeration}
  {session : Http1SessionObject} {request : ActiveRequest} {handled : Handled}
  {w w' : World Unit} {peer : Option SocketPtr} {socket : SocketPtr}

/-- When the peer of a session is a connection, the table is called for it as what the
session has read asks. -/
theorem callsFor_performed_self (hsession : st.proxy.sessions[k]? = some session)
    (hpeer : st.peers[k]? = some (some socket)) :
    callsFor (performed json st (.proxy k completion enumerate)) socket
      = ((session.receives completion).bind (Http1ProxySession.asked json)).toList := by
  have hpeerOf : st.peerOf k = some socket := by rw [peerOf, hpeer]; rfl
  rw [performed, Http1Proxy.calls_complete hsession, hpeerOf, callsFor_self]

/-- When the peer of a session is another connection, the table is not called for this one. -/
theorem callsFor_performed_of_ne (hne : st.peers[k]? ≠ some (some socket)) :
    callsFor (performed json st (.proxy k completion enumerate)) socket = [] := by
  refine callsFor_of_ne (fun heq => hne ?_) _
  rw [peerOf, Option.join_eq_some_iff] at heq
  exact heq

/-- Nothing has been called for a connection whose session has read nothing. -/
theorem Invariant.callsFor_of_unread (h : Invariant json address st log)
    (hpeer : st.peers[k]? = some (some socket))
    (hsession : st.proxy.sessions[k]? = some session) (hnone : session.received = none) :
    callsFor log socket = [] := by
  refine h.unread socket fun j other hj hother => ?_
  obtain rfl := h.peers_inj k j socket hpeer hj
  rw [← Option.some.inj (hsession.symm.trans hother)]
  exact hnone

/-- After a completion, the session of a connection that has read nothing has had nothing
called for it, and one that has answers its call, performed once. -/
theorem Invariant.callsFor_complete (h : Invariant json address st log)
    (hallowed : Allowed address st (.proxy k completion enumerate))
    (hpeer : st.peers[k]? = some (some socket))
    (hsession : st.proxy.sessions[k]? = some session)
    (hcomplete : Http1ProxySession.complete json enumerate session request completion w
      = some (handled, w')) :
    (handled.session.received = none
        ∧ callsFor (log ++ performed json st (.proxy k completion enumerate)) socket = [])
      ∨ (handled.session.received.isSome ∧ ∃ call, st.client.calls[socket]? = some call
        ∧ Answering json call handled.session
        ∧ callsFor (log ++ performed json st (.proxy k completion enumerate)) socket
          = (Http1ProxySession.asked json (call.received json)).toList) := by
  rw [callsFor_append, callsFor_performed_self hsession hpeer]
  by_cases hread : session.received.isSome
  · obtain ⟨hreceives, hstill, call, hcall, hanswering, hcalls⟩ :=
      h.answering_complete hpeer hsession hread hcomplete
    refine Or.inr ⟨hstill, call, hcall, hanswering, ?_⟩
    rw [hreceives, hcalls]
    exact List.append_nil _
  · have hnone := Option.not_isSome_iff_eq_none.mp hread
    rw [h.callsFor_of_unread hpeer hsession hnone]
    rcases h.reading_complete hallowed hpeer hsession hnone hcomplete with
      ⟨hreceives, hstill⟩ | ⟨call, hreceives, hsome, hcall, hanswering⟩
    · rw [hreceives]
      exact Or.inl ⟨hstill, rfl⟩
    · rw [hreceives]
      exact Or.inr ⟨hsome, call, hcall, hanswering, rfl⟩

/-- What a session has written to a connection stays: it writes one answer. -/
theorem Invariant.client_writes_complete (h : Invariant json address st log)
    (hpeer : st.peers[k]? = some (some socket))
    (hsession : st.proxy.sessions[k]? = some session)
    (hcomplete : Http1ProxySession.complete json enumerate session request completion w
      = some (handled, w')) {res : HttpMessage} (hres : res ∈ session.client_writes) :
    res ∈ handled.session.client_writes := by
  have hread := h.received_of_client_writes hsession hres
  obtain ⟨call, hcall, hanswering, -⟩ := h.read k socket session hpeer hsession hread
  obtain ⟨-, -, call', hcall', hanswering', -⟩ :=
    h.answering_complete hpeer hsession hread hcomplete
  obtain rfl := Option.some.inj (hcall.symm.trans hcall')
  rw [hanswering'.client_writes, ← hanswering.client_writes]
  exact hres

end Completion

/-- **An operation of a session completes.** -/
theorem Invariant.proxy_complete (h : Invariant json address st log) {k : ℕ}
    {completion : Http1Completion} {enumerate : Enumeration} {proxy : Http1Proxy}
    (hallowed : Allowed address st (.proxy k completion enumerate))
    (hstep : Http1Proxy.step json st.proxy (.complete k completion enumerate) = some proxy) :
    Invariant json address { st with proxy }
      (log ++ performed json st (.proxy k completion enumerate)) := by
  have htracked := h.tracked.complete hstep
  obtain ⟨session, request, handled, world, hsession, -, hcomplete, rfl⟩ :=
    Http1Proxy.step_complete_eq_some hstep
  have hlt := (List.getElem?_eq_some_iff.mp hsession).1
  refine ⟨h.client, htracked, ?_, h.peers_lt, h.peers_inj, fun socket hnone => ?_,
    fun j socket other hj hother hread => ?_,
    fun socket connection res hconnection hpeer hres => ?_⟩
  · exact h.peers_length.trans (List.length_set ..).symm
  · by_cases hpeer : st.peers[k]? = some (some socket)
    · have hended := hnone k _ hpeer (List.getElem?_set_self hlt)
      rcases h.callsFor_complete hallowed hpeer hsession hcomplete with
        ⟨-, hcalls⟩ | ⟨hsome, -⟩
      · exact hcalls
      · rw [hended] at hsome
        cases hsome
    · -- the completion is of another connection's session
      rw [callsFor_append, callsFor_performed_of_ne hpeer, List.append_nil]
      refine h.unread socket fun j other hj hother => ?_
      have hne : k ≠ j := by
        rintro rfl
        exact hpeer hj
      exact hnone j other hj ((List.getElem?_set_ne hne).trans hother)
  · rcases Record.getElem?_set_cases hother with ⟨rfl, rfl⟩ | ⟨hne, hother⟩
    · rcases h.callsFor_complete hallowed hj hsession hcomplete with ⟨hstill, -⟩ | ⟨-, hcalls⟩
      · rw [hstill] at hread
        cases hread
      · exact hcalls
    · have hpeer : st.peers[k]? ≠ some (some socket) := fun heq =>
        hne (h.peers_inj j k socket hj heq)
      rw [callsFor_append, callsFor_performed_of_ne hpeer, List.append_nil]
      exact h.read j socket other hj hother hread
  · -- what a session has written it does not take back
    obtain ⟨j, other, hj, hother, hmem⟩ :=
      mem_responsesOn.mp (h.answered socket connection res hconnection hpeer hres)
    by_cases hk : k = j
    · subst hk
      obtain rfl := Option.some.inj (hsession.symm.trans hother)
      exact mem_responsesOn.mpr ⟨k, handled.session, hj, List.getElem?_set_self hlt,
        h.client_writes_complete hj hsession hcomplete hmem⟩
    · exact mem_responsesOn.mpr ⟨j, other, hj, (List.getElem?_set_ne hk).trans hother, hmem⟩

/-- Sessions and connections as they were, and calls that are nobody's: nothing changes. -/
theorem Invariant.frame (h : Invariant json address st log) {proxy : Http1Proxy}
    (htracked : proxy.Tracked) (hsessions : proxy.sessions = st.proxy.sessions)
    (calls : List RegistryCall) :
    Invariant json address { st with proxy } (log ++ calls.map fun call => (none, call)) := by
  have hcalls : ∀ socket, callsFor (log ++ calls.map fun call => (none, call)) socket
      = callsFor log socket := by
    intro socket
    rw [callsFor_append, callsFor_of_ne (by simp), List.append_nil]
  refine ⟨h.client, htracked, ?_, h.peers_lt, h.peers_inj, fun socket hnone => ?_,
    fun j socket session hj hsession hread => ?_,
    fun socket connection res hconnection hpeer hres => ?_⟩
  · exact h.peers_length.trans (congrArg List.length hsessions.symm)
  · rw [hcalls]
    refine h.unread socket fun j session hj hsession => hnone j session hj ?_
    rwa [← hsessions] at hsession
  · rw [hcalls]
    dsimp only at hsession
    rw [hsessions] at hsession
    exact h.read j socket session hj hsession hread
  · obtain ⟨j, session, hj, hsession, hmem⟩ :=
      mem_responsesOn.mp (h.answered socket connection res hconnection hpeer hres)
    exact mem_responsesOn.mpr ⟨j, session, hj, hsessions ▸ hsession, hmem⟩

/-- **Every step keeps the invariant.** -/
theorem invariant_step (st : RemoteRegistration) (log : List (Option SocketPtr × RegistryCall))
    (e : Event) (st' : RemoteRegistration) (h : Invariant json address st log)
    (hstep : step json verbs address st e = some st') :
    Invariant json address st' (log ++ performed json st e) := by
  rw [step.eq_def, Option.ite_none_right_eq_some] at hstep
  obtain ⟨hallowed, hstep⟩ := hstep
  cases e with
  | call call =>
      obtain ⟨client, hclient, rfl⟩ := Option.map_eq_some_iff.mp hstep
      exact (List.append_nil log).symm ▸ h.call hclient
  | client k completion =>
      obtain ⟨client, hclient, rfl⟩ := Option.map_eq_some_iff.mp hstep
      exact (List.append_nil log).symm ▸ h.complete hallowed hclient
  | accept now peer =>
      obtain ⟨proxy, hproxy, rfl⟩ := Option.map_eq_some_iff.mp hstep
      obtain rfl := Option.some.inj hproxy
      exact (List.append_nil log).symm ▸ h.accept hallowed
  | proxy k completion enumerate =>
      obtain ⟨proxy, hproxy, rfl⟩ := Option.map_eq_some_iff.mp hstep
      exact h.proxy_complete hallowed hproxy
  | registry call =>
      obtain ⟨proxy, hproxy, rfl⟩ := Option.map_eq_some_iff.mp hstep
      have htracked := Http1Proxy.tracked_step _ _ _ h.tracked hproxy
      obtain rfl := Option.some.inj hproxy
      exact h.frame htracked rfl [call]
  | cleanup now order =>
      obtain ⟨proxy, hproxy, rfl⟩ := Option.map_eq_some_iff.mp hstep
      have htracked := Http1Proxy.tracked_step _ _ _ h.tracked hproxy
      obtain rfl := Option.some.inj hproxy
      exact h.frame htracked rfl []

/-! ## What is certain -/

/-- The table is the replay of the calls made on it. -/
theorem table_eq {registry : BackendRegistry} {events : List Event}
    (hrun : Machine.exec (step json verbs address) (start registry) events = some st) :
    st.proxy.world.registry
      = ((Machine.outputs (step json verbs address) (performed json) (start registry)
          events).map Prod.snd).foldl RegistryCall.apply registry := by
  -- only the steps of the proxy touch the table, and what they do is what is logged
  refine Machine.exec_invariant_log (fun st log => st.proxy.world.registry
    = (log.map Prod.snd).foldl RegistryCall.apply registry) ?_ rfl hrun
  intro st log e st' h hstep
  rw [step.eq_def, Option.ite_none_right_eq_some] at hstep
  obtain ⟨-, hstep⟩ := hstep
  rw [List.map_append, List.foldl_append, ← h]
  cases e with
  | call call =>
      obtain ⟨client, -, rfl⟩ := Option.map_eq_some_iff.mp hstep
      rfl
  | client k completion =>
      obtain ⟨client, -, rfl⟩ := Option.map_eq_some_iff.mp hstep
      rfl
  | accept now peer =>
      obtain ⟨proxy, hproxy, rfl⟩ := Option.map_eq_some_iff.mp hstep
      exact (Http1Proxy.performed_step hproxy).registry
  | proxy k completion enumerate =>
      obtain ⟨proxy, hproxy, rfl⟩ := Option.map_eq_some_iff.mp hstep
      rw [performed, List.map_map]
      exact (Http1Proxy.performed_step hproxy).registry.trans
        (congrArg (List.foldl _ _) (List.map_id _).symm)
  | registry call =>
      obtain ⟨proxy, hproxy, rfl⟩ := Option.map_eq_some_iff.mp hstep
      exact (Http1Proxy.performed_step hproxy).registry
  | cleanup now order =>
      obtain ⟨proxy, hproxy, rfl⟩ := Option.map_eq_some_iff.mp hstep
      exact (Http1Proxy.performed_step hproxy).registry

/-- **What is certain of a call.** The table is called for it at most once, and as it asks.
If its connection is to the proxy, that has happened by the time its caller is told of
success; and of failure it is told only because its connection has failed. -/
structure Registered (address : Endpoint) (st : RemoteRegistration)
    (log : List (Option SocketPtr × RegistryCall)) (i : ℕ) (call : ProxyCall) : Prop where
  at_most_once : callsFor log i = [] ∨ callsFor log i = [call.wanted]
  success : ∀ connection ∈ st.connections[i]?, connection.peer = some address →
    ∀ message, (i, true, message) ∈ st.client.told → callsFor log i = [call.wanted]
  failure : ∀ connection ∈ st.connections[i]?, connection.peer = some address →
    ∀ message, (i, false, message) ∈ st.client.told → connection.failed = true

/-- A session at the other end of a connection that has read its call has performed it. -/
theorem Invariant.callsFor_eq (h : Invariant json address st log) {i j : ℕ} {call : ProxyCall}
    {session : Http1SessionObject} (hcall : st.client.calls[i]? = some call)
    (hjson : json.Undoes call.data) (hpeer : st.peers[j]? = some (some i))
    (hsession : st.proxy.sessions[j]? = some session) (hread : session.received.isSome) :
    callsFor log i = [call.wanted] ∧ ∀ res ∈ session.client_writes, res.result_int = 200 := by
  obtain ⟨other, hother, hanswering, hcalls⟩ := h.read j i session hpeer hsession hread
  obtain rfl := Option.some.inj (hcall.symm.trans hother)
  rw [hcalls, ProxyCall.asked_eq hjson, hanswering.client_writes]
  exact ⟨rfl, List.forall_mem_singleton.mpr (ProxyCall.answer_status hjson)⟩

/-- What the client has read from the proxy is the answer to a call performed. -/
theorem Invariant.callsFor_of_received (h : Invariant json address st log) {i : ℕ}
    {call : ProxyCall} {connection : Connection} {res : HttpMessage}
    (hcall : st.client.calls[i]? = some call) (hjson : json.Undoes call.data)
    (hconnection : st.connections[i]? = some connection)
    (hpeer : connection.peer = some address) (hres : connection.received = some res) :
    callsFor log i = [call.wanted] ∧ res.result_int = 200 := by
  obtain ⟨j, session, hj, hsession, hmem⟩ :=
    mem_responsesOn.mp (h.answered i connection res hconnection hpeer hres)
  obtain ⟨hcalls, hstatus⟩ :=
    h.callsFor_eq hcall hjson hj hsession (h.received_of_client_writes hsession hmem)
  exact ⟨hcalls, hstatus res hmem⟩

/-- What the caller of a connection to the proxy has been told: of success when its call was
performed, and of failure when the connection failed. -/
theorem Invariant.told_cases (h : Invariant json address st log) {i : ℕ} {call : ProxyCall}
    {connection : Connection} (hcall : st.client.calls[i]? = some call)
    (hjson : json.Undoes call.data) (hconnection : st.connections[i]? = some connection)
    (hpeer : connection.peer = some address) {success : Bool} {message : Bytes}
    (htold : (i, success, message) ∈ st.client.told) :
    (success = true ∧ callsFor log i = [call.wanted])
      ∨ (success = false ∧ connection.failed = true) := by
  have hlt := (List.getElem?_eq_some_iff.mp hcall).1
  have hrecord : ProxyCalls.Told json st.client i call connection :=
    ProxyCalls.told_of_account hconnection (h.client.books.account i hlt call hcall)
  have hmem : (i, success, message) ∈ st.client.toldOf i := Pool.mem_owned.mpr ⟨htold, rfl⟩
  rcases hfailed : connection.failed with _ | _
  · rcases hreceived : connection.received with _ | res
    · rw [(hrecord.waiting hfailed hreceived).2] at hmem
      exact absurd hmem List.not_mem_nil
    · obtain ⟨hcalls, hstatus⟩ := h.callsFor_of_received hcall hjson hconnection hpeer hreceived
      obtain ⟨-, -, -, hlog⟩ := hrecord.answered res hreceived
      rw [hlog, List.mem_singleton, ProxyCall.report, if_pos hstatus] at hmem
      exact Or.inl ⟨(Prod.mk.inj (Prod.mk.inj hmem).2).1, hcalls⟩
  · obtain ⟨⟨stage, error⟩, hfailure⟩ := Option.isSome_iff_exists.mp hfailed
    obtain ⟨-, -, hlog⟩ := hrecord.failed stage error hfailure
    rw [hlog, List.mem_singleton] at hmem
    exact Or.inr ⟨(Prod.mk.inj (Prod.mk.inj hmem).2).1, rfl⟩

theorem registered_of_invariant (h : Invariant json address st log) {i : ℕ} {call : ProxyCall}
    (hcall : st.client.calls[i]? = some call) (hjson : json.Undoes call.data) :
    Registered address st log i call := by
  refine ⟨?_, fun connection hconnection hpeer message hmem => ?_,
    fun connection hconnection hpeer message hmem => ?_⟩
  · by_cases hread : ∃ (j : ℕ) (session : Http1SessionObject), st.peers[j]? = some (some i)
        ∧ st.proxy.sessions[j]? = some session ∧ session.received.isSome
    · obtain ⟨j, session, hpeer, hsession, hsome⟩ := hread
      exact Or.inr (h.callsFor_eq hcall hjson hpeer hsession hsome).1
    · refine Or.inl (h.unread i fun j session hpeer hsession => ?_)
      exact Option.not_isSome_iff_eq_none.mp fun hsome => hread ⟨j, session, hpeer, hsession, hsome⟩
  · rcases h.told_cases hcall hjson hconnection hpeer hmem with ⟨-, hcalls⟩ | ⟨hsuccess, -⟩
    · exact hcalls
    · cases hsuccess
  · rcases h.told_cases hcall hjson hconnection hpeer hmem with ⟨hsuccess, -⟩ | ⟨-, hfailed⟩
    · cases hsuccess
    · exact hfailed

/-- **A registration is performed at most once, and once when its caller is told so.** In
every run of a client with any number of calls, a proxy with any number of sessions, and a
network that may fail any operation of either, with the other front end and the cleanup in
between; when the library parses what the client printed. The table is what the calls of the
run make of it. -/
theorem registered_once (json : JsonLibrary) (verbs : List Bytes) (address : Endpoint)
    (registry : BackendRegistry) (events : List Event) (st : RemoteRegistration)
    (hrun : Machine.exec (step json verbs address) (start registry) events = some st)
    (hjson : ∀ call ∈ st.client.calls, json.Undoes call.data) :
    st.proxy.world.registry
        = ((Machine.outputs (step json verbs address) (performed json) (start registry)
            events).map Prod.snd).foldl RegistryCall.apply registry
      ∧ ∀ (i : ℕ) (call : ProxyCall), st.client.calls[i]? = some call →
        Registered address st
          (Machine.outputs (step json verbs address) (performed json) (start registry) events)
          i call := by
  have hinv := Machine.exec_invariant_log (Invariant json address) invariant_step
    (invariant_start registry) hrun
  exact ⟨table_eq hrun, fun i call hcall =>
    registered_of_invariant hinv hcall (hjson call (List.mem_of_getElem? hcall))⟩

/-- The proxy of the example below. -/
def proxyAddress : Endpoint := ⟨bytes "10.0.0.1", 9080⟩

/-- A registration, from the call to the answer. -/
def registerQuoted (enumerate : Enumeration) : List Event :=
  let call : ProxyCall := ⟨bytes "proxy", 9080, .register_backend Registration.quoted⟩
  [.call call, .client 0 (.resolved ⟨proxyAddress, []⟩), .client 0 .connected,
    .accept 0 (some 0),
    .proxy 0 (.received_request (call.received Registration.quotedJson)) enumerate,
    .client 0 .written, .client 0 (.received (call.answer Registration.quotedJson))]

theorem registered_once_registerQuoted :
    ∃ (st : RemoteRegistration) (log : List (Option SocketPtr × RegistryCall)),
      Machine.exec (step Registration.quotedJson documentedVerbs proxyAddress) (start .empty)
          (registerQuoted anyOrder) = some st
        ∧ st.client.told.map (fun told => (told.1, told.2.1)) = [(0, true)]
        ∧ callsFor log 0 = [.registering (Registration.ruleOf Registration.quoted)]
        ∧ Registered proxyAddress st log 0
          ⟨bytes "proxy", 9080, .register_backend Registration.quoted⟩ := by
  have hrun : (Machine.exec (step Registration.quotedJson documentedVerbs proxyAddress)
      (start .empty) (registerQuoted anyOrder)).map (fun st =>
        (st.client.calls, st.client.told.map fun told => (told.1, told.2.1)))
      = some ([⟨bytes "proxy", 9080, .register_backend Registration.quoted⟩], [(0, true)]) := by
    decide +kernel
  obtain ⟨st, hrun, hst⟩ := Option.map_eq_some_iff.mp hrun
  obtain ⟨hcalls, htold⟩ := Prod.mk.inj hst
  have hcalls' := registered_once Registration.quotedJson documentedVerbs proxyAddress .empty _ st
    hrun (by
      rw [hcalls]
      exact List.forall_mem_singleton.mpr Registration.quotedJson_undoes_registration)
  have hregistered := hcalls'.2 0 ⟨bytes "proxy", 9080, .register_backend Registration.quoted⟩
    (by rw [hcalls]; rfl)
  exact ⟨st, _, hrun, htold, by decide +kernel, hregistered⟩

end RemoteRegistration

end Http2Server
