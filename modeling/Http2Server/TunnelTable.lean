/-
Whether the routing table follows the tunnel.

The tunnel client counts what it has registered by server, and `lifecycle_iff` says when its
requests keep what is registered in step with the active tunnel. But the two servers of a
proxy show one table: what is registered through either is taken back through either. So what
the table holds once all requests have arrived is up to the last of them, whichever server it
went to, and no connection waits for another.

`follows_iff` says in which runs of the tunnel client the table is sure to hold the active
tunnel's rule, and nothing without one: when each server handles what it gets in the order it
was sent, and when nothing keeps the order at all. The process is the whole one of `Process`,
and whatever else it receives may come in between.
-/
import Http2Server.Process
import Http2Server.Http2Exchange
import Http2Server.RemoteRegistration
import Http2Server.TunnelLifecycle

set_option autoImplicit false

open ByteString UnorderedMap

namespace Http2Server

/-! ## The last word on an id -/

/-- What a call leaves in the table under the id it names. -/
def RegistryCall.entry : RegistryCall → Option ForwardingRule
  | register_backend backend_id host port path_pattern =>
      some ⟨backend_id, host, port, path_pattern⟩
  | unregister_backend _ => none

/-- A call has the last word on the id it names. -/
theorem BackendRegistry.lookup_apply_self (registry : BackendRegistry) (call : RegistryCall) :
    (call.apply registry).backends_.lookup call.backend_id = call.entry := by
  cases call with
  | register_backend backend_id host port path_pattern =>
      exact lookup_register_backend_self _ _ _ _ _
  | unregister_backend backend_id => exact lookup_unregister_backend_self _ _

/-- A call leaves what is stored under any other id. -/
theorem BackendRegistry.lookup_apply_of_ne (registry : BackendRegistry) {call : RegistryCall}
    {id : Bytes} (h : call.backend_id ≠ id) :
    (call.apply registry).backends_.lookup id = registry.backends_.lookup id := by
  cases call with
  | register_backend backend_id host port path_pattern =>
      exact lookup_register_backend_of_ne _ _ _ _ h.symm
  | unregister_backend backend_id => exact lookup_unregister_backend_of_ne _ h.symm

/-- What a table has under an id after some calls is what the last of them that names it
leaves. -/
theorem BackendRegistry.lookup_foldl_apply (registry : BackendRegistry)
    (calls : List RegistryCall) (id : Bytes) :
    (calls.foldl RegistryCall.apply registry).backends_.lookup id
      = ((Pool.owned RegistryCall.backend_id calls id).getLast?).elim
          (registry.backends_.lookup id) RegistryCall.entry := by
  induction calls using List.reverseRecOn with
  | nil => rfl
  | append_singleton calls call ih =>
      rw [List.foldl_append, List.foldl_cons, List.foldl_nil]
      by_cases hid : call.backend_id = id
      · subst hid
        rw [Pool.owned_concat_self rfl, List.getLast?_concat, lookup_apply_self]
        rfl
      · rw [Pool.owned_concat_of_ne hid, lookup_apply_of_ne _ hid, ih]

/-! ## Anything on the registration path can be received

A client connects, and sends the request as its first: the server answers it itself. -/

section Receiving

variable (json : JsonLibrary) (verbs : List Bytes) (request : Http1Request)
  (enumerate : Enumeration)

/-- The HEADERS frame of a request with a body, first on its connection. -/
def firstHeaders : Frame := ⟨.HEADERS, 0x04, 1, .REQUEST⟩

/-- The request, on a new HTTP/2 connection. -/
def Server.arriving (sess : SessionPtr) : List Server.Event :=
  [.accept false,
    .recv sess (.on_header firstHeaders (bytes ":method") request.method_string) enumerate,
    .recv sess (.on_header firstHeaders (bytes ":path") request.target) enumerate,
    .recv sess (.on_data_chunk_recv 0x01 1 request.body) enumerate]

/-- The request, on a new HTTP/1.1 connection. -/
def Http1Proxy.arriving (session : ℕ) : List Http1Proxy.Event :=
  [.accept 0, .complete session (.received_request request) enumerate]

/-- The step of a callback of the newest session that dispatches nothing. -/
theorem Server.step_recv_newest (st : Server) {object : SessionObject} {session : Session}
    {callback : Callback} (hpending : object.pending = some .read)
    (hcallback : object.session.callback callback = (session, none)) :
    step json verbs { st with sessions := st.sessions ++ [object] }
        (.recv st.sessions.length callback enumerate)
      = some { st with sessions := st.sessions ++ [{ object with session := session }] } := by
  simp [step, hpending, hcallback]

/-- A callback of the newest session may dispatch a request the server answers itself. -/
theorem Server.exists_step_recv_newest (st : Server) {object : SessionObject} {d : Dispatch}
    {callback : Callback} (hinit : st.world.forwarding_handler_ = true)
    (hpending : object.pending = some .read)
    (hcallback : (object.session.callback callback).2 = some d)
    (hown : Main.ownAnswer json d.method d.path d.body ≠ none) :
    ∃ st', step json verbs { st with sessions := st.sessions ++ [object] }
        (.recv st.sessions.length callback enumerate) = some st' := by
  obtain ⟨⟨asked, response⟩, hown⟩ := Option.ne_none_iff_exists'.mp hown
  simp [step, hpending, hcallback,
    Main.exec_request_handler_of_own verbs enumerate d.stream_id st.sessions.length hinit hown]

/-- The session of the request when its first header has come. -/
def Session.withMethod : Session :=
  ({} : Session).on_header_cb firstHeaders (bytes ":method") request.method_string

/-- The session of the request when all its headers have come. -/
def Session.withPath : Session :=
  (withMethod request).on_header_cb firstHeaders (bytes ":path") request.target

/-- The last callback dispatches the request. -/
theorem Session.callback_withPath :
    ((withPath request).callback (.on_data_chunk_recv 0x01 1 request.body)).2
      = some ⟨request.method_string, request.target, request.body, 1⟩ := by
  have hheaders : firstHeaders.type = .HEADERS ∧ firstHeaders.cat = .REQUEST := ⟨rfl, rfl⟩
  have hpath : ¬ bytes ":path" = bytes ":method" := by decide
  have hend : endStream 0x01 = true := rfl
  rw [callback, on_data_chunk_recv_cb, if_pos hend, lookup_modify_self, withPath, on_header_cb,
    if_pos hheaders, withMethod, on_header_cb, if_pos hheaders]
  simp only [firstHeaders, lookup_modify_self, Option.getD_some, Option.map_some,
    StreamData.setHeader, StreamData.dispatch, if_true, if_neg hpath]
  rfl

theorem Server.exec_arriving (st : Server) (hinit : st.world.forwarding_handler_ = true)
    (htarget : request.target = bytes "/proxy/register") :
    ∃ st', Machine.exec (step json verbs) st (arriving request enumerate st.sessions.length)
        = some st'
      ∧ Machine.outputs (step json verbs) received st
          (arriving request enumerate st.sessions.length) = [(.http2, request)] := by
  -- the newest session, callback by callback
  let reading (session : Session) : Server :=
    { st with sessions := st.sessions ++ [{ pending := some .read, session }] }
  have haccept : step json verbs st (.accept false) = some (reading {}) := rfl
  have hmethod : step json verbs (reading {}) (.recv st.sessions.length
      (.on_header firstHeaders (bytes ":method") request.method_string) enumerate)
      = some (reading (.withMethod request)) := step_recv_newest json verbs enumerate st rfl rfl
  have hpath : step json verbs (reading (.withMethod request)) (.recv st.sessions.length
      (.on_header firstHeaders (bytes ":path") request.target) enumerate)
      = some (reading (.withPath request)) := step_recv_newest json verbs enumerate st rfl rfl
  have hown : Main.ownAnswer json request.method_string request.target request.body ≠ none := by
    rw [Ne, Main.ownAnswer_eq_none_iff, htarget]
    exact fun h => h.2 List.prefix_rfl
  obtain ⟨st', hbody⟩ : ∃ st', step json verbs (reading (.withPath request))
      (.recv st.sessions.length (.on_data_chunk_recv 0x01 1 request.body) enumerate) = some st' :=
    exists_step_recv_newest json verbs enumerate st hinit rfl (Session.callback_withPath request)
      hown
  have hnewest (session : Session) : (reading session).sessions[st.sessions.length]?
      = some { pending := some .read, session } := List.getElem?_concat_length
  refine ⟨st', ?_, ?_⟩
  · simp only [arriving, Machine.exec_cons, haccept, hmethod, hpath, hbody, Option.bind_some,
      Machine.exec_nil]
  · simp only [arriving, Machine.outputs, haccept, hmethod, hpath, hbody, Option.elim_some,
      received, dispatched, hnewest, Session.callback_withPath]
    rfl

theorem Http1Proxy.exec_arriving (st : Http1Proxy) :
    ∃ st', Machine.exec (step json) st (arriving request enumerate st.sessions.length) = some st'
      ∧ Machine.outputs (step json) received st (arriving request enumerate st.sessions.length)
        = [(.http1, request)] := by
  have haccept : step json st (.accept 0) = some (st.accept 0) := rfl
  have hsession : (st.accept 0).sessions[st.sessions.length]?
      = some { active_request_ := st.manager.requests.length, pending := some .read_request } :=
    List.getElem?_concat_length
  have hrequest : ((st.accept 0).manager.requests[st.manager.requests.length]?).isSome := by
    rw [accept]
    dsimp only
    rw [ActiveRequestManager.create_request, ActiveRequestManager.getElem?_update_self,
      List.getElem?_concat_length]
    rfl
  obtain ⟨object, hobject⟩ := Option.isSome_iff_exists.mp hrequest
  obtain ⟨st', hstep⟩ : ∃ st', step json (st.accept 0)
      (.complete st.sessions.length (.received_request request) enumerate) = some st' := by
    simp [step, hsession, hobject, Http1ProxySession.complete,
      Http1ProxySession.exec_handle_request_eq]
  refine ⟨st', ?_, ?_⟩
  · rw [arriving, Machine.exec_cons, haccept, Option.bind_some, Machine.exec_cons, hstep]
    rfl
  · rw [arriving, Machine.outputs, haccept, Option.elim_some, Machine.outputs, hstep]
    simp only [received, hsession]
    rfl

end Receiving

namespace Process

variable {json : JsonLibrary} {verbs : List Bytes}

/-- What one of the front ends can do, it can do in the process. -/
theorem exec_http2 (st : Process) {events : List Server.Event} {http2 : Server}
    (hcalls : ∀ e ∈ events, e.isCall = false)
    (hrun : Machine.exec (Server.step json verbs) st.http2 events = some http2) :
    ∃ st', Machine.exec (step json verbs) st (events.map .http2) = some st' ∧ st'.http2 = http2
      ∧ Machine.outputs (step json verbs) received st (events.map .http2)
        = Machine.outputs (Server.step json verbs) Server.received st.http2 events := by
  refine Machine.exec_of_inside Process.http2 Event.http2 (fun _ _ => rfl)
    (fun st http2' e he hstep => ?_) st hrun
  rw [step, hcalls e he, if_neg Bool.false_ne_true, hstep]
  exact ⟨_, rfl, rfl⟩

theorem exec_http1 (st : Process) {events : List Http1Proxy.Event} {http1 : Http1Proxy}
    (hcalls : ∀ e ∈ events, e.isCall = false)
    (hrun : Machine.exec (Http1Proxy.step json) st.http1 events = some http1) :
    ∃ st', Machine.exec (step json verbs) st (events.map .http1) = some st' ∧ st'.http1 = http1
      ∧ Machine.outputs (step json verbs) received st (events.map .http1)
        = Machine.outputs (Http1Proxy.step json) Http1Proxy.received st.http1 events := by
  refine Machine.exec_of_inside Process.http1 Event.http1 (fun _ _ => rfl)
    (fun st http1' e he hstep => ?_) st hrun
  rw [step, hcalls e he, if_neg Bool.false_ne_true, hstep]
  exact ⟨_, rfl, rfl⟩

/-- **Whatever is on the registration path can be received**, in any order, by the two front
ends. -/
theorem exists_exec_received (json : JsonLibrary) (verbs : List Bytes) (enumerate : Enumeration)
    (registry : BackendRegistry) (requests : List (FrontEnd × Http1Request))
    (htarget : ∀ r ∈ requests, r.2.target = bytes "/proxy/register") :
    ∃ events st, Machine.exec (step json verbs) (start registry) events = some st
      ∧ Machine.outputs (step json verbs) received (start registry) events = requests := by
  induction requests using List.reverseRecOn with
  | nil => exact ⟨[], _, rfl, rfl⟩
  | append_singleton requests r ih =>
      obtain ⟨hrequests, hlast⟩ := List.forall_mem_append.mp htarget
      -- the last one comes on a connection of its own, after those before it
      obtain ⟨events, st, hrun, houtputs⟩ := ih hrequests
      obtain ⟨more, st', hmore, hnewest⟩ : ∃ more st',
          Machine.exec (step json verbs) st more = some st'
            ∧ Machine.outputs (step json verbs) received st more = [r] := by
        obtain ⟨frontEnd, request⟩ := r
        cases frontEnd with
        | http2 =>
            have hinit : st.http2.world.forwarding_handler_ = true :=
              Machine.exec_invariant (fun st => st.http2.world.forwarding_handler_ = true)
                (fun st e st' hinit hstep => (step_projects hinit hstep).1) rfl hrun
            obtain ⟨http2, hexec, hreceived⟩ := Server.exec_arriving json verbs request
              enumerate st.http2 hinit (hlast _ List.mem_cons_self)
            obtain ⟨st', hexec', -, hreceived'⟩ := exec_http2 st (by simp [Server.arriving,
              Server.Event.isCall]) hexec
            exact ⟨_, st', hexec', hreceived'.trans hreceived⟩
        | http1 =>
            obtain ⟨http1, hexec, hreceived⟩ :=
              Http1Proxy.exec_arriving json request enumerate st.http1
            obtain ⟨st', hexec', -, hreceived'⟩ := exec_http1 st (by simp [Http1Proxy.arriving,
              Http1Proxy.Event.isCall]) hexec
            exact ⟨_, st', hexec', hreceived'.trans hreceived⟩
      refine ⟨events ++ more, st', ?_, ?_⟩
      · rw [Machine.exec_append, hrun, Option.bind_some, hmore]
      · rw [Machine.outputs_append hrun, houtputs, hnewest]

end Process

/-! ## What a tunnel's requests come to -/

/-- The rule a tunnel is registered with. -/
def TunnelConfig.rule (config : TunnelConfig) : ForwardingRule where
  backend_id := config.tunnel_id
  target_host := config.local_host
  target_port := config.local_port.toInt
  path_pattern := config.path_pattern

namespace ForwardingClient

/-- The request, as the front end reads it that the server's port is of. -/
def ServerRequest.received (json : JsonLibrary) (r : ServerRequest) : FrontEnd × Http1Request :=
  if r.port = 8080 then
    (.http2, ⟨(r.asked json).method, (r.asked json).path, (r.asked json).body⟩)
  else
    (.http1, (HttpClient.send_request.request r.config.proxy_host (.known r.action.method)
      (bytes "/proxy/register") (r.body json)).read)

/-- What the table has under the tunnel's id once the request is handled. -/
def ServerRequest.entry (r : ServerRequest) : Option ForwardingRule :=
  match r.action with
  | .register => some r.config.rule
  | .unregister => none

/-- A configuration that can be registered: it is printed, and what is printed of it is parsed
as such. -/
def Registrable (json : JsonLibrary) (config : TunnelConfig) : Prop :=
  ∃ request, ForwardingClient.request config = some request
    ∧ ∀ action, json.Undoes (Http2Exchange.printed request action)

/-- On the registration path both front ends read the body alike. -/
theorem asked_registration (json : JsonLibrary) (frontEnd : FrontEnd) (action : ServerAction)
    (body : Bytes) : frontEnd.asked json ⟨action.method, bytes "/proxy/register", body⟩
      = ProxyRequestHandler.requested json action.method body := by
  have htest : ¬ bytes "/proxy/register" = bytes "/test" := by decide
  have hmethod : cStr action.method = bytes "POST" ∨ cStr action.method = bytes "DELETE" := by
    cases action <;> decide
  cases frontEnd with
  | http2 =>
      rw [FrontEnd.asked, Main.ownAnswer, if_neg htest, if_pos rfl, if_pos hmethod,
        Option.bind_some, ProxyRequestHandler.registrationAnswer_fst]
  | http1 => rw [FrontEnd.asked, Http1ProxySession.asked, if_pos rfl]

section Arriving

variable {json : JsonLibrary} {r : ServerRequest}

/-- Both front ends read the same of a request. -/
theorem ServerRequest.received_eq (json : JsonLibrary) (r : ServerRequest) :
    r.received json = (if r.port = 8080 then .http2 else .http1,
      ⟨r.action.method, bytes "/proxy/register", r.body json⟩) := by
  rw [received]
  split_ifs with hport
  · rfl
  · rw [HttpRequest.read, HttpClient.request_method, HttpClient.request_body]
    congr 2
    rw [HttpClient.send_request.request]
    split_ifs <;> rfl

/-- The rule asked for is the tunnel's. -/
theorem ruleOf_request {config : TunnelConfig} {request : RegistrationRequest}
    (h : ForwardingClient.request config = some request) :
    Registration.ruleOf request = config.rule := by
  simp only [ForwardingClient.request, bind, Option.bind_eq_some_iff] at h
  obtain ⟨backend_id, hid, host, hhost, path_pattern, hpattern, h⟩ := h
  obtain rfl := Option.some.inj h
  rw [Registration.ruleOf, TunnelConfig.rule, eq_bytes_of_utf8 hid, eq_bytes_of_utf8 hhost,
    eq_bytes_of_utf8 hpattern]

/-- **A request asks for one call**, under the tunnel's id. -/
theorem ServerRequest.exists_asked (h : Registrable json r.config) :
    ∃ call, (r.received json).1.asked json (r.received json).2 = some call
      ∧ call.backend_id = r.config.tunnel_id ∧ call.entry = r.entry := by
  obtain ⟨request, hrequest, hjson⟩ := h
  have hrule := ruleOf_request hrequest
  have hid : bytes request.backend_id = r.config.tunnel_id :=
    congrArg ForwardingRule.backend_id hrule
  refine ⟨Http2Exchange.wanted request r.action, ?_, ?_, ?_⟩
  · rw [received_eq, asked_registration]
    exact Http2Exchange.requested_of_tunnel hrequest (hjson r.action)
  · cases haction : r.action with
    | register => exact hid
    | unregister => exact hid
  · rw [entry]
    cases haction : r.action with
    | register => exact congrArg some hrule
    | unregister => rfl

end Arriving

/-! ## What the table holds when they have arrived -/

/-- The request names an id. -/
def Names (json : JsonLibrary) (id : Bytes) (r : FrontEnd × Http1Request) : Bool :=
  (r.1.asked json r.2).any fun call => call.backend_id = id

/-- The requests a tunnel client has made of a host, about an id. -/
def about (host id : Bytes) (requests : List ServerRequest) : List ServerRequest :=
  requests.filter fun r => r.config.proxy_host = host ∧ r.config.tunnel_id = id

theorem mem_about {host id : Bytes} {requests : List ServerRequest} {r : ServerRequest} :
    r ∈ about host id requests
      ↔ r ∈ requests ∧ r.config.proxy_host = host ∧ r.config.tunnel_id = id := by
  simp [about]

/-- The calls that name an id are those of the requests that do. -/
theorem owned_history (json : JsonLibrary) (id : Bytes)
    (received : List (FrontEnd × Http1Request)) :
    Pool.owned RegistryCall.backend_id (Process.history json received) id
      = Process.history json (received.filter (Names json id)) := by
  rw [Pool.owned, Process.history, Process.history, List.filter_filterMap, List.filterMap_filter]
  refine List.filterMap_congr fun r _ => ?_
  rw [Names]
  rcases r.1.asked json r.2 with _ | call
  · rfl
  · rw [Option.any_some, Option.filter_some]

section Arrived

variable {json : JsonLibrary} {id : Bytes} {arrived : List ServerRequest}

/-- The requests are among those that name the id. -/
theorem filter_names_received (hregistrable : ∀ r ∈ arrived, Registrable json r.config)
    (hid : ∀ r ∈ arrived, r.config.tunnel_id = id) :
    (arrived.map (ServerRequest.received json)).filter (Names json id)
      = arrived.map (ServerRequest.received json) := by
  refine List.filter_eq_self.mpr fun received hreceived => ?_
  obtain ⟨r, hr, rfl⟩ := List.mem_map.mp hreceived
  obtain ⟨call, hasked, hcall, -⟩ := ServerRequest.exists_asked (hregistrable r hr)
  rw [Names, hasked, Option.any_some]
  exact decide_eq_true (hcall.trans (hid r hr))

/-- **The last of them decides.** -/
theorem lookup_of_arrived (hregistrable : ∀ r ∈ arrived, Registrable json r.config)
    {received : List (FrontEnd × Http1Request)}
    (harrived : received.filter (Names json id) = arrived.map (ServerRequest.received json))
    (registry : BackendRegistry) :
    ((Process.history json received).foldl RegistryCall.apply registry).backends_.lookup id
      = (arrived.getLast?).elim (registry.backends_.lookup id) ServerRequest.entry := by
  rw [BackendRegistry.lookup_foldl_apply, owned_history, harrived]
  rcases List.eq_nil_or_concat arrived with rfl | ⟨before, last, rfl⟩
  · rfl
  · -- the calls before the last one under the id do not matter
    obtain ⟨call, hasked, -, hentry⟩ :=
      ServerRequest.exists_asked (hregistrable last (by simp))
    rw [List.concat_eq_append, List.map_append, Process.history, List.filterMap_append,
      List.map_singleton, List.filterMap_cons, hasked, List.filterMap_nil, List.getLast?_concat,
      List.getLast?_concat, Option.elim_some, Option.elim_some, hentry]

end Arrived

/-! ## The last request to a server -/

/-- The request made last decides whether a server is registered. -/
theorem registered_iff_of_getLast? {log : List ServerRequest} {server : TunnelServer}
    {r : ServerRequest} (hlast : (Pool.owned ServerRequest.server log server).getLast? = some r) :
    Registered log server ↔ r.action = .register := by
  induction log using List.reverseRecOn with
  | nil => exact absurd hlast (by simp [Pool.owned])
  | append_singleton log last ih =>
      have hconcat : Registered (log ++ [last]) server
          ↔ (last.action = .register ∧ last.server = server) ∨ (Registered log server
            ∧ ¬ (last.action = .unregister ∧ last.server = server)) := by
        simp only [Registered, Record.stands_concat_iff, exists_or, exists_eq_left,
          exists_and_right]
      rw [hconcat]
      by_cases hserver : last.server = server
      · rw [Pool.owned_concat_self hserver, List.getLast?_concat] at hlast
        obtain rfl := Option.some.inj hlast
        cases haction : last.action <;> simp [hserver]
      · rw [Pool.owned_concat_of_ne hserver] at hlast
        rw [ih hlast]
        simp [hserver]

/-- The requests of one id at one host are by their ports what they are by their servers. -/
theorem owned_about (host id : Bytes) (log : List ServerRequest) (port : ℤ) :
    Pool.owned ServerRequest.port (about host id log) port
      = Pool.owned ServerRequest.server log ⟨host, port, id⟩ := by
  rw [Pool.owned, Pool.owned, about, List.filter_filter]
  refine List.filter_congr fun r _ => ?_
  simp only [ServerRequest.server, TunnelServer.mk.injEq, ← Bool.decide_and]
  exact decide_eq_decide.mpr and_left_comm

/-- Of the requests to all servers of a tunnel each gets one. -/
theorem owned_requests {action : ServerAction} {config : TunnelConfig} {port : ℤ}
    (hport : port ∈ config.protocol.ports) :
    Pool.owned ServerRequest.server (requests action config)
        ⟨config.proxy_host, port, config.tunnel_id⟩ = [⟨action, config, port⟩] := by
  have hports : config.protocol.ports.filter (fun p => p = port) = [port] := by
    revert hport
    cases config.protocol <;> simp [RegistrationProtocol.ports] <;> rintro (rfl | rfl) <;> rfl
  have hserver : (fun r : ServerRequest =>
        decide (r.server = ⟨config.proxy_host, port, config.tunnel_id⟩))
      ∘ (fun p => ⟨action, config, p⟩) = fun p => decide (p = port) := by
    funext p
    simp [ServerRequest.server]
  rw [Pool.owned, requests, List.filter_map, hserver, hports, List.map_singleton]

/-! ## Its runs -/

/-- A call that keeps the lifecycle, and starts nothing that cannot be registered. -/
structure Call.Regular (json : JsonLibrary) (t : Tunnel) (call : Call) : Prop where
  covers : Covers t call
  registrable : ∀ config, call = .start_tunnel config → Registrable json config

/-- Beside what the lifecycle keeps: all that was asked can be registered, what was asked last
for an active tunnel is its registration, and nothing was taken back that was not registered. -/
structure Current (json : JsonLibrary) (t : Tunnel) : Prop where
  kept : Invariant t
  registrable : ∀ r ∈ t.requests, Registrable json r.config
  latest : t.client.is_tunnel_active_ = true → ∃ config before,
    t.client.active_tunnel_ = some config ∧ t.requests = before ++ requests .register config
  registered : ∀ r ∈ t.requests, r.action = .unregister →
    ∃ earlier ∈ t.requests, earlier.action = .register ∧ earlier.server = r.server

section Runs

variable {json : JsonLibrary} {verbs : List Bytes} {t t' : Tunnel} {call : Call}
  {config : TunnelConfig}

theorem current_start : Current json {} where
  kept := invariant_start
  registrable := by simp
  latest := by simp
  registered := by simp

/-- An active tunnel has been registered, and so can be. -/
theorem Current.exists_registration (h : Current json t)
    (hactive : t.client.is_tunnel_active_ = true)
    (htunnel : t.client.active_tunnel_ = some config) :
    ∃ port, ⟨.register, config, port⟩ ∈ t.requests := by
  obtain ⟨config', before, htunnel', hrequests⟩ := h.latest hactive
  obtain rfl := Option.some.inj (htunnel.symm.trans htunnel')
  obtain ⟨server, hserver⟩ := config.exists_server
  obtain ⟨r, hr, -, -⟩ := (exists_requests_iff .register .register).mpr ⟨rfl, hserver⟩
  obtain ⟨port, -, rfl⟩ := List.mem_map.mp hr
  rw [hrequests]
  exact ⟨port, List.mem_append_right _ hr⟩

theorem Current.registrable_active (h : Current json t)
    (hactive : t.client.is_tunnel_active_ = true)
    (htunnel : t.client.active_tunnel_ = some config) : Registrable json config := by
  obtain ⟨port, hmem⟩ := h.exists_registration hactive htunnel
  exact h.registrable _ hmem

/-- More of one tunnel's requests, when it can be registered, and unregistering it follows its
registration. -/
theorem Current.registrable_append (h : Current json t) (action : ServerAction)
    (hconfig : Registrable json config) :
    ∀ r ∈ t.requests ++ requests action config, Registrable json r.config := by
  refine List.forall_mem_append.mpr ⟨h.registrable, fun r hr => ?_⟩
  obtain ⟨port, -, rfl⟩ := List.mem_map.mp hr
  exact hconfig

theorem Current.registered_append (h : Current json t) {action : ServerAction}
    (hbefore : action = .unregister → ∀ server ∈ config.servers,
      ∃ earlier ∈ t.requests, earlier.action = .register ∧ earlier.server = server) :
    ∀ r ∈ t.requests ++ requests action config, r.action = .unregister →
      ∃ earlier ∈ t.requests ++ requests action config,
        earlier.action = .register ∧ earlier.server = r.server := by
  intro r hr haction
  have hearlier : ∃ earlier ∈ t.requests, earlier.action = .register
      ∧ earlier.server = r.server := by
    rcases List.mem_append.mp hr with hr | hr
    · exact h.registered r hr haction
    · obtain ⟨hsame, hserver⟩ := (exists_requests_iff action .unregister).mp ⟨r, hr, haction, rfl⟩
      exact hbefore hsame _ hserver
  obtain ⟨earlier, hmem, hkind⟩ := hearlier
  exact ⟨earlier, List.mem_append_left _ hmem, hkind⟩

/-- One call. -/
theorem current_step (hpost : bytes "POST" ∈ verbs) (hdelete : bytes "DELETE" ∈ verbs)
    (h : Current json t) (hregular : call.Regular json t)
    (hstep : step json verbs t call = some t') : Current json t' := by
  have hkept : Invariant t' := by
    obtain ⟨t'', hstep', hinv⟩ := step_of_covers json hpost hdelete h.kept hregular.covers
    exact Option.some.inj (hstep.symm.trans hstep') ▸ hinv
  cases call with
  | start_tunnel config =>
      have hconfig := hregular.registrable config rfl
      obtain ⟨request, hrequest, -⟩ := id hconfig
      obtain ⟨client', hstep', htunnel, -⟩ := step_start_of_data json t hpost hdelete
        (Http2Exchange.registration_data_of_request hrequest).1
      obtain rfl := Option.some.inj (hstep.symm.trans hstep')
      exact ⟨hkept, h.registrable_append .register hconfig,
        fun _ => ⟨config, t.requests, htunnel, rfl⟩,
        h.registered_append fun hsame => absurd hsame (by decide)⟩
  | stop_tunnel =>
      obtain ⟨config, htunnel⟩ := Option.ne_none_iff_exists'.mp hregular.covers
      rw [step] at hstep
      rcases hactive : t.client.is_tunnel_active_ with _ | _
      · rw [exec_stop_tunnel_of_inactive json t htunnel hactive] at hstep
        obtain rfl := Option.some.inj hstep
        exact h
      · have hconfig := h.registrable_active hactive htunnel
        obtain ⟨request, hrequest, -⟩ := id hconfig
        obtain ⟨client', hexec, hinactive⟩ := exec_stop_tunnel_of_active json t hpost hdelete
          htunnel hactive (Http2Exchange.registration_data_of_request hrequest).2
        rw [hexec] at hstep
        obtain rfl := Option.some.inj hstep
        -- what is taken back is what was asked for when the tunnel became active
        refine ⟨hkept, h.registrable_append .unregister hconfig,
          fun hstill => absurd (hinactive.symm.trans hstill) (by simp),
          h.registered_append fun _ server hserver => ?_⟩
        obtain ⟨config', before, htunnel', hrequests⟩ := h.latest hactive
        obtain rfl := Option.some.inj (htunnel.symm.trans htunnel')
        obtain ⟨r, hr, hkind⟩ :=
          (exists_requests_iff .register .register).mpr ⟨rfl, hserver⟩
        refine ⟨r, ?_, hkind⟩
        rw [hrequests]
        exact List.mem_append_right _ hr

/-- A run of such calls. -/
theorem current_of_run (hpost : bytes "POST" ∈ verbs) (hdelete : bytes "DELETE" ∈ verbs)
    {calls : List Call} (hrun : Machine.exec (step json verbs) {} calls = some t)
    (hmeet : Machine.StepsMeet (step json verbs) (fun t call => call.Regular json t) {} calls) :
    Current json t :=
  Machine.exec_invariant_of_stepsMeet (Current json)
    (fun _ _ _ h hregular hstep => current_step hpost hdelete h hregular hstep)
    current_start hmeet hrun

end Runs

/-! ## Whether the table follows -/

/-- The rule of the active tunnel, if that is at a host and under an id. -/
def activeRule (client : ForwardingClient) (host tunnel_id : Bytes) : Option ForwardingRule :=
  if client.is_tunnel_active_ then
    (client.active_tunnel_.filter fun config =>
      config.proxy_host = host ∧ config.tunnel_id = tunnel_id).map TunnelConfig.rule
  else none

/-- **The table follows the tunnel**, at a host and under an id, when the requests arrive in
some order: whatever else the process there receives, once it has received them all it has
under the id the rule of the active tunnel, and nothing without one; if it had nothing there
before. -/
def Follows (order : List ServerRequest → List ServerRequest → Prop) (json : JsonLibrary)
    (verbs : List Bytes) (t : Tunnel) (host tunnel_id : Bytes) : Prop :=
  ∀ (registry : BackendRegistry) (events : List Process.Event) (st : Process)
    (arrived : List ServerRequest),
    registry.backends_.lookup tunnel_id = none →
    Machine.exec (Process.step json verbs) (Process.start registry) events = some st →
    order (about host tunnel_id t.requests) arrived →
    (Machine.outputs (Process.step json verbs) Process.received (Process.start registry)
        events).filter (Names json tunnel_id) = arrived.map (ServerRequest.received json) →
    st.http2.world.registry.backends_.lookup tunnel_id = activeRule t.client host tunnel_id

section Follows

variable {json : JsonLibrary} {verbs : List Bytes} {t : Tunnel} {host tunnel_id : Bytes}
  {config : TunnelConfig} {rule : ForwardingRule} {r : ServerRequest}

theorem activeRule_eq_some_iff :
    activeRule t.client host tunnel_id = some rule
      ↔ t.client.is_tunnel_active_ = true ∧ ∃ config, t.client.active_tunnel_ = some config
        ∧ config.proxy_host = host ∧ config.tunnel_id = tunnel_id ∧ config.rule = rule := by
  rw [activeRule, Option.ite_none_right_eq_some]
  simp only [Option.map_eq_some_iff, Option.filter_eq_some_iff, decide_eq_true_eq, and_assoc]

/-- An active server has the active tunnel's rule asked for last. -/
theorem Current.entry_of_active (h : Current json t) {port : ℤ}
    (hserver : ActiveServer t.client ⟨host, port, tunnel_id⟩)
    (hlast : (Pool.owned ServerRequest.server t.requests
      ⟨host, port, tunnel_id⟩).getLast? = some r) :
    r.entry = activeRule t.client host tunnel_id := by
  obtain ⟨hactive, config, htunnel, hmem⟩ := hserver
  obtain ⟨config', before, htunnel', hrequests⟩ := h.latest hactive
  obtain rfl := Option.some.inj (htunnel.symm.trans htunnel')
  obtain ⟨port', hport, hsame⟩ := List.mem_map.mp hmem
  obtain ⟨rfl, rfl, rfl⟩ := TunnelServer.mk.inj hsame
  rw [hrequests, Pool.owned_append, owned_requests hport, List.getLast?_concat] at hlast
  obtain rfl := Option.some.inj hlast
  exact (activeRule_eq_some_iff.mpr ⟨hactive, config, htunnel, rfl, rfl, rfl⟩).symm

/-- A server that is not active has nothing asked for last. -/
theorem Current.entry_of_inactive (h : Current json t) {server : TunnelServer}
    (hserver : ¬ ActiveServer t.client server)
    (hlast : (Pool.owned ServerRequest.server t.requests server).getLast? = some r) :
    r.entry = none := by
  have haction : ¬ r.action = .register := by
    rw [← registered_iff_of_getLast? hlast, h.kept.inStep]
    exact hserver
  rw [ServerRequest.entry]
  cases hkind : r.action with
  | register => exact absurd hkind haction
  | unregister => rfl

/-- Without a request about an id no tunnel is active under it. -/
theorem Current.activeRule_of_about_nil (h : Current json t)
    (hnone : about host tunnel_id t.requests = []) :
    activeRule t.client host tunnel_id = none := by
  rw [Option.eq_none_iff_forall_ne_some]
  intro rule hrule
  obtain ⟨hactive, config, htunnel, rfl, rfl, -⟩ := activeRule_eq_some_iff.mp hrule
  obtain ⟨port, hmem⟩ := h.exists_registration hactive htunnel
  have habout : _ ∈ about config.proxy_host config.tunnel_id t.requests :=
    mem_about.mpr ⟨hmem, rfl, rfl⟩
  rw [hnone] at habout
  exact absurd habout List.not_mem_nil

/-- **Whether the table follows the tunnel** is up to what each queue has last. -/
theorem Current.follows_iff_getLast? {κ : Type} [DecidableEq κ] (h : Current json t)
    (queue : ServerRequest → κ) :
    Follows (Pool.Interleaves queue) json verbs t host tunnel_id
      ↔ ∀ b r, (Pool.owned queue (about host tunnel_id t.requests) b).getLast? = some r →
        r.entry = activeRule t.client host tunnel_id := by
  have hregistrable : ∀ {arrived},
      Pool.Interleaves queue (about host tunnel_id t.requests) arrived →
      ∀ r ∈ arrived, Registrable json r.config := fun horder r hr =>
    h.registrable r (mem_about.mp (horder.mem_iff.mp hr)).1
  rw [← Pool.forall_interleaves_getLast?_iff]
  constructor
  · -- any such order is one in which a process can receive them
    intro hfollows arrived horder r hlast
    obtain ⟨events, st, hrun, houtputs⟩ := Process.exists_exec_received json verbs
      anyOrder .empty (arrived.map (ServerRequest.received json))
      (by simp [ServerRequest.received_eq])
    have hnames := filter_names_received (hregistrable horder) fun r hr =>
      (mem_about.mp (horder.mem_iff.mp hr)).2.2
    have htable := hfollows .empty events st arrived (Finmap.lookup_empty _) hrun horder
      (by rw [houtputs, hnames])
    rw [(Process.table_eq hrun).1, lookup_of_arrived (hregistrable horder)
      (by rw [houtputs, hnames]), hlast] at htable
    exact htable
  · intro hlast registry events st arrived hnew hrun horder harrived
    rw [(Process.table_eq hrun).1, lookup_of_arrived (hregistrable horder) harrived]
    rcases hempty : arrived.getLast? with _ | r
    · -- nothing was asked, so the table is as it was
      have hnone : about host tunnel_id t.requests = [] := List.eq_nil_iff_forall_not_mem.mpr
        fun r hr => by
          rw [List.getLast?_eq_none_iff] at hempty
          exact List.not_mem_nil (hempty ▸ horder.mem_iff.mpr hr)
      rw [h.activeRule_of_about_nil hnone]
      exact hnew
    · exact hlast arrived horder r hempty

/-- When each server handles what it gets in the order it was sent. -/
theorem Current.follows_ports_iff (h : Current json t) :
    Follows (Pool.Interleaves ServerRequest.port) json verbs t host tunnel_id
      ↔ ∀ r ∈ about host tunnel_id t.requests, activeRule t.client host tunnel_id ≠ none →
        ActiveServer t.client r.server := by
  -- what a server was asked last is right if it is active, or nothing is
  have hentry : ∀ {port : ℤ} {r : ServerRequest},
      (Pool.owned ServerRequest.server t.requests ⟨host, port, tunnel_id⟩).getLast? = some r →
      (r.entry = activeRule t.client host tunnel_id
        ↔ (activeRule t.client host tunnel_id ≠ none →
          ActiveServer t.client ⟨host, port, tunnel_id⟩)) := by
    intro port r hlast
    by_cases hserver : ActiveServer t.client ⟨host, port, tunnel_id⟩
    · exact iff_of_true (h.entry_of_active hserver hlast) fun _ => hserver
    · rw [h.entry_of_inactive hserver hlast, eq_comm]
      exact ⟨fun hnone hsome => absurd hnone hsome, fun hsome => by_contra fun hnone =>
        hserver (hsome hnone)⟩
  rw [h.follows_iff_getLast?]
  simp only [owned_about]
  constructor
  · intro hlast r hr hsome
    obtain ⟨hmem, rfl, rfl⟩ := mem_about.mp hr
    obtain ⟨last, hlast'⟩ := Pool.exists_getLast?_owned ServerRequest.server hmem
    exact (hentry hlast').mp (hlast r.port last hlast') hsome
  · intro hactive port r hlast
    refine (hentry hlast).mpr fun hsome => ?_
    obtain ⟨hmem, hserver⟩ := Pool.mem_owned.mp (List.mem_of_getLast? hlast)
    obtain ⟨hhost, -, hid⟩ := TunnelServer.mk.inj hserver
    rw [← hserver]
    exact hactive r (mem_about.mpr ⟨hmem, hhost, hid⟩) hsome

/-- When nothing keeps their order. -/
theorem Current.follows_perm_iff (h : Current json t) :
    Follows (fun made arrived => arrived.Perm made) json verbs t host tunnel_id
      ↔ ∀ r ∈ about host tunnel_id t.requests,
        r.action = .register ∧ activeRule t.client host tunnel_id = some r.config.rule := by
  have horder : (fun made arrived : List ServerRequest => arrived.Perm made)
      = Pool.Interleaves (fun r => r) := by
    funext made arrived
    exact propext Pool.interleaves_id_iff.symm
  rw [horder, h.follows_iff_getLast?]
  constructor
  · intro hlast
    have hentry : ∀ r ∈ about host tunnel_id t.requests,
        r.entry = activeRule t.client host tunnel_id := by
      intro r hr
      -- alone in its queue, it is the last there
      obtain ⟨last, hlast'⟩ := Pool.exists_getLast?_owned (fun r => r) hr
      obtain rfl := (Pool.mem_owned.mp (List.mem_of_getLast? hlast')).2
      exact hlast _ _ hlast'
    have hregistered : ∀ r ∈ about host tunnel_id t.requests, r.action = .register →
        activeRule t.client host tunnel_id = some r.config.rule := fun r hr haction => by
      rw [← hentry r hr, ServerRequest.entry, haction]
    intro r hr
    cases haction : r.action with
    | register => exact ⟨rfl, hregistered r hr haction⟩
    | unregister =>
        -- what is taken back was registered, with a rule
        obtain ⟨hmem, hhost, hid⟩ := mem_about.mp hr
        obtain ⟨earlier, hearlier, hkind, hserver⟩ := h.registered r hmem haction
        obtain ⟨hhost', -, hid'⟩ := TunnelServer.mk.inj hserver
        have hrule := hregistered earlier
          (mem_about.mpr ⟨hearlier, hhost'.trans hhost, hid'.trans hid⟩) hkind
        rw [← hentry r hr, ServerRequest.entry, haction] at hrule
        cases hrule
  · intro hall b r hlast
    obtain ⟨haction, hrule⟩ := hall r (Pool.mem_owned.mp (List.mem_of_getLast? hlast)).1
    rw [hrule, ServerRequest.entry, haction]

end Follows

/-- **When the table follows the tunnel.** After any run of the tunnel client that keeps the
lifecycle and starts nothing that cannot be registered, at any host and under any id: when
each server handles what it gets in the order it was sent, exactly if no tunnel is active
there, or every server asked about the id is one of its servers; and when nothing keeps the
order, exactly if all that was asked is the registration of its rule. -/
theorem follows_iff (json : JsonLibrary) (verbs : List Bytes) (hpost : bytes "POST" ∈ verbs)
    (hdelete : bytes "DELETE" ∈ verbs) (calls : List Call) (t : Tunnel)
    (hrun : Machine.exec (step json verbs) {} calls = some t)
    (hmeet : Machine.StepsMeet (step json verbs) (fun t call => call.Regular json t) {} calls)
    (host tunnel_id : Bytes) :
    (Follows (Pool.Interleaves ServerRequest.port) json verbs t host tunnel_id
        ↔ ∀ r ∈ about host tunnel_id t.requests, activeRule t.client host tunnel_id ≠ none →
          ActiveServer t.client r.server)
      ∧ (Follows (fun made arrived => arrived.Perm made) json verbs t host tunnel_id
        ↔ ∀ r ∈ about host tunnel_id t.requests,
          r.action = .register ∧ activeRule t.client host tunnel_id = some r.config.rule) := by
  have hcurrent := current_of_run hpost hdelete hrun hmeet
  exact ⟨hcurrent.follows_ports_iff, hcurrent.follows_perm_iff⟩

/-- A tunnel for the backend whose id needs escaping. -/
def quotedAt (protocol : RegistrationProtocol) : TunnelConfig where
  local_port := 3000
  proxy_host := bytes "proxy"
  path_pattern := bytes "/é/"
  tunnel_id := bytes "a\"b"
  protocol := protocol

theorem request_quotedAt (protocol : RegistrationProtocol) :
    ForwardingClient.request (quotedAt protocol) = some Registration.quoted := by
  simp only [ForwardingClient.request, quotedAt, utf8_bytes, bind, Option.bind]
  rfl

theorem registrable_quotedAt (protocol : RegistrationProtocol) :
    Registrable Registration.quotedJson (quotedAt protocol) := by
  refine ⟨_, request_quotedAt protocol, fun action => ?_⟩
  cases action with
  | register => exact Registration.quotedJson_undoes_registration
  | unregister => exact Registration.quotedJson_undoes_unregistration

/-- The tunnel is opened at both servers, closed, and opened again at one. -/
def reopened : List Call :=
  [.start_tunnel (quotedAt .BOTH), .stop_tunnel, .start_tunnel (quotedAt .HTTP1_ONLY)]

theorem exists_reopened :
    ∃ t, Machine.exec (step Registration.quotedJson documentedVerbs) {} reopened = some t
      ∧ Machine.StepsMeet (step Registration.quotedJson documentedVerbs)
          (fun t call => call.Regular Registration.quotedJson t) {} reopened
      ∧ t.requests = requests .register (quotedAt .BOTH) ++ requests .unregister (quotedAt .BOTH)
          ++ requests .register (quotedAt .HTTP1_ONLY)
      ∧ t.client.active_tunnel_ = some (quotedAt .HTTP1_ONLY)
      ∧ t.client.is_tunnel_active_ = true := by
  have hpost : bytes "POST" ∈ documentedVerbs := by decide
  have hdelete : bytes "DELETE" ∈ documentedVerbs := by decide
  have hdata (protocol : RegistrationProtocol) :=
    Http2Exchange.registration_data_of_request (request_quotedAt protocol)
  obtain ⟨client, hstart, htunnel, hactive⟩ :=
    step_start_of_data Registration.quotedJson {} hpost hdelete (hdata .BOTH).1
  obtain ⟨client', hexec, hinactive⟩ := exec_stop_tunnel_of_active Registration.quotedJson
    ⟨client, requests .register (quotedAt .BOTH)⟩ hpost hdelete htunnel hactive (hdata .BOTH).2
  have hstop : step Registration.quotedJson documentedVerbs
      ⟨client, requests .register (quotedAt .BOTH)⟩ .stop_tunnel
      = some ⟨client', requests .register (quotedAt .BOTH)
          ++ requests .unregister (quotedAt .BOTH)⟩ := by
    rw [step, hexec]
    rfl
  obtain ⟨client'', hrestart, htunnel', hactive'⟩ :=
    step_start_of_data Registration.quotedJson ⟨client', requests .register (quotedAt .BOTH)
      ++ requests .unregister (quotedAt .BOTH)⟩ hpost hdelete (hdata .HTTP1_ONLY).1
  have hstarts {protocol : RegistrationProtocol} {config : TunnelConfig}
      (hconfig : Call.start_tunnel (quotedAt protocol) = .start_tunnel config) :
      Registrable Registration.quotedJson config :=
    Call.start_tunnel.inj hconfig ▸ registrable_quotedAt protocol
  refine ⟨_, Machine.exec_cons_eq_some.mpr ⟨_, hstart, Machine.exec_cons_eq_some.mpr
    ⟨_, hstop, Machine.exec_cons_eq_some.mpr ⟨_, hrestart, Machine.exec_nil _ _⟩⟩⟩, ?_, rfl,
    htunnel', hactive'⟩
  refine .cons ⟨fun h => absurd h (by simp), fun _ => hstarts⟩ hstart (.cons ⟨?_, by simp⟩ hstop
    ⟨⟨fun h => absurd (hinactive.symm.trans h) (by simp), fun _ => hstarts⟩, fun _ _ => trivial⟩)
  rw [Covers, htunnel]
  simp

/-- The table may be left without it: what is handled last may be the unregistration at the
other server. -/
theorem follows_iff_reopened :
    ∃ t, Machine.exec (step Registration.quotedJson documentedVerbs) {} reopened = some t
      ∧ activeRule t.client (bytes "proxy") (bytes "a\"b") = some (quotedAt .HTTP1_ONLY).rule
      ∧ ¬ Follows (Pool.Interleaves ServerRequest.port) Registration.quotedJson documentedVerbs t
          (bytes "proxy") (bytes "a\"b") := by
  obtain ⟨t, hrun, hmeet, hrequests, htunnel, hactive⟩ := exists_reopened
  have hrule : activeRule t.client (bytes "proxy") (bytes "a\"b")
      = some (quotedAt .HTTP1_ONLY).rule :=
    activeRule_eq_some_iff.mpr ⟨hactive, _, htunnel, rfl, rfl, rfl⟩
  have hother : ⟨.register, quotedAt .BOTH, 8080⟩
      ∈ about (bytes "proxy") (bytes "a\"b") t.requests := by
    rw [hrequests]
    exact mem_about.mpr ⟨by decide, rfl, rfl⟩
  refine ⟨t, hrun, hrule, fun hfollows => ?_⟩
  have hserver := (follows_iff Registration.quotedJson documentedVerbs (by decide) (by decide)
    reopened t hrun hmeet (bytes "proxy") (bytes "a\"b")).1.mp hfollows _ hother (by simp [hrule])
  rw [activeServer_iff htunnel hactive] at hserver
  exact absurd hserver (by decide)

end ForwardingClient

end Http2Server
