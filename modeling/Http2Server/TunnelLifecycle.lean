/-
What is registered while tunnels come and go.

`start_tunnel` stores a configuration and registers it with the servers of its protocol,
`stop_tunnel` unregisters what is stored from the servers of its. `Registered` reads off the
requests made which registrations nobody has asked to take back; `InStep` says that these
are the active tunnel's servers, and that there are none without one. That the requests read
are those the two clients are asked for is `made_of_run`.

Two calls can break this. `stop_tunnel` builds its log line before it looks whether there is
a tunnel, so before the first start it dereferences a null pointer; and `start_tunnel`
replaces a tunnel that is active without stopping it. `lifecycle_iff` says that nothing else
can, and which starts do not.
-/
import Http2Server.ForwardingClient
import Http2Server.Lib.Pool

set_option autoImplicit false

open ByteString

namespace Http2Server

/-- A registration somewhere: the proxy's host, the server's port there, and the id. -/
structure TunnelServer where
  proxy_host : Bytes
  port : ℤ
  tunnel_id : Bytes
  deriving DecidableEq, Repr

/-- The ports of the servers a protocol names. -/
def RegistrationProtocol.ports : RegistrationProtocol → List ℤ
  | .HTTP1_ONLY => [9080]
  | .HTTP2_ONLY => [8080]
  | .BOTH => [9080, 8080]

/-- The servers of a tunnel. -/
def TunnelConfig.servers (config : TunnelConfig) : List TunnelServer :=
  config.protocol.ports.map fun port => ⟨config.proxy_host, port, config.tunnel_id⟩

/-- A tunnel has one server at least. -/
theorem TunnelConfig.exists_server (config : TunnelConfig) :
    ∃ server, server ∈ config.servers := by
  rw [servers]
  cases config.protocol with
  | HTTP1_ONLY => exact ⟨_, List.mem_cons_self ..⟩
  | HTTP2_ONLY => exact ⟨_, List.mem_cons_self ..⟩
  | BOTH => exact ⟨_, List.mem_cons_self ..⟩

namespace ForwardingClient

open TunnelM

/-! ## What is registered -/

/-- The server a request is made to, and the id it is about. -/
def ServerRequest.server (r : ServerRequest) : TunnelServer :=
  ⟨r.config.proxy_host, r.port, r.config.tunnel_id⟩

/-- A registration was requested, and no unregistration afterwards. -/
def Registered (requests : List ServerRequest) (server : TunnelServer) : Prop :=
  ∃ n, Record.Stands (fun r => r.action = .register ∧ r.server = server)
    (fun r => r.action = .unregister ∧ r.server = server) requests n

/-- A tunnel is active, and the server is one of its servers. -/
def ActiveServer (client : ForwardingClient) (server : TunnelServer) : Prop :=
  client.is_tunnel_active_ = true
    ∧ ∃ config, client.active_tunnel_ = some config ∧ server ∈ config.servers

/-- **In step**: what is registered is the active tunnel. -/
def InStep (t : Tunnel) : Prop :=
  ∀ server, Registered t.requests server ↔ ActiveServer t.client server

/-! ## Its runs -/

/-- A call of a member function. -/
inductive Call
  | start_tunnel (config : TunnelConfig)
  | stop_tunnel
  deriving DecidableEq, Repr

/-- One call. What it throws goes to the caller, who may go on calling. -/
def step (json : JsonLibrary) (verbs : List Bytes) (t : Tunnel) : Call → Option Tunnel
  | .start_tunnel config => (exec (start_tunnel json verbs config) t).map Prod.snd
  | .stop_tunnel => (exec (stop_tunnel json verbs) t).map Prod.snd

/-- The end of its life: a destructor that throws ends the program instead. -/
def destroy (json : JsonLibrary) (verbs : List Bytes) (t : Tunnel) : Option Tunnel :=
  match exec (destruct json verbs) t with
  | some (.ok (), t') => some t'
  | _ => none

/-- **The lifecycle is kept**: none of the calls dereferences an absent tunnel, what is
registered is in step after each of them, and nothing is once the client is destroyed. -/
def LifecycleKept (json : JsonLibrary) (verbs : List Bytes) (calls : List Call) : Prop :=
  Machine.Throughout (step json verbs) InStep {} calls
    ∧ ∃ t t', Machine.exec (step json verbs) {} calls = some t ∧ destroy json verbs t = some t'
        ∧ ∀ server, ¬ Registered t'.requests server

/-- **The calls that keep it.** A tunnel is stopped only once one has been started, and a
tunnel started while another is active has all of its servers; if the new configuration
cannot be printed, and so is not registered, it has no others. -/
def Covers (t : Tunnel) : Call → Prop
  | .start_tunnel config => t.client.is_tunnel_active_ = true →
      ∀ old, t.client.active_tunnel_ = some old → old.servers ⊆ config.servers
        ∧ (register_with_server.registration_data config = none → config.servers ⊆ old.servers)
  | .stop_tunnel => t.client.active_tunnel_ ≠ none

/-! ## What the members do -/

/-- Two states of a client have the same tunnel. -/
structure SameTunnel (client client' : ForwardingClient) : Prop where
  active_tunnel : client'.active_tunnel_ = client.active_tunnel_
  is_tunnel_active : client'.is_tunnel_active_ = client.is_tunnel_active_

theorem SameTunnel.trans {client client' client'' : ForwardingClient}
    (h : SameTunnel client client') (h' : SameTunnel client' client'') :
    SameTunnel client client'' :=
  ⟨h'.active_tunnel.trans h.active_tunnel, h'.is_tunnel_active.trans h.is_tunnel_active⟩

/-- The requests of one kind to all servers of a tunnel. -/
def requests (action : ServerAction) (config : TunnelConfig) : List ServerRequest :=
  config.protocol.ports.map fun port => ⟨action, config, port⟩

section Members

variable (json : JsonLibrary) {verbs : List Bytes} (action : ServerAction) {config : TunnelConfig}
  {data : Json} (t : Tunnel)

/-- The methods are known, and neither takes no body. -/
theorem accepts_method (hpost : bytes "POST" ∈ verbs) (hdelete : bytes "DELETE" ∈ verbs)
    (body : Bytes) : HttpClient.Accepts verbs action.method body := by
  cases action with
  | register => exact ⟨hpost, fun h => absurd h.1 (by decide)⟩
  | unregister => exact ⟨hdelete, fun h => absurd h.1 (by decide)⟩

/-- A request whose value can be printed is made. -/
theorem perform_of_data (hpost : bytes "POST" ∈ verbs) (hdelete : bytes "DELETE" ∈ verbs)
    (hdata : action.data config = some data) (client : ForwardingClient) (port : ℤ) :
    action.perform json verbs client config port = .ok (if port = 8080 then
        { client with
          http2_client_ := client.http2_client_.send_request config.proxy_host port action.method
            (bytes "/proxy/register") (json.dump data) }
      else
        { client with
          http_client_ := client.http_client_.started config.proxy_host port action.method
            (bytes "/proxy/register") (json.dump data) (action.callback config port) }) := by
  rw [ServerAction.perform_eq, hdata]
  exact send_to_server_eq _ _ _ (accepts_method action hpost hdelete _)

/-- A request whose value cannot be printed is not made. -/
theorem perform_of_no_data (hdata : action.data config = none) (client : ForwardingClient)
    (port : ℤ) :
    action.perform json verbs client config port = .error (.type_error 316) := by
  rw [ServerAction.perform_eq, hdata]

theorem exec_request_server_of_ok {client' : ForwardingClient} {port : ℤ}
    (hperform : action.perform json verbs t.client config port = .ok client') :
    exec (request_server json verbs action config port) t
      = some (.ok (), ⟨client', t.requests ++ [⟨action, config, port⟩]⟩) := by
  have hlift : exec (liftM (action.perform json verbs t.client config port)) t
      = some (.ok client', t) := by
    rw [exec_lift, hperform]
  rw [request_server, exec_bind_of_ok (exec_get t), exec_bind_of_ok hlift]
  rfl

theorem exec_request_server_of_data (hpost : bytes "POST" ∈ verbs)
    (hdelete : bytes "DELETE" ∈ verbs) (hdata : action.data config = some data) (port : ℤ) :
    ∃ client', exec (request_server json verbs action config port) t
        = some (.ok (), ⟨client', t.requests ++ [⟨action, config, port⟩]⟩)
      ∧ SameTunnel t.client client' := by
  refine ⟨_, exec_request_server_of_ok json action t
    (perform_of_data json action hpost hdelete hdata t.client port), ?_⟩
  split_ifs <;> exact ⟨rfl, rfl⟩

theorem exec_request_server_of_no_data (hdata : action.data config = none) (port : ℤ) :
    exec (request_server json verbs action config port) t
      = some (.error (.type_error 316), t) := by
  have hlift : exec (liftM (action.perform json verbs t.client config port)) t
      = some (.error (.type_error 316), t) := by
    rw [exec_lift, perform_of_no_data json action hdata]
  rw [request_server, exec_bind_of_ok (exec_get t), exec_bind_of_error hlift]

/-- All servers of the protocol get their request when its value can be printed. -/
theorem exec_request_servers_of_data (hpost : bytes "POST" ∈ verbs)
    (hdelete : bytes "DELETE" ∈ verbs) (hdata : action.data config = some data) :
    ∃ client', exec (request_servers json verbs action config) t
        = some (.ok (), ⟨client', t.requests ++ requests action config⟩)
      ∧ SameTunnel t.client client' := by
  rw [request_servers, requests]
  cases config.protocol with
  | HTTP1_ONLY => exact exec_request_server_of_data json action t hpost hdelete hdata 9080
  | HTTP2_ONLY => exact exec_request_server_of_data json action t hpost hdelete hdata 8080
  | BOTH =>
      obtain ⟨client', hfirst, hsame⟩ :=
        exec_request_server_of_data json action t hpost hdelete hdata 9080
      obtain ⟨client'', hsecond, hsame'⟩ := exec_request_server_of_data json action
        ⟨client', t.requests ++ [⟨action, config, 9080⟩]⟩ hpost hdelete hdata 8080
      refine ⟨client'', ?_, hsame.trans hsame'⟩
      simp only [exec_bind_of_ok hfirst, hsecond, List.append_assoc]
      rfl

/-- No server gets a request when its value cannot be printed. -/
theorem exec_request_servers_of_no_data (hdata : action.data config = none) :
    exec (request_servers json verbs action config) t
      = some (.error (.type_error 316), t) := by
  rw [request_servers]
  cases config.protocol with
  | HTTP1_ONLY => exact exec_request_server_of_no_data json action t hdata 9080
  | HTTP2_ONLY => exact exec_request_server_of_no_data json action t hdata 8080
  | BOTH => exact exec_bind_of_error (exec_request_server_of_no_data json action t hdata 9080) _

/-- After a start that goes well the tunnel is active, and has asked all its servers. -/
theorem step_start_of_data (hpost : bytes "POST" ∈ verbs) (hdelete : bytes "DELETE" ∈ verbs)
    (hdata : register_with_server.registration_data config = some data) :
    ∃ client', step json verbs t (.start_tunnel config)
        = some ⟨client', t.requests ++ requests .register config⟩
      ∧ client'.active_tunnel_ = some config ∧ client'.is_tunnel_active_ = true := by
  obtain ⟨client', hrequests, hsame⟩ := exec_request_servers_of_data json .register
    { t with client := { t.client with active_tunnel_ := some config } } hpost hdelete hdata
  refine ⟨{ client' with is_tunnel_active_ := true }, ?_, hsame.active_tunnel, rfl⟩
  rw [step, start_tunnel, exec_bind_of_ok (exec_assign _ t), exec_bind_of_ok hrequests]
  rfl

/-- A start that throws replaces the configuration and nothing else. -/
theorem step_start_of_no_data (hdata : register_with_server.registration_data config = none) :
    step json verbs t (.start_tunnel config)
      = some { t with client := { t.client with active_tunnel_ := some config } } := by
  rw [step, start_tunnel, exec_bind_of_ok (exec_assign _ t),
    exec_bind_of_error (exec_request_servers_of_no_data json .register _ hdata)]
  rfl

/-- A stop without a tunnel is undefined. -/
theorem exec_stop_tunnel_of_none (htunnel : t.client.active_tunnel_ = none) :
    exec (stop_tunnel json verbs) t = none := by
  rw [stop_tunnel, exec_bind_of_none]
  rw [exec_active_tunnel, htunnel]
  rfl

/-- A stop of a tunnel that is not active does nothing. -/
theorem exec_stop_tunnel_of_inactive (htunnel : t.client.active_tunnel_ = some config)
    (hactive : t.client.is_tunnel_active_ = false) :
    exec (stop_tunnel json verbs) t = some (.ok (), t) := by
  have hread : exec active_tunnel t = some (.ok config, t) := by
    rw [exec_active_tunnel, htunnel]
    rfl
  rw [stop_tunnel, exec_bind_of_ok hread, exec_bind_of_ok (exec_get t), if_neg (by simp [hactive])]
  rfl

/-- A stop of a tunnel that is active asks all its servers. -/
theorem exec_stop_tunnel_of_active (hpost : bytes "POST" ∈ verbs) (hdelete : bytes "DELETE" ∈ verbs)
    (htunnel : t.client.active_tunnel_ = some config) (hactive : t.client.is_tunnel_active_ = true)
    (hdata : unregister_from_server.unregistration_data config = some data) :
    ∃ client', exec (stop_tunnel json verbs) t
        = some (.ok (), ⟨client', t.requests ++ requests .unregister config⟩)
      ∧ client'.is_tunnel_active_ = false := by
  have hread : exec active_tunnel t = some (.ok config, t) := by
    rw [exec_active_tunnel, htunnel]
    rfl
  obtain ⟨client', hrequests, -⟩ := exec_request_servers_of_data json .unregister t
    hpost hdelete hdata
  refine ⟨{ client' with is_tunnel_active_ := false }, ?_, rfl⟩
  rw [stop_tunnel, exec_bind_of_ok hread, exec_bind_of_ok (exec_get t),
    if_pos (by simp [htunnel, hactive]), exec_bind_of_ok hread, exec_bind_of_ok hrequests]
  rfl

end Members

/-! ## What the two clients are asked -/

/-- The body of a request that is made. -/
def ServerRequest.body (json : JsonLibrary) (r : ServerRequest) : Bytes :=
  (r.action.data r.config).elim [] json.dump

/-- A request to a server, as the HTTP/2 client is asked for it. -/
def ServerRequest.asked (json : JsonLibrary) (r : ServerRequest) : Http2Client.Asked :=
  ⟨r.config.proxy_host, r.port, r.action.method, bytes "/proxy/register", r.body json⟩

/-- A request to a server, as the HTTP/1.1 client starts it. -/
def ServerRequest.stage (json : JsonLibrary) (r : ServerRequest) : Stage :=
  .resolve r.config.proxy_host (toDecimal r.port) (HttpClient.send_request.request
    r.config.proxy_host (.known r.action.method) (bytes "/proxy/register") (r.body json))

/-- **The requests are made**: they are what the two clients were asked for, each those of its
servers, in order. -/
structure Made (json : JsonLibrary) (t : Tunnel) : Prop where
  http2 : t.client.http2_client_.asked
    = (t.requests.filter fun r => r.port = 8080).map fun r => r.asked json
  http1 : (t.client.http_client_.pending.map fun op => op.stage)
    = (t.requests.filter fun r => r.port ≠ 8080).map fun r => r.stage json

section Made

variable (json : JsonLibrary) {verbs : List Bytes}

theorem keeps_request_server (hpost : bytes "POST" ∈ verbs) (hdelete : bytes "DELETE" ∈ verbs)
    (action : ServerAction) (config : TunnelConfig) (port : ℤ) :
    Keeps (Made json) (request_server json verbs action config port) := by
  intro t t' result h hexec
  rcases hdata : action.data config with _ | data
  · rw [exec_request_server_of_no_data json action t hdata] at hexec
    obtain ⟨-, rfl⟩ := Prod.mk.inj (Option.some.inj hexec)
    exact h
  · rw [exec_request_server_of_ok json action t
      (perform_of_data json action hpost hdelete hdata t.client port)] at hexec
    obtain ⟨-, rfl⟩ := Prod.mk.inj (Option.some.inj hexec)
    have hbody : ServerRequest.body json ⟨action, config, port⟩ = json.dump data := by
      rw [ServerRequest.body, hdata, Option.elim_some]
    by_cases hport : port = 8080
    · refine ⟨?_, ?_⟩
      · simp [hport, h.http2, Http2Client.State.send_request, ServerRequest.asked, ← hbody]
      · simp [hport, h.http1]
    · refine ⟨?_, ?_⟩
      · simp [hport, h.http2]
      · simp [hport, h.http1, HttpClient.started, ServerRequest.stage, ← hbody]

theorem keeps_request_servers (hpost : bytes "POST" ∈ verbs) (hdelete : bytes "DELETE" ∈ verbs)
    (action : ServerAction) (config : TunnelConfig) :
    Keeps (Made json) (request_servers json verbs action config) := by
  have hserver := keeps_request_server json hpost hdelete action config
  rw [request_servers]
  cases config.protocol with
  | HTTP1_ONLY => exact hserver 9080
  | HTTP2_ONLY => exact hserver 8080
  | BOTH => exact (hserver 9080).bind fun _ => hserver 8080

theorem keeps_assign_tunnel {f : ForwardingClient → ForwardingClient}
    (hhttp2 : ∀ client, (f client).http2_client_ = client.http2_client_)
    (hhttp1 : ∀ client, (f client).http_client_ = client.http_client_) :
    Keeps (Made json) (assign f) :=
  keeps_assign fun t h => ⟨by rw [← h.http2, hhttp2], by rw [← h.http1, hhttp1]⟩

/-- **In every run the requests are made.** -/
theorem made_of_run (hpost : bytes "POST" ∈ verbs) (hdelete : bytes "DELETE" ∈ verbs)
    {calls : List Call} {t : Tunnel} (hrun : Machine.exec (step json verbs) {} calls = some t) :
    Made json t := by
  have hservers := keeps_request_servers json hpost hdelete
  have hstart : ∀ config, Keeps (Made json) (start_tunnel json verbs config) := by
    intro config
    refine Keeps.bind ?_ fun _ => (hservers .register config).bind fun _ => ?_
    · exact keeps_assign_tunnel json (fun _ => rfl) fun _ => rfl
    · exact keeps_assign_tunnel json (fun _ => rfl) fun _ => rfl
  have hstop : Keeps (Made json) (stop_tunnel json verbs) := by
    refine keeps_active_tunnel.bind fun _ => keeps_get.bind fun t => ?_
    split_ifs
    · refine keeps_active_tunnel.bind fun config => (hservers .unregister config).bind fun _ => ?_
      exact keeps_assign_tunnel json (fun _ => rfl) fun _ => rfl
    · exact keeps_pure _
  refine Machine.exec_invariant (Made json) (fun t call t' h hstep => ?_) ⟨rfl, rfl⟩ hrun
  cases call with
  | start_tunnel config =>
      obtain ⟨⟨result, _⟩, hexec, rfl⟩ := Option.map_eq_some_iff.mp hstep
      exact hstart config t _ result h hexec
  | stop_tunnel =>
      obtain ⟨⟨result, _⟩, hexec, rfl⟩ := Option.map_eq_some_iff.mp hstep
      exact hstop t _ result h hexec

end Made

/-! ## What the requests say -/

section Requests

variable {log : List ServerRequest} {config : TunnelConfig} {server : TunnelServer}

/-- The requests to the servers of a tunnel are about its servers. -/
theorem exists_requests_iff (action action' : ServerAction) :
    (∃ r ∈ requests action config, r.action = action' ∧ r.server = server)
      ↔ action = action' ∧ server ∈ config.servers := by
  simp only [requests, TunnelConfig.servers, List.mem_map, ServerRequest.server]
  constructor
  · rintro ⟨_, ⟨port, hport, rfl⟩, haction, hserver⟩
    exact ⟨haction, port, hport, hserver⟩
  · rintro ⟨haction, port, hport, hserver⟩
    exact ⟨_, ⟨port, hport, rfl⟩, haction, hserver⟩

/-- Registering with the servers of a tunnel adds them to what is registered. -/
theorem registered_append_register :
    Registered (log ++ requests .register config) server
      ↔ Registered log server ∨ server ∈ config.servers := by
  have hkept : ∀ r ∈ requests .register config, ¬ (r.action = .unregister ∧ r.server = server) :=
    fun r hr h => absurd ((exists_requests_iff _ _).mp ⟨r, hr, h⟩).1 (by decide)
  rw [Registered, Record.exists_stands_append_iff, Record.exists_stands_iff_of_kept hkept,
    exists_requests_iff, and_iff_right rfl, and_iff_left hkept, or_comm]
  rfl

/-- Unregistering from the servers of a tunnel takes them away from what is registered. -/
theorem registered_append_unregister :
    Registered (log ++ requests .unregister config) server
      ↔ Registered log server ∧ server ∉ config.servers := by
  have hnone : ¬ ∃ n, Record.Stands (fun r => r.action = .register ∧ r.server = server)
      (fun r => r.action = .unregister ∧ r.server = server)
      (requests .unregister config) n := fun ⟨n, h⟩ =>
    absurd ((exists_requests_iff _ _).mp h.exists_mem).1 (by decide)
  have htaken : (∀ r ∈ requests .unregister config, ¬ (r.action = .unregister ∧ r.server = server))
      ↔ server ∉ config.servers := by
    have hasked : (∃ r ∈ requests .unregister config, r.action = .unregister ∧ r.server = server)
        ↔ _ ∧ server ∈ config.servers := exists_requests_iff _ _
    simpa using not_congr hasked
  rw [Registered, Record.exists_stands_append_iff, or_iff_right hnone, htaken]
  rfl

end Requests

/-! ## The invariant -/

/-- What is registered is in step, an active tunnel is there, and whatever has been asked was
about an id that can be printed. -/
structure Invariant (t : Tunnel) : Prop where
  inStep : InStep t
  tunnel : t.client.is_tunnel_active_ = true → ∃ config, t.client.active_tunnel_ = some config
  printed : ∀ r ∈ t.requests, (utf8 r.config.tunnel_id).isSome

theorem invariant_start : Invariant {} where
  inStep := by
    intro server
    refine iff_of_false ?_ fun h => absurd h.1 (by simp)
    rintro ⟨n, h⟩
    exact Record.not_stands_nil h
  tunnel := fun h => absurd h (by simp)
  printed := by simp

section Calls

variable (json : JsonLibrary) {verbs : List Bytes} {t t' : Tunnel} {call : Call}
  {config : TunnelConfig}

/-- The id of an active tunnel can be printed: it is registered. -/
theorem Invariant.exists_unregistration_data (hinv : Invariant t)
    (htunnel : t.client.active_tunnel_ = some config)
    (hactive : t.client.is_tunnel_active_ = true) :
    ∃ data, unregister_from_server.unregistration_data config = some data := by
  obtain ⟨server, hserver⟩ := config.exists_server
  obtain ⟨n, hn⟩ := (hinv.inStep server).mpr ⟨hactive, config, htunnel, hserver⟩
  obtain ⟨r, hr, -, rfl⟩ := hn.exists_mem
  obtain ⟨port, -, hsame⟩ := List.mem_map.mp hserver
  have hid : config.tunnel_id = r.config.tunnel_id := congrArg TunnelServer.tunnel_id hsame
  obtain ⟨text, htext⟩ := Option.isSome_iff_exists.mp (hinv.printed r hr)
  rw [← hid] at htext
  exact ⟨.object [("backend_id", .string text)], by
    rw [unregister_from_server.unregistration_data, htext]
    rfl⟩

/-- Requests of both kinds print the id of the tunnel. -/
theorem isSome_of_data {action : ServerAction} {data : Json}
    (hdata : action.data config = some data) : (utf8 config.tunnel_id).isSome := by
  cases action with
  | register =>
      obtain ⟨text, htext, -⟩ := Option.bind_eq_some_iff.mp hdata
      exact Option.isSome_iff_exists.mpr ⟨text, htext⟩
  | unregister =>
      obtain ⟨text, htext, -⟩ := Option.bind_eq_some_iff.mp hdata
      exact Option.isSome_iff_exists.mpr ⟨text, htext⟩

/-- Every server that is asked can be told of the id. -/
theorem printed_append {log : List ServerRequest} (action : ServerAction) {data : Json}
    (hprinted : ∀ r ∈ log, (utf8 r.config.tunnel_id).isSome)
    (hdata : action.data config = some data) :
    ∀ r ∈ log ++ requests action config, (utf8 r.config.tunnel_id).isSome := by
  refine List.forall_mem_append.mpr ⟨hprinted, fun r hr => ?_⟩
  obtain ⟨port, -, rfl⟩ := List.mem_map.mp hr
  exact isSome_of_data hdata

/-- Without an active tunnel no server is active. -/
theorem not_activeServer {client : ForwardingClient} (h : client.is_tunnel_active_ = false)
    (server : TunnelServer) : ¬ ActiveServer client server := by
  rintro ⟨hactive, -⟩
  rw [h] at hactive
  exact absurd hactive (by simp)

/-- The active servers are those of the active tunnel. -/
theorem activeServer_iff {client : ForwardingClient} (htunnel : client.active_tunnel_ = some config)
    (hactive : client.is_tunnel_active_ = true) (server : TunnelServer) :
    ActiveServer client server ↔ server ∈ config.servers := by
  constructor
  · rintro ⟨-, config', htunnel', hserver⟩
    obtain rfl := Option.some.inj (htunnel.symm.trans htunnel')
    exact hserver
  · exact fun hserver => ⟨hactive, config, htunnel, hserver⟩

/-- A start that covers keeps the invariant. -/
theorem step_start_of_covers (hpost : bytes "POST" ∈ verbs) (hdelete : bytes "DELETE" ∈ verbs)
    (hinv : Invariant t) (hcovers : Covers t (.start_tunnel config)) :
    ∃ t', step json verbs t (.start_tunnel config) = some t' ∧ Invariant t' := by
  rcases hdata : register_with_server.registration_data config with _ | data
  · refine ⟨_, step_start_of_no_data json t hdata, fun server => ?_, fun _ => ⟨config, rfl⟩,
      hinv.printed⟩
    rw [hinv.inStep]
    constructor
    · rintro ⟨hactive, old, htunnel, hserver⟩
      exact ⟨hactive, config, rfl, (hcovers hactive old htunnel).1 hserver⟩
    · rintro ⟨hactive, config', hconfig, hserver⟩
      obtain rfl := Option.some.inj hconfig
      obtain ⟨old, htunnel⟩ := hinv.tunnel hactive
      exact ⟨hactive, old, htunnel, (hcovers hactive old htunnel).2 hdata hserver⟩
  · obtain ⟨client', hstep, htunnel, hactive⟩ := step_start_of_data json t hpost hdelete hdata
    refine ⟨_, hstep, fun server => ?_, fun _ => ⟨config, htunnel⟩,
      printed_append .register hinv.printed hdata⟩
    rw [registered_append_register, activeServer_iff htunnel hactive, or_iff_right_of_imp]
    -- what was registered before is among the new tunnel's servers
    intro hregistered
    obtain ⟨hwas, old, hold, hserver⟩ := (hinv.inStep server).mp hregistered
    exact (hcovers hwas old hold).1 hserver

/-- A stop keeps the invariant once there is a tunnel, and leaves nothing registered. -/
theorem exec_stop_of_tunnel (hpost : bytes "POST" ∈ verbs) (hdelete : bytes "DELETE" ∈ verbs)
    (hinv : Invariant t) (htunnel : t.client.active_tunnel_ = some config) :
    ∃ t', exec (stop_tunnel json verbs) t = some (.ok (), t') ∧ Invariant t'
      ∧ ∀ server, ¬ Registered t'.requests server := by
  rcases hactive : t.client.is_tunnel_active_ with _ | _
  · refine ⟨t, exec_stop_tunnel_of_inactive json t htunnel hactive, hinv, fun server => ?_⟩
    rw [hinv.inStep]
    exact not_activeServer hactive server
  · obtain ⟨data, hdata⟩ := hinv.exists_unregistration_data htunnel hactive
    obtain ⟨client', hexec, hinactive⟩ :=
      exec_stop_tunnel_of_active json t hpost hdelete htunnel hactive hdata
    have hnone : ∀ server, ¬ Registered (t.requests ++ requests .unregister config) server := by
      intro server
      rw [registered_append_unregister, hinv.inStep, activeServer_iff htunnel hactive]
      exact fun h => h.2 h.1
    exact ⟨_, hexec, ⟨fun server => iff_of_false (hnone server) (not_activeServer hinactive server),
      fun h => absurd (hinactive.symm.trans h) (by simp),
      printed_append .unregister hinv.printed hdata⟩, hnone⟩

/-- A call that covers keeps the invariant. -/
theorem step_of_covers (hpost : bytes "POST" ∈ verbs) (hdelete : bytes "DELETE" ∈ verbs)
    (hinv : Invariant t) (hcovers : Covers t call) :
    ∃ t', step json verbs t call = some t' ∧ Invariant t' := by
  cases call with
  | start_tunnel config => exact step_start_of_covers json hpost hdelete hinv hcovers
  | stop_tunnel =>
      obtain ⟨config, htunnel⟩ := Option.ne_none_iff_exists'.mp hcovers
      obtain ⟨t', hexec, hinv', -⟩ := exec_stop_of_tunnel json hpost hdelete hinv htunnel
      refine ⟨t', ?_, hinv'⟩
      rw [step, hexec]
      rfl

/-- A call that leaves what is registered in step has covered. -/
theorem covers_of_inStep (hpost : bytes "POST" ∈ verbs) (hdelete : bytes "DELETE" ∈ verbs)
    (hinv : Invariant t) (hstep : step json verbs t call = some t') (hinStep : InStep t') :
    Covers t call := by
  cases call with
  | start_tunnel config =>
      intro hactive old htunnel
      rcases hdata : register_with_server.registration_data config with _ | data
      · -- nothing is asked for, and the new tunnel is active in the old one's place
        rw [step_start_of_no_data json t hdata] at hstep
        obtain rfl := Option.some.inj hstep
        have hsame : ∀ server, server ∈ old.servers ↔ server ∈ config.servers := fun server =>
          calc server ∈ old.servers ↔ Registered t.requests server := by
                rw [hinv.inStep, activeServer_iff htunnel hactive]
            _ ↔ server ∈ config.servers := by
                rw [hinStep server]
                refine activeServer_iff ?_ ?_ server
                · rfl
                · exact hactive
        exact ⟨fun server => (hsame server).mp, fun _ server => (hsame server).mpr⟩
      · obtain ⟨client', hstep', htunnel', hactive'⟩ :=
          step_start_of_data json t hpost hdelete hdata
        obtain rfl := Option.some.inj (hstep.symm.trans hstep')
        refine ⟨fun server hserver => ?_, fun h => absurd h (by simp)⟩
        -- what the old tunnel registered still is
        rw [← activeServer_iff htunnel' hactive', ← hinStep server, registered_append_register,
          hinv.inStep, activeServer_iff htunnel hactive]
        exact Or.inl hserver
  | stop_tunnel =>
      intro htunnel
      rw [step, exec_stop_tunnel_of_none json t htunnel] at hstep
      exact absurd hstep (by simp)

/-- Destroying the client leaves nothing registered. -/
theorem exists_destroy (hpost : bytes "POST" ∈ verbs) (hdelete : bytes "DELETE" ∈ verbs)
    (hinv : Invariant t) :
    ∃ t', destroy json verbs t = some t' ∧ ∀ server, ¬ Registered t'.requests server := by
  rcases hactive : t.client.is_tunnel_active_ with _ | _
  · refine ⟨t, ?_, fun server => ?_⟩
    · rw [destroy, destruct, exec_bind_of_ok (exec_get t), if_neg (by simp [hactive])]
      rfl
    · rw [hinv.inStep]
      exact not_activeServer hactive server
  · obtain ⟨config, htunnel⟩ := hinv.tunnel hactive
    obtain ⟨t', hexec, -, hnone⟩ := exec_stop_of_tunnel json hpost hdelete hinv htunnel
    refine ⟨t', ?_, hnone⟩
    rw [destroy, destruct, exec_bind_of_ok (exec_get t), if_pos hactive, hexec]

/-! ## The lifecycle -/

/-- **When the lifecycle is kept**: for the sequences of calls in which none is a stop
before the first start, and none a start that loses a server of the active tunnel. -/
theorem lifecycle_iff (hpost : bytes "POST" ∈ verbs) (hdelete : bytes "DELETE" ∈ verbs)
    (calls : List Call) :
    LifecycleKept json verbs calls ↔ Machine.StepsMeet (step json verbs) Covers {} calls := by
  have hiff : Machine.Throughout (step json verbs) InStep {} calls
      ↔ Machine.StepsMeet (step json verbs) Covers {} calls :=
    Machine.throughout_iff_stepsMeet (fun _ hinv => hinv.inStep)
      (fun _ _ hinv _ hcovers => step_of_covers json hpost hdelete hinv hcovers)
      (fun _ _ _ hinv _ hstep hinStep => covers_of_inStep json hpost hdelete hinv hstep hinStep)
      invariant_start (.of_forall (fun _ _ => trivial) _ _)
  refine ⟨fun h => hiff.mp h.1, fun hmeet => ⟨hiff.mpr hmeet, ?_⟩⟩
  obtain ⟨t, hrun, -⟩ := hiff.mpr hmeet calls List.prefix_rfl
  have hinv : Invariant t := by
    refine Machine.exec_invariant_of_stepsMeet Invariant (fun t call t' hinv hcovers hstep => ?_)
      invariant_start hmeet hrun
    obtain ⟨t'', hstep', hinv'⟩ := step_of_covers json hpost hdelete hinv hcovers
    exact Option.some.inj (hstep.symm.trans hstep') ▸ hinv'
  obtain ⟨t', hdestroy, hnone⟩ := exists_destroy json hpost hdelete hinv
  exact ⟨t, t', hrun, hdestroy, hnone⟩

end Calls

/-- A tunnel at the HTTP/1.1 proxy, and the text of its registration. -/
def narrow : TunnelConfig where
  proxy_host := bytes "proxy"
  tunnel_id := bytes "tunnel-1234"
  protocol := .HTTP1_ONLY

def narrowText : Bytes :=
  bytes "\x7b\"backend_id\":\"tunnel-1234\",\"host\":\"localhost\","
    ++ bytes "\"path_pattern\":\"/\",\"port\":9999\x7d"

/-- The same tunnel at both servers, and one of another id. -/
def wide : TunnelConfig := { narrow with protocol := .BOTH }

def other : TunnelConfig := { narrow with tunnel_id := bytes "tunnel-5678" }

/-- A library that prints the first two as `nlohmann::json` does. -/
def tunnelJson : JsonLibrary where
  parse _ := none
  dump value :=
    if (value.member "port").isSome then narrowText
    else bytes "\x7b\"backend_id\":\"tunnel-1234\"\x7d"

/-- A tunnel of this kind can be printed. -/
theorem exists_registration_data (tunnel_id : String) (protocol : RegistrationProtocol) :
    ∃ data, register_with_server.registration_data
      { narrow with tunnel_id := bytes tunnel_id, protocol } = some data := by
  simp only [register_with_server.registration_data, narrow, utf8_bytes]
  exact ⟨_, rfl⟩

/-- The tunnel is widened to both servers while it is active, and stopped. -/
theorem lifecycle_iff_widened :
    LifecycleKept tunnelJson documentedVerbs
      [.start_tunnel narrow, .start_tunnel wide, .stop_tunnel] := by
  have hpost : bytes "POST" ∈ documentedVerbs := by decide
  have hdelete : bytes "DELETE" ∈ documentedVerbs := by decide
  obtain ⟨data, hdata⟩ := exists_registration_data "tunnel-1234" .HTTP1_ONLY
  obtain ⟨data', hdata'⟩ := exists_registration_data "tunnel-1234" .BOTH
  obtain ⟨client, hstep, htunnel, -⟩ := step_start_of_data tunnelJson {} hpost hdelete hdata
  obtain ⟨client', hstep', htunnel', -⟩ :=
    step_start_of_data tunnelJson ⟨client, _⟩ hpost hdelete hdata'
  refine (lifecycle_iff tunnelJson hpost hdelete _).mpr ?_
  refine .cons (fun h => absurd h (by simp)) hstep (.cons ?_ hstep' ⟨?_, fun _ _ => trivial⟩)
  · intro _ old hold
    obtain rfl := Option.some.inj (htunnel.symm.trans hold)
    exact ⟨by decide, fun h => absurd (h.symm.trans hdata') (by simp)⟩
  · rw [Covers, htunnel']
    simp

/-- **The lifecycle can be broken**, by a stop before the first start, and by a start while
another tunnel is active. -/
theorem stop_first_and_restart_break :
    ¬ LifecycleKept tunnelJson documentedVerbs [.stop_tunnel]
      ∧ ¬ LifecycleKept tunnelJson documentedVerbs [.start_tunnel narrow, .start_tunnel other] := by
  have hpost : bytes "POST" ∈ documentedVerbs := by decide
  have hdelete : bytes "DELETE" ∈ documentedVerbs := by decide
  constructor
  · -- a null pointer is dereferenced
    rintro ⟨-, t, -, hrun, -⟩
    obtain ⟨t', hstep, -⟩ := Machine.exec_cons_eq_some.mp hrun
    rw [step, exec_stop_tunnel_of_none _ _ rfl] at hstep
    exact absurd hstep (by simp)
  · -- the first tunnel stays registered
    rintro ⟨hthroughout, -⟩
    obtain ⟨data, hdata⟩ := exists_registration_data "tunnel-1234" .HTTP1_ONLY
    obtain ⟨data', hdata'⟩ := exists_registration_data "tunnel-5678" .HTTP1_ONLY
    obtain ⟨client, hstep, -⟩ := step_start_of_data tunnelJson {} hpost hdelete hdata
    obtain ⟨client', hstep', htunnel', hactive'⟩ :=
      step_start_of_data tunnelJson ⟨client, _⟩ hpost hdelete hdata'
    obtain ⟨t', hrun, hinStep⟩ := hthroughout _ List.prefix_rfl
    have hrun' := Machine.exec_cons_eq_some.mpr
      ⟨_, hstep, Machine.exec_cons_eq_some.mpr ⟨_, hstep', Machine.exec_nil _ _⟩⟩
    obtain rfl := Option.some.inj (hrun'.symm.trans hrun)
    have hleft := (hinStep ⟨bytes "proxy", 9080, bytes "tunnel-1234"⟩).mp
      (registered_append_register.mpr
      (Or.inl (registered_append_register.mpr (Or.inr (by decide)))))
    rw [activeServer_iff htunnel' hactive'] at hleft
    exact absurd hleft (by decide)

end ForwardingClient

end Http2Server
