/-
`ForwardingClient` (`examples/forwarding_client.{hpp,cpp}`): the tunnel client.

It has both clients, and picks one by the port: 8080 is the HTTP/2 server's, any other
the HTTP/1.1 proxy's. Starting a tunnel stores its configuration and registers it with
the servers its protocol names; stopping one unregisters it from the same. What the
callbacks do is print, and that is not modelled.

The texts of a configuration are any byte strings. The JSON values made of them are
printed before anything is sent, so a member function that prints one that is not UTF-8
throws with no request made; what it stored before stays.
-/
import Http2Server.ProxyClient
import Http2Server.Http2Client

set_option autoImplicit false

open ByteString

namespace Http2Server

/-- `enum class RegistrationProtocol`. -/
inductive RegistrationProtocol
  | HTTP1_ONLY
  | HTTP2_ONLY
  | BOTH
  deriving DecidableEq, Repr

/-- `struct TunnelConfig`. -/
structure TunnelConfig where
  local_host : Bytes := bytes "localhost"
  local_port : Int32 := 9999
  proxy_host : Bytes := bytes "192.168.80.132"
  proxy_port : Int32 := 9080
  path_pattern : Bytes := bytes "/"
  tunnel_id : Bytes
  protocol : RegistrationProtocol := .BOTH
  deriving DecidableEq, Repr

/-- The lambdas handed to the HTTP/1.1 client, with what they capture. -/
inductive TunnelLambda
  | register (port : ℤ) (tunnel_id : Bytes)
  | unregister (port : ℤ)
  deriving DecidableEq, Repr

/-- `class ForwardingClient`. -/
structure ForwardingClient where
  active_tunnel_ : Option TunnelConfig := none
  http_client_ : HttpClient TunnelLambda := {}
  http2_client_ : Http2Client.State := {}
  is_tunnel_active_ : Bool := false

namespace ForwardingClient

/-! ## Registering and unregistering -/

/-- The request both end with, to the registration path of a server of the tunnel. -/
def send_to_server (verbs : List Bytes) (client : ForwardingClient) (config : TunnelConfig)
    (port : ℤ) (method body : Bytes) (callback : TunnelLambda) :
    Except Exn ForwardingClient :=
  if port = 8080 then
    .ok { client with
      http2_client_ := client.http2_client_.send_request config.proxy_host port method
        (bytes "/proxy/register") body }
  else do
    let http_client_ ← client.http_client_.send_request verbs config.proxy_host port method
      (bytes "/proxy/register") body callback
    return { client with http_client_ }

/-- The value `register_with_server` prints, if it can be printed. -/
def register_with_server.registration_data (config : TunnelConfig) : Option Json := do
  let tunnel_id ← utf8 config.tunnel_id
  let local_host ← utf8 config.local_host
  let path_pattern ← utf8 config.path_pattern
  return .object [("backend_id", .string tunnel_id), ("host", .string local_host),
    ("port", .number_integer config.local_port.toInt), ("path_pattern", .string path_pattern)]

/-- The body it sends. -/
def register_with_server.body (json : JsonLibrary) (config : TunnelConfig) : Except Exn Bytes :=
  json.dumpOrThrow (register_with_server.registration_data config)

/-- `ForwardingClient::register_with_server`. -/
def register_with_server (json : JsonLibrary) (verbs : List Bytes) (client : ForwardingClient)
    (config : TunnelConfig) (port : ℤ) : Except Exn ForwardingClient := do
  let body ← register_with_server.body json config
  send_to_server verbs client config port (bytes "POST") body (.register port config.tunnel_id)

/-- The value `unregister_from_server` prints, if it can be printed. -/
def unregister_from_server.unregistration_data (config : TunnelConfig) : Option Json := do
  let tunnel_id ← utf8 config.tunnel_id
  return .object [("backend_id", .string tunnel_id)]

/-- The body it sends. -/
def unregister_from_server.body (json : JsonLibrary) (config : TunnelConfig) : Except Exn Bytes :=
  json.dumpOrThrow (unregister_from_server.unregistration_data config)

/-- `ForwardingClient::unregister_from_server`. -/
def unregister_from_server (json : JsonLibrary) (verbs : List Bytes) (client : ForwardingClient)
    (config : TunnelConfig) (port : ℤ) : Except Exn ForwardingClient := do
  let body ← unregister_from_server.body json config
  send_to_server verbs client config port (bytes "DELETE") body (.unregister port)

/-- A request is made of one of the two clients, and the rest is left as it is. -/
theorem send_to_server_eq {verbs : List Bytes} (client : ForwardingClient)
    (config : TunnelConfig) {port : ℤ} {method body : Bytes} (callback : TunnelLambda)
    (haccepts : HttpClient.Accepts verbs method body) :
    send_to_server verbs client config port method body callback
      = .ok (if port = 8080 then
          { client with
            http2_client_ := client.http2_client_.send_request config.proxy_host port method
              (bytes "/proxy/register") body }
        else
          { client with
            http_client_ := client.http_client_.started config.proxy_host port method
              (bytes "/proxy/register") body callback }) := by
  rw [send_to_server, HttpClient.send_request_of_accepts _ haccepts]
  split_ifs <;> rfl

/-! ## The tunnel -/

/-- What a request to a server asks for: a registration or an unregistration. -/
inductive ServerAction
  | register
  | unregister
  deriving DecidableEq, Repr

/-- The value a request prints, if it can be printed. -/
def ServerAction.data : ServerAction → TunnelConfig → Option Json
  | .register => register_with_server.registration_data
  | .unregister => unregister_from_server.unregistration_data

/-- The method of a request. -/
def ServerAction.method : ServerAction → Bytes
  | .register => bytes "POST"
  | .unregister => bytes "DELETE"

/-- The lambda that gets the answer to a request. -/
def ServerAction.callback (config : TunnelConfig) (port : ℤ) : ServerAction → TunnelLambda
  | .register => .register port config.tunnel_id
  | .unregister => .unregister port

/-- The function of the client that makes a request. -/
def ServerAction.perform (json : JsonLibrary) (verbs : List Bytes) :
    ServerAction → ForwardingClient → TunnelConfig → ℤ → Except Exn ForwardingClient
  | .register => register_with_server json verbs
  | .unregister => unregister_from_server json verbs

/-- A request sends what can be printed, and throws at what cannot. -/
theorem ServerAction.perform_eq (json : JsonLibrary) (verbs : List Bytes) (action : ServerAction)
    (client : ForwardingClient) (config : TunnelConfig) (port : ℤ) :
    action.perform json verbs client config port = match action.data config with
      | some data => send_to_server verbs client config port action.method (json.dump data)
          (action.callback config port)
      | none => .error (.type_error 316) := by
  cases action with
  | register =>
      simp only [perform, register_with_server, register_with_server.body, data]
      cases register_with_server.registration_data config <;> rfl
  | unregister =>
      simp only [perform, unregister_from_server, unregister_from_server.body, data]
      cases unregister_from_server.unregistration_data config <;> rfl

/-- One request to a server, with the configuration it was made of. -/
structure ServerRequest where
  action : ServerAction
  config : TunnelConfig
  port : ℤ
  deriving DecidableEq, Repr

end ForwardingClient

/-- A `ForwardingClient`, with the requests it has made, in order. -/
structure Tunnel where
  client : ForwardingClient := {}
  requests : List ForwardingClient.ServerRequest := []

/-- Code of its member functions: it may throw, and what it did before stays done; `none`
when it dereferences an absent tunnel. -/
abbrev TunnelM := ExceptT Exn (StateT Tunnel Option)

namespace TunnelM

variable {α β : Type}

/-- What a piece of code throws, if anything, and the state it leaves. -/
def exec (code : TunnelM α) (t : Tunnel) : Option (Except Exn α × Tunnel) :=
  (ExceptT.run code).run t

/-- `*active_tunnel_`, or a member of it. -/
def active_tunnel : TunnelM TunnelConfig :=
  ExceptT.mk fun t => t.client.active_tunnel_.map fun config => (.ok config, t)

/-- An assignment to the members of the client. -/
def assign (f : ForwardingClient → ForwardingClient) : TunnelM Unit :=
  modify fun t => { t with client := f t.client }

@[simp] theorem exec_get (t : Tunnel) : exec get t = some (.ok t, t) := rfl

@[simp] theorem exec_set (t t' : Tunnel) : exec (set t') t = some (.ok ⟨⟩, t') := rfl

@[simp] theorem exec_pure (a : α) (t : Tunnel) : exec (pure a) t = some (.ok a, t) := rfl

@[simp] theorem exec_lift (x : Except Exn α) (t : Tunnel) : exec (liftM x) t = some (x, t) := rfl

@[simp] theorem exec_active_tunnel (t : Tunnel) :
    exec active_tunnel t = t.client.active_tunnel_.map fun config => (.ok config, t) := rfl

@[simp] theorem exec_assign (f : ForwardingClient → ForwardingClient) (t : Tunnel) :
    exec (assign f) t = some (.ok (), { t with client := f t.client }) := rfl

/-- After a first part that returns, the second runs in the state that it leaves. -/
theorem exec_bind_of_ok {x : TunnelM α} {t t' : Tunnel} {a : α} (hx : exec x t = some (.ok a, t'))
    (f : α → TunnelM β) : exec (x >>= f) t = exec (f a) t' := by
  simp only [exec] at hx
  simp only [exec, ExceptT.run_bind, StateT.run_bind, hx]
  rfl

/-- After a first part that throws, the second does not run. -/
theorem exec_bind_of_error {x : TunnelM α} {t t' : Tunnel} {e : Exn}
    (hx : exec x t = some (.error e, t')) (f : α → TunnelM β) :
    exec (x >>= f) t = some (.error e, t') := by
  simp only [exec] at hx
  simp only [exec, ExceptT.run_bind, StateT.run_bind, hx]
  rfl

/-- After a first part that is undefined, there is no second. -/
theorem exec_bind_of_none {x : TunnelM α} {t : Tunnel} (hx : exec x t = none)
    (f : α → TunnelM β) : exec (x >>= f) t = none := by
  simp only [exec] at hx
  simp only [exec, ExceptT.run_bind, StateT.run_bind, hx]
  rfl

/-- Whatever becomes of the code, it leaves `I` as true as it was. -/
def Keeps (I : Tunnel → Prop) (code : TunnelM α) : Prop :=
  ∀ t t' result, I t → exec code t = some (result, t') → I t'

variable {I : Tunnel → Prop}

theorem keeps_pure (a : α) : Keeps I (pure a) := by
  intro t t' result h hexec
  obtain ⟨-, rfl⟩ := Prod.mk.inj (Option.some.inj hexec)
  exact h

/-- Two parts that keep an invariant keep it one after the other. -/
theorem Keeps.bind {x : TunnelM α} {f : α → TunnelM β} (hx : Keeps I x)
    (hf : ∀ a, Keeps I (f a)) : Keeps I (x >>= f) := by
  intro t t' result h hexec
  rcases hfirst : exec x t with _ | ⟨_ | a, t₁⟩
  · rw [exec_bind_of_none hfirst] at hexec
    cases hexec
  · rw [exec_bind_of_error hfirst] at hexec
    obtain ⟨-, rfl⟩ := Prod.mk.inj (Option.some.inj hexec)
    exact hx t t₁ _ h hfirst
  · rw [exec_bind_of_ok hfirst] at hexec
    exact hf a t₁ t' result (hx t t₁ _ h hfirst) hexec

theorem keeps_active_tunnel : Keeps I active_tunnel := by
  intro t t' result h hexec
  obtain ⟨config, -, hexec⟩ := Option.map_eq_some_iff.mp hexec
  obtain ⟨-, rfl⟩ := Prod.mk.inj hexec
  exact h

theorem keeps_assign {f : ForwardingClient → ForwardingClient}
    (hf : ∀ t, I t → I { t with client := f t.client }) : Keeps I (assign f) := by
  intro t t' result h hexec
  obtain ⟨-, rfl⟩ := Prod.mk.inj (Option.some.inj hexec)
  exact hf t h

theorem keeps_get : Keeps I (get : TunnelM Tunnel) := by
  intro t t' result h hexec
  obtain ⟨-, rfl⟩ := Prod.mk.inj (Option.some.inj hexec)
  exact h

/-- The second code does to the view of a tunnel what the first does to the tunnel: it gets
as far, with the view of the same result, and leaves the view of the same state. -/
def Mirrors (view : Tunnel → Tunnel) (g : α → β) (code : TunnelM α) (code' : TunnelM β) : Prop :=
  ∀ t, exec code' (view t) = (exec code t).map fun r => (r.1.map g, view r.2)

variable {view : Tunnel → Tunnel}

/-- Two parts that are mirrored are mirrored one after the other. -/
theorem Mirrors.bind {γ δ : Type} {g : α → β} {g' : γ → δ} {x : TunnelM α} {x' : TunnelM β}
    {f : α → TunnelM γ} {f' : β → TunnelM δ} (hx : Mirrors view g x x')
    (hf : ∀ a, Mirrors view g' (f a) (f' (g a))) : Mirrors view g' (x >>= f) (x' >>= f') := by
  intro t
  have hfirst' := hx t
  rcases hfirst : exec x t with _ | ⟨_ | a, t₁⟩
  · rw [hfirst] at hfirst'
    rw [exec_bind_of_none hfirst, exec_bind_of_none hfirst']
    rfl
  · rw [hfirst] at hfirst'
    rw [exec_bind_of_error hfirst, exec_bind_of_error hfirst']
    rfl
  · rw [hfirst] at hfirst'
    rw [exec_bind_of_ok hfirst, exec_bind_of_ok hfirst']
    exact hf a t₁

end TunnelM

namespace ForwardingClient

open TunnelM

/-- `register_with_server` or `unregister_from_server`, on the client as it is. -/
def request_server (json : JsonLibrary) (verbs : List Bytes) (action : ServerAction)
    (config : TunnelConfig) (port : ℤ) : TunnelM Unit := do
  let t ← get
  let client ← action.perform json verbs t.client config port
  set ({ client, requests := t.requests ++ [⟨action, config, port⟩] } : Tunnel)

/-- The switch over the protocol, in `start_tunnel` and in `stop_tunnel`. -/
def request_servers (json : JsonLibrary) (verbs : List Bytes) (action : ServerAction)
    (config : TunnelConfig) : TunnelM Unit :=
  match config.protocol with
  | .HTTP1_ONLY => request_server json verbs action config 9080
  | .HTTP2_ONLY => request_server json verbs action config 8080
  | .BOTH => do
      request_server json verbs action config 9080
      request_server json verbs action config 8080

/-- `ForwardingClient::start_tunnel`. -/
def start_tunnel (json : JsonLibrary) (verbs : List Bytes) (config : TunnelConfig) :
    TunnelM Unit := do
  assign fun client => { client with active_tunnel_ := some config }
  request_servers json verbs .register config
  assign fun client => { client with is_tunnel_active_ := true }

/-- `ForwardingClient::stop_tunnel`. -/
def stop_tunnel (json : JsonLibrary) (verbs : List Bytes) : TunnelM Unit := do
  -- the text of the log line is made at every level, and has `active_tunnel_->tunnel_id` in it
  let _ ← active_tunnel
  let t ← get
  if t.client.active_tunnel_.isSome ∧ t.client.is_tunnel_active_ then do
    let config ← active_tunnel
    request_servers json verbs .unregister config
    assign fun client => { client with is_tunnel_active_ := false }

/-- `ForwardingClient::~ForwardingClient`. -/
def destruct (json : JsonLibrary) (verbs : List Bytes) : TunnelM Unit := do
  let t ← get
  if t.client.is_tunnel_active_ then stop_tunnel json verbs

/-! ## Two encoders, one format -/

/-- What a tunnel asks for, as a request of the library: its texts, where they are. -/
def request (config : TunnelConfig) : Option RegistrationRequest := do
  let backend_id ← utf8 config.tunnel_id
  let host ← utf8 config.local_host
  let path_pattern ← utf8 config.path_pattern
  return { backend_id, host, port := config.local_port, path_pattern }

/-- A registration of the tunnel client has the text that one of `ProxyClient` has. -/
theorem register_with_server_body (json : JsonLibrary) {config : TunnelConfig}
    {asked : RegistrationRequest} (h : request config = some asked) :
    register_with_server.body json config
      = .ok (ProxyClient.register_backend.body json asked) := by
  simp only [request, bind, Option.bind_eq_some_iff] at h
  obtain ⟨backend_id, hid, host, hhost, path_pattern, hpattern, h⟩ := h
  obtain rfl := Option.some.inj h
  simp only [register_with_server.body, register_with_server.registration_data, hid, hhost,
    hpattern, bind, Option.bind]
  rfl

/-- An unregistration of the tunnel client has the text that one of `ProxyClient` has. -/
theorem unregister_from_server_body (json : JsonLibrary) {config : TunnelConfig}
    {backend_id : String} (h : utf8 config.tunnel_id = some backend_id) :
    unregister_from_server.body json config
      = .ok (ProxyClient.unregister_backend.body json backend_id) := by
  simp only [unregister_from_server.body, unregister_from_server.unregistration_data, h, bind,
    Option.bind]
  rfl

end ForwardingClient

end Http2Server
