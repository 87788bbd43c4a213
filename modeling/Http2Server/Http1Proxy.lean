/-
`Http1ProxySession::handle_request` and the routing half of `forward_to_backend`
(`transport/http1_proxy.cpp`): what the HTTP/1.1 front end decides about a
request it has read.

The decision is an action -- write a response of its own, or contact a rule's
backend -- and its effect on the routing table. Unlike the HTTP/2 handler it
catches what the registration code throws right where it is thrown, and it never
throws itself.
-/
import Http2Server.ProxyHandler

set_option autoImplicit false

open ByteString UnorderedMap

namespace Http2Server

/-- `http::request<http::string_body>`, as read from a client. -/
structure Http1Request where
  method_string : Bytes
  target : Bytes
  body : Bytes
  deriving DecidableEq, Repr

/-- What `handle_request` decides. -/
inductive Http1Action
  | send_response (status_code : ℤ) (body : Bytes)
  | forward (rule : ForwardingRule)
  deriving DecidableEq, Repr

namespace Http1ProxySession

open HandlerM ProxyRequestHandler

variable {S : Type}

/-- `forward_to_backend`, up to the point where it resolves the backend's host. -/
def forward_to_backend (enumerate : Enumeration) (path : Bytes) :
    HandlerM S Http1Action := do
  let w ← get
  match w.registry.find_backend (enumerate w.registry.backends_) path with
  | none =>
      return .send_response 404
        (bytes "\x7b\"error\":\"No backend found for this path\"\x7d")
  | some rule => return .forward rule

/-- The registration branch of `handle_request`. -/
def handle_registration (json : JsonLibrary) (method body : Bytes) : HandlerM S Http1Action :=
  tryCatch
    (do
      let request_json ← json.parseOrThrow body
      if method = bytes "POST" then
        let (backend_id, request_json) ← request_json.stringField "backend_id"
        let (host, request_json) ← request_json.stringField "host"
        let (port, request_json) ← request_json.intField "port"
        let (path_pattern, _) ← request_json.stringField "path_pattern"
        callRegistry
          (.register_backend (bytes backend_id) (bytes host) port (bytes path_pattern))
        return .send_response 200
          (bytes "\x7b\"status\":\"success\",\"message\":\"Backend registered\"\x7d")
      else
        let (backend_id, _) ← request_json.stringField "backend_id"
        callRegistry (.unregister_backend (bytes backend_id))
        return .send_response 200
          (bytes "\x7b\"status\":\"success\",\"message\":\"Backend unregistered\"\x7d"))
    fun _ => return .send_response 400 (bytes "\x7b\"error\":\"Invalid JSON\"\x7d")

/-- `Http1ProxySession::handle_request`. -/
def handle_request (json : JsonLibrary) (enumerate : Enumeration) (request : Http1Request) :
    HandlerM S Http1Action :=
  if request.target = bytes "/proxy/register" then
    if request.method_string = bytes "POST" ∨ request.method_string = bytes "DELETE" then
      handle_registration json request.method_string request.body
    -- no other method is refused here: the request falls through to forwarding
    else forward_to_backend enumerate request.target
  else forward_to_backend enumerate request.target

/-! ## Specification -/

theorem exec_forward_to_backend_of_none (enumerate : Enumeration) (path : Bytes) (w : World S)
    (h : ForwardingHandler.lookup enumerate w path = none) :
    exec (forward_to_backend enumerate path) w
      = (.ok (.send_response 404
          (bytes "\x7b\"error\":\"No backend found for this path\"\x7d")), w) := by
  rw [ForwardingHandler.lookup] at h
  simp only [forward_to_backend, exec_bind, exec_get, h, exec_pure]

theorem exec_forward_to_backend_of_some (enumerate : Enumeration) (path : Bytes) (w : World S)
    {rule : ForwardingRule} (h : ForwardingHandler.lookup enumerate w path = some rule) :
    exec (forward_to_backend enumerate path) w = (.ok (.forward rule), w) := by
  rw [ForwardingHandler.lookup] at h
  simp only [forward_to_backend, exec_bind, exec_get, h, exec_pure]

/-- The text that confirms a registration. -/
def registered (method : Bytes) : Bytes :=
  if method = bytes "POST" then
    bytes "\x7b\"status\":\"success\",\"message\":\"Backend registered\"\x7d"
  else bytes "\x7b\"status\":\"success\",\"message\":\"Backend unregistered\"\x7d"

/-- **A POST or DELETE that asks for a registration gets it**, and is told so by the text for
its method. -/
theorem exec_handle_registration_of_requested (json : JsonLibrary) {method body : Bytes}
    (w : World S) {call : RegistryCall} (h : requested json method body = some call) :
    exec (handle_registration json method body) w
      = (.ok (.send_response 200 (registered method)), w.call call) := by
  rw [requested] at h
  rw [handle_registration, exec_tryCatch, exec_bind, exec_lift, registered]
  split_ifs at h with hpost hdelete
  · obtain ⟨value, backend_id, host, port, path_pattern, hparse, hfields, rfl⟩ :=
      parsed_of_registrationOf h
    simp only [hparse, if_pos hpost, exec_registrationFields, hfields]
    simp only [exec_bind, exec_callRegistry, exec_pure]
  · obtain ⟨value, backend_id, value', hparse, hfield, rfl⟩ := parsed_of_unregistrationOf h
    simp only [hparse, if_neg hpost, exec_bind, exec_lift, hfield, exec_callRegistry, exec_pure]

/-- **A POST or DELETE that asks for none is refused**, and the table is not touched. -/
theorem exec_handle_registration_of_invalid (json : JsonLibrary) {method body : Bytes}
    (w : World S) (hmethod : method = bytes "POST" ∨ method = bytes "DELETE")
    (h : requested json method body = none) :
    exec (handle_registration json method body) w
      = (.ok (.send_response 400 (bytes "\x7b\"error\":\"Invalid JSON\"\x7d")), w) := by
  rw [requested] at h
  rw [handle_registration, exec_tryCatch, exec_bind, exec_lift]
  -- parsing, or one of the conversions, throws: the table has not been called by then
  rcases hparse : json.parseOrThrow body with e | value
  · simp only [exec_pure]
  split_ifs at h with hpost hdelete
  · rw [registrationOf_eq] at h
    rcases hfields : registrationFields value with e | ⟨backend_id, host, port, path_pattern⟩
    · simp only [if_pos hpost, exec_registrationFields, hfields, exec_pure]
    · simp [hparse, hfields] at h
  · rw [unregistrationOf_eq] at h
    rcases hfield : value.stringField "backend_id" with e | ⟨backend_id, value'⟩
    · simp only [if_neg hpost, exec_bind, exec_lift, hfield, exec_pure]
    · simp [hparse, hfield] at h
  · exact absurd hmethod (by rintro (h | h) <;> contradiction)

/-- A POST or DELETE on the registration path runs the registration branch. -/
theorem handle_request_of_registration (json : JsonLibrary) (enumerate : Enumeration)
    {method : Bytes} (body : Bytes) (hmethod : method = bytes "POST" ∨ method = bytes "DELETE") :
    handle_request (S := S) json enumerate ⟨method, bytes "/proxy/register", body⟩
      = handle_registration json method body := by
  rw [handle_request, if_pos rfl, if_pos hmethod]

/-- Everything else is forwarded, the registration path with another method
included. -/
theorem handle_request_of_forwarded (json : JsonLibrary) (enumerate : Enumeration)
    (request : Http1Request)
    (h : ¬ (request.target = bytes "/proxy/register"
      ∧ (request.method_string = bytes "POST" ∨ request.method_string = bytes "DELETE"))) :
    handle_request (S := S) json enumerate request
      = forward_to_backend enumerate request.target := by
  rw [handle_request]
  split_ifs with htarget hmethod
  · exact absurd ⟨htarget, hmethod⟩ h
  · rfl
  · rfl

/-! ## The decision in one line -/

/-- The call `handle_request` makes on the routing table, if it makes one. -/
def asked (json : JsonLibrary) (request : Http1Request) : Option RegistryCall :=
  if request.target = bytes "/proxy/register" then
    requested json request.method_string request.body
  else none

/-- What `handle_request` decides, from the table it finds. -/
def decision (json : JsonLibrary) (enumerate : Enumeration) (table : BackendRegistry)
    (request : Http1Request) : Http1Action :=
  if request.target = bytes "/proxy/register"
      ∧ (request.method_string = bytes "POST" ∨ request.method_string = bytes "DELETE") then
    if (asked json request).isSome then .send_response 200 (registered request.method_string)
    else .send_response 400 (bytes "\x7b\"error\":\"Invalid JSON\"\x7d")
  else
    match table.find_backend (enumerate table.backends_) request.target with
    | none =>
        .send_response 404 (bytes "\x7b\"error\":\"No backend found for this path\"\x7d")
    | some rule => .forward rule

/-- **`handle_request` in one line**: the decision, and the one call there may be. -/
theorem exec_handle_request_eq (json : JsonLibrary) (enumerate : Enumeration)
    (request : Http1Request) (w : World S) :
    exec (handle_request json enumerate request) w
      = (.ok (decision json enumerate w.registry request), w.perform (asked json request)) := by
  obtain ⟨method, target, body⟩ := request
  by_cases hreg : target = bytes "/proxy/register"
      ∧ (method = bytes "POST" ∨ method = bytes "DELETE")
  · obtain ⟨rfl, hmethod⟩ := hreg
    rw [handle_request_of_registration json enumerate body hmethod, decision, if_pos ⟨rfl, hmethod⟩,
      asked, if_pos rfl]
    rcases hreq : requested json method body with _ | call
    · rw [exec_handle_registration_of_invalid json w hmethod hreq]
      rfl
    · rw [exec_handle_registration_of_requested json w hreq]
      rfl
  · rw [handle_request_of_forwarded json enumerate _ hreg, decision, if_neg hreg]
    have hnone : asked json ⟨method, target, body⟩ = none := by
      rw [asked]
      split_ifs with htarget
      · have hmethod := not_or.mp fun hm => hreg ⟨htarget, hm⟩
        rw [requested, if_neg hmethod.1, if_neg hmethod.2]
      · rfl
    rw [hnone]
    rcases hlookup : ForwardingHandler.lookup enumerate w target with _ | rule
    · rw [exec_forward_to_backend_of_none enumerate target w hlookup]
      rw [ForwardingHandler.lookup] at hlookup
      simp only [hlookup]
      rfl
    · rw [exec_forward_to_backend_of_some enumerate target w hlookup]
      rw [ForwardingHandler.lookup] at hlookup
      simp only [hlookup]
      rfl

end Http1ProxySession

end Http2Server
