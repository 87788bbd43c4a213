/-
`ProxyClient` (`transport/proxy_client.{hpp,cpp}`): the library a backend registers and
unregisters itself with, through one `HttpClient`.

The JSON value a function makes, the body it prints of it and the request it sends are
three steps, and the first two are definitions of their own: what the body of a
registration is read back as is a matter of the value alone (`Registration`).

A string that is put into a JSON value is a Lean `String`, as printing throws for anything
but valid UTF-8.
-/
import Http2Server.HttpClient

set_option autoImplicit false

open ByteString

namespace Http2Server

/-- `struct RegistrationRequest`. -/
structure RegistrationRequest where
  backend_id : String
  host : String
  port : Int32
  path_pattern : String
  deriving DecidableEq, Repr

/-- The lambdas handed to the client, with what they capture: a `RegistrationCallback`, and
the id that is only logged. -/
inductive RegistrationLambda (C : Type)
  | register (callback : C)
  | unregister (callback : C) (backend_id : String)
  deriving DecidableEq, Repr

/-- `class ProxyClient`. -/
structure ProxyClient (C : Type) where
  http_client_ : HttpClient (RegistrationLambda C) := {}

namespace ProxyClient

variable {C : Type}

/-! ## Registering -/

/-- The value `register_backend` prints. -/
def register_backend.registration_data (request : RegistrationRequest) : Json :=
  .object [("backend_id", .string request.backend_id), ("host", .string request.host),
    ("port", .number_integer request.port.toInt), ("path_pattern", .string request.path_pattern)]

/-- The body it sends. -/
def register_backend.body (json : JsonLibrary) (request : RegistrationRequest) : Bytes :=
  json.dump (register_backend.registration_data request)

/-- `ProxyClient::register_backend`. -/
def register_backend (json : JsonLibrary) (verbs : List Bytes) (client : ProxyClient C)
    (proxy_host : Bytes) (proxy_port : ℤ) (request : RegistrationRequest) (callback : C) :
    Except Exn (ProxyClient C) := do
  let http_client_ ← client.http_client_.send_request verbs proxy_host proxy_port (bytes "POST")
    (bytes "/proxy/register") (register_backend.body json request) (.register callback)
  return { http_client_ }

/-! ## Unregistering -/

/-- The value `unregister_backend` prints. -/
def unregister_backend.unregistration_data (backend_id : String) : Json :=
  .object [("backend_id", .string backend_id)]

/-- The body it sends. -/
def unregister_backend.body (json : JsonLibrary) (backend_id : String) : Bytes :=
  json.dump (unregister_backend.unregistration_data backend_id)

/-- `ProxyClient::unregister_backend`. -/
def unregister_backend (json : JsonLibrary) (verbs : List Bytes) (client : ProxyClient C)
    (proxy_host : Bytes) (proxy_port : ℤ) (backend_id : String) (callback : C) :
    Except Exn (ProxyClient C) := do
  let http_client_ ← client.http_client_.send_request verbs proxy_host proxy_port
    (bytes "DELETE") (bytes "/proxy/register") (unregister_backend.body json backend_id)
    (.unregister callback backend_id)
  return { http_client_ }

/-! ## What a caller is told -/

/-- The lambda of either, for an action of a given name: the callback is told whether the
action succeeded, and what went wrong if it did not. -/
def tell (action : String) (callback : C) (response : ProxyResponse) (error : Bytes) :
    C × Bool × Bytes :=
  if error ≠ [] then (callback, false, error)
  else if response.status_code = 200 then (callback, true, bytes (action ++ " successful"))
  else (callback, false, bytes (action ++ " failed: ") ++ response.body)

/-- The callback invocation a lambda makes. -/
def invoke : RegistrationLambda C → ProxyResponse → Bytes → C × Bool × Bytes
  | .register callback => tell "Registration" callback
  | .unregister callback _ => tell "Unregistration" callback

/-- The caller whose callback a lambda invokes. -/
def caller : RegistrationLambda C → C
  | .register callback => callback
  | .unregister callback _ => callback

/-- **A caller is told of success** exactly when its request was answered 200. -/
theorem invoke_success_iff (lambda : RegistrationLambda C) (response : ProxyResponse)
    (error : Bytes) :
    (invoke lambda response error).1 = caller lambda
      ∧ ((invoke lambda response error).2.1 = true ↔ error = [] ∧ response.status_code = 200) := by
  cases lambda with
  | register callback =>
      simp only [invoke, caller, tell]
      split_ifs with herror hstatus <;> simp_all
  | unregister callback backend_id =>
      simp only [invoke, caller, tell]
      split_ifs with herror hstatus <;> simp_all

/-! ## What is sent -/

section Sent

variable (json : JsonLibrary) (verbs : List Bytes) (client : ProxyClient C) (proxy_host : Bytes)
  (proxy_port : ℤ) (callback : C)

/-- A registration is a POST on the registration path; it is not sent where POST is no verb. -/
theorem register_backend_eq (request : RegistrationRequest) :
    register_backend json verbs client proxy_host proxy_port request callback
      = if bytes "POST" ∈ verbs then
          .ok ⟨client.http_client_.started proxy_host proxy_port (bytes "POST")
            (bytes "/proxy/register") (register_backend.body json request) (.register callback)⟩
        else .error .invalid_argument := by
  rw [register_backend, HttpClient.send_request_eq _ _ (by decide)]
  split_ifs <;> rfl

/-- An unregistration is a DELETE on the same path; it is not sent where DELETE is no verb. -/
theorem unregister_backend_eq (backend_id : String) :
    unregister_backend json verbs client proxy_host proxy_port backend_id callback
      = if bytes "DELETE" ∈ verbs then
          .ok ⟨client.http_client_.started proxy_host proxy_port (bytes "DELETE")
            (bytes "/proxy/register") (unregister_backend.body json backend_id)
            (.unregister callback backend_id)⟩
        else .error .invalid_argument := by
  rw [unregister_backend, HttpClient.send_request_eq _ _ (by decide)]
  split_ifs <;> rfl

end Sent

end ProxyClient

end Http2Server
