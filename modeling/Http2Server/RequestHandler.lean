/-
`RequestHandler` (`transport/request_handler.{h,cpp}`): the HTTP/2 route table.

Routes are keyed by two `std::string`s built from the `data()` of string views,
so a key holds the memory behind a view up to the first NUL (`routeKey`) and not
the view. The table is generic in what it stores; the server stores request
callbacks.
-/
import Http2Server.World

set_option autoImplicit false

open ByteString

namespace Http2Server

/-- `RouteKey`: method and path. -/
abbrev RouteKey := Bytes × Bytes

/-- `RequestCB`: method, path, body, stream and sender. -/
abbrev RequestCB (S : Type) :=
  StringView → StringView → StringView → StreamId → S → HandlerM S Unit

/-- `class RequestHandler`. -/
structure RequestHandler (H : Type) where
  route_handlers_ : Finmap fun _ : RouteKey => H

namespace RequestHandler

/-- `RouteKey key = {p_method.data(), p_path.data()};` -/
def routeKey (p_method p_path : StringView) : RouteKey := (cStr p_method.data, cStr p_path.data)

def empty {H : Type} : RequestHandler H := ⟨∅⟩

def register_route {H : Type} (handler : RequestHandler H) (p_method p_path : StringView)
    (p_callback : H) : RequestHandler H :=
  ⟨handler.route_handlers_.insert (routeKey p_method p_path) p_callback⟩

/-- The route a request finds, `none` for `end()`. -/
def find_route {H : Type} (handler : RequestHandler H) (p_method p_path : StringView) :
    Option H :=
  handler.route_handlers_.lookup (routeKey p_method p_path)

def create_error_response (code : ℤ) (message : String) : Json :=
  .object [("error", .boolean true), ("code", .number_integer code), ("message", .string message)]

open HandlerM

variable {S : Type}

def handle_default_routes (json : JsonLibrary) (p_method p_path : StringView)
    (stream_id : StreamId) (sender : S) : HandlerM S Unit :=
  if p_method.chars = bytes "GET" ∧ p_path.chars = bytes "/health" then
    send sender stream_id
      { status_code := 200, body := json.dump (.object [("status", .string "ok")]) }
  else
    send sender stream_id
      { status_code := 404, body := json.dump (create_error_response 404 "Route not found") }

/-- `RequestHandler::handle_request`: whatever a route throws becomes a 500. -/
def handle_request (handler : RequestHandler (RequestCB S)) (json : JsonLibrary)
    (p_method p_path p_body : StringView) (p_stream_id : StreamId) (p_sender : S) :
    HandlerM S Unit :=
  tryCatch
    -- the route is found by the memory behind the views, and called with the views
    (match handler.find_route p_method p_path with
      | some callback => callback p_method p_path p_body p_stream_id p_sender
      | none => handle_default_routes json p_method p_path p_stream_id p_sender)
    fun _ =>
      send p_sender p_stream_id
        { status_code := 500
          body := json.dump (create_error_response 500 "Internal server error") }

/-- The default handler answers once. -/
theorem exec_handle_default_routes (json : JsonLibrary) (p_method p_path : StringView)
    (stream_id : StreamId) (sender : S) (w : World S) :
    ∃ response, exec (handle_default_routes json p_method p_path stream_id sender) w
      = (.ok (), w.reply sender stream_id response) := by
  rw [handle_default_routes]
  split_ifs <;> exact ⟨_, rfl⟩

/-- A route that does not throw is what the table does. -/
theorem exec_handle_request_of_route (handler : RequestHandler (RequestCB S)) (json : JsonLibrary)
    (p_method p_path p_body : StringView) (p_stream_id : StreamId) (p_sender : S)
    (w w' : World S) {callback : RequestCB S}
    (hroute : handler.find_route p_method p_path = some callback)
    (hcallback : exec (callback p_method p_path p_body p_stream_id p_sender) w = (.ok (), w')) :
    exec (handler.handle_request json p_method p_path p_body p_stream_id p_sender) w
      = (.ok (), w') := by
  rw [handle_request, exec_tryCatch, hroute]
  simp only [hcallback]

/-- Without a route, the default handler answers once. -/
theorem exec_handle_request_of_no_route (handler : RequestHandler (RequestCB S))
    (json : JsonLibrary) (p_method p_path p_body : StringView) (p_stream_id : StreamId)
    (p_sender : S) (w : World S) (hroute : handler.find_route p_method p_path = none) :
    ∃ response, exec (handler.handle_request json p_method p_path p_body p_stream_id p_sender) w
      = (.ok (), w.reply p_sender p_stream_id response) := by
  obtain ⟨response, hdefault⟩ :=
    exec_handle_default_routes json p_method p_path p_stream_id p_sender w
  refine ⟨response, ?_⟩
  rw [handle_request, exec_tryCatch, hroute]
  simp only [hdefault]

end RequestHandler

end Http2Server
