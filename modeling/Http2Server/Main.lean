/-
The request handler `main` installs on the HTTP/2 server (`main.cpp`).

Two paths go to the route table, everything else to the proxy handler. The route
table catches what its routes throw; the proxy handler does not, and building the
request to a backend throws for a method Beast has no verb for. `answered_iff`
says for which requests that matters: a request is answered -- its sender invoked
once, or one backend operation started that will invoke it -- exactly when it
does not reach a backend with a method Beast refuses.
-/
import Http2Server.ProxyHandler
import Http2Server.RequestHandler

set_option autoImplicit false

open ByteString UnorderedMap

namespace Http2Server

namespace Main

open HandlerM ProxyRequestHandler

variable {S : Type}

/-- The `GET /test` route. -/
def test_service : RequestCB S := fun _ _ _ p_stream_id p_sender =>
  send p_sender p_stream_id { status_code := 204, body := [] }

/-- The two `/proxy/register` routes. -/
def registration_service (json : JsonLibrary) : RequestCB S :=
  fun p_method _ p_body p_stream_id p_sender =>
    handle_registration_request json p_method p_body p_stream_id p_sender

/-- The route table after the three `register_route` calls of `main`. -/
def routes (json : JsonLibrary) : RequestHandler (RequestCB S) :=
  ((RequestHandler.empty.register_route (.of (bytes "GET")) (.of (bytes "/test")) test_service
    ).register_route (.of (bytes "POST")) (.of (bytes "/proxy/register"))
      (registration_service json)
    ).register_route (.of (bytes "DELETE")) (.of (bytes "/proxy/register"))
      (registration_service json)

/-- The handler `main` installs. -/
def request_handler (json : JsonLibrary) (verbs : List Bytes) (enumerate : Enumeration)
    (method path body : StringView) (stream_id : StreamId) (sender : S) : HandlerM S Unit :=
  if path.chars = bytes "/test" ∨ path.chars = bytes "/proxy/register" then
    (routes json).handle_request json method path body stream_id sender
  else
    handle_proxy_request json verbs enumerate method path body stream_id sender

/-! ## The route table -/

/-- Whatever the table holds for a request is the test service or the
registration service. -/
theorem find_route_cases (json : JsonLibrary) (method path : StringView) {callback : RequestCB S}
    (h : (routes json).find_route method path = some callback) :
    callback = test_service ∨ callback = registration_service json := by
  rw [RequestHandler.find_route, routes, RequestHandler.register_route,
    RequestHandler.register_route, RequestHandler.register_route, RequestHandler.empty] at h
  dsimp only at h
  by_cases hdelete : RequestHandler.routeKey method path
      = RequestHandler.routeKey (.of (bytes "DELETE")) (.of (bytes "/proxy/register"))
  · rw [hdelete, Finmap.lookup_insert] at h
    exact Or.inr (Option.some.inj h).symm
  rw [Finmap.lookup_insert_of_ne _ hdelete] at h
  by_cases hpost : RequestHandler.routeKey method path
      = RequestHandler.routeKey (.of (bytes "POST")) (.of (bytes "/proxy/register"))
  · rw [hpost, Finmap.lookup_insert] at h
    exact Or.inr (Option.some.inj h).symm
  rw [Finmap.lookup_insert_of_ne _ hpost] at h
  by_cases htest : RequestHandler.routeKey method path
      = RequestHandler.routeKey (.of (bytes "GET")) (.of (bytes "/test"))
  · rw [htest, Finmap.lookup_insert] at h
    exact Or.inl (Option.some.inj h).symm
  rw [Finmap.lookup_insert_of_ne _ htest, Finmap.lookup_empty] at h
  exact absurd h (by simp)

/-- A POST or DELETE on the registration path finds the registration service. -/
theorem find_route_registration (json : JsonLibrary) {method : Bytes}
    (hmethod : method = bytes "POST" ∨ method = bytes "DELETE") :
    (routes json).find_route (.of method) (.of (bytes "/proxy/register"))
      = some (registration_service (S := S) json) := by
  rw [RequestHandler.find_route, routes, RequestHandler.register_route,
    RequestHandler.register_route]
  rcases hmethod with rfl | rfl
  · rw [Finmap.lookup_insert_of_ne _ (by decide), Finmap.lookup_insert]
  · rw [Finmap.lookup_insert]

/-! ## What the handler does -/

/-- On the two paths of the route table the sender is invoked once and nothing
escapes. -/
theorem exec_request_handler_of_routed (json : JsonLibrary) (verbs : List Bytes)
    (enumerate : Enumeration) (method path body : StringView) (stream_id : StreamId) (sender : S)
    (w : World S) (hpath : path.chars = bytes "/test" ∨ path.chars = bytes "/proxy/register") :
    ∃ w' response, exec (request_handler json verbs enumerate method path body stream_id sender) w
        = (.ok (), World.reply w' sender stream_id response)
      ∧ w'.replies = w.replies ∧ w'.http_client_ = w.http_client_ := by
  rw [request_handler, if_pos hpath]
  rcases hroute : (routes (S := S) json).find_route method path with _ | callback
  · obtain ⟨response, hexec⟩ := RequestHandler.exec_handle_request_of_no_route (routes json) json
      method path body stream_id sender w hroute
    exact ⟨w, response, hexec, rfl, rfl⟩
  · -- neither service throws, so nothing reaches the table's `catch`
    rcases find_route_cases json method path hroute with rfl | rfl
    · exact ⟨w, _, RequestHandler.exec_handle_request_of_route (routes json) json method path body
        stream_id sender w _ hroute rfl, rfl, rfl⟩
    · obtain ⟨w', response, hexec, hreplies, hclient⟩ :=
        exec_handle_registration_request json method body stream_id sender w
      exact ⟨w', response, RequestHandler.exec_handle_request_of_route (routes json) json method
        path body stream_id sender w _ hroute hexec, hreplies, hclient⟩

/-- On the registration path a POST or DELETE runs the registration handler. -/
theorem exec_request_handler_of_registration (json : JsonLibrary) (verbs : List Bytes)
    (enumerate : Enumeration) {method : Bytes} (body : StringView) (stream_id : StreamId)
    (sender : S) (w : World S) (hmethod : method = bytes "POST" ∨ method = bytes "DELETE") :
    exec (request_handler json verbs enumerate (.of method) (.of (bytes "/proxy/register")) body
        stream_id sender) w
      = exec (handle_registration_request json (.of method) body stream_id sender) w := by
  obtain ⟨w', response, hexec, -, -⟩ :=
    exec_handle_registration_request json (.of method) body stream_id sender w
  rw [request_handler, if_pos (Or.inr (StringView.chars_of _)), hexec]
  exact RequestHandler.exec_handle_request_of_route (routes json) json _ _ _ _ _ _ _
    (find_route_registration json hmethod) hexec

/-- The test the proxy handler makes on a path. -/
theorem take_eq_iff (path : Bytes) :
    path.take 15 = bytes "/proxy/register" ↔ bytes "/proxy/register" <+: path := by
  have hlen : (bytes "/proxy/register").length = 15 := by decide
  rw [List.prefix_iff_eq_take, hlen, eq_comm]

/-- On every other path that starts like the registration path the registration
handler runs. -/
theorem exec_request_handler_of_extension (json : JsonLibrary) (verbs : List Bytes)
    (enumerate : Enumeration) (method path body : StringView) (stream_id : StreamId) (sender : S)
    (w : World S) (hinit : w.forwarding_handler_ = true)
    (hpath : path.chars ≠ bytes "/proxy/register")
    (hstarts : bytes "/proxy/register" <+: path.chars) :
    exec (request_handler json verbs enumerate method path body stream_id sender) w
      = exec (handle_registration_request json method body stream_id sender) w := by
  have htest : path.chars ≠ bytes "/test" := by
    intro heq
    rw [heq] at hstarts
    exact absurd hstarts (by decide)
  rw [request_handler, if_neg (by simp only [htest, hpath, or_self, not_false_eq_true]),
    handle_proxy_request, exec_bind, exec_get]
  simp only [hinit, not_true_eq_false, if_false, (take_eq_iff _).mpr hstarts, if_true]

/-- On the remaining paths the request is forwarded. -/
theorem exec_request_handler_of_forwarded (json : JsonLibrary) (verbs : List Bytes)
    (enumerate : Enumeration) (method path body : StringView) (stream_id : StreamId) (sender : S)
    (w : World S) (hinit : w.forwarding_handler_ = true) (htest : path.chars ≠ bytes "/test")
    (hstarts : ¬ bytes "/proxy/register" <+: path.chars) :
    exec (request_handler json verbs enumerate method path body stream_id sender) w
      = exec (ForwardingHandler.forward_request verbs enumerate method path body stream_id sender)
          w := by
  have hpath : path.chars ≠ bytes "/proxy/register" := by
    intro heq
    exact hstarts (heq ▸ List.prefix_refl _)
  rw [request_handler, if_neg (by simp only [htest, hpath, or_self, not_false_eq_true]),
    handle_proxy_request, exec_bind, exec_get]
  simp only [hinit, not_true_eq_false, if_false, (take_eq_iff _).not.mpr hstarts]

/-- One request's share of a world: operations and replies that carry its own sender
and stream, added to what was there. -/
def Adds (sender : S) (stream_id : StreamId) (w w' : World S) : Prop :=
  ∃ operations replies,
    w'.http_client_.pending = w.http_client_.pending ++ operations
      ∧ w'.replies = w.replies ++ replies
      ∧ (∀ op ∈ operations, op.callback = ⟨sender, stream_id⟩)
      ∧ ∀ reply ∈ replies, reply.sender = sender ∧ reply.stream_id = stream_id

/-- A handler that ends in one reply adds one reply. -/
theorem adds_of_reply {sender : S} {stream_id : StreamId} {w w₁ w' : World S}
    {response : HttpResponse} (h : w' = World.reply w₁ sender stream_id response)
    (hreplies : w₁.replies = w.replies) (hclient : w₁.http_client_ = w.http_client_) :
    Adds sender stream_id w w' := by
  refine ⟨[], [⟨sender, stream_id, response⟩], ?_, ?_, by simp, by simp⟩
  · rw [h, World.reply_http_client, hclient, List.append_nil]
  · rw [h, World.reply_replies, hreplies]

/-- **What the handler leaves behind.** If nothing escapes it, it has invoked at most
its own sender, on its own stream, and started operations for that sender alone. -/
theorem request_handler_adds {json : JsonLibrary} {verbs : List Bytes} {enumerate : Enumeration}
    {method path body : StringView} {stream_id : StreamId} {sender : S} {w w' : World S}
    (h : exec (request_handler json verbs enumerate method path body stream_id sender) w
      = (.ok (), w')) : Adds sender stream_id w w' := by
  by_cases hrouted : path.chars = bytes "/test" ∨ path.chars = bytes "/proxy/register"
  · obtain ⟨w₁, response, hexec, hreplies, hclient⟩ := exec_request_handler_of_routed json verbs
      enumerate method path body stream_id sender w hrouted
    rw [hexec] at h
    exact adds_of_reply (Prod.mk.inj h).2.symm hreplies hclient
  obtain ⟨htest, hpath⟩ := not_or.mp hrouted
  rcases hinit : w.forwarding_handler_ with _ | _
  · -- a proxy that is not initialised answers 500
    rw [request_handler, if_neg hrouted, handle_proxy_request, exec_bind, exec_get] at h
    simp only [hinit, Bool.false_eq_true, not_false_eq_true, if_true, exec_send] at h
    exact adds_of_reply (Prod.mk.inj h).2.symm rfl rfl
  by_cases hstarts : bytes "/proxy/register" <+: path.chars
  · rw [exec_request_handler_of_extension json verbs enumerate method path body stream_id sender w
      hinit hpath hstarts] at h
    obtain ⟨w₁, response, hexec, hreplies, hclient⟩ :=
      exec_handle_registration_request json method body stream_id sender w
    rw [hexec] at h
    exact adds_of_reply (Prod.mk.inj h).2.symm hreplies hclient
  rw [exec_request_handler_of_forwarded json verbs enumerate method path body stream_id sender w
    hinit htest hstarts] at h
  rcases hlookup : ForwardingHandler.lookup enumerate w path.chars with _ | rule
  · rw [ForwardingHandler.exec_forward_request_of_none _ _ _ _ _ _ _ _ hlookup] at h
    exact adds_of_reply (Prod.mk.inj h).2.symm rfl rfl
  · by_cases haccepts : HttpClient.Accepts verbs method.chars body.chars
    · rw [ForwardingHandler.exec_forward_request_of_accepts _ _ _ _ _ _ _ _ hlookup haccepts] at h
      obtain rfl := (Prod.mk.inj h).2
      exact ⟨_, [], rfl, (List.append_nil _).symm, by simp, by simp⟩
    · -- this is the exception that escapes
      rw [ForwardingHandler.exec_forward_request_of_not_accepts _ _ _ _ _ _ _ _ hlookup haccepts]
        at h
      exact absurd (Prod.mk.inj h).1 (by simp)

/-! ## Every request is answered, unless Beast refuses its method -/

/-- The operation will invoke the sender, once: however its chain completes, it
is still under way after fewer than four completions, or has ended by invoking
the callback that answers this sender on this stream. -/
def WillReply (op : Op (ForwardCallback S)) (sender : S) (stream_id : StreamId) : Prop :=
  ∀ completions next, HttpClient.follow op completions = some next →
    (∃ op', next = .start op' ∧ completions.length < 4)
      ∨ ∃ response error, next = .callback ⟨sender, stream_id⟩ response error

/-- **The request is answered**: nothing escapes the handler, and either the
sender has been invoked once and no operation started, or it has not been invoked
and one operation is under way that will. -/
def Answered (json : JsonLibrary) (verbs : List Bytes) (enumerate : Enumeration)
    (registry : BackendRegistry) (method path body : Bytes) (stream_id : StreamId) (sender : S) :
    Prop :=
  ∃ w', exec (request_handler json verbs enumerate (.of method) (.of path) (.of body) stream_id
      sender) (World.serving registry) = (.ok (), w')
    ∧ ((∃ response, w'.replies = [⟨sender, stream_id, response⟩] ∧ w'.http_client_.pending = [])
      ∨ (w'.replies = [] ∧ ∃ op, w'.http_client_.pending = [op]
          ∧ WillReply op sender stream_id))

/-- A request that gets as far as a backend, with a method or a body Beast will
not build a request for. -/
def Refused (verbs : List Bytes) (registry : BackendRegistry) (method path body : Bytes) : Prop :=
  path ≠ bytes "/test" ∧ ¬ bytes "/proxy/register" <+: path
    ∧ (∃ id rule, registry.backends_.lookup id = some rule ∧ BackendRegistry.Matches rule path)
    ∧ ¬ HttpClient.Accepts verbs method body

theorem willReply_resolve (host service : Bytes) (req : HttpRequest) (socket : SocketPtr)
    (sender : S) (stream_id : StreamId) :
    WillReply ⟨.resolve host service req, socket, ⟨sender, stream_id⟩⟩ sender stream_id := by
  intro completions next h
  rcases HttpClient.follow_spec _ completions next h with ⟨op', rfl, -, hlen⟩ | hdone
  · exact Or.inl ⟨op', rfl, hlen⟩
  · exact Or.inr hdone

/-- A handler that ends in a reply, with nothing started, answers. -/
theorem answered_of_reply {json : JsonLibrary} {verbs : List Bytes} {enumerate : Enumeration}
    {registry : BackendRegistry} {method path body : Bytes} {stream_id : StreamId} {sender : S}
    (h : ∃ w' response, exec (request_handler json verbs enumerate (.of method) (.of path)
          (.of body) stream_id sender) (World.serving registry)
        = (.ok (), World.reply w' sender stream_id response)
      ∧ w'.replies = [] ∧ w'.http_client_ = {}) :
    Answered json verbs enumerate registry method path body stream_id sender := by
  obtain ⟨w', response, hexec, hreplies, hclient⟩ := h
  refine ⟨_, hexec, Or.inl ⟨response, ?_, ?_⟩⟩
  · rw [World.reply_replies, hreplies, List.nil_append]
  · rw [World.reply_http_client, hclient]

/-- The paths of the route table are answered. -/
theorem answered_of_routed (json : JsonLibrary) (verbs : List Bytes) (enumerate : Enumeration)
    (registry : BackendRegistry) (method : Bytes) {path : Bytes} (body : Bytes)
    (stream_id : StreamId) (sender : S)
    (hpath : path = bytes "/test" ∨ path = bytes "/proxy/register") :
    Answered json verbs enumerate registry method path body stream_id sender :=
  answered_of_reply (exec_request_handler_of_routed json verbs enumerate _ _ _ stream_id sender _
    (by rwa [StringView.chars_of]))

/-- The longer paths that the registration handler takes are answered. -/
theorem answered_of_extension (json : JsonLibrary) (verbs : List Bytes) (enumerate : Enumeration)
    (registry : BackendRegistry) (method : Bytes) {path : Bytes} (body : Bytes)
    (stream_id : StreamId) (sender : S) (hpath : path ≠ bytes "/proxy/register")
    (hstarts : bytes "/proxy/register" <+: path) :
    Answered json verbs enumerate registry method path body stream_id sender := by
  apply answered_of_reply
  rw [exec_request_handler_of_extension json verbs enumerate _ _ _ stream_id sender _ rfl
    (by rwa [StringView.chars_of]) (by rwa [StringView.chars_of])]
  exact exec_handle_registration_request json _ _ stream_id sender _

/-- A path without a backend is answered on the spot. -/
theorem answered_of_no_backend (json : JsonLibrary) (verbs : List Bytes)
    (enumerate : Enumeration) (registry : BackendRegistry) (method : Bytes) {path : Bytes}
    (body : Bytes) (stream_id : StreamId) (sender : S) (htest : path ≠ bytes "/test")
    (hstarts : ¬ bytes "/proxy/register" <+: path)
    (hnone : ForwardingHandler.lookup enumerate (World.serving (S := S) registry) path = none) :
    Answered json verbs enumerate registry method path body stream_id sender := by
  apply answered_of_reply
  rw [exec_request_handler_of_forwarded json verbs enumerate _ _ _ stream_id sender _ rfl
    (by rwa [StringView.chars_of]) (by rwa [StringView.chars_of]),
    ForwardingHandler.exec_forward_request_of_none verbs enumerate _ _ _ stream_id sender _
      (by rwa [StringView.chars_of])]
  exact ⟨World.serving registry, _, rfl, rfl, rfl⟩

/-- A request Beast accepts starts one operation. -/
theorem answered_of_accepts (json : JsonLibrary) (verbs : List Bytes) (enumerate : Enumeration)
    (registry : BackendRegistry) {method path body : Bytes} (stream_id : StreamId) (sender : S)
    (htest : path ≠ bytes "/test") (hstarts : ¬ bytes "/proxy/register" <+: path)
    {rule : ForwardingRule}
    (hrule : ForwardingHandler.lookup enumerate (World.serving (S := S) registry) path = some rule)
    (haccepts : HttpClient.Accepts verbs method body) :
    Answered json verbs enumerate registry method path body stream_id sender := by
  refine ⟨_, (exec_request_handler_of_forwarded json verbs enumerate _ _ _ stream_id sender _ rfl
      (by rwa [StringView.chars_of]) (by rwa [StringView.chars_of])).trans
    (ForwardingHandler.exec_forward_request_of_accepts verbs enumerate _ _ _ stream_id sender _
      (by rwa [StringView.chars_of]) (by rwa [StringView.chars_of, StringView.chars_of])),
    Or.inr ⟨rfl, _, rfl, willReply_resolve _ _ _ _ _ _⟩⟩

/-- A request Beast refuses is not answered: the exception leaves the handler. -/
theorem not_answered_of_refused (json : JsonLibrary) (verbs : List Bytes)
    (enumerate : Enumeration) {registry : BackendRegistry} {method path body : Bytes}
    (stream_id : StreamId) (sender : S) (h : Refused verbs registry method path body) :
    ¬ Answered json verbs enumerate registry method path body stream_id sender := by
  obtain ⟨htest, hstarts, ⟨id, rule, hfound, hmatch⟩, haccepts⟩ := h
  rintro ⟨w', hexec, -⟩
  rw [exec_request_handler_of_forwarded json verbs enumerate _ _ _ stream_id sender _ rfl
    (by rwa [StringView.chars_of]) (by rwa [StringView.chars_of])] at hexec
  rcases hlookup : ForwardingHandler.lookup enumerate (World.serving (S := S) registry) path
    with _ | rule'
  · exact (BackendRegistry.find_backend_eq_none_iff _ _ _).mp hlookup id rule hfound hmatch
  · rw [ForwardingHandler.exec_forward_request_of_not_accepts verbs enumerate _ _ _ stream_id
      sender _ (by rwa [StringView.chars_of])
      (by rwa [StringView.chars_of, StringView.chars_of])] at hexec
    exact absurd (Prod.mk.inj hexec).1 (by simp)

/-- **Which requests are answered**: all but those that reach a backend with a
method or a body Beast refuses. -/
theorem answered_iff (json : JsonLibrary) (verbs : List Bytes) (enumerate : Enumeration)
    (registry : BackendRegistry) (method path body : Bytes) (stream_id : StreamId) (sender : S) :
    Answered json verbs enumerate registry method path body stream_id sender
      ↔ ¬ Refused verbs registry method path body := by
  refine ⟨fun h hrefused =>
    not_answered_of_refused json verbs enumerate stream_id sender hrefused h, fun h => ?_⟩
  by_cases hrouted : path = bytes "/test" ∨ path = bytes "/proxy/register"
  · exact answered_of_routed json verbs enumerate registry method body stream_id sender hrouted
  obtain ⟨htest, hpath⟩ := not_or.mp hrouted
  by_cases hstarts : bytes "/proxy/register" <+: path
  · exact answered_of_extension json verbs enumerate registry method body stream_id sender hpath
      hstarts
  rcases hlookup : ForwardingHandler.lookup enumerate (World.serving (S := S) registry) path
    with _ | rule
  · exact answered_of_no_backend json verbs enumerate registry method body stream_id sender htest
      hstarts hlookup
  obtain ⟨id, hfound, hmatch⟩ := BackendRegistry.find_backend_eq_some _ _ hlookup
  by_cases haccepts : HttpClient.Accepts verbs method body
  · exact answered_of_accepts json verbs enumerate registry stream_id sender htest hstarts hlookup
      haccepts
  · exact absurd ⟨htest, hstarts, ⟨id, rule, hfound, hmatch⟩, haccepts⟩ h

/-- A client that sends `FOO /index` to a server with a catch-all backend is not
answered: the exception reaches the nghttp2 callback. -/
theorem unknown_method_not_answered :
    ∃ (json : JsonLibrary) (enumerate : Enumeration),
      ¬ Answered json documentedVerbs enumerate BackendRegistry.catchAll (bytes "FOO")
        (bytes "/index") [] 1 () := by
  refine ⟨⟨fun _ => none, fun _ => []⟩, anyOrder,
    not_answered_of_refused _ _ _ _ _ ⟨by decide, by decide, ?_, by decide⟩⟩
  exact ⟨bytes "root", BackendRegistry.catchAllRule,
    BackendRegistry.lookup_register_backend_self _ _ _ _ _, ⟨bytes "index", by decide⟩⟩

end Main

end Http2Server
