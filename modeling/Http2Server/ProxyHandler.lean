/-
`ForwardingHandler` and `ProxyRequestHandler` (`transport/proxy_handler.{hpp,cpp}`),
with the specification lemma of each function.

What a registration body *asks for* is stated once, on the parsed value and
without exceptions (`registrationOf`, `unregistrationOf`); the handler pulls the
fields one by one through conversions that throw, and
`exec_handle_registration_request` says the two agree. Every later result cites
these lemmas and none unfolds a handler again.
-/
import Http2Server.World

set_option autoImplicit false

open ByteString UnorderedMap

namespace Http2Server

/-! ## What a registration body asks for -/

/-- The registration a POST body describes: an object whose `backend_id`, `host`
and `path_pattern` are strings and whose `port` converts to an integer. -/
def registrationOf (json : JsonLibrary) (body : Bytes) : Option RegistryCall := do
  let value ← json.parse body
  match value.member "backend_id", value.member "host", value.member "port",
      value.member "path_pattern" with
  | some (.string backend_id), some (.string host), some port, some (.string path_pattern) =>
      match port.toInt with
      | .ok port =>
          some (.register_backend (bytes backend_id) (bytes host) port (bytes path_pattern))
      | .error _ => none
  | _, _, _, _ => none

/-- The unregistration a DELETE body describes. -/
def unregistrationOf (json : JsonLibrary) (body : Bytes) : Option RegistryCall := do
  let value ← json.parse body
  match value.member "backend_id" with
  | some (.string backend_id) => some (.unregister_backend (bytes backend_id))
  | _ => none

/-- The four conversions of a POST, in the order both handlers make them. -/
def registrationFields (value : Json) : Except Exn (String × String × ℤ × String) := do
  let (backend_id, value) ← value.stringField "backend_id"
  let (host, value) ← value.stringField "host"
  let (port, value) ← value.intField "port"
  let (path_pattern, _) ← value.stringField "path_pattern"
  return (backend_id, host, port, path_pattern)

/-- **The conversions succeed exactly on a well-typed body**, and then read its
own four fields: indexing a value never changes what the next line reads. -/
theorem registrationFields_eq_ok_iff (value : Json) (backend_id host : String) (port : ℤ)
    (path_pattern : String) :
    registrationFields value = .ok (backend_id, host, port, path_pattern)
      ↔ value.member "backend_id" = some (.string backend_id)
        ∧ value.member "host" = some (.string host)
        ∧ (∃ m, value.member "port" = some m ∧ m.toInt = .ok port)
        ∧ value.member "path_pattern" = some (.string path_pattern) := by
  constructor
  · intro h
    simp only [registrationFields, bind, Except.bind] at h
    -- one conversion after the other: each reads from the value the last one left, which is
    -- still the value they started from
    rcases hid : value.stringField "backend_id" with e | ⟨id, value₁⟩
    · simp [hid] at h
    obtain ⟨rfl, hid'⟩ := (Json.stringField_eq_ok_iff _ _ _ _).mp hid
    rcases hhost : value₁.stringField "host" with e | ⟨ho, value₂⟩
    · simp [hid, hhost] at h
    obtain ⟨rfl, hhost'⟩ := (Json.stringField_eq_ok_iff _ _ _ _).mp hhost
    rcases hport : value₂.intField "port" with e | ⟨p, value₃⟩
    · simp [hid, hhost, hport] at h
    obtain ⟨rfl, hport'⟩ := (Json.intField_eq_ok_iff _ _ _ _).mp hport
    rcases hpattern : value₃.stringField "path_pattern" with e | ⟨pat, value₄⟩
    · simp [hid, hhost, hport, hpattern] at h
    obtain ⟨rfl, hpattern'⟩ := (Json.stringField_eq_ok_iff _ _ _ _).mp hpattern
    simp only [hid, hhost, hport, hpattern, pure, Except.pure, Except.ok.injEq,
      Prod.mk.injEq] at h
    obtain ⟨rfl, rfl, rfl, rfl⟩ := h
    exact ⟨hid', hhost', hport', hpattern'⟩
  · rintro ⟨hid, hhost, hport, hpattern⟩
    simp only [registrationFields, (Json.stringField_eq_ok_iff _ _ _ _).mpr ⟨rfl, hid⟩,
      (Json.stringField_eq_ok_iff _ _ _ _).mpr ⟨rfl, hhost⟩,
      (Json.intField_eq_ok_iff _ _ _ _).mpr ⟨rfl, hport⟩,
      (Json.stringField_eq_ok_iff _ _ _ _).mpr ⟨rfl, hpattern⟩, bind, Except.bind, pure,
      Except.pure]

/-- A POST body, parsed and converted, is what `registrationOf` says it is. -/
theorem registrationOf_eq (json : JsonLibrary) (body : Bytes) :
    registrationOf json body
      = match json.parseOrThrow body with
        | .error _ => none
        | .ok value =>
            match registrationFields value with
            | .error _ => none
            | .ok (backend_id, host, port, path_pattern) =>
                some (.register_backend (bytes backend_id) (bytes host) port
                  (bytes path_pattern)) := by
  rw [registrationOf, JsonLibrary.parseOrThrow]
  rcases json.parse body with _ | value
  · rfl
  simp only [bind, Option.bind]
  rcases hfields : registrationFields value with e | ⟨backend_id, host, port, path_pattern⟩
  · -- a conversion throws, so the body is not one with four well-typed fields
    split
    · rename_i backend_id host port path_pattern hid hhost hport hpattern
      split
      · rename_i p hp
        have hok := (registrationFields_eq_ok_iff value backend_id host p path_pattern).mpr
          ⟨hid, hhost, ⟨port, hport, hp⟩, hpattern⟩
        rw [hfields] at hok
        exact absurd hok (by simp)
      · rfl
    · rfl
  · obtain ⟨hid, hhost, ⟨m, hport, hm⟩, hpattern⟩ :=
      (registrationFields_eq_ok_iff _ _ _ _ _).mp hfields
    simp only [hid, hhost, hport, hpattern, hm]

/-- A DELETE body, parsed and converted, is what `unregistrationOf` says it is. -/
theorem unregistrationOf_eq (json : JsonLibrary) (body : Bytes) :
    unregistrationOf json body
      = match json.parseOrThrow body with
        | .error _ => none
        | .ok value =>
            match value.stringField "backend_id" with
            | .error _ => none
            | .ok (backend_id, _) => some (.unregister_backend (bytes backend_id)) := by
  rw [unregistrationOf, JsonLibrary.parseOrThrow]
  rcases json.parse body with _ | value
  · rfl
  simp only [bind, Option.bind]
  rcases hfield : value.stringField "backend_id" with e | ⟨backend_id, value'⟩
  · split
    · rename_i backend_id hid
      rw [(Json.stringField_eq_ok_iff _ _ _ value).mpr ⟨rfl, hid⟩] at hfield
      exact absurd hfield (by simp)
    · rfl
  · rw [((Json.stringField_eq_ok_iff _ _ _ _).mp hfield).2]

/-- A body that describes a registration parses, and its four fields convert. -/
theorem parsed_of_registrationOf {json : JsonLibrary} {body : Bytes} {call : RegistryCall}
    (h : registrationOf json body = some call) :
    ∃ value backend_id host port path_pattern, json.parseOrThrow body = .ok value
      ∧ registrationFields value = .ok (backend_id, host, port, path_pattern)
      ∧ call = .register_backend (bytes backend_id) (bytes host) port (bytes path_pattern) := by
  rw [registrationOf_eq] at h
  rcases hparse : json.parseOrThrow body with e | value
  · simp [hparse] at h
  rcases hfields : registrationFields value with e | ⟨backend_id, host, port, path_pattern⟩
  · simp [hparse, hfields] at h
  simp only [hparse, hfields, Option.some.injEq] at h
  exact ⟨value, backend_id, host, port, path_pattern, rfl, hfields, h.symm⟩

/-- A body that describes an unregistration parses, and its one field converts. -/
theorem parsed_of_unregistrationOf {json : JsonLibrary} {body : Bytes} {call : RegistryCall}
    (h : unregistrationOf json body = some call) :
    ∃ value backend_id value', json.parseOrThrow body = .ok value
      ∧ value.stringField "backend_id" = .ok (backend_id, value')
      ∧ call = .unregister_backend (bytes backend_id) := by
  rw [unregistrationOf_eq] at h
  rcases hparse : json.parseOrThrow body with e | value
  · simp [hparse] at h
  rcases hfield : value.stringField "backend_id" with e | ⟨backend_id, value'⟩
  · simp [hparse, hfield] at h
  simp only [hparse, hfield, Option.some.injEq] at h
  exact ⟨value, backend_id, value', rfl, hfield, h.symm⟩

/-- Parsing throws exactly when the library fails. -/
theorem parse_of_parseOrThrow {json : JsonLibrary} {body : Bytes} {value : Json}
    (h : json.parseOrThrow body = .ok value) : json.parse body = some value := by
  rw [JsonLibrary.parseOrThrow] at h
  rcases hparse : json.parse body with _ | value'
  · simp [hparse] at h
  · simpa [hparse] using h

/-- What a body that describes a registration is like. -/
theorem registrationOf_eq_some {json : JsonLibrary} {body : Bytes} {call : RegistryCall}
    (h : registrationOf json body = some call) :
    ∃ (value : Json) (backend_id host : String) (m : Json) (port : ℤ) (path_pattern : String),
      json.parse body = some value
        ∧ value.member "backend_id" = some (.string backend_id)
        ∧ value.member "host" = some (.string host)
        ∧ value.member "port" = some m ∧ m.toInt = .ok port
        ∧ value.member "path_pattern" = some (.string path_pattern)
        ∧ call = .register_backend (bytes backend_id) (bytes host) port (bytes path_pattern) := by
  obtain ⟨value, backend_id, host, port, path_pattern, hparse, hfields, hcall⟩ :=
    parsed_of_registrationOf h
  obtain ⟨hid, hhost, ⟨m, hport, hm⟩, hpattern⟩ :=
    (registrationFields_eq_ok_iff _ _ _ _ _).mp hfields
  exact ⟨value, backend_id, host, m, port, path_pattern, parse_of_parseOrThrow hparse, hid, hhost,
    hport, hm, hpattern, hcall⟩

/-- What a body that describes an unregistration is like. -/
theorem unregistrationOf_eq_some {json : JsonLibrary} {body : Bytes} {call : RegistryCall}
    (h : unregistrationOf json body = some call) :
    ∃ (value : Json) (backend_id : String), json.parse body = some value
      ∧ value.member "backend_id" = some (.string backend_id)
      ∧ call = .unregister_backend (bytes backend_id) := by
  obtain ⟨value, backend_id, value', hparse, hfield, hcall⟩ := parsed_of_unregistrationOf h
  exact ⟨value, backend_id, parse_of_parseOrThrow hparse,
    ((Json.stringField_eq_ok_iff _ _ _ _).mp hfield).2, hcall⟩

/-! ## `ForwardingHandler` -/

namespace ForwardingHandler

open HandlerM

variable {S : Type}

/-- The proxy's own answers, as `forward_request` writes them. -/
def noBackend : HttpResponse :=
  { status_code := 404
    body := bytes "\x7b\"error\": \"No backend found for this path\"\x7d" }

def backendFailed : HttpResponse :=
  { status_code := 502
    body := bytes "\x7b\"error\": \"Backend request failed\"\x7d" }

/-- `ForwardingHandler::forward_request`. -/
def forward_request (verbs : List Bytes) (enumerate : Enumeration)
    (method path body : StringView) (stream_id : StreamId) (sender : S) : HandlerM S Unit := do
  let w ← get
  match w.registry.find_backend (enumerate w.registry.backends_) path.chars with
  | none => send sender stream_id noBackend
  | some rule =>
      -- the rule is held by `shared_ptr`, so what is unregistered later is of no matter
      let client ← w.http_client_.send_request verbs rule.target_host rule.target_port
        method.chars path.chars body.chars ⟨sender, stream_id⟩
      set (w.withClient client)

/-- The lambda `forward_request` hands to the client: an empty error text is the
only sign of success. -/
def answer (response : ProxyResponse) (error : Bytes) : HttpResponse :=
  if error ≠ [] then backendFailed
  else { status_code := response.status_code, body := response.body }

/-- Looking up and forwarding, in one line. -/
def lookup (enumerate : Enumeration) (w : World S) (path : Bytes) : Option ForwardingRule :=
  w.registry.find_backend (enumerate w.registry.backends_) path

theorem exec_forward_request_of_none (verbs : List Bytes) (enumerate : Enumeration)
    (method path body : StringView) (stream_id : StreamId) (sender : S) (w : World S)
    (h : lookup enumerate w path.chars = none) :
    exec (forward_request verbs enumerate method path body stream_id sender) w
      = (.ok (), w.reply sender stream_id noBackend) := by
  rw [lookup] at h
  simp only [forward_request, exec_bind, exec_get, h, exec_send]

theorem exec_forward_request_of_accepts (verbs : List Bytes) (enumerate : Enumeration)
    (method path body : StringView) (stream_id : StreamId) (sender : S) (w : World S)
    {rule : ForwardingRule} (h : lookup enumerate w path.chars = some rule)
    (haccepts : HttpClient.Accepts verbs method.chars body.chars) :
    exec (forward_request verbs enumerate method path body stream_id sender) w
      = (.ok (), w.withClient
          (w.http_client_.started rule.target_host rule.target_port method.chars path.chars
            body.chars ⟨sender, stream_id⟩)) := by
  rw [lookup] at h
  simp only [forward_request, exec_bind, exec_get, h,
    HttpClient.send_request_of_accepts _ haccepts, exec_lift, exec_set]

/-- A method Beast does not accept leaves the handler as an exception: the request
is built outside any `try`. -/
theorem exec_forward_request_of_not_accepts (verbs : List Bytes) (enumerate : Enumeration)
    (method path body : StringView) (stream_id : StreamId) (sender : S) (w : World S)
    {rule : ForwardingRule} (h : lookup enumerate w path.chars = some rule)
    (haccepts : ¬ HttpClient.Accepts verbs method.chars body.chars) :
    exec (forward_request verbs enumerate method path body stream_id sender) w
      = (.error .invalid_argument, w) := by
  rw [lookup] at h
  simp only [forward_request, exec_bind, exec_get, h,
    HttpClient.send_request_of_not_accepts _ haccepts, exec_lift]

end ForwardingHandler

/-- The completion of the `k`-th outstanding operation of the shared client: the
callback, when one is invoked, answers through its sender. -/
def World.complete {S : Type} (w : World S) (k : ℕ) (completion : Completion) :
    Option (World S) := do
  let (client, called) ← w.http_client_.step k completion
  match called with
  | none => some (w.withClient client)
  | some (callback, response, error) =>
      some ((w.withClient client).reply callback.sender callback.stream_id
        (ForwardingHandler.answer response error))

/-- What a handler of a forwarding chain sends, if it sends anything. -/
def Next.replies {S : Type} (next : Next (ForwardCallback S)) : List (Reply S) :=
  next.called.toList.map fun (invoked, response, error) =>
    ⟨invoked.sender, invoked.stream_id, ForwardingHandler.answer response error⟩

/-- What a handler starts and sends carries the callback of its operation. -/
theorem next_callback {S : Type} {op : Op (ForwardCallback S)} {completion : Completion}
    {next : Next (ForwardCallback S)} (h : HttpClient.complete op completion = some next) :
    (∀ op' ∈ next.started, op'.callback = op.callback)
      ∧ ∀ reply ∈ next.replies, reply.sender = op.callback.sender := by
  rcases HttpClient.complete_cases h with ⟨stage, rfl, -⟩ | ⟨response, error, rfl⟩
  · exact ⟨by simp [Next.started], by simp [Next.replies, Next.called]⟩
  · exact ⟨by simp [Next.started], by simp [Next.replies, Next.called]⟩

/-- **One completion, in the world.** The client takes its step; nothing else
changes but for the reply of a chain that has ended. -/
theorem World.complete_eq_some {S : Type} {w w' : World S} {k : ℕ} {completion : Completion}
    (h : w.complete k completion = some w') :
    ∃ op next, w.http_client_.pending[k]? = some op
      ∧ HttpClient.complete op completion = some next
      ∧ w'.http_client_.connections = w.http_client_.connections.modify op.socket
          (fun c => c.record op.stage completion)
      ∧ w'.http_client_.pending = w.http_client_.pending.eraseIdx k ++ next.started
      ∧ w'.replies = w.replies ++ next.replies
      ∧ w'.registry = w.registry ∧ w'.forwarding_handler_ = w.forwarding_handler_ := by
  simp only [World.complete, bind, Option.bind_eq_some_iff] at h
  obtain ⟨⟨client, called⟩, hstep, h⟩ := h
  obtain ⟨op, next, hop, hnext, hconnections, hpending, rfl⟩ := HttpClient.step_eq_some hstep
  refine ⟨op, next, hop, hnext, ?_⟩
  cases next with
  | start op' =>
      obtain rfl := Option.some.inj h
      exact ⟨hconnections, hpending, (List.append_nil _).symm, rfl, rfl⟩
  | callback callback response error =>
      obtain rfl := Option.some.inj h
      exact ⟨hconnections, hpending, rfl, rfl, rfl⟩

/-- An outstanding operation may complete in any way that is one of its own. -/
theorem World.exists_complete {S : Type} {w : World S} {k : ℕ} {completion : Completion}
    {op : Op (ForwardCallback S)} {next : Next (ForwardCallback S)}
    (hop : w.http_client_.pending[k]? = some op)
    (hnext : HttpClient.complete op completion = some next) :
    ∃ w', w.complete k completion = some w' := by
  simp only [World.complete, HttpClient.step, hop, hnext, bind, Option.bind]
  cases next <;> exact ⟨_, rfl⟩

/-! ## `ProxyRequestHandler` -/

namespace ProxyRequestHandler

open HandlerM

variable {S : Type}

/-- The reply to a registration the table has taken. -/
def succeeded (json : JsonLibrary) (backend_id message : String) : HttpResponse :=
  { status_code := 200
    body := json.dump (.object [("status", .string "success"),
      ("backend_id", .string backend_id), ("message", .string message)]) }

def methodNotAllowed : HttpResponse :=
  { status_code := 405
    body := bytes "\x7b\"error\": \"Method not allowed\"\x7d" }

def invalidRequest : HttpResponse :=
  { status_code := 400
    body := bytes "\x7b\"error\": \"Invalid request data\"\x7d" }

/-- `ProxyRequestHandler::handle_registration_request`. The body is parsed before
the method is looked at. -/
def handle_registration_request (json : JsonLibrary) (method body : StringView)
    (stream_id : StreamId) (sender : S) : HandlerM S Unit :=
  tryCatch
    (do
      let request_json ← json.parseOrThrow body.chars
      if method.chars = bytes "POST" then
        let (backend_id, request_json) ← request_json.stringField "backend_id"
        let (host, request_json) ← request_json.stringField "host"
        let (port, request_json) ← request_json.intField "port"
        let (path_pattern, _) ← request_json.stringField "path_pattern"
        callRegistry
          (.register_backend (bytes backend_id) (bytes host) port (bytes path_pattern))
        send sender stream_id (succeeded json backend_id "Backend registered successfully")
      else if method.chars = bytes "DELETE" then
        let (backend_id, _) ← request_json.stringField "backend_id"
        callRegistry (.unregister_backend (bytes backend_id))
        send sender stream_id (succeeded json backend_id "Backend unregistered successfully")
      else
        send sender stream_id methodNotAllowed)
    fun _ => send sender stream_id invalidRequest

/-- `ProxyRequestHandler::handle_proxy_request`: every path that *starts* with the
registration path goes to the registration handler. -/
def handle_proxy_request (json : JsonLibrary) (verbs : List Bytes) (enumerate : Enumeration)
    (method path body : StringView) (stream_id : StreamId) (sender : S) : HandlerM S Unit := do
  let w ← get
  if ¬ w.forwarding_handler_ then
    send sender stream_id
      { status_code := 500, body := bytes "\x7b\"error\": \"Proxy not initialized\"\x7d" }
  else if path.chars.take 15 = bytes "/proxy/register" then
    handle_registration_request json method body stream_id sender
  else
    ForwardingHandler.forward_request verbs enumerate method path body stream_id sender

/-! ### The registration handler -/

/-- The registration a request with a given method asks for. -/
def requested (json : JsonLibrary) (method body : Bytes) : Option RegistryCall :=
  if method = bytes "POST" then registrationOf json body
  else if method = bytes "DELETE" then unregistrationOf json body
  else none

/-- The conversions of a POST, followed by code that uses the four fields. -/
theorem exec_registrationFields {α : Type} (value : Json)
    (use : String × Json → String × Json → ℤ × Json → String × Json → HandlerM S α)
    (w : World S) :
    exec (do
        let backend_id ← value.stringField "backend_id"
        let host ← backend_id.2.stringField "host"
        let port ← host.2.intField "port"
        let path_pattern ← port.2.stringField "path_pattern"
        use backend_id host port path_pattern) w
      = match registrationFields value with
        | .ok (backend_id, host, port, path_pattern) =>
            exec (use (backend_id, value) (host, value) (port, value) (path_pattern, value)) w
        | .error e => (.error e, w) := by
  simp only [exec_bind, exec_lift]
  simp only [registrationFields, bind, Except.bind]
  -- a conversion that throws ends both sides; one that does not leaves the value as it was
  rcases hid : value.stringField "backend_id" with e | ⟨id, value₁⟩
  · rfl
  obtain ⟨rfl, -⟩ := (Json.stringField_eq_ok_iff _ _ _ _).mp hid
  dsimp only
  rcases hhost : value₁.stringField "host" with e | ⟨host, value₂⟩
  · rfl
  obtain ⟨rfl, -⟩ := (Json.stringField_eq_ok_iff _ _ _ _).mp hhost
  dsimp only
  rcases hport : value₂.intField "port" with e | ⟨port, value₃⟩
  · rfl
  obtain ⟨rfl, -⟩ := (Json.intField_eq_ok_iff _ _ _ _).mp hport
  dsimp only
  rcases hpattern : value₃.stringField "path_pattern" with e | ⟨pattern, value₄⟩
  · rfl
  obtain ⟨rfl, -⟩ := (Json.stringField_eq_ok_iff _ _ _ _).mp hpattern
  rfl

/-- **A request that asks for a registration gets it**, and is told so. -/
theorem exec_handle_registration_request_of_requested (json : JsonLibrary)
    (method body : StringView) (stream_id : StreamId) (sender : S) (w : World S)
    {call : RegistryCall} (h : requested json method.chars body.chars = some call) :
    ∃ backend_id message : String, bytes backend_id = call.backend_id
      ∧ exec (handle_registration_request json method body stream_id sender) w
          = (.ok (), (w.call call).reply sender stream_id (succeeded json backend_id message)) := by
  rw [requested] at h
  rw [handle_registration_request, exec_tryCatch, exec_bind, exec_lift]
  split_ifs at h with hpost hdelete
  · obtain ⟨value, backend_id, host, port, path_pattern, hparse, hfields, rfl⟩ :=
      parsed_of_registrationOf h
    refine ⟨backend_id, "Backend registered successfully", rfl, ?_⟩
    simp only [hparse, if_pos hpost, exec_registrationFields, hfields]
    simp only [exec_bind, exec_callRegistry, exec_send]
  · obtain ⟨value, backend_id, value', hparse, hfield, rfl⟩ := parsed_of_unregistrationOf h
    refine ⟨backend_id, "Backend unregistered successfully", rfl, ?_⟩
    simp only [hparse, if_neg hpost, if_pos hdelete, exec_bind, exec_lift, hfield,
      exec_callRegistry, exec_send]

/-- **A POST or DELETE that does not is refused**, and the table is not touched:
every conversion comes before the one call on it. -/
theorem exec_handle_registration_request_of_invalid (json : JsonLibrary)
    (method body : StringView) (stream_id : StreamId) (sender : S) (w : World S)
    (hmethod : method.chars = bytes "POST" ∨ method.chars = bytes "DELETE")
    (h : requested json method.chars body.chars = none) :
    exec (handle_registration_request json method body stream_id sender) w
      = (.ok (), w.reply sender stream_id invalidRequest) := by
  rw [requested] at h
  rw [handle_registration_request, exec_tryCatch, exec_bind, exec_lift]
  -- parsing, or one of the conversions, throws: the table has not been called by then
  rcases hparse : json.parseOrThrow body.chars with e | value
  · simp only [exec_send]
  split_ifs at h with hpost hdelete
  · rw [registrationOf_eq] at h
    rcases hfields : registrationFields value with e | ⟨backend_id, host, port, path_pattern⟩
    · simp only [if_pos hpost, exec_registrationFields, hfields, exec_send]
    · simp [hparse, hfields] at h
  · rw [unregistrationOf_eq] at h
    rcases hfield : value.stringField "backend_id" with e | ⟨backend_id, value'⟩
    · simp only [if_neg hpost, if_pos hdelete, exec_bind, exec_lift, hfield, exec_send]
    · simp [hparse, hfield] at h
  · exact absurd hmethod (by rintro (h | h) <;> contradiction)

/-- Any other method is refused, with a status that depends on whether the body
parses. -/
theorem exec_handle_registration_request_of_other (json : JsonLibrary)
    (method body : StringView) (stream_id : StreamId) (sender : S) (w : World S)
    (hpost : method.chars ≠ bytes "POST") (hdelete : method.chars ≠ bytes "DELETE") :
    exec (handle_registration_request json method body stream_id sender) w
      = (.ok (), w.reply sender stream_id
          (if (json.parse body.chars).isSome then methodNotAllowed else invalidRequest)) := by
  rw [handle_registration_request, exec_tryCatch, exec_bind, exec_lift,
    JsonLibrary.parseOrThrow]
  rcases json.parse body.chars with _ | value
  · rfl
  · simp only [if_neg hpost, if_neg hdelete, exec_send, Option.isSome_some, if_true]

/-- Whatever the request, the registration handler answers its sender once and
lets nothing escape. -/
theorem exec_handle_registration_request (json : JsonLibrary) (method body : StringView)
    (stream_id : StreamId) (sender : S) (w : World S) :
    ∃ w' response, exec (handle_registration_request json method body stream_id sender) w
        = (.ok (), World.reply w' sender stream_id response)
      ∧ w'.replies = w.replies ∧ w'.http_client_ = w.http_client_ := by
  by_cases hmethod : method.chars = bytes "POST" ∨ method.chars = bytes "DELETE"
  · rcases hreq : requested json method.chars body.chars with _ | call
    · exact ⟨w, _, exec_handle_registration_request_of_invalid json method body stream_id sender w
        hmethod hreq, rfl, rfl⟩
    · obtain ⟨_, _, -, hexec⟩ := exec_handle_registration_request_of_requested json method body
        stream_id sender w hreq
      exact ⟨w.call call, _, hexec, rfl, rfl⟩
  · rw [not_or] at hmethod
    exact ⟨w, _, exec_handle_registration_request_of_other json method body stream_id sender w
      hmethod.1 hmethod.2, rfl, rfl⟩

end ProxyRequestHandler

end Http2Server
