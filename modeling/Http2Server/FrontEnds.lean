/-
The two front ends, side by side.

The HTTP/2 server and the HTTP/1.1 proxy read and write the same routing table
through code written twice. Two questions follow: what a registration does
through either, and whether a request in general is treated alike.

* `registration_atomic_alike` -- a POST or DELETE on the registration path has the
  same status and leaves the same table through both, and is all or nothing: a 400
  leaves the table as it was, a 200 changes the one entry the body names.
* `treatedAlike_iff` -- for the rest the two classify by different tests (a path
  that *starts* like the registration path, a path that *is* it, a method filter
  that falls through to forwarding), and this is exactly where they agree.
-/
import Http2Server.Main
import Http2Server.Http1Proxy

set_option autoImplicit false

open ByteString UnorderedMap

namespace Http2Server

namespace FrontEnds

open HandlerM ProxyRequestHandler

variable {S : Type}

/-! ## Registration -/

/-- A registration request through the HTTP/2 handler: the status of its one
reply, and the table it leaves. -/
def http2Registration (json : JsonLibrary) (registry : BackendRegistry) (method body : Bytes)
    (stream_id : StreamId) (sender : S) : Option (ℤ × BackendRegistry) :=
  match exec (handle_registration_request json (.of method) (.of body) stream_id sender)
      (World.serving registry) with
  | (.ok (), w) =>
      match w.replies with
      | [reply] => some (reply.response.status_code, w.registry)
      | _ => none
  | (.error _, _) => none

/-- The same request through the HTTP/1.1 session: the status it writes, and the
table it leaves. -/
def http1Registration (json : JsonLibrary) (enumerate : Enumeration) (registry : BackendRegistry)
    (method body : Bytes) : Option (ℤ × BackendRegistry) :=
  match exec (Http1ProxySession.handle_request (S := Unit) json enumerate
      ⟨method, bytes "/proxy/register", body⟩) (World.serving registry) with
  | (.ok (.send_response status_code _), w) => some (status_code, w.registry)
  | (.ok (.forward _), _) => none
  | (.error _, _) => none

/-- The table takes the rule the body spells out, under the body's `backend_id`,
and keeps every other entry. -/
def Registered (json : JsonLibrary) (body : Bytes) (registry registry' : BackendRegistry) : Prop :=
  ∃ (value : Json) (backend_id host : String) (m : Json) (port : ℤ) (path_pattern : String),
    json.parse body = some value
      ∧ value.member "backend_id" = some (.string backend_id)
      ∧ value.member "host" = some (.string host)
      ∧ value.member "port" = some m ∧ m.toInt = .ok port
      ∧ value.member "path_pattern" = some (.string path_pattern)
      ∧ registry'.backends_.lookup (bytes backend_id)
          = some ⟨bytes backend_id, bytes host, port, bytes path_pattern⟩
      ∧ ∀ id, id ≠ bytes backend_id → registry'.backends_.lookup id = registry.backends_.lookup id

/-- The table loses the entry under the body's `backend_id`, if it has one, and
keeps every other. -/
def Unregistered (json : JsonLibrary) (body : Bytes) (registry registry' : BackendRegistry) :
    Prop :=
  ∃ (value : Json) (backend_id : String), json.parse body = some value
    ∧ value.member "backend_id" = some (.string backend_id)
    ∧ registry'.backends_.lookup (bytes backend_id) = none
    ∧ ∀ id, id ≠ bytes backend_id → registry'.backends_.lookup id = registry.backends_.lookup id

/-- What the requested call does to the table, for a POST. -/
theorem registered_of_requested {json : JsonLibrary} {body : Bytes} {call : RegistryCall}
    (registry : BackendRegistry) (h : requested json (bytes "POST") body = some call) :
    Registered json body registry (call.apply registry) := by
  rw [requested, if_pos rfl] at h
  obtain ⟨value, backend_id, host, m, port, path_pattern, hparse, hid, hhost, hport, hm, hpattern,
    rfl⟩ := registrationOf_eq_some h
  refine ⟨value, backend_id, host, m, port, path_pattern, hparse, hid, hhost, hport, hm, hpattern,
    ?_, fun id hne => ?_⟩
  · exact BackendRegistry.lookup_register_backend_self _ _ _ _ _
  · exact BackendRegistry.lookup_register_backend_of_ne _ _ _ _ hne

/-- What the requested call does to the table, for a DELETE. -/
theorem unregistered_of_requested {json : JsonLibrary} {body : Bytes} {call : RegistryCall}
    (registry : BackendRegistry) (h : requested json (bytes "DELETE") body = some call) :
    Unregistered json body registry (call.apply registry) := by
  rw [requested, if_neg (by decide), if_pos rfl] at h
  obtain ⟨value, backend_id, hparse, hid, rfl⟩ := unregistrationOf_eq_some h
  refine ⟨value, backend_id, hparse, hid, ?_, fun id hne => ?_⟩
  · exact BackendRegistry.lookup_unregister_backend_self _ _
  · exact BackendRegistry.lookup_unregister_backend_of_ne _ hne

/-- The HTTP/2 handler does what the body of a POST or DELETE asks for, or refuses it. -/
theorem http2Registration_eq (json : JsonLibrary) (registry : BackendRegistry)
    {method : Bytes} (body : Bytes) (stream_id : StreamId) (sender : S)
    (hmethod : method = bytes "POST" ∨ method = bytes "DELETE") :
    http2Registration json registry method body stream_id sender
      = match requested json method body with
        | some call => some (200, call.apply registry)
        | none => some (400, registry) := by
  rcases hreq : requested json method body with _ | call
  · rw [http2Registration, exec_handle_registration_request_of_invalid json (.of method) (.of body)
      stream_id sender _ (by simpa using hmethod) (by simpa using hreq)]
    rfl
  · obtain ⟨backend_id, message, -, hexec⟩ := exec_handle_registration_request_of_requested json
      (.of method) (.of body) stream_id sender (World.serving registry) (by simpa using hreq)
    rw [http2Registration, hexec]
    rfl

/-- The HTTP/1.1 session does what the body of a POST or DELETE asks for, or refuses it. -/
theorem http1Registration_eq (json : JsonLibrary) (enumerate : Enumeration)
    (registry : BackendRegistry) {method : Bytes} (body : Bytes)
    (hmethod : method = bytes "POST" ∨ method = bytes "DELETE") :
    http1Registration json enumerate registry method body
      = match requested json method body with
        | some call => some (200, call.apply registry)
        | none => some (400, registry) := by
  rw [http1Registration, Http1ProxySession.handle_request_of_registration json enumerate body
    hmethod]
  rcases hreq : requested json method body with _ | call
  · rw [Http1ProxySession.exec_handle_registration_of_invalid json _ hmethod hreq]
    rfl
  · rw [Http1ProxySession.exec_handle_registration_of_requested json _ hreq]
    rfl

/-- **Registration is atomic and the same through both protocols.** -/
theorem registration_atomic_alike (json : JsonLibrary) (enumerate : Enumeration)
    (registry : BackendRegistry) (method body : Bytes) (stream_id : StreamId) (sender : S)
    (hmethod : method = bytes "POST" ∨ method = bytes "DELETE") :
    ∃ status registry',
      http2Registration json registry method body stream_id sender = some (status, registry')
        ∧ http1Registration json enumerate registry method body = some (status, registry')
        ∧ (status = 400 ∧ registry' = registry
          ∨ status = 200 ∧ method = bytes "POST" ∧ Registered json body registry registry'
          ∨ status = 200 ∧ method = bytes "DELETE"
            ∧ Unregistered json body registry registry') := by
  rw [http2Registration_eq json registry body stream_id sender hmethod,
    http1Registration_eq json enumerate registry body hmethod]
  -- both handlers are specified by what the body asks for, so one case split serves both
  rcases hreq : requested json method body with _ | call
  · exact ⟨400, registry, rfl, rfl, Or.inl ⟨rfl, rfl⟩⟩
  · refine ⟨200, call.apply registry, rfl, rfl, Or.inr ?_⟩
    rcases hmethod with rfl | rfl
    · exact Or.inl ⟨rfl, rfl, registered_of_requested registry hreq⟩
    · exact Or.inr ⟨rfl, rfl, unregistered_of_requested registry hreq⟩

/-- A POST with all four fields, through both protocols. -/
theorem registration_atomic_alike_post :
    ∃ (json : JsonLibrary) (enumerate : Enumeration) (status : ℤ) (registry' : BackendRegistry),
      http2Registration json BackendRegistry.empty (bytes "POST") (bytes "body") 1 ()
          = some (status, registry')
        ∧ http1Registration json enumerate BackendRegistry.empty (bytes "POST") (bytes "body")
          = some (status, registry')
        ∧ (status = 400 ∧ registry' = BackendRegistry.empty
          ∨ status = 200 ∧ bytes "POST" = bytes "POST"
            ∧ Registered json (bytes "body") BackendRegistry.empty registry'
          ∨ status = 200 ∧ bytes "POST" = bytes "DELETE"
            ∧ Unregistered json (bytes "body") BackendRegistry.empty registry') :=
  ⟨⟨fun _ => some (.object [("backend_id", .string "api"), ("host", .string "localhost"),
      ("port", .number_unsigned 3000), ("path_pattern", .string "/api/")]), fun _ => []⟩,
    anyOrder, registration_atomic_alike _ _ _ _ _ _ _ (Or.inl rfl)⟩

/-! ## Dispositions -/

/-- What a front end does with a request. -/
inductive Disposition
  | perform (call : RegistryCall)
  | refuse
  | noBackend
  | forward (host service : Bytes)
  | escape
  | silent
  deriving DecidableEq, Repr

namespace Disposition

/-- A front end's own answer: a 404 says there is no backend, every other status
refuses the request. -/
def ofStatus (status : ℤ) : Disposition := if status = 404 then .noBackend else .refuse

/-- The disposition of a request, from what the HTTP/2 handler did with it. -/
def ofHttp2 : Except Exn Unit × World S → Disposition
  | (.error _, _) => .escape
  | (.ok (), w) =>
      match w.registry_calls, w.http_client_.pending, w.replies with
      | call :: _, _, _ => .perform call
      | [], ⟨.resolve host service _, _, _⟩ :: _, _ => .forward host service
      | [], [], reply :: _ => ofStatus reply.response.status_code
      | _, _, _ => .silent

/-- The disposition of a request, from what the HTTP/1.1 session decided. -/
def ofHttp1 : Except Exn Http1Action × World S → Disposition
  | (.error _, _) => .escape
  | (.ok action, w) =>
      match w.registry_calls, action with
      | call :: _, _ => .perform call
      | [], .forward rule => .forward rule.target_host (toDecimal rule.target_port)
      | [], .send_response status_code _ => ofStatus status_code

end Disposition

/-- The status of the HTTP/2 handler's own answer, when it gave one. -/
def http2Status (outcome : Except Exn Unit × World S) : Option ℤ :=
  outcome.2.replies.head?.map fun reply => reply.response.status_code

/-- The status of the HTTP/1.1 session's own answer, when it gave one. -/
def http1Status : Except Exn Http1Action × World S → Option ℤ
  | (.ok (.send_response status_code _), _) => some status_code
  | _ => none

/-- A request through the HTTP/2 handler. -/
def http2 (json : JsonLibrary) (verbs : List Bytes) (enumerate : Enumeration)
    (registry : BackendRegistry) (request : Http1Request) (stream_id : StreamId) (sender : S) :
    Except Exn Unit × World S :=
  exec (Main.request_handler json verbs enumerate (.of request.method_string)
    (.of request.target) (.of request.body) stream_id sender) (World.serving registry)

/-- The same request through the HTTP/1.1 session. -/
def http1 (json : JsonLibrary) (enumerate : Enumeration) (registry : BackendRegistry)
    (request : Http1Request) : Except Exn Http1Action × World Unit :=
  exec (Http1ProxySession.handle_request json enumerate request) (World.serving registry)

/-- **The two front ends treat the request alike**: the same disposition, and on
the registration path neither forwards it and both answer 405 to a method other
than POST and DELETE. -/
def TreatedAlike (json : JsonLibrary) (verbs : List Bytes) (enumerate : Enumeration)
    (registry : BackendRegistry) (request : Http1Request) (stream_id : StreamId) (sender : S) :
    Prop :=
  Disposition.ofHttp2 (http2 json verbs enumerate registry request stream_id sender)
      = Disposition.ofHttp1 (http1 json enumerate registry request)
    ∧ (request.target = bytes "/proxy/register" →
        (∀ host service, Disposition.ofHttp1 (http1 json enumerate registry request)
          ≠ .forward host service)
        ∧ (request.method_string ≠ bytes "POST" → request.method_string ≠ bytes "DELETE" →
            http2Status (http2 json verbs enumerate registry request stream_id sender) = some 405
              ∧ http1Status (http1 json enumerate registry request) = some 405))

/-- Some registered pattern matches the path. -/
def HasBackend (registry : BackendRegistry) (path : Bytes) : Prop :=
  ∃ id rule, registry.backends_.lookup id = some rule ∧ BackendRegistry.Matches rule path

theorem lookup_eq_none_iff (enumerate : Enumeration) (registry : BackendRegistry) (path : Bytes) :
    ForwardingHandler.lookup enumerate (World.serving (S := S) registry) path = none
      ↔ ¬ HasBackend registry path := by
  rw [ForwardingHandler.lookup, BackendRegistry.find_backend_eq_none_iff, HasBackend]
  simp only [not_exists, not_and]
  rfl

/-! ### The registration path -/

/-- A POST or DELETE on the registration path is performed by both or refused by
both. -/
theorem treatedAlike_of_registration (json : JsonLibrary) (verbs : List Bytes)
    (enumerate : Enumeration) (registry : BackendRegistry) (method body : Bytes)
    (stream_id : StreamId) (sender : S)
    (hmethod : method = bytes "POST" ∨ method = bytes "DELETE") :
    TreatedAlike json verbs enumerate registry ⟨method, bytes "/proxy/register", body⟩ stream_id
      sender := by
  have hsame : ∃ d, Disposition.ofHttp2 (http2 json verbs enumerate registry
        ⟨method, bytes "/proxy/register", body⟩ stream_id sender) = d
      ∧ Disposition.ofHttp1 (http1 json enumerate registry
        ⟨method, bytes "/proxy/register", body⟩) = d
      ∧ ∀ host service, d ≠ .forward host service := by
    rw [http2, http1, Main.exec_request_handler_of_registration json verbs enumerate _ stream_id
      sender _ hmethod, Http1ProxySession.handle_request_of_registration json enumerate body
      hmethod]
    rcases hreq : requested json method body with _ | call
    · refine ⟨.refuse, ?_, ?_, by simp⟩
      · rw [exec_handle_registration_request_of_invalid json (.of method) (.of body) stream_id
          sender (World.serving registry) (by simpa using hmethod) (by simpa using hreq)]
        rfl
      · rw [Http1ProxySession.exec_handle_registration_of_invalid json _ hmethod hreq]
        rfl
    · refine ⟨.perform call, ?_, ?_, by simp⟩
      · obtain ⟨_, _, -, h2⟩ := exec_handle_registration_request_of_requested json
          (.of method) (.of body) stream_id sender (World.serving registry) (by simpa using hreq)
        rw [h2]
        rfl
      · rw [Http1ProxySession.exec_handle_registration_of_requested json _ hreq]
        rfl
  obtain ⟨d, h2, h1, hd⟩ := hsame
  refine ⟨h2.trans h1.symm, fun _ => ⟨fun host service => h1 ▸ hd host service, ?_⟩⟩
  intro hpost hdelete
  exact absurd hmethod (by rintro (h | h) <;> contradiction)

/-- What the HTTP/1.1 session does with a request it does not take for a
registration: forward it, or answer that there is no backend. -/
theorem http1_of_forwarded (json : JsonLibrary) (enumerate : Enumeration)
    (registry : BackendRegistry) (request : Http1Request)
    (h : ¬ (request.target = bytes "/proxy/register"
      ∧ (request.method_string = bytes "POST" ∨ request.method_string = bytes "DELETE"))) :
    http1 json enumerate registry request
      = match ForwardingHandler.lookup enumerate (World.serving (S := Unit) registry)
          request.target with
        | none => (.ok (.send_response 404
            (bytes "\x7b\"error\":\"No backend found for this path\"\x7d")),
            World.serving registry)
        | some rule => (.ok (.forward rule), World.serving registry) := by
  rw [http1, Http1ProxySession.handle_request_of_forwarded json enumerate request h]
  rcases hlookup : ForwardingHandler.lookup enumerate (World.serving (S := Unit) registry)
    request.target with _ | rule
  · exact Http1ProxySession.exec_forward_to_backend_of_none enumerate _ _ hlookup
  · exact Http1ProxySession.exec_forward_to_backend_of_some enumerate _ _ hlookup

/-- Another method on the registration path is never answered 405 by the HTTP/1.1
session. -/
theorem not_treatedAlike_of_other_method (json : JsonLibrary) (verbs : List Bytes)
    (enumerate : Enumeration) (registry : BackendRegistry) (method body : Bytes)
    (stream_id : StreamId) (sender : S)
    (hmethod : ¬ (method = bytes "POST" ∨ method = bytes "DELETE")) :
    ¬ TreatedAlike json verbs enumerate registry ⟨method, bytes "/proxy/register", body⟩ stream_id
      sender := by
  rintro ⟨-, hpath⟩
  obtain ⟨-, hstatus⟩ := hpath rfl
  obtain ⟨hpost, hdelete⟩ := not_or.mp hmethod
  have h405 := (hstatus hpost hdelete).2
  -- it forwards the request, or answers 404
  rw [http1_of_forwarded json enumerate registry _ (fun h => hmethod h.2)] at h405
  rcases hlookup : ForwardingHandler.lookup enumerate (World.serving (S := Unit) registry)
    (bytes "/proxy/register") with _ | rule <;> simp [hlookup, http1Status] at h405

/-- A path that merely starts like the registration path is a registration to the
one front end and ordinary traffic to the other. -/
theorem not_treatedAlike_of_extension (json : JsonLibrary) (verbs : List Bytes)
    (enumerate : Enumeration) (registry : BackendRegistry) (request : Http1Request)
    (stream_id : StreamId) (sender : S) (hpath : request.target ≠ bytes "/proxy/register")
    (hstarts : bytes "/proxy/register" <+: request.target) :
    ¬ TreatedAlike json verbs enumerate registry request stream_id sender := by
  rintro ⟨hsame, -⟩
  -- the HTTP/1.1 session neither refuses such a request nor performs anything for it,
  -- and the HTTP/2 handler does one of the two
  have h1 : ∀ d, Disposition.ofHttp1 (http1 json enumerate registry request) = d →
      d ≠ .refuse ∧ ∀ call, d ≠ .perform call := by
    rintro d rfl
    rw [http1_of_forwarded json enumerate registry request (fun h => hpath h.1)]
    rcases ForwardingHandler.lookup enumerate (World.serving (S := Unit) registry)
      request.target with _ | rule
    · exact ⟨by simp [Disposition.ofHttp1, World.serving, Disposition.ofStatus],
        fun call => by simp [Disposition.ofHttp1, World.serving, Disposition.ofStatus]⟩
    · exact ⟨by simp [Disposition.ofHttp1, World.serving],
        fun call => by simp [Disposition.ofHttp1, World.serving]⟩
  obtain ⟨hrefuse, hperform⟩ := h1 _ hsame.symm
  rw [http2, Main.exec_request_handler_of_extension json verbs enumerate _ _ _ stream_id sender _
    rfl (by rwa [StringView.chars_of]) (by rwa [StringView.chars_of])] at hrefuse hperform
  by_cases hmethod : request.method_string = bytes "POST" ∨ request.method_string = bytes "DELETE"
  · rcases hreq : requested json request.method_string request.body with _ | call
    · rw [exec_handle_registration_request_of_invalid json _ _ stream_id sender _
        (by simpa using hmethod) (by simpa using hreq)] at hrefuse
      exact hrefuse rfl
    · obtain ⟨_, _, -, h2⟩ := exec_handle_registration_request_of_requested json
        (.of request.method_string) (.of request.body) stream_id sender
        (World.serving registry) (by simpa using hreq)
      rw [h2] at hperform
      exact hperform call rfl
  · obtain ⟨hpost, hdelete⟩ := not_or.mp hmethod
    rw [exec_handle_registration_request_of_other json _ _ stream_id sender _
      (by rwa [StringView.chars_of]) (by rwa [StringView.chars_of])] at hrefuse
    split_ifs at hrefuse <;> exact hrefuse rfl

/-! ### Ordinary traffic -/

/-- A request neither front end takes for a registration is treated alike exactly
when it does not reach a backend with a method Beast refuses. -/
theorem treatedAlike_of_forwarded_iff (json : JsonLibrary) (verbs : List Bytes)
    (enumerate : Enumeration) (registry : BackendRegistry) (request : Http1Request)
    (stream_id : StreamId) (sender : S) (htest : request.target ≠ bytes "/test")
    (hstarts : ¬ bytes "/proxy/register" <+: request.target) :
    TreatedAlike json verbs enumerate registry request stream_id sender
      ↔ (HasBackend registry request.target →
          HttpClient.Accepts verbs request.method_string request.body) := by
  have hpath : request.target ≠ bytes "/proxy/register" := by
    intro heq
    exact hstarts (heq ▸ List.prefix_refl _)
  have h1 := http1_of_forwarded json enumerate registry request (fun h => hpath h.1)
  have h2 := Main.exec_request_handler_of_forwarded json verbs enumerate
    (.of request.method_string) (.of request.target) (.of request.body) stream_id sender
    (World.serving registry) rfl (by rwa [StringView.chars_of]) (by rwa [StringView.chars_of])
  rw [TreatedAlike, and_iff_left (fun h => absurd h hpath), http2, h1, h2]
  rcases hlookup : ForwardingHandler.lookup enumerate (World.serving (S := S) registry)
    request.target with _ | rule
  · have hnone := (lookup_eq_none_iff enumerate registry request.target).mp hlookup
    rw [ForwardingHandler.exec_forward_request_of_none verbs enumerate _ _ _ stream_id sender _
      (by rwa [StringView.chars_of]), (lookup_eq_none_iff enumerate registry _).mpr hnone]
    exact ⟨fun _ h => absurd h hnone, fun _ => rfl⟩
  · have hsome : HasBackend registry request.target := by
      by_contra hnone
      rw [(lookup_eq_none_iff enumerate registry _).mpr hnone] at hlookup
      exact absurd hlookup (by simp)
    have hlookup' : ForwardingHandler.lookup enumerate (World.serving (S := Unit) registry)
        request.target = some rule := hlookup
    rw [hlookup']
    by_cases haccepts : HttpClient.Accepts verbs request.method_string request.body
    · rw [ForwardingHandler.exec_forward_request_of_accepts verbs enumerate _ _ _ stream_id sender
        _ (by rwa [StringView.chars_of]) (by rwa [StringView.chars_of, StringView.chars_of])]
      exact ⟨fun _ _ => haccepts, fun _ => rfl⟩
    · -- the one front end throws where the other forwards
      rw [ForwardingHandler.exec_forward_request_of_not_accepts verbs enumerate _ _ _ stream_id
        sender _ (by rwa [StringView.chars_of])
        (by rwa [StringView.chars_of, StringView.chars_of])]
      exact ⟨fun h => absurd h (by simp [Disposition.ofHttp2, Disposition.ofHttp1,
        World.serving]), fun h => absurd (h hsome) haccepts⟩

/-- **Which requests the two front ends treat alike.** -/
theorem treatedAlike_iff (json : JsonLibrary) (verbs : List Bytes) (enumerate : Enumeration)
    (registry : BackendRegistry) (request : Http1Request) (stream_id : StreamId) (sender : S)
    (htest : request.target ≠ bytes "/test") :
    TreatedAlike json verbs enumerate registry request stream_id sender
      ↔ (¬ bytes "/proxy/register" <+: request.target
          ∧ (HasBackend registry request.target →
            HttpClient.Accepts verbs request.method_string request.body))
        ∨ (request.target = bytes "/proxy/register"
          ∧ (request.method_string = bytes "POST" ∨ request.method_string = bytes "DELETE")) := by
  rcases request with ⟨method, path, body⟩
  -- the path is the registration path, or merely starts like it, or does not
  by_cases hpath : path = bytes "/proxy/register"
  · subst hpath
    have hstarts : bytes "/proxy/register" <+: bytes "/proxy/register" := List.prefix_refl _
    by_cases hmethod : method = bytes "POST" ∨ method = bytes "DELETE"
    · exact ⟨fun _ => Or.inr ⟨rfl, hmethod⟩, fun _ =>
        treatedAlike_of_registration json verbs enumerate registry method body stream_id sender
          hmethod⟩
    · refine ⟨fun h => absurd h (not_treatedAlike_of_other_method json verbs enumerate registry
        method body stream_id sender hmethod), ?_⟩
      rintro (⟨hno, -⟩ | ⟨-, h⟩)
      · exact absurd hstarts hno
      · exact absurd h hmethod
  · by_cases hstarts : bytes "/proxy/register" <+: path
    · refine ⟨fun h => absurd h (not_treatedAlike_of_extension json verbs enumerate registry _
        stream_id sender hpath hstarts), ?_⟩
      rintro (⟨hno, -⟩ | ⟨h, -⟩)
      · exact absurd hstarts hno
      · exact absurd h hpath
    · rw [treatedAlike_of_forwarded_iff json verbs enumerate registry _ stream_id sender htest
        hstarts]
      exact ⟨fun h => Or.inl ⟨hstarts, h⟩, fun h => by
        rcases h with ⟨-, h⟩ | ⟨h, -⟩
        · exact h
        · exact absurd h hpath⟩

/-- `GET /api/` with no backend registered is treated alike. -/
theorem treatedAlike_iff_get :
    ∃ (json : JsonLibrary) (enumerate : Enumeration),
      TreatedAlike json documentedVerbs enumerate BackendRegistry.empty
          ⟨bytes "GET", bytes "/api/", []⟩ 1 ()
        ↔ (¬ bytes "/proxy/register" <+: bytes "/api/"
            ∧ (HasBackend BackendRegistry.empty (bytes "/api/") →
              HttpClient.Accepts documentedVerbs (bytes "GET") []))
          ∨ (bytes "/api/" = bytes "/proxy/register"
            ∧ (bytes "GET" = bytes "POST" ∨ bytes "GET" = bytes "DELETE")) :=
  ⟨⟨fun _ => none, fun _ => []⟩, anyOrder,
    treatedAlike_iff _ _ _ _ ⟨bytes "GET", bytes "/api/", []⟩ _ _ (by decide)⟩

/-- `PUT /proxy/register` with a catch-all backend registered: the HTTP/2 handler has no
route for it, the HTTP/1.1 session forwards it to the backend, and neither answers the
405 the documentation promises. -/
theorem put_registration_not_alike :
    ∃ (json : JsonLibrary) (enumerate : Enumeration),
      http2Status (http2 json documentedVerbs enumerate BackendRegistry.catchAll
          ⟨bytes "PUT", bytes "/proxy/register", []⟩ 1 ()) = some 404
        ∧ Disposition.ofHttp1 (http1 json enumerate BackendRegistry.catchAll
            ⟨bytes "PUT", bytes "/proxy/register", []⟩)
          = .forward BackendRegistry.catchAllRule.target_host
              (toDecimal BackendRegistry.catchAllRule.target_port)
        ∧ ¬ TreatedAlike json documentedVerbs enumerate BackendRegistry.catchAll
          ⟨bytes "PUT", bytes "/proxy/register", []⟩ 1 () := by
  have hmethod : ¬ (bytes "PUT" = bytes "POST" ∨ bytes "PUT" = bytes "DELETE") := by decide
  have hlookup : ForwardingHandler.lookup anyOrder
      (World.serving (S := Unit) BackendRegistry.catchAll) (bytes "/proxy/register")
        = some BackendRegistry.catchAllRule :=
    BackendRegistry.find_backend_catchAll _ ⟨bytes "proxy/register", by decide⟩
  refine ⟨⟨fun _ => none, fun _ => []⟩, anyOrder, rfl, ?_,
    not_treatedAlike_of_other_method _ _ _ _ _ _ _ _ hmethod⟩
  rw [http1_of_forwarded _ _ _ _ fun h => hmethod h.2, hlookup]
  rfl

end FrontEnds

end Http2Server
