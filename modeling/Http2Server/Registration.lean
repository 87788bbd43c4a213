/-
What a registration puts into the routing table, and what it is asked for.

Both front ends do with the body of a POST or DELETE what `requested` says of it
(`FrontEnds.http2Registration_eq`, `FrontEnds.http1Registration_eq`), so this file
reasons about bodies.

* `portKept_iff` -- the port of a body is converted to an `int` by a plain cast and no
  range is checked, so a stored port is the body's for some bodies only: for these.
* `registration_round_trip` -- what either client prints, either front end reads back: the
  backend a client registers is the one stored, and the one it unregisters is removed.
-/
import Http2Server.FrontEnds
import Http2Server.ForwardingClient

set_option autoImplicit false

open ByteString UnorderedMap

namespace Http2Server

namespace Registration

open ProxyRequestHandler FrontEnds

variable {S : Type}

/-! ## The port of a body -/

/-- The body's field of a given name. -/
def FieldOf (json : JsonLibrary) (body : Bytes) (key : String) (m : Json) : Prop :=
  ∃ value, json.parse body = some value ∧ value.member key = some m

/-- A port: a number whose value is one of `0..65535`. -/
def IsPort (m : Json) : Prop := ∃ p : ℤ, m.numberValue = some (p : ℚ) ∧ 0 ≤ p ∧ p ≤ 65535

/-- A registration but for the value of its port, which is some number or boolean. -/
def RegistrationWithPort (json : JsonLibrary) (body : Bytes) (m : Json) : Prop :=
  (∀ key ∈ ["backend_id", "host", "path_pattern"], ∃ s, FieldOf json body key (.string s))
    ∧ FieldOf json body "port" m ∧ (m.numberValue.isSome ∨ ∃ b, m = .boolean b)

/-- **The port is kept.** A POST answered 200 has stored, under the body's `backend_id`, a
rule whose port is the mathematical value of the body's, and one of `0..65535`; and a body
with any other port is answered 400. -/
def PortKept (json : JsonLibrary) (body : Bytes) (answer : Option (ℤ × BackendRegistry)) : Prop :=
  ∃ status registry', answer = some (status, registry')
    ∧ (status = 200 → ∃ (m : Json) (backend_id : String) (rule : ForwardingRule),
        FieldOf json body "port" m ∧ FieldOf json body "backend_id" (.string backend_id)
          ∧ registry'.backends_.lookup (bytes backend_id) = some rule
          ∧ m.numberValue = some (rule.target_port : ℚ)
          ∧ 0 ≤ rule.target_port ∧ rule.target_port ≤ 65535)
    ∧ ∀ m, FieldOf json body "port" m → ¬ IsPort m → status = 400

theorem FieldOf.unique {json : JsonLibrary} {body : Bytes} {key : String} {m m' : Json}
    (h : FieldOf json body key m) (h' : FieldOf json body key m') : m = m' := by
  obtain ⟨value, hparse, hm⟩ := h
  obtain ⟨value', hparse', hm'⟩ := h'
  obtain rfl := Option.some.inj (hparse.symm.trans hparse')
  exact Option.some.inj (hm.symm.trans hm')

/-- A body that is a registration but for its port is taken for one. -/
theorem exists_requested {json : JsonLibrary} {body : Bytes} {m : Json}
    (h : RegistrationWithPort json body m) :
    ∃ call, requested json (bytes "POST") body = some call := by
  obtain ⟨hstrings, ⟨value, hparse, hport⟩, hm⟩ := h
  -- the fields are all of the one value the body parses to
  have hstring : ∀ key ∈ ["backend_id", "host", "path_pattern"],
      ∃ s, value.member key = some (.string s) := by
    intro key hkey
    obtain ⟨s, value', hparse', hs⟩ := hstrings key hkey
    obtain rfl := Option.some.inj (hparse.symm.trans hparse')
    exact ⟨s, hs⟩
  obtain ⟨backend_id, hid⟩ := hstring "backend_id" (by simp)
  obtain ⟨host, hhost⟩ := hstring "host" (by simp)
  obtain ⟨path_pattern, hpattern⟩ := hstring "path_pattern" (by simp)
  obtain ⟨port, hconverts⟩ := (Json.exists_toInt_iff m).mpr hm
  refine ⟨.register_backend (bytes backend_id) (bytes host) port (bytes path_pattern), ?_⟩
  simp only [requested, if_true, registrationOf, hparse, bind, Option.bind, hid, hhost, hport,
    hpattern, hconverts]

/-- What is taken for a registration is one with some port, which is stored as it converts. -/
theorem registrationWithPort_of_requested {json : JsonLibrary} {body : Bytes}
    {call : RegistryCall} (h : requested json (bytes "POST") body = some call) :
    ∃ (m : Json) (backend_id host : String) (port : ℤ) (path_pattern : String),
      RegistrationWithPort json body m ∧ m.toInt = .ok port
        ∧ FieldOf json body "backend_id" (.string backend_id)
        ∧ call = .register_backend (bytes backend_id) (bytes host) port (bytes path_pattern) := by
  rw [requested, if_pos rfl] at h
  obtain ⟨value, backend_id, host, m, port, path_pattern, hparse, hid, hhost, hport, hm, hpattern,
    rfl⟩ := registrationOf_eq_some h
  refine ⟨m, backend_id, host, port, path_pattern, ⟨?_, ⟨value, hparse, hport⟩,
    (Json.exists_toInt_iff m).mp ⟨port, hm⟩⟩, hm, ⟨value, hparse, hid⟩, rfl⟩
  rw [List.forall_mem_cons, List.forall_mem_cons, List.forall_mem_singleton]
  exact ⟨⟨backend_id, value, hparse, hid⟩, ⟨host, value, hparse, hhost⟩, path_pattern, value,
    hparse, hpattern⟩

/-- **When a port is kept**: when the body is no registration whatever its port, or its
port is one. -/
theorem portKept_requested_iff (json : JsonLibrary) (registry : BackendRegistry) (body : Bytes) :
    PortKept json body (match requested json (bytes "POST") body with
        | some call => some (200, call.apply registry)
        | none => some (400, registry))
      ↔ ∀ m, RegistrationWithPort json body m → IsPort m := by
  constructor
  · rintro ⟨status, registry', hanswer, -, hrefused⟩ m hm
    obtain ⟨call, hcall⟩ := exists_requested hm
    obtain ⟨rfl, -⟩ : 200 = status ∧ call.apply registry = registry' := by
      simpa [hcall] using hanswer
    -- it is answered 200, so its port is not one to be refused
    by_contra hport
    exact absurd (hrefused m hm.2.1 hport) (by decide)
  · intro h
    rcases hrequested : requested json (bytes "POST") body with _ | call
    · exact ⟨400, registry, rfl, fun hstatus => absurd hstatus (by decide), fun _ _ _ => rfl⟩
    · obtain ⟨m, backend_id, host, port, path_pattern, hm, hconverts, hid, rfl⟩ :=
        registrationWithPort_of_requested hrequested
      obtain ⟨p, hp, hpos, hle⟩ := h m hm
      -- a port is far within the range of an `int`, so the cast does nothing to it
      obtain rfl : p = port := by
        rw [Json.toInt_of_numberValue hp, Json.castInt_of_int (by omega) (by omega)] at hconverts
        exact Except.ok.inj hconverts
      refine ⟨200, _, rfl, fun _ => ⟨m, backend_id, _, hm.2.1, hid,
        BackendRegistry.lookup_register_backend_self _ _ _ _ _, hp, hpos, hle⟩, ?_⟩
      intro m' hm' hport
      rw [hm'.unique hm.2.1] at hport
      exact absurd (h m hm) hport

/-- **The port a registration stores** is the body's, through either front end, exactly
for the bodies that are no registration whatever their port, and those whose port is
one. -/
theorem portKept_iff (json : JsonLibrary) (enumerate : Enumeration) (registry : BackendRegistry)
    (body : Bytes) (stream_id : StreamId) (sender : S) :
    (PortKept json body (http2Registration json registry (bytes "POST") body stream_id sender)
        ∧ PortKept json body (http1Registration json enumerate registry (bytes "POST") body))
      ↔ ∀ m, RegistrationWithPort json body m → IsPort m := by
  rw [http2Registration_eq json registry body stream_id sender (Or.inl rfl),
    http1Registration_eq json enumerate registry body (Or.inl rfl), and_self]
  exact portKept_requested_iff json registry body

/-- A registration whose port is `2 ^ 32 + 80`, as text and parsed. -/
def wrappedText : Bytes :=
  bytes "\x7b\"backend_id\":\"api\",\"host\":\"localhost\","
    ++ bytes "\"port\":4294967376,\"path_pattern\":\"/api/\"\x7d"

def wrappedValue : Json :=
  .object [("backend_id", .string "api"), ("host", .string "localhost"),
    ("path_pattern", .string "/api/"), ("port", .number_unsigned 4294967376)]

/-- **A port can be distorted**: of this one both front ends store port 80, and say that it
is registered. -/
theorem wrapped_port_stored :
    ∃ (json : JsonLibrary) (registry' : BackendRegistry) (rule : ForwardingRule),
      json.parse wrappedText = some wrappedValue
        ∧ http2Registration json BackendRegistry.empty (bytes "POST") wrappedText 1 ()
          = some (200, registry')
        ∧ http1Registration json anyOrder BackendRegistry.empty (bytes "POST") wrappedText
          = some (200, registry')
        ∧ registry'.backends_.lookup (bytes "api") = some rule ∧ rule.target_port = 80
        ∧ ¬ PortKept json wrappedText (some (200, registry')) := by
  let json : JsonLibrary :=
    ⟨fun text => if text = wrappedText then some wrappedValue else none, fun _ => []⟩
  have hparse : json.parse wrappedText = some wrappedValue := by simp only [json, if_true]
  have hrequested : requested json (bytes "POST") wrappedText
      = some (.register_backend (bytes "api") (bytes "localhost") 80 (bytes "/api/")) := by
    rw [requested, if_pos rfl, registrationOf, hparse]
    rfl
  have hport : FieldOf json wrappedText "port" (.number_unsigned 4294967376) :=
    ⟨wrappedValue, hparse, rfl⟩
  have hlarge : ¬ IsPort (.number_unsigned 4294967376) := by
    rintro ⟨p, hp, -, hle⟩
    have hvalue : (4294967376 : ℤ) = p := by exact_mod_cast Option.some.inj hp
    omega
  refine ⟨json, _, ⟨bytes "api", bytes "localhost", 80, bytes "/api/"⟩, hparse, ?_, ?_,
    BackendRegistry.lookup_register_backend_self BackendRegistry.empty _ _ _ _, rfl, ?_⟩
  · rw [http2Registration_eq json _ _ _ _ (Or.inl rfl), hrequested]
    rfl
  · rw [http1Registration_eq json _ _ _ (Or.inl rfl), hrequested]
    rfl
  · rintro ⟨status, registry', hanswer, -, hrefused⟩
    obtain ⟨rfl, -⟩ := Prod.mk.inj (Option.some.inj hanswer)
    exact absurd (hrefused _ hport hlarge) (by decide)

/-! ## The clients' bodies -/

/-- The body of a registration, as either client builds it. -/
inductive RegistrationBody (json : JsonLibrary) (request : RegistrationRequest) (body : Bytes) :
    Prop
  | proxy_client (h : ProxyClient.register_backend.body json request = body)
  | forwarding_client (config : TunnelConfig) (h : ForwardingClient.request config = some request)
      (hbody : ForwardingClient.register_with_server.body json config = .ok body)

/-- The body of an unregistration. -/
inductive UnregistrationBody (json : JsonLibrary) (backend_id : String) (body : Bytes) : Prop
  | proxy_client (h : ProxyClient.unregister_backend.body json backend_id = body)
  | forwarding_client (config : TunnelConfig) (h : config.tunnel_id = bytes backend_id)
      (hbody : ForwardingClient.unregister_from_server.body json config = .ok body)

/-- Both clients print the same value of a registration. -/
theorem RegistrationBody.eq_dump {json : JsonLibrary} {request : RegistrationRequest}
    {body : Bytes} (h : RegistrationBody json request body) :
    body = json.dump (ProxyClient.register_backend.registration_data request) := by
  cases h with
  | proxy_client hbody => exact hbody.symm
  | forwarding_client config hrequest hbody =>
      rw [ForwardingClient.register_with_server_body json hrequest] at hbody
      exact (Except.ok.inj hbody).symm

/-- Both clients print the same value of an unregistration. -/
theorem UnregistrationBody.eq_dump {json : JsonLibrary} {backend_id : String} {body : Bytes}
    (h : UnregistrationBody json backend_id body) :
    body = json.dump (ProxyClient.unregister_backend.unregistration_data backend_id) := by
  cases h with
  | proxy_client hbody => exact hbody.symm
  | forwarding_client config hid hbody =>
      have htext : utf8 config.tunnel_id = some backend_id := by rw [hid, utf8_bytes]
      rw [ForwardingClient.unregister_from_server_body json htext] at hbody
      exact (Except.ok.inj hbody).symm

/-- The rule a client asks for. -/
def ruleOf (request : RegistrationRequest) : ForwardingRule where
  backend_id := bytes request.backend_id
  target_host := bytes request.host
  target_port := request.port.toInt
  path_pattern := bytes request.path_pattern

/-- Both front ends answer a request on the registration path with a status, and leave a
table. -/
def Answered (S : Type) (json : JsonLibrary) (registry : BackendRegistry) (method body : Bytes)
    (status : ℤ) (registry' : BackendRegistry) : Prop :=
  (∀ (stream_id : StreamId) (sender : S),
      http2Registration json registry method body stream_id sender = some (status, registry'))
    ∧ ∀ enumerate, http1Registration json enumerate registry method body = some (status, registry')

/-- What a body asks for is done by both front ends. -/
theorem answered_of_requested {json : JsonLibrary} (registry : BackendRegistry)
    {method body : Bytes} {call : RegistryCall}
    (hmethod : method = bytes "POST" ∨ method = bytes "DELETE")
    (h : requested json method body = some call) :
    Answered S json registry method body 200 (call.apply registry) := by
  constructor
  · intro stream_id sender
    rw [http2Registration_eq json registry body stream_id sender hmethod, h]
  · intro enumerate
    rw [http1Registration_eq json enumerate registry body hmethod, h]

/-- A registration is read back as it was printed: equal values have equal fields, and a
port that is an `int` converts to itself. -/
theorem requested_registrationBody {json : JsonLibrary} {request : RegistrationRequest}
    {body : Bytes} (hbody : RegistrationBody json request body)
    (hjson : json.Undoes (ProxyClient.register_backend.registration_data request)) :
    requested json (bytes "POST") body
      = some (.registering (ruleOf request)) := by
  obtain ⟨value, hparse, hequal⟩ := hjson
  rw [← hbody.eq_dump] at hparse
  have hstring : ∀ (key : String) {s : String},
      (ProxyClient.register_backend.registration_data request).member key = some (.string s) →
        value.member key = some (.string s) := by
    intro key s hs
    obtain ⟨m, hm, hms⟩ := hequal.exists_member key hs
    rw [hm, hms.eq_string]
  obtain ⟨port, hport, hportEqual⟩ := hequal.exists_member "port"
    (m := .number_integer request.port.toInt) rfl
  have hconverts : port.toInt = .ok request.port.toInt := by
    rw [Json.toInt_of_numberValue (hportEqual.numberValue_eq rfl),
      Json.castInt_of_int request.port.le_toInt request.port.toInt_lt]
  simp only [requested, if_true, registrationOf, hparse, bind, Option.bind,
    hstring "backend_id" rfl, hstring "host" rfl, hstring "path_pattern" rfl, hport, hconverts]
  rfl

/-- An unregistration is read back as it was printed. -/
theorem requested_unregistrationBody {json : JsonLibrary} {backend_id : String} {body : Bytes}
    (hbody : UnregistrationBody json backend_id body)
    (hjson : json.Undoes (ProxyClient.unregister_backend.unregistration_data backend_id)) :
    requested json (bytes "DELETE") body = some (.unregister_backend (bytes backend_id)) := by
  obtain ⟨value, hparse, hequal⟩ := hjson
  rw [← hbody.eq_dump] at hparse
  obtain ⟨m, hm, hid⟩ := hequal.exists_member "backend_id" (m := .string backend_id) rfl
  have hdelete : ¬ bytes "DELETE" = bytes "POST" := by decide
  simp only [requested, hdelete, if_false, if_true, unregistrationOf, hparse, bind, Option.bind,
    hm, hid.eq_string]

/-! ## The round trip -/

/-- **Clients and front ends agree on the format.** What either client prints of a
registration is answered 200 by both front ends, and stores the rule that was asked for
beside what the table holds; what it prints of the unregistration is answered 200 too, and
removes that entry from whatever the table holds by then; and the two together leave a
table that did not have the id as it was. -/
theorem registration_round_trip (json : JsonLibrary) (registry : BackendRegistry)
    (request : RegistrationRequest) (body body' : Bytes)
    (hbody : RegistrationBody json request body)
    (hbody' : UnregistrationBody json request.backend_id body')
    (hjson : json.Undoes (ProxyClient.register_backend.registration_data request))
    (hjson' : json.Undoes
      (ProxyClient.unregister_backend.unregistration_data request.backend_id)) :
    Answered S json registry (bytes "POST") body 200
        ⟨registry.backends_.insert (bytes request.backend_id) (ruleOf request)⟩
      ∧ (∀ later : BackendRegistry, Answered S json later (bytes "DELETE") body' 200
          ⟨later.backends_.erase (bytes request.backend_id)⟩)
      ∧ (registry.backends_.lookup (bytes request.backend_id) = none →
          (registry.backends_.insert (bytes request.backend_id) (ruleOf request)).erase
            (bytes request.backend_id) = registry.backends_) := by
  refine ⟨?_, fun later => ?_, fun hnew => erase_insert_of_lookup_eq_none hnew _⟩
  · exact answered_of_requested registry (Or.inl rfl) (requested_registrationBody hbody hjson)
  · have hanswered := answered_of_requested (S := S) later (Or.inr rfl)
      (requested_unregistrationBody hbody' hjson')
    have herase : RegistryCall.apply later (.unregister_backend (bytes request.backend_id))
        = ⟨later.backends_.erase (bytes request.backend_id)⟩ :=
      congrArg BackendRegistry.mk (BackendRegistry.backends_unregister_backend _ _)
    rwa [herase] at hanswered

/-- A backend whose id needs escaping, and the texts of its registration and its
unregistration. -/
def quoted : RegistrationRequest := ⟨"a\"b", "localhost", 3000, "/é/"⟩

def quotedText : Bytes :=
  bytes "\x7b\"backend_id\":\"a\\\"b\",\"host\":\"localhost\","
    ++ bytes "\"path_pattern\":\"/é/\",\"port\":3000\x7d"

def quotedIdText : Bytes := bytes "\x7b\"backend_id\":\"a\\\"b\"\x7d"

/-- The registration as it is read back: members come in the order of their keys, and the
port is unsigned. -/
def quotedValue : Json :=
  .object [("backend_id", .string "a\"b"), ("host", .string "localhost"),
    ("path_pattern", .string "/é/"), ("port", .number_unsigned 3000)]

/-- The text of the HTTP/2 handler's reply to a registration or an unregistration. -/
def quotedReply (message : String) : Bytes :=
  bytes "\x7b\"backend_id\":\"a\\\"b\",\"message\":\"" ++ bytes message
    ++ bytes "\",\"status\":\"success\"\x7d"

/-- A library that prints and parses these as `nlohmann::json` does. -/
def quotedJson : JsonLibrary where
  dump value :=
    match value.member "message" with
    | some (.string message) => quotedReply message
    | _ => if (value.member "port").isSome then quotedText else quotedIdText
  parse text :=
    if text = quotedText then some quotedValue
    else if text = quotedIdText then some (.object [("backend_id", .string "a\"b")])
    else none

theorem quotedJson_undoes_registration :
    quotedJson.Undoes (ProxyClient.register_backend.registration_data quoted) := by
  have hdump : quotedJson.dump (ProxyClient.register_backend.registration_data quoted)
      = quotedText := rfl
  refine ⟨quotedValue, ?_, .object ?_ ?_⟩
  · rw [hdump]
    simp only [quotedJson, if_true]
  · intro key
    simp only [List.lookup_eq_none_iff, List.forall_mem_cons]
    tauto
  · intro key a b ha hb
    obtain ⟨l, l', hmembers, -⟩ := List.lookup_eq_some_iff.mp ha
    have hmem : (key, a) ∈ l ++ (key, a) :: l' := by simp
    rw [← hmembers] at hmem
    simp only [List.mem_cons, Prod.mk.injEq, List.not_mem_nil, or_false] at hmem
    -- one member after the other, each found under its key in the other object
    rcases hmem with ⟨rfl, rfl⟩ | ⟨rfl, rfl⟩ | ⟨rfl, rfl⟩ | ⟨rfl, rfl⟩ <;>
      obtain rfl := Option.some.inj hb
    · exact .string _
    · exact .string _
    · exact .string _
    · exact .number (q := 3000) rfl rfl

theorem quotedJson_undoes_unregistration :
    quotedJson.Undoes (ProxyClient.unregister_backend.unregistration_data quoted.backend_id) := by
  have hdump : quotedJson.dump
      (ProxyClient.unregister_backend.unregistration_data quoted.backend_id) = quotedIdText := rfl
  have hne : quotedIdText ≠ quotedText := by decide
  refine ⟨.object [("backend_id", .string "a\"b")], ?_, .object (fun key => Iff.rfl) ?_⟩
  · rw [hdump]
    simp only [quotedJson, hne, if_false, if_true]
  · intro key a b ha hb
    obtain rfl := Option.some.inj (ha.symm.trans hb)
    obtain ⟨l, l', hmembers, -⟩ := List.lookup_eq_some_iff.mp ha
    have hmem : (key, a) ∈ l ++ (key, a) :: l' := by simp
    rw [← hmembers, List.mem_singleton] at hmem
    obtain ⟨rfl, rfl⟩ := Prod.mk.inj hmem
    exact .string _

/-- The tunnel client's configuration of the same registration. -/
def quotedTunnel : TunnelConfig where
  tunnel_id := bytes "a\"b"

/-- The library registers it, and the tunnel client unregisters it, with a fresh table. -/
theorem registration_round_trip_quoted :
    Answered Unit quotedJson BackendRegistry.empty (bytes "POST")
        (ProxyClient.register_backend.body quotedJson quoted) 200
        ⟨BackendRegistry.empty.backends_.insert (bytes "a\"b") (ruleOf quoted)⟩
      ∧ (∀ later : BackendRegistry, Answered Unit quotedJson later (bytes "DELETE") quotedIdText 200
          ⟨later.backends_.erase (bytes "a\"b")⟩)
      ∧ (BackendRegistry.empty.backends_.lookup (bytes "a\"b") = none →
          (BackendRegistry.empty.backends_.insert (bytes "a\"b") (ruleOf quoted)).erase
            (bytes "a\"b") = BackendRegistry.empty.backends_) :=
  registration_round_trip quotedJson BackendRegistry.empty quoted _ quotedIdText (.proxy_client rfl)
    (.forwarding_client quotedTunnel rfl
      (ForwardingClient.unregister_from_server_body quotedJson (utf8_bytes "a\"b")))
    quotedJson_undoes_registration quotedJson_undoes_unregistration

end Registration

end Http2Server
