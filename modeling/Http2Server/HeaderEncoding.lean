/-
What nghttp2 reads of the headers it is given.

Both sides of the repository make their headers with `make_nv_ls`, and two things can be lost
on the way. The length of a value is narrowed to sixteen bits, so a method, a path, an
authority or a content type of `2^16` bytes or more is cut. And an `nghttp2_nv` only points
to its value: the content type of a request is a literal, and the string made of it is gone
before the request is submitted. `headers_kept_iff` says when nothing is lost: when the values
are shorter than that, and the request has no body, and so no content type.
-/
import Http2Server.Http2Client
import Http2Server.SessionResponse

set_option autoImplicit false

open ByteString

namespace Http2Server

namespace HeaderEncoding

variable {C : Type}

/-! ## What is to be read -/

/-- The authority of a host and a port, which is left out when it is the default or none. -/
def authority (host : Bytes) (port : ℤ) : Bytes :=
  if port = 80 ∨ port = 0 then host else host ++ bytes ":" ++ toDecimal port

/-- The headers of a request, as pairs. -/
def requestFields (host : Bytes) (port : ℤ) (method path body : Bytes) : List (Bytes × Bytes) :=
  [(bytes ":method", method), (bytes ":path", path), (bytes ":scheme", bytes "http"),
    (bytes ":authority", authority host port)]
  ++ if body = [] then []
    else [(bytes "content-length", decimal body.length),
      (bytes "content-type", bytes "application/json")]

/-- The headers of a response. -/
def responseFields (response : HttpResponse) : List (Bytes × Bytes) :=
  [(bytes ":status", toDecimal response.status_code)]
  ++ if response.body = [] then []
    else [(bytes "content-type", response.content_type),
      (bytes "content-length", decimal response.body.length)]

/-- What `send_http2_request` submits for a request, on the session just set up. -/
def submittedHeaders (client : Http2Client C) (method path body : Bytes) (callback : C) :
    Option (List nghttp2_nv) :=
  (client.setup_nghttp2_client.send_http2_request method path body callback true).2.map Prod.snd

/-- **The lengths of a request's headers lose nothing**: the strings the headers were made
of, cut to the lengths stored, are the request's. -/
def RequestEncoded (client : Http2Client C) (method path body : Bytes) (callback : C) : Prop :=
  (submittedHeaders client method path body callback).map (List.map nghttp2_nv.readBack)
    = some (requestFields client.current_host_ client.current_port_ method path body)

/-- **The headers of a request are kept**: nghttp2 reads what the request was made of. -/
def RequestKept (client : Http2Client C) (method path body : Bytes) (callback : C) : Prop :=
  (submittedHeaders client method path body callback).bind (List.mapM nghttp2_nv.read)
    = some (requestFields client.current_host_ client.current_port_ method path body)

/-- **The headers of a response are kept.** -/
def ResponseKept (stream_id : StreamId) (response : HttpResponse) : Prop :=
  (Session.send_response stream_id response).headers.mapM nghttp2_nv.read
    = some (responseFields response)

/-! ## Requests -/

theorem authority_eq (host : Bytes) (port : ℤ) :
    Http2Client.authority host port = authority host port := by
  rw [Http2Client.authority, authority]
  by_cases hport : port = 80 ∨ port = 0
  · rw [if_pos hport, if_neg fun h => hport.elim h.1 h.2]
  · rw [if_neg hport, if_pos (not_or.mp hport), List.append_assoc]

/-- The headers submitted are those of the client's host and port. -/
theorem submittedHeaders_eq (client : Http2Client C) (method path body : Bytes) (callback : C) :
    submittedHeaders client method path body callback
      = some (Http2Client.requestHeaders client.current_host_ client.current_port_ method path
          body) := by
  by_cases hbody : body = []
  · subst hbody
    rfl
  · simp only [submittedHeaders, Http2Client.send_http2_request,
      Http2Client.send_http2_request.provide, ne_eq, hbody, not_false_eq_true, if_true,
      Http2Client.setup_nghttp2_client, Option.map_some]

/-- Cut to their lengths, they are the request's fields made into headers and cut to theirs. -/
theorem map_readBack_requestHeaders (host : Bytes) (port : ℤ) (method path body : Bytes) :
    (Http2Client.requestHeaders host port method path body).map nghttp2_nv.readBack
      = ((requestFields host port method path body).map
          fun field => make_nv_ls field.1 field.2).map nghttp2_nv.readBack := by
  rw [Http2Client.requestHeaders, requestFields, ← authority_eq]
  by_cases hbody : body = []
  · rw [if_neg (not_not.mpr hbody), if_pos hbody]
    rfl
  · rw [if_pos hbody, if_neg hbody]
    rfl

/-- Only the content type is made of a string that does not live. -/
theorem requestHeaders_live_iff (host : Bytes) (port : ℤ) (method path body : Bytes) :
    (∀ nv ∈ Http2Client.requestHeaders host port method path body, nv.value_lives = true)
      ↔ body = [] := by
  rw [Http2Client.requestHeaders]
  by_cases hbody : body = []
  · simp [hbody, make_nv_ls]
  · simp [hbody, make_nv_ls, make_nv_ls_temporary]

/-- The names of a request's fields are short. -/
theorem requestFields_names (host : Bytes) (port : ℤ) (method path body : Bytes) :
    ∀ field ∈ requestFields host port method path body, field.1.length < 2 ^ 16 := by
  have hnames : ∀ name ∈ [":method", ":path", ":scheme", ":authority", "content-length",
      "content-type"], (bytes name).length < 2 ^ 16 := by decide
  simp only [List.forall_mem_cons] at hnames
  obtain ⟨hmethod, hpath, hscheme, hauthority, hlength, htype, -⟩ := hnames
  intro field hfield
  rw [requestFields, List.mem_append] at hfield
  split_ifs at hfield <;> simp only [List.mem_cons, List.not_mem_nil, or_false] at hfield
  · obtain rfl | rfl | rfl | rfl := hfield <;> assumption
  · obtain (rfl | rfl | rfl | rfl) | rfl | rfl := hfield <;> assumption

/-- The values of a request's fields are short when those that it is given are. -/
theorem requestFields_values_iff (host : Bytes) (port : ℤ) (method path : Bytes) {body : Bytes}
    (hbody : body.length < 2 ^ 64) :
    (∀ field ∈ requestFields host port method path body, field.2.length < 2 ^ 16)
      ↔ method.length < 2 ^ 16 ∧ path.length < 2 ^ 16 ∧ (authority host port).length < 2 ^ 16 := by
  have hscheme : (bytes "http").length < 2 ^ 16 := by decide
  have htype : (bytes "application/json").length < 2 ^ 16 := by decide
  have hlength : (decimal body.length).length < 2 ^ 16 := by
    have := length_decimal_le hbody
    omega
  rw [requestFields]
  split_ifs
  · simp [-Nat.reducePow, hscheme]
  · simp [-Nat.reducePow, hscheme, hlength, htype]

/-- **When the lengths of a request's headers lose nothing.** -/
theorem requestEncoded_iff (client : Http2Client C) (method path : Bytes) {body : Bytes}
    (callback : C) (hbody : body.length < 2 ^ 64) :
    RequestEncoded client method path body callback
      ↔ method.length < 2 ^ 16 ∧ path.length < 2 ^ 16
        ∧ (authority client.current_host_ client.current_port_).length < 2 ^ 16 := by
  rw [RequestEncoded, submittedHeaders_eq, Option.map_some, Option.some.injEq,
    map_readBack_requestHeaders, map_readBack_eq_iff (requestFields_names _ _ _ _ _),
    requestFields_values_iff _ _ _ _ hbody]

/-- **The headers of a request are kept** when their lengths are and their strings live. -/
theorem requestKept_iff_encoded (client : Http2Client C) (method path body : Bytes)
    (callback : C) :
    RequestKept client method path body callback
      ↔ body = [] ∧ RequestEncoded client method path body callback := by
  rw [RequestKept, RequestEncoded, submittedHeaders_eq, Option.bind_some, Option.map_some,
    Option.some.injEq, mapM_read_eq_some_iff, requestHeaders_live_iff]

/-! ## Responses -/

/-- The headers of a response are its fields made into headers. -/
theorem headers_of_send_response (stream_id : StreamId) (response : HttpResponse) :
    (Session.send_response stream_id response).headers
      = (responseFields response).map fun field => make_nv_ls field.1 field.2 := by
  rw [Session.send_response, responseFields]
  split_ifs <;> rfl

/-- The strings of a response's headers live until they are submitted. -/
theorem responseHeaders_live (fields : List (Bytes × Bytes)) :
    ∀ nv ∈ fields.map fun field => make_nv_ls field.1 field.2, nv.value_lives = true := by
  rw [List.forall_mem_map]
  exact fun _ _ => rfl

theorem responseFields_names (response : HttpResponse) :
    ∀ field ∈ responseFields response, field.1.length < 2 ^ 16 := by
  have hstatus : (bytes ":status").length < 2 ^ 16 := by decide
  have htype : (bytes "content-type").length < 2 ^ 16 := by decide
  have hlength : (bytes "content-length").length < 2 ^ 16 := by decide
  rw [responseFields]
  split_ifs
  · simp [-Nat.reducePow, hstatus]
  · simp [-Nat.reducePow, hstatus, htype, hlength]

/-- **When the headers of a response are kept.** -/
theorem responseKept_iff (stream_id : StreamId) {response : HttpResponse}
    (hstatus : response.status_code.natAbs < 2 ^ 64) (hbody : response.body.length < 2 ^ 64) :
    ResponseKept stream_id response
      ↔ (response.body ≠ [] → response.content_type.length < 2 ^ 16) := by
  have hcode : (toDecimal response.status_code).length < 2 ^ 16 := by
    have := length_toDecimal_le hstatus
    omega
  have hlength : (decimal response.body.length).length < 2 ^ 16 := by
    have := length_decimal_le hbody
    omega
  rw [ResponseKept, headers_of_send_response, mapM_read_eq_some_iff,
    map_readBack_eq_iff (responseFields_names response),
    and_iff_right (responseHeaders_live _), responseFields]
  split_ifs with hnone
  · simp [-Nat.reducePow, hcode, hnone]
  · simp [-Nat.reducePow, hcode, hlength, hnone]

/-! ## When nothing is lost -/

/-- **Nothing is lost of the headers** of a request exactly when its method, path and authority
are shorter than `2^16` bytes and it has no body; with a body its content type is lost, though
the lengths stored are right. Nothing is lost of those of a response exactly when its content
type, if it has a body, is shorter. -/
theorem headers_kept_iff (client : Http2Client C) (method path body : Bytes)
    (callback : C) (stream_id : StreamId) (response : HttpResponse)
    (hbody : body.length < 2 ^ 64) (hstatus : response.status_code.natAbs < 2 ^ 64)
    (hresponse : response.body.length < 2 ^ 64) :
    (RequestEncoded client method path body callback
      ↔ method.length < 2 ^ 16 ∧ path.length < 2 ^ 16
        ∧ (authority client.current_host_ client.current_port_).length < 2 ^ 16)
    ∧ (RequestKept client method path body callback
      ↔ body = [] ∧ method.length < 2 ^ 16 ∧ path.length < 2 ^ 16
        ∧ (authority client.current_host_ client.current_port_).length < 2 ^ 16)
    ∧ (ResponseKept stream_id response
      ↔ (response.body ≠ [] → response.content_type.length < 2 ^ 16)) := by
  have hencoded := requestEncoded_iff client method path callback hbody
  refine ⟨hencoded, ?_, responseKept_iff stream_id hstatus hresponse⟩
  rw [requestKept_iff_encoded, hencoded]

/-- A request and a response of which nothing is lost. -/
theorem headers_kept_iff_short :
    RequestKept ({ current_host_ := bytes "a", current_port_ := 8080 } : Http2Client ℕ)
        (bytes "GET") (bytes "/x") [] 0
      ∧ ResponseKept 1 { status_code := 404, body := bytes "no" } := by
  have hkept := headers_kept_iff
    ({ current_host_ := bytes "a", current_port_ := 8080 } : Http2Client ℕ) (bytes "GET")
    (bytes "/x") [] 0 1 { status_code := 404, body := bytes "no" } (by decide) (by decide)
    (by decide)
  exact ⟨hkept.2.1.mpr (by decide), hkept.2.2.mpr (by decide)⟩

/-- A path of `2^16` bytes is read back as none, and so is a content type; the content type of
a request with a body is not there to be read, its lengths aside. -/
theorem long_path_and_body_lost :
    ¬ RequestEncoded ({ current_host_ := bytes "a", current_port_ := 80 } : Http2Client ℕ)
        (bytes "GET") (List.replicate 65536 0x61) [] 0
      ∧ (make_nv_ls (bytes ":path") (List.replicate 65536 0x61)).readBack = (bytes ":path", [])
      ∧ RequestEncoded ({ current_host_ := bytes "a", current_port_ := 80 } : Http2Client ℕ)
        (bytes "POST") (bytes "/x") (bytes "\x7b\x7d") 0
      ∧ ¬ RequestKept ({ current_host_ := bytes "a", current_port_ := 80 } : Http2Client ℕ)
        (bytes "POST") (bytes "/x") (bytes "\x7b\x7d") 0
      ∧ ¬ ResponseKept 1
        { body := bytes "x", content_type := List.replicate 65536 0x61 } := by
  have hlong : ¬ (List.replicate 65536 (0x61 : UInt8)).length < 2 ^ 16 := by
    rw [List.length_replicate]
    norm_num
  refine ⟨?_, ?_, ?_, ?_, ?_⟩
  · rw [requestEncoded_iff _ _ _ _ (by decide)]
    exact fun h => hlong h.2.1
  · rw [nghttp2_nv.readBack, make_nv_ls, uint16, uint16, List.length_replicate]
    rfl
  · rw [requestEncoded_iff _ _ _ _ (by decide)]
    decide
  · rw [requestKept_iff_encoded]
    exact fun h => absurd h.1 (by decide)
  · rw [responseKept_iff _ (by decide) (by decide)]
    exact fun h => hlong (h (by decide))

end HeaderEncoding

end Http2Server
