/-
The two forwarding paths, side by side.

A request is forwarded to its backend by one of two pieces of code: `HttpClient` with
the lambda of `forward_request` for a request that came over HTTP/2, and
`Http1ProxySession::forward_to_backend` for one that came over HTTP/1.1. Two questions
follow: whether a client gets the same answer by either, and whether either says of a
backend that can be reached that it cannot.

* `sameAnswer_iff` -- one path relays the message it has read, the other rebuilds it
  through a `ProxyResponse`, an `HttpResponse` and an nghttp2 header list, and what is
  lost on the way is the content type.
* `neverUnreachable_iff` -- both try the first endpoint a host resolves to and no other,
  where `Http2Client` hands them all to a range connect. That is Boost.Asio's and a
  parameter here, of which `RangeConnect` says what is relied on.
-/
import Http2Server.Http1Session
import Http2Server.SessionResponse
import Http2Server.Http2Client

set_option autoImplicit false

open ByteString

namespace Http2Server

namespace ForwardingPaths

/-! ## What a client gets of a response -/

/-- A response as a client sees it: its status, the values of its `content-type` fields,
and its body, if it gets one. -/
structure Answer where
  status : Option ℤ
  content_type : List Bytes
  body : Option Bytes
  deriving DecidableEq, Repr

/-- The values of the fields of a name. Letter case is no part of a name. -/
def fieldValues (name : Bytes) (fields : List (Bytes × Bytes)) : List Bytes :=
  (fields.filter fun field => lowercase field.1 = name).map Prod.snd

/-- A response written to an HTTP/1.1 client. -/
def answerOfMessage (response : HttpMessage) : Answer where
  status := some response.result_int
  content_type := fieldValues (bytes "content-type") response.fields
  body := some response.body

/-- A response submitted on an HTTP/2 stream, its body read under a schedule of calls. -/
def answerOfSubmission (submission : Submission) (schedule : List Session.Pull) : Answer :=
  let headers := submission.headers.map nghttp2_nv.readBack
  { status := (headers.lookup (bytes ":status")).bind stoi
    content_type := fieldValues (bytes "content-type") headers
    body := Session.produced submission schedule }

section Paths

variable {S : Type}

/-- What an HTTP/2 client gets when the read of its chain ends with a response. -/
def http2Answers (op : Op (ForwardCallback S)) (response : HttpMessage)
    (schedule : List Session.Pull) : Option (List Answer) := do
  let next ← HttpClient.complete op (.received response)
  some (next.replies.map fun reply =>
    answerOfSubmission (Session.send_response reply.stream_id reply.response) schedule)

/-- What an HTTP/1.1 client gets when the read of its session ends with a response. -/
def http1Answers (json : JsonLibrary) (enumerate : Enumeration) (session : Http1SessionObject)
    (request : ActiveRequest) (w : World Unit) (response : HttpMessage) :
    Option (List Answer) := do
  let (handled, _) ←
    Http1ProxySession.complete json enumerate session request (.received_response response) w
  some ((handled.session.client_writes.drop session.client_writes.length).map answerOfMessage)

/-- The responses the two paths give alike: an empty body without a content type, and a
body that nghttp2 reads whole, of the one content type `send_response` knows. -/
def GivenAlike (response : HttpMessage) (first : Session.Pull) : Prop :=
  (response.body = [] ∧ fieldValues (bytes "content-type") response.fields = [])
    ∨ (response.body ≠ []
      ∧ fieldValues (bytes "content-type") response.fields = [bytes "application/json"]
      ∧ Session.FitsFirstPull { body := response.body } first)

/-! ## What either path makes of a response -/

/-- An HTTP/1.1 session relays the response as it has read it. -/
theorem http1Answers_eq {json : JsonLibrary} {enumerate : Enumeration}
    {session : Http1SessionObject} {request : ActiveRequest} {w : World Unit}
    (hsession : session.pending = some .backend_read) (response : HttpMessage) :
    http1Answers json enumerate session request w response = some [answerOfMessage response] := by
  simp only [http1Answers, Http1ProxySession.complete, Http1SessionObject.record_pending, hsession,
    Http1ProxySession.backend_received, Http1SessionObject.async_write_client_writes,
    Http1SessionObject.record_client_writes, List.drop_left, List.map_cons, List.map_nil, bind,
    Option.bind]

/-- A chain of the shared client submits a response with its status and its body. -/
theorem http2Answers_eq {op : Op (ForwardCallback S)} (hop : op.stage = .read)
    (response : HttpMessage) (schedule : List Session.Pull) :
    http2Answers op response schedule
      = some [answerOfSubmission (Session.send_response op.callback.stream_id
          { status_code := response.result_int, body := response.body }) schedule] := by
  simp only [http2Answers, HttpClient.complete, hop, HttpClient.handle_read, bind, Option.bind]
  rfl

/-- The status submitted is the response's. -/
theorem status_of_send_response {stream_id : StreamId} {response : HttpResponse}
    {schedule : List Session.Pull} (hpos : 0 ≤ response.status_code)
    (hlt : response.status_code < 2 ^ 31) :
    (answerOfSubmission (Session.send_response stream_id response) schedule).status
      = some response.status_code := by
  have hname : (bytes ":status").length < 2 ^ 16 := by decide
  have hstatus : (make_nv_ls (bytes ":status") (toDecimal response.status_code)).readBack
      = (bytes ":status", toDecimal response.status_code) := by
    rw [toDecimal_of_nonneg hpos]
    exact readBack_decimal hname (by omega)
  -- it is the first header, with a body or without
  rw [answerOfSubmission, Session.send_response]
  split_ifs <;>
    simp only [List.cons_append, List.map_cons, hstatus, List.lookup_cons, beq_self_eq_true,
      Option.bind_some, stoi_toDecimal hpos hlt]

/-- The content type submitted is that of an `HttpResponse`, if there is a body. -/
theorem content_type_of_send_response {stream_id : StreamId} {response : HttpResponse}
    {schedule : List Session.Pull} (htype : response.content_type.length < 2 ^ 16) :
    (answerOfSubmission (Session.send_response stream_id response) schedule).content_type
      = if response.body = [] then [] else [response.content_type] := by
  have hname : (bytes "content-type").length < 2 ^ 16 := by decide
  have hstatus : lowercase ((bytes ":status").take (uint16 (bytes ":status").length))
      ≠ bytes "content-type" := by decide
  have hlength : lowercase ((bytes "content-length").take (uint16 (bytes "content-length").length))
      ≠ bytes "content-type" := by decide
  have hlower : lowercase (bytes "content-type") = bytes "content-type" := by decide
  rw [answerOfSubmission, Session.send_response]
  split_ifs with hbody
  · simp [fieldValues, nghttp2_nv.readBack, make_nv_ls, hstatus]
  · simp only [List.cons_append, List.nil_append, List.map_cons, List.map_nil,
      readBack_make_nv_ls hname htype]
    simp [fieldValues, nghttp2_nv.readBack, make_nv_ls, hstatus, hlength, hlower]

/-! ## When the answers are the same -/

/-- **The two paths give the same answer** exactly to a response they give alike. A status
is read as three digits, so it is one that an `int` holds. -/
theorem sameAnswer_iff (json : JsonLibrary) (enumerate : Enumeration)
    (session : Http1SessionObject) (request : ActiveRequest) (w : World Unit)
    (op : Op (ForwardCallback S)) (response : HttpMessage) (first : Session.Pull)
    (rest : List Session.Pull) (hsession : session.pending = some .backend_read)
    (hop : op.stage = .read) (hstatus : 0 ≤ response.result_int ∧ response.result_int < 2 ^ 31) :
    http2Answers op response (first :: rest)
        = http1Answers json enumerate session request w response
      ↔ GivenAlike response first := by
  have htype : (bytes "application/json").length < 2 ^ 16 := by decide
  rw [http2Answers_eq hop, http1Answers_eq hsession, Option.some.injEq, List.cons.injEq,
    and_iff_left rfl, Answer.mk.injEq, status_of_send_response hstatus.1 hstatus.2,
    content_type_of_send_response htype, GivenAlike]
  simp only [answerOfMessage, true_and]
  by_cases hbody : response.body = []
  · -- the headers are submitted alone, and nothing is produced
    have hproduced : (answerOfSubmission (Session.send_response op.callback.stream_id
        { status_code := response.result_int, body := response.body }) (first :: rest)).body
          = some response.body := by
      rw [answerOfSubmission, Session.send_response, if_pos hbody, hbody]
      rfl
    simp only [hbody, if_true, ne_eq, not_true_eq_false, false_and, or_false, true_and]
    rw [← hbody, hproduced, and_iff_left rfl, eq_comm]
  · have hproduced := Session.produced_eq_body_iff op.callback.stream_id
      { status_code := response.result_int, body := response.body } hbody first rest
    simp only [hbody, if_false, ne_eq, not_false_eq_true, false_and, false_or, true_and]
    rw [eq_comm (a := [_])]
    exact and_congr_right fun _ => hproduced

end Paths

/-- A session, and an operation of the shared client, that wait for a backend's response. -/
def awaitingSession : Http1SessionObject := { active_request_ := 0, pending := some .backend_read }

def awaitingOp : Op (ForwardCallback Unit) := ⟨.read, 0, ⟨(), 1⟩⟩

/-- A JSON response, as an API gives it. -/
theorem sameAnswer_iff_json :
    ∃ (json : JsonLibrary) (response : HttpMessage) (first : Session.Pull),
      response.fields ≠ [] ∧ response.body ≠ []
        ∧ http2Answers awaitingOp response [first]
          = http1Answers json UnorderedMap.anyOrder awaitingSession
              { request_id_ := 1, start_time_ := 0 } (World.serving BackendRegistry.empty)
              response := by
  refine ⟨⟨fun _ => none, fun _ => []⟩,
    ⟨200, [(bytes "Content-Type", bytes "application/json")], bytes "[]"⟩,
    ⟨.withinSender, 16384, by decide⟩, by decide, by decide, ?_⟩
  exact (sameAnswer_iff _ _ _ _ _ awaitingOp _ _ [] rfl rfl (by decide)).mpr
    (Or.inr ⟨by decide, by decide, rfl, by decide, by decide⟩)

/-- **The answers can differ**: of a page of HTML, sent whole in one buffer, the HTTP/2
client is told that it is JSON. -/
theorem html_becomes_json :
    ¬ ∀ (json : JsonLibrary) (enumerate : Enumeration) (session : Http1SessionObject)
        (request : ActiveRequest) (w : World Unit) (op : Op (ForwardCallback Unit))
        (response : HttpMessage) (first : Session.Pull) (rest : List Session.Pull),
        session.pending = some .backend_read → op.stage = .read →
        0 ≤ response.result_int ∧ response.result_int < 2 ^ 31 →
        http2Answers op response (first :: rest)
          = http1Answers json enumerate session request w response := by
  intro h
  have hsame := h ⟨fun _ => none, fun _ => []⟩ UnorderedMap.anyOrder awaitingSession
    { request_id_ := 1, start_time_ := 0 } (World.serving BackendRegistry.empty) awaitingOp
    ⟨200, [(bytes "Content-Type", bytes "text/html")], bytes "<p>"⟩
    ⟨.withinSender, 16384, by decide⟩ [] rfl rfl (by decide)
  rw [http2Answers_eq rfl, http1Answers_eq rfl] at hsame
  exact absurd hsame (by decide)

/-! ## Connecting to a backend -/

/-- The endpoints of a resolution, in order. -/
def endpoints (results : Results) : List Endpoint := results.endpoint :: results.others

section Connecting

variable {S : Type} (accepts : Endpoint → Bool) (message : Bytes)
  (async_connect : List Endpoint → Option Bytes)

/-- How the connect of a chain of `HttpClient` completes, when `accepts` says which
endpoints accept a connection. -/
def connectOp (op : Op (ForwardCallback S)) : Option (Next (ForwardCallback S)) :=
  match op.stage with
  | .connect endpoint _ =>
      HttpClient.complete op (if accepts endpoint then .connected else .failed message)
  | _ => none

/-- A chain resolves its host and connects. -/
def resolveOp (op : Op (ForwardCallback S)) (results : Results) :
    Option (Next (ForwardCallback S)) := do
  match ← HttpClient.complete op (.resolved results) with
  | .start op' => connectOp accepts message op'
  | next => some next

/-- The chain has answered its client 502. -/
def HttpClientReports (op : Op (ForwardCallback S)) (results : Results) : Prop :=
  ∃ next, resolveOp accepts message op results = some next
    ∧ ∃ reply ∈ next.replies, reply.response.status_code = 502

/-- How the connect of a session completes. -/
def connectSession (json : JsonLibrary) (enumerate : Enumeration) (session : Http1SessionObject)
    (request : ActiveRequest) (w : World Unit) : Option (Handled × World Unit) :=
  match session.pending with
  | some (.connect endpoint _) =>
      Http1ProxySession.complete json enumerate session request
        (if accepts endpoint then .connected else .failed message) w
  | _ => none

/-- A session resolves its rule's host and connects. -/
def resolveSession (json : JsonLibrary) (enumerate : Enumeration) (session : Http1SessionObject)
    (request : ActiveRequest) (w : World Unit) (results : Results) :
    Option (Handled × World Unit) := do
  let (handled, w) ←
    Http1ProxySession.complete json enumerate session request (.resolved results) w
  connectSession accepts message json enumerate handled.session handled.request w

/-- The session has started to write its client a 502. -/
def Http1SessionReports (json : JsonLibrary) (enumerate : Enumeration)
    (session : Http1SessionObject) (request : ActiveRequest) (w : World Unit)
    (results : Results) : Prop :=
  ∃ handled w', resolveSession accepts message json enumerate session request w results
      = some (handled, w')
    ∧ ∃ response ∈ handled.session.client_writes.drop session.client_writes.length,
        response.result_int = 502

/-- What is relied on of `boost::asio::async_connect` over a range, which ends with an error
or with none: it fails exactly when none of the endpoints accepts. -/
structure RangeConnect : Prop where
  fails_iff (endpoints : List Endpoint) :
    (async_connect endpoints).isSome ↔ ∀ endpoint ∈ endpoints, accepts endpoint = false

/-- `Http2Client` has told its caller that it cannot connect. -/
def Http2ClientReports (st : Http2Client.State) (op : Http2Client.Connect) (accepted : Bool)
    (results : Results) : Prop :=
  ∃ st', st.connected op (async_connect (endpoints results)) accepted = some st'
    ∧ ∃ invocation ∈ st'.invocations.drop st.invocations.length,
        ∃ error, invocation.error = bytes "Failed to connect: " ++ error

/-! ## Which endpoints count -/

variable {accepts message async_connect} {results : Results}

/-- How a session that waits to connect goes on. -/
theorem connectSession_eq {json : JsonLibrary} {enumerate : Enumeration}
    {session : Http1SessionObject} {request : ActiveRequest} {w : World Unit}
    {endpoint : Endpoint} {rule : ForwardingRule}
    (hsession : session.pending = some (.connect endpoint rule)) :
    connectSession accepts message json enumerate session request w
      = some (Http1ProxySession.connected session request
          (if accepts endpoint then none else some message), w) := by
  -- a connect leaves nothing on the session's record
  have hrecord : ∀ completion, session.record completion = session := by
    intro completion
    simp only [Http1SessionObject.record, hsession]
  simp only [connectSession, hsession]
  cases haccepts : accepts endpoint <;>
    simp [Http1ProxySession.complete, hrecord, hsession]

/-- `HttpClient` tries the first endpoint alone. -/
theorem httpClientReports_iff {op : Op (ForwardCallback S)} {host service : Bytes}
    {req : HttpRequest} (hop : op.stage = .resolve host service req) :
    HttpClientReports accepts message op results ↔ accepts results.endpoint = false := by
  have hresolve : resolveOp accepts message op results
      = HttpClient.complete ⟨.connect results.endpoint req, op.socket, op.callback⟩
          (if accepts results.endpoint then .connected else .failed message) := by
    simp only [resolveOp, HttpClient.complete, hop, HttpClient.handle_resolve, bind, Option.bind,
      connectOp]
  have hne : bytes "Failed to connect: " ≠ [] := by decide
  rw [HttpClientReports, hresolve]
  cases haccepts : accepts results.endpoint with
  | true =>
      -- it is connected, and goes on to write
      simp [HttpClient.complete, HttpClient.handle_connect, Next.replies, Next.called]
  | false =>
      simp [HttpClient.complete, HttpClient.handle_connect, Next.replies, Next.called,
        ForwardingHandler.answer, ForwardingHandler.backendFailed, hne]

/-- A session tries the first endpoint alone. -/
theorem http1SessionReports_iff {json : JsonLibrary} {enumerate : Enumeration}
    {session : Http1SessionObject} {request : ActiveRequest} {w : World Unit}
    {rule : ForwardingRule} (hsession : session.pending = some (.resolve rule)) :
    Http1SessionReports accepts message json enumerate session request w results
      ↔ accepts results.endpoint = false := by
  have hresolve : resolveSession accepts message json enumerate session request w results
      = some (Http1ProxySession.connected
          ((session.record (.resolved results)).await (.connect results.endpoint rule)) request
          (if accepts results.endpoint then none else some message), w) := by
    simp only [resolveSession, Http1ProxySession.complete, Http1SessionObject.record_pending,
      hsession, Http1ProxySession.resolved, bind, Option.bind]
    exact connectSession_eq (Http1SessionObject.await_pending _ _)
  rw [Http1SessionReports, hresolve]
  cases haccepts : accepts results.endpoint with
  | true =>
      -- it goes on towards the backend, and writes its client nothing
      simp [Http1ProxySession.connected]
  | false =>
      simp [Http1ProxySession.connected, Http1ProxySession.send_response,
        Http1ProxySession.send_response.response]

/-- `Http2Client` reports a failure only if every endpoint refuses. -/
theorem http2ClientReports_iff {st : Http2Client.State} {op : Http2Client.Connect}
    {accepted : Bool} (hrange : RangeConnect accepts async_connect) :
    Http2ClientReports async_connect st op accepted results
      ↔ ∀ endpoint ∈ endpoints results, accepts endpoint = false := by
  rw [Http2ClientReports, ← hrange.fails_iff]
  rcases hconnect : async_connect (endpoints results) with _ | error
  · -- connected, it submits its request and reads, and tells nobody anything
    simp only [Option.isSome_none, Bool.false_eq_true, iff_false]
    rintro ⟨st', hst', invocation, hinvocation, -⟩
    obtain ⟨socket, client, submitted, -, -, rfl⟩ := Http2Client.State.connected_eq_some hst'
    simp at hinvocation
  · simp [Http2Client.State.connected]

/-! ## When a backend that can be reached is reported -/

variable (accepts message async_connect results)

/-- A connection failure is reported only of a backend none of whose endpoints accepts: by a
chain of the shared client, by a session, and by `Http2Client`. -/
structure NeverUnreachable (json : JsonLibrary) (enumerate : Enumeration)
    (op : Op (ForwardCallback S)) (session : Http1SessionObject) (request : ActiveRequest)
    (w : World Unit) (st : Http2Client.State) (connect : Http2Client.Connect) (accepted : Bool) :
    Prop where
  http_client : HttpClientReports accepts message op results →
    ∀ endpoint ∈ endpoints results, accepts endpoint = false
  http1_session : Http1SessionReports accepts message json enumerate session request w results →
    ∀ endpoint ∈ endpoints results, accepts endpoint = false
  http2_client : Http2ClientReports async_connect st connect accepted results →
    ∀ endpoint ∈ endpoints results, accepts endpoint = false

/-- **A backend that can be reached is reported as one that cannot** exactly when the
first endpoint refuses and a later one accepts. -/
theorem neverUnreachable_iff (json : JsonLibrary) (enumerate : Enumeration)
    (op : Op (ForwardCallback S)) (session : Http1SessionObject) (request : ActiveRequest)
    (w : World Unit) (st : Http2Client.State) (connect : Http2Client.Connect) (accepted : Bool)
    {host service : Bytes} {req : HttpRequest} {rule : ForwardingRule}
    (hrange : RangeConnect accepts async_connect) (hop : op.stage = .resolve host service req)
    (hsession : session.pending = some (.resolve rule)) :
    NeverUnreachable accepts message async_connect results json enumerate op session request w st
        connect accepted
      ↔ accepts results.endpoint = true
        ∨ ∀ endpoint ∈ endpoints results, accepts endpoint = false := by
  constructor
  · intro h
    cases haccepts : accepts results.endpoint with
    | true => exact Or.inl rfl
    | false => exact Or.inr (h.http_client ((httpClientReports_iff hop).mpr haccepts))
  · rintro (haccepts | hnone)
    · refine ⟨fun h => ?_, fun h => ?_, (http2ClientReports_iff hrange).mp⟩
      · exact absurd ((httpClientReports_iff hop).mp h) (by simp [haccepts])
      · exact absurd ((http1SessionReports_iff hsession).mp h) (by simp [haccepts])
    · exact ⟨fun _ => hnone, fun _ => hnone, fun _ => hnone⟩

end Connecting

/-- `localhost`, resolved on a machine with IPv6: the backend listens on the second of its
addresses only. -/
def localhost : Results :=
  { endpoint := ⟨bytes "::1", 3000⟩, others := [⟨bytes "127.0.0.1", 3000⟩] }

def listensOnIPv4 (endpoint : Endpoint) : Bool := endpoint.address = bytes "127.0.0.1"

/-- A chain and a session that resolve that backend's host. -/
def localhostRule : ForwardingRule :=
  ⟨bytes "api", bytes "localhost", 3000, bytes "/api/"⟩

def resolvingOp : Op (ForwardCallback Unit) :=
  ⟨.resolve (bytes "localhost") (bytes "3000")
    (HttpClient.send_request.request (bytes "localhost") (.known (bytes "GET")) (bytes "/api/") []),
    0, ⟨(), 1⟩⟩

def resolvingSession : Http1SessionObject :=
  { active_request_ := 0, pending := some (.resolve localhostRule) }

def connecting : Http2Client.Connect :=
  ⟨bytes "localhost", bytes "8080", 0, bytes "GET", bytes "/", [], 0⟩

/-- A range connect that tries the endpoints in order until one accepts. -/
def tryInOrder (accepts : Endpoint → Bool) : List Endpoint → Option Bytes
  | [] => some (bytes "Connection refused")
  | endpoint :: rest => if accepts endpoint then none else tryInOrder accepts rest

theorem rangeConnect_tryInOrder (accepts : Endpoint → Bool) :
    RangeConnect accepts (tryInOrder accepts) where
  fails_iff endpoints := by
    induction endpoints with
    | nil => simp [tryInOrder]
    | cons endpoint rest ih =>
        rw [tryInOrder, List.forall_mem_cons]
        cases haccepts : accepts endpoint with
        | true => simp
        | false => simpa using ih

/-- A backend that listens on both of its addresses is reached. -/
theorem neverUnreachable_iff_first :
    ∃ json : JsonLibrary, NeverUnreachable (fun _ => true) [] (tryInOrder fun _ => true) localhost
      json UnorderedMap.anyOrder resolvingOp resolvingSession { request_id_ := 1, start_time_ := 0 }
      (World.serving BackendRegistry.empty) {} connecting true :=
  ⟨⟨fun _ => none, fun _ => []⟩,
    (neverUnreachable_iff _ _ _ _ _ _ _ _ _ _ _ _ _ (rangeConnect_tryInOrder _) rfl rfl).mpr
      (Or.inl rfl)⟩

/-- **A backend that listens can be reported as unreachable**, by both. -/
theorem second_endpoint_unreached :
    listensOnIPv4 ⟨bytes "127.0.0.1", 3000⟩ = true
      ∧ HttpClientReports listensOnIPv4 (bytes "Connection refused") resolvingOp localhost
      ∧ (∀ json : JsonLibrary, Http1SessionReports listensOnIPv4 (bytes "Connection refused") json
          UnorderedMap.anyOrder resolvingSession { request_id_ := 1, start_time_ := 0 }
          (World.serving BackendRegistry.empty) localhost)
      ∧ RangeConnect listensOnIPv4 (tryInOrder listensOnIPv4)
      ∧ ¬ Http2ClientReports (tryInOrder listensOnIPv4) {} connecting true localhost
      ∧ ∀ json : JsonLibrary, ¬ NeverUnreachable listensOnIPv4 (bytes "Connection refused")
          (tryInOrder listensOnIPv4) localhost json UnorderedMap.anyOrder resolvingOp
          resolvingSession { request_id_ := 1, start_time_ := 0 }
          (World.serving BackendRegistry.empty) {} connecting true := by
  have hhttp2 : HttpClientReports listensOnIPv4 (bytes "Connection refused") resolvingOp
      localhost := (httpClientReports_iff rfl).mpr (by decide)
  have hlistens : ¬ ∀ endpoint ∈ endpoints localhost, listensOnIPv4 endpoint = false := by decide
  have hrange := rangeConnect_tryInOrder listensOnIPv4
  exact ⟨by decide, hhttp2, fun json => (http1SessionReports_iff rfl).mpr (by decide), hrange,
    fun h => hlistens ((http2ClientReports_iff hrange).mp h),
    fun json h => hlistens (h.http_client hhttp2)⟩

end ForwardingPaths

end Http2Server
