/-
`HttpClient` (`transport/http_client.{hpp,cpp}`): one request to a backend, as a
chain of four asynchronous operations.

`send_request` builds the request, makes a socket and starts resolving; each
completion runs one of `handle_resolve`, `handle_connect`, `handle_write`,
`handle_read`, which either starts the next operation or invokes the callback.
Everything a chain needs travels in the captures of the pending handler, so the
state of a client is the handlers outstanding (`pending`) and, as a record of
what happened on the network, one `Connection` per socket made.

The client is generic in its callback `C`; the proxy and the registration clients
use it with different ones. Beast and Asio are not part of the repository. What
the code relies on is taken as they document it: a method token outside the verb
list becomes `verb::unknown`, setting that verb throws, and `prepare_payload`
throws for a TRACE request with a body; an operation completes once, with an
error or with a result, and a successful resolution has at least one endpoint.
-/
import Http2Server.Json
import Http2Server.Lib.UnorderedMap

set_option autoImplicit false

open ByteString

namespace Http2Server

/-! ## Requests, as Beast holds them -/

/-- `http::verb`: one of the list, or `unknown`. -/
inductive Verb
  | unknown
  | known (token : Bytes)
  deriving DecidableEq, Repr

/-- `verb::trace`. -/
def Verb.trace : Verb := .known (bytes "TRACE")

/-- `http::string_to_verb`, for a given list of verbs. -/
def string_to_verb (verbs : List Bytes) (token : Bytes) : Verb :=
  if token ∈ verbs then .known token else .unknown

/-- The verbs Beast documents. -/
def documentedVerbs : List Bytes :=
  ["DELETE", "GET", "HEAD", "POST", "PUT", "CONNECT", "OPTIONS", "TRACE", "COPY", "LOCK", "MKCOL",
    "MOVE", "PROPFIND", "PROPPATCH", "SEARCH", "UNLOCK", "BIND", "REBIND", "UNBIND", "ACL",
    "REPORT", "MKACTIVITY", "CHECKOUT", "MERGE", "M-SEARCH", "NOTIFY", "SUBSCRIBE",
    "UNSUBSCRIBE", "PATCH", "PURGE", "MKCALENDAR", "LINK", "UNLINK"].map bytes

/-- `http::request<http::string_body>`: what `send_request` sets. -/
structure HttpRequest where
  version : ℕ
  method : Verb
  target : Bytes
  host : Bytes
  user_agent : Bytes
  content_length : Option Bytes := none
  content_type : Option Bytes := none
  body : Bytes := []
  deriving DecidableEq, Repr

/-- `req->method(verb)`. -/
def settable (verb : Verb) : Except Exn Verb :=
  if verb = .unknown then .error .invalid_argument else .ok verb

/-- `req->prepare_payload()`. -/
def prepare_payload (req : HttpRequest) : Except Exn HttpRequest :=
  if req.method = .trace ∧ req.body ≠ [] then .error .invalid_argument else .ok req

/-- `http::response<http::string_body>`, as read from a backend. -/
structure HttpMessage where
  result_int : ℤ
  fields : List (Bytes × Bytes)
  body : Bytes
  deriving DecidableEq, Repr

/-! ## Operations and their handlers -/

/-- `tcp::endpoint`. -/
structure Endpoint where
  address : Bytes
  port : ℕ
  deriving DecidableEq, Repr

/-- `tcp::resolver::results_type` of a successful resolution: never empty. -/
structure Results where
  endpoint : Endpoint
  others : List Endpoint := []
  deriving DecidableEq, Repr

/-- `struct ProxyResponse`. -/
structure ProxyResponse where
  status_code : ℤ
  body : Bytes
  headers : UnorderedMap Bytes Bytes := ∅
  deriving DecidableEq

/-- `std::shared_ptr<tcp::socket>`. -/
abbrev SocketPtr := ℕ

/-- Which of the four operations is outstanding, with its arguments. -/
inductive Stage
  | resolve (host service : Bytes) (req : HttpRequest)
  | connect (endpoint : Endpoint) (req : HttpRequest)
  | write (req : HttpRequest)
  | read
  deriving DecidableEq, Repr

/-- An outstanding operation: every one of the four lambdas captures the socket
and the callback. -/
structure Op (C : Type) where
  stage : Stage
  socket : SocketPtr
  callback : C
  deriving DecidableEq, Repr

/-- What a completion handler does: start the next operation of the chain, or
invoke the callback with a response and an error text. -/
inductive Next (C : Type)
  | start (op : Op C)
  | callback (callback : C) (response : ProxyResponse) (error : Bytes)

/-- The operation a handler starts, if it starts one. -/
def Next.started {C : Type} : Next C → List (Op C)
  | .start op => [op]
  | .callback _ _ _ => []

/-- The callback invocation a handler makes, if it makes one. -/
def Next.called {C : Type} : Next C → Option (C × ProxyResponse × Bytes)
  | .start _ => none
  | .callback invoked response error => some (invoked, response, error)

/-- How an operation completes: with an `error_code`, or with its result. -/
inductive Completion
  | failed (message : Bytes)
  | resolved (results : Results)
  | connected
  | written
  | received (res : HttpMessage)
  deriving DecidableEq, Repr

/-- The text the callback of a chain is given when an operation fails: what it was to do, and
the message of its error. -/
def Stage.error : Stage → Bytes → Bytes
  | .resolve _ _ _, message => bytes "Failed to resolve host: " ++ message
  | .connect _ _, message => bytes "Failed to connect: " ++ message
  | .write _, message => bytes "Failed to write request: " ++ message
  | .read, message => bytes "Failed to read response: " ++ message

/-- The text of a failure is never empty, whatever the message: it starts with a literal. -/
theorem Stage.error_ne_nil (stage : Stage) (message : Bytes) : stage.error message ≠ [] := by
  cases stage <;> exact List.append_ne_nil_of_left_ne_nil (by decide) _

namespace HttpClient

variable {C : Type}

/-- `HttpClient::handle_resolve`. -/
def handle_resolve (ec : Except Bytes Results) (socket : SocketPtr) (req : HttpRequest)
    (callback : C) : Next C :=
  match ec with
  | .error message => .callback callback ⟨0, [], ∅⟩ (bytes "Failed to resolve host: " ++ message)
  | .ok results => .start ⟨.connect results.endpoint req, socket, callback⟩

/-- `HttpClient::handle_connect`. -/
def handle_connect (ec : Except Bytes Unit) (socket : SocketPtr) (req : HttpRequest)
    (callback : C) : Next C :=
  match ec with
  | .error message => .callback callback ⟨0, [], ∅⟩ (bytes "Failed to connect: " ++ message)
  | .ok () => .start ⟨.write req, socket, callback⟩

/-- `HttpClient::handle_write`. -/
def handle_write (ec : Except Bytes Unit) (socket : SocketPtr) (callback : C) : Next C :=
  match ec with
  | .error message => .callback callback ⟨0, [], ∅⟩ (bytes "Failed to write request: " ++ message)
  | .ok () => .start ⟨.read, socket, callback⟩

/-- `HttpClient::handle_read`. -/
def handle_read (ec : Except Bytes HttpMessage) (callback : C) : Next C :=
  match ec with
  | .error message => .callback callback ⟨0, [], ∅⟩ (bytes "Failed to read response: " ++ message)
  | .ok res =>
      .callback callback
        ⟨res.result_int, res.body, res.fields.foldl (fun m f => m.insert f.1 f.2) ∅⟩ []

/-- The handler a completion runs; `none` when the completion is not one of the
operation's. -/
def complete (op : Op C) (completion : Completion) : Option (Next C) :=
  match op.stage, completion with
  | .resolve _ _ req, .failed message =>
      some (handle_resolve (.error message) op.socket req op.callback)
  | .resolve _ _ req, .resolved results =>
      some (handle_resolve (.ok results) op.socket req op.callback)
  | .connect _ req, .failed message =>
      some (handle_connect (.error message) op.socket req op.callback)
  | .connect _ req, .connected => some (handle_connect (.ok ()) op.socket req op.callback)
  | .write _, .failed message => some (handle_write (.error message) op.socket op.callback)
  | .write _, .written => some (handle_write (.ok ()) op.socket op.callback)
  | .read, .failed message => some (handle_read (.error message) op.callback)
  | .read, .received res => some (handle_read (.ok res) op.callback)
  | _, _ => none

/-! ## One chain

The four stages come in order, and the socket and the callback are handed on
unchanged. `follow` is a chain run to any point of its life; `follow_spec` is
what it can have come to. -/

/-- How many completions a chain still needs at most. -/
def Stage.rank : Stage → ℕ
  | .resolve _ _ _ => 4
  | .connect _ _ => 3
  | .write _ => 2
  | .read => 1

/-- **One completion.** It either starts the next stage, on the same socket and
with the same callback, or invokes that callback. -/
theorem complete_cases {op : Op C} {completion : Completion} {next : Next C}
    (h : complete op completion = some next) :
    (∃ stage, next = .start ⟨stage, op.socket, op.callback⟩
        ∧ Stage.rank stage + 1 = Stage.rank op.stage)
      ∨ ∃ response error, next = .callback op.callback response error := by
  rcases op with ⟨stage, socket, callback⟩
  cases stage <;> cases completion <;>
    simp only [complete, handle_resolve, handle_connect, handle_write, handle_read,
      Option.some.injEq, reduceCtorEq] at h <;> subst h
  -- three results start the next stage; the response and the four failures call back
  case resolve.resolved => exact Or.inl ⟨_, rfl, rfl⟩
  case connect.connected => exact Or.inl ⟨_, rfl, rfl⟩
  case write.written => exact Or.inl ⟨_, rfl, rfl⟩
  all_goals exact Or.inr ⟨_, _, rfl⟩

/-- Any operation may fail, and then invokes its callback with the text of that failure. -/
theorem complete_failed (op : Op C) (message : Bytes) :
    complete op (.failed message)
      = some (.callback op.callback ⟨0, [], ∅⟩ (op.stage.error message)) := by
  rcases op with ⟨stage, socket, callback⟩
  cases stage <;> rfl

/-- A chain, completion by completion: what its last handler did. A chain whose
callback has been invoked has no operation left to complete. -/
def follow (op : Op C) : List Completion → Option (Next C)
  | [] => some (.start op)
  | completion :: completions =>
      match complete op completion with
      | none => none
      | some (.start op') => follow op' completions
      | some (.callback callback response error) =>
          -- nothing of the chain is outstanding any more
          if completions = [] then some (.callback callback response error) else none

/-- **A chain ends with its own callback, invoked once.** However the operations
complete, either one is still outstanding -- fewer than four have completed then
-- or the chain has ended by invoking the callback it started with. -/
theorem follow_spec (op : Op C) (completions : List Completion) (next : Next C)
    (h : follow op completions = some next) :
    (∃ op', next = .start op' ∧ op'.callback = op.callback
        ∧ completions.length < Stage.rank op.stage)
      ∨ ∃ response error, next = .callback op.callback response error := by
  induction completions generalizing op with
  | nil =>
      obtain rfl := Option.some.inj h
      exact Or.inl ⟨op, rfl, rfl, by cases hstage : op.stage <;> simp [Stage.rank]⟩
  | cons completion completions ih =>
      rw [follow] at h
      rcases hfirst : complete op completion with _ | first
      · simp [hfirst] at h
      · -- the rank falls by one with each stage, so it bounds the completions still to come
        rcases complete_cases hfirst with ⟨stage, rfl, hrank⟩ | ⟨response, error, rfl⟩
        · rw [hfirst] at h
          rcases ih _ h with ⟨op', rfl, hcallback, hlen⟩ | hdone
          · refine Or.inl ⟨op', rfl, hcallback, ?_⟩
            simp only [List.length_cons]
            simp only at hlen
            omega
          · exact Or.inr hdone
        · rw [hfirst] at h
          simp only at h
          split_ifs at h with hnil
          exact Or.inr ⟨response, error, (Option.some.inj h).symm⟩

end HttpClient

/-! ## The client -/

/-- What happened on the network for one socket: the query its chain resolved, the result of
each of its operations, and the one that failed, if one did, with the message of its error. -/
structure Connection where
  host : Bytes
  service : Bytes
  resolved : Option Results := none
  peer : Option Endpoint := none
  written : Option HttpRequest := none
  received : Option HttpMessage := none
  failure : Option (Stage × Bytes) := none
  deriving DecidableEq, Repr

/-- Whether one of the operations on the socket failed. -/
@[simp] def Connection.failed (connection : Connection) : Bool := connection.failure.isSome

/-- A completion, recorded on the socket of its operation. -/
def Connection.record (connection : Connection) (stage : Stage) (completion : Completion) :
    Connection :=
  match stage, completion with
  | _, .failed message => { connection with failure := some (stage, message) }
  | _, .resolved results => { connection with resolved := some results }
  | .connect endpoint _, .connected => { connection with peer := some endpoint }
  | .write req, .written => { connection with written := some req }
  | _, .received res => { connection with received := some res }
  | _, _ => connection

/-- `class HttpClient` with its outstanding operations. -/
structure HttpClient (C : Type) where
  connections : List Connection := []
  pending : List (Op C) := []

namespace HttpClient

variable {C : Type}

/-- The request as `send_request` fills it, before `prepare_payload`. -/
def send_request.request (host : Bytes) (verb : Verb) (path body : Bytes) : HttpRequest :=
  let req : HttpRequest :=
    { version := 11, method := verb, target := path, host := host,
      user_agent := bytes "Proxy/1.0" }
  if body ≠ [] then
    { req with
      body := body
      content_length := some (decimal body.length)
      content_type := some (bytes "application/json") }
  else req

/-- The request `send_request` sends; setting the verb and preparing the payload
can throw. -/
def send_request.build (verbs : List Bytes) (host method path body : Bytes) :
    Except Exn HttpRequest := do
  let verb ← settable (string_to_verb verbs method)
  prepare_payload (send_request.request host verb path body)

/-- `HttpClient::send_request`: the socket is made, and the first operation
started, only once the request is built. -/
def send_request (client : HttpClient C) (verbs : List Bytes) (host : Bytes) (port : ℤ)
    (method path body : Bytes) (callback : C) : Except Exn (HttpClient C) := do
  -- what `build` throws leaves the client as it was
  let req ← send_request.build verbs host method path body
  let socket : SocketPtr := client.connections.length
  return {
    connections := client.connections ++ [{ host := host, service := toDecimal port }]
    pending := client.pending ++ [⟨.resolve host (toDecimal port) req, socket, callback⟩] }

/-- The completion of the `k`-th outstanding operation, with the callback
invocation it leads to, if any. -/
def step (client : HttpClient C) (k : ℕ) (completion : Completion) :
    Option (HttpClient C × Option (C × ProxyResponse × Bytes)) := do
  let op ← client.pending[k]?
  let next ← complete op completion
  let connections := client.connections.modify op.socket fun c => c.record op.stage completion
  let rest := client.pending.eraseIdx k
  match next with
  | .start op' => some (⟨connections, rest ++ [op']⟩, none)
  | .callback callback response error =>
      some (⟨connections, rest⟩, some (callback, response, error))

/-! ### What a completion does to the client -/

/-- **One step of the client.** Some outstanding operation completes: its result
is recorded on its own socket, it leaves the pool, and its handler starts the
next operation or invokes the callback. -/
theorem step_eq_some {client client' : HttpClient C} {k : ℕ} {completion : Completion}
    {called : Option (C × ProxyResponse × Bytes)}
    (h : client.step k completion = some (client', called)) :
    ∃ op next, client.pending[k]? = some op ∧ complete op completion = some next
      ∧ client'.connections
          = client.connections.modify op.socket (fun c => c.record op.stage completion)
      ∧ client'.pending = client.pending.eraseIdx k ++ next.started
      ∧ called = next.called := by
  simp only [step, bind, Option.bind_eq_some_iff] at h
  obtain ⟨op, hop, next, hnext, h⟩ := h
  refine ⟨op, next, hop, hnext, ?_⟩
  cases next with
  | start op' =>
      obtain ⟨rfl, rfl⟩ := Prod.mk.inj (Option.some.inj h)
      exact ⟨rfl, rfl, rfl⟩
  | callback callback response error =>
      obtain ⟨rfl, rfl⟩ := Prod.mk.inj (Option.some.inj h)
      exact ⟨rfl, (List.append_nil _).symm, rfl⟩

/-! ### Where a chain can be

While an operation of a chain is outstanding, the stage it is at and the record of
its socket determine each other. -/

/-- The four points of a chain to `host` and `service` that carries `req`: the
outstanding stage, and what its socket has on record by then. -/
inductive Underway (host service : Bytes) (req : HttpRequest) : Stage → Connection → Prop
  | resolve : Underway host service req (.resolve host service req) { host, service }
  | connect (results : Results) :
      Underway host service req (.connect results.endpoint req)
        { host, service, resolved := some results }
  | write (results : Results) :
      Underway host service req (.write req)
        { host, service, resolved := some results, peer := some results.endpoint }
  | read (results : Results) :
      Underway host service req .read
        { host, service, resolved := some results, peer := some results.endpoint,
          written := some req }

/-- **One completion of a chain.** It moves the chain to its next point, or ends it: on a
failure with the text of the operation that failed, on a response with an empty one. The
empty text is the only mark of success the callback sees. -/
theorem underway_complete {host service : Bytes} {req : HttpRequest} {op : Op C}
    {connection : Connection} {completion : Completion} {next : Next C}
    (hchain : Underway host service req op.stage connection)
    (h : complete op completion = some next) :
    (∃ stage, next = .start ⟨stage, op.socket, op.callback⟩
        ∧ Underway host service req stage (connection.record op.stage completion))
      ∨ (∃ message, next = .callback op.callback ⟨0, [], ∅⟩ (op.stage.error message)
          ∧ connection.record op.stage completion
              = { connection with failure := some (op.stage, message) })
      ∨ ∃ res headers, op.stage = .read
          ∧ next = .callback op.callback ⟨res.result_int, res.body, headers⟩ []
          ∧ connection.record op.stage completion
              = { connection with received := some res } := by
  rcases op with ⟨stage, socket, callback⟩
  cases hchain <;> cases completion <;>
    simp only [complete, handle_resolve, handle_connect, handle_write, handle_read,
      Option.some.injEq, reduceCtorEq] at h <;> subst h
  case resolve.resolved results => exact Or.inl ⟨_, rfl, .connect results⟩
  case connect.connected results => exact Or.inl ⟨_, rfl, .write results⟩
  case write.written results => exact Or.inl ⟨_, rfl, .read results⟩
  case read.received results res => exact Or.inr (Or.inr ⟨res, _, rfl, rfl, rfl⟩)
  -- the four failures, each with the text of its own stage
  all_goals exact Or.inr (Or.inl ⟨_, rfl, rfl⟩)

/-! ## What Beast accepts -/

/-- The method tokens, with a body, that `send_request` builds a request for. -/
def Accepts (verbs : List Bytes) (method body : Bytes) : Prop :=
  method ∈ verbs ∧ ¬ (method = bytes "TRACE" ∧ body ≠ [])

instance (verbs : List Bytes) (method body : Bytes) : Decidable (Accepts verbs method body) := by
  unfold Accepts; infer_instance

/-- The body of the request is the body asked for, also when it is empty and the
source does not set it. -/
theorem request_body (host : Bytes) (verb : Verb) (path body : Bytes) :
    (send_request.request host verb path body).body = body := by
  rw [send_request.request]
  split_ifs with hbody
  · rfl
  · exact (not_ne_iff.mp hbody).symm

theorem request_method (host : Bytes) (verb : Verb) (path body : Bytes) :
    (send_request.request host verb path body).method = verb := by
  rw [send_request.request]
  split_ifs <;> rfl

/-- **The request is built exactly for what Beast accepts.** -/
theorem build_of_accepts {verbs : List Bytes} {method body : Bytes}
    (h : Accepts verbs method body) (host path : Bytes) :
    send_request.build verbs host method path body
      = .ok (send_request.request host (.known method) path body) := by
  obtain ⟨hmem, htrace⟩ := h
  have hpayload : ¬ (Verb.known method = .trace ∧ body ≠ []) := by
    rintro ⟨hverb, hbody⟩
    exact htrace ⟨Verb.known.inj hverb, hbody⟩
  simp only [send_request.build, string_to_verb, if_pos hmem, settable, reduceCtorEq, if_false,
    prepare_payload, request_method, request_body, if_neg hpayload, bind, Except.bind]

theorem build_of_not_accepts {verbs : List Bytes} {method body : Bytes}
    (h : ¬ Accepts verbs method body) (host path : Bytes) :
    send_request.build verbs host method path body = .error .invalid_argument := by
  by_cases hmem : method ∈ verbs
  · -- a verb of the list: it is the payload that is refused
    have hbad : method = bytes "TRACE" ∧ body ≠ [] := by
      by_contra hgood
      exact h ⟨hmem, hgood⟩
    have hpayload : Verb.known method = .trace ∧ body ≠ [] :=
      ⟨congrArg Verb.known hbad.1, hbad.2⟩
    simp only [send_request.build, string_to_verb, if_pos hmem, settable, reduceCtorEq, if_false,
      prepare_payload, request_method, request_body, if_pos hpayload, bind, Except.bind]
  · simp only [send_request.build, string_to_verb, if_neg hmem, settable, if_true, bind,
      Except.bind]

/-- The client after one more request: a new socket, and one operation
outstanding on it. -/
def started (client : HttpClient C) (host : Bytes) (port : ℤ) (method path body : Bytes)
    (callback : C) : HttpClient C where
  connections := client.connections ++ [{ host := host, service := toDecimal port }]
  pending := client.pending
    ++ [⟨.resolve host (toDecimal port) (send_request.request host (.known method) path body),
        client.connections.length, callback⟩]

theorem send_request_of_accepts (client : HttpClient C) {verbs : List Bytes}
    {method body : Bytes} (h : Accepts verbs method body) (host : Bytes) (port : ℤ)
    (path : Bytes) (callback : C) :
    client.send_request verbs host port method path body callback
      = .ok (client.started host port method path body callback) := by
  rw [send_request, build_of_accepts h]
  rfl

theorem send_request_of_not_accepts (client : HttpClient C) {verbs : List Bytes}
    {method body : Bytes} (h : ¬ Accepts verbs method body) (host : Bytes) (port : ℤ)
    (path : Bytes) (callback : C) :
    client.send_request verbs host port method path body callback
      = .error .invalid_argument := by
  rw [send_request, build_of_not_accepts h]
  rfl

/-- For any method but TRACE the body does not matter: the request is sent if the method is
one of the verbs. -/
theorem send_request_eq (client : HttpClient C) (verbs : List Bytes) {method : Bytes}
    (hmethod : method ≠ bytes "TRACE") (host : Bytes) (port : ℤ) (path body : Bytes)
    (callback : C) :
    client.send_request verbs host port method path body callback
      = if method ∈ verbs then .ok (client.started host port method path body callback)
        else .error .invalid_argument := by
  split_ifs with hmem
  · exact send_request_of_accepts client ⟨hmem, fun h => hmethod h.1⟩ host port path callback
  · exact send_request_of_not_accepts client (fun h => hmem h.1) host port path callback

end HttpClient

end Http2Server
