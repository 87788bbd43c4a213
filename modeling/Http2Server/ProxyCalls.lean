/-
`ProxyClient` over whole runs: any number of registrations and unregistrations outstanding
at once on its one `HttpClient`, for any proxies, their completions in any order.

The caller of the `i`-th call is the number `i`, so that what the callbacks were told is a
log with names in it. A call starts one chain on a socket of its own, and the sockets are
made in the order of the calls: the `i`-th connection is the `i`-th call's.

`every_call_told` is what a caller may rely on: it is told once, when its chain has ended and
not before; of success exactly when its own connection brought a response with status 200,
and of failure with the text of that response or of the operation that failed.
-/
import Http2Server.ProxyClient
import Http2Server.Lib.Ledger
import Http2Server.Lib.Machine

set_option autoImplicit false

open ByteString

namespace Http2Server

/-- What a caller asks for. -/
inductive ProxyAction
  | register_backend (request : RegistrationRequest)
  | unregister_backend (backend_id : String)
  deriving DecidableEq, Repr

/-- One call of either function. -/
structure ProxyCall where
  proxy_host : Bytes
  proxy_port : ℤ
  action : ProxyAction
  deriving DecidableEq, Repr

namespace ProxyAction

/-- The method a call sends. -/
def method : ProxyAction → Bytes
  | register_backend _ => bytes "POST"
  | unregister_backend _ => bytes "DELETE"

/-- The body it sends. -/
def body (json : JsonLibrary) : ProxyAction → Bytes
  | register_backend request => ProxyClient.register_backend.body json request
  | unregister_backend backend_id => ProxyClient.unregister_backend.body json backend_id

/-- The lambda it hands to its client, for a caller. -/
def lambda (caller : ℕ) : ProxyAction → RegistrationLambda ℕ
  | register_backend _ => .register caller
  | unregister_backend backend_id => .unregister caller backend_id

/-- What an action is called in the texts. -/
def name : ProxyAction → String
  | register_backend _ => "Registration"
  | unregister_backend _ => "Unregistration"

end ProxyAction

namespace ProxyCall

/-- The request a call sends. -/
def request (json : JsonLibrary) (call : ProxyCall) : HttpRequest :=
  HttpClient.send_request.request call.proxy_host (.known call.action.method)
    (bytes "/proxy/register") (call.action.body json)

/-- What its caller is told of a response. -/
def report (call : ProxyCall) (caller : ℕ) (res : HttpMessage) : ℕ × Bool × Bytes :=
  if res.result_int = 200 then (caller, true, bytes (call.action.name ++ " successful"))
  else (caller, false, bytes (call.action.name ++ " failed: ") ++ res.body)

end ProxyCall

/-- A client, the calls made of it so far, and what their callbacks were told. -/
structure ProxyCalls where
  client : ProxyClient ℕ := {}
  calls : List ProxyCall := []
  told : List (ℕ × Bool × Bytes) := []

namespace ProxyCalls

open HttpClient

/-- What can happen next. -/
inductive Event
  | call (call : ProxyCall)
  | complete (k : ℕ) (completion : Completion)

/-- A call, for a caller. -/
def perform (json : JsonLibrary) (verbs : List Bytes) (client : ProxyClient ℕ) (call : ProxyCall)
    (caller : ℕ) : Except Exn (ProxyClient ℕ) :=
  match call.action with
  | .register_backend request =>
      client.register_backend json verbs call.proxy_host call.proxy_port request caller
  | .unregister_backend backend_id =>
      client.unregister_backend json verbs call.proxy_host call.proxy_port backend_id caller

/-- One event. A call whose method Beast does not know throws, and is no step. -/
def step (json : JsonLibrary) (verbs : List Bytes) (st : ProxyCalls) :
    Event → Option ProxyCalls
  | .call call =>
      match perform json verbs st.client call st.calls.length with
      | .ok client => some { st with client := client, calls := st.calls ++ [call] }
      | .error _ => none
  | .complete k completion =>
      (st.client.http_client_.step k completion).map fun r => {
        client := ⟨r.1⟩
        calls := st.calls
        told := st.told ++ (r.2.map fun c => ProxyClient.invoke c.1 c.2.1 c.2.2).toList }

/-- The operations outstanding for the `i`-th caller. -/
def operationsOf (st : ProxyCalls) (i : ℕ) : List (Op (RegistrationLambda ℕ)) :=
  Pool.owned (fun op => ProxyClient.caller op.callback) st.client.http_client_.pending i

/-- What the `i`-th caller was told. -/
def toldOf (st : ProxyCalls) (i : ℕ) : List (ℕ × Bool × Bytes) := Pool.owned Prod.fst st.told i

/-! ## The account of one call -/

/-- What is outstanding for the `i`-th caller and what it was told, against the record of its
connection. -/
inductive Account (json : JsonLibrary) (connections : List Connection) (i : ℕ) (call : ProxyCall) :
    List (Op (RegistrationLambda ℕ)) → List (ℕ × Bool × Bytes) → Prop
  | underway {stage : Stage} {connection : Connection}
      (hsocket : connections[i]? = some connection)
      (hchain : Underway call.proxy_host (toDecimal call.proxy_port) (call.request json) stage
        connection) :
      Account json connections i call [⟨stage, i, call.action.lambda i⟩] []
  | failed {stage : Stage} {connection : Connection} {message : Bytes}
      (hsocket : connections[i]? = some { connection with failure := some (stage, message) })
      (hchain : Underway call.proxy_host (toDecimal call.proxy_port) (call.request json) stage
        connection) :
      Account json connections i call [] [(i, false, stage.error message)]
  | answered {connection : Connection} (res : HttpMessage)
      (hsocket : connections[i]? = some { connection with received := some res })
      (hchain : Underway call.proxy_host (toDecimal call.proxy_port) (call.request json) .read
        connection) :
      Account json connections i call [] [call.report i res]

variable {json : JsonLibrary} {verbs : List Bytes} {connections connections' : List Connection}
  {i : ℕ} {call : ProxyCall} {operations : List (Op (RegistrationLambda ℕ))}
  {told : List (ℕ × Bool × Bytes)} {st st' : ProxyCalls}

theorem caller_lambda (action : ProxyAction) (caller : ℕ) :
    ProxyClient.caller (action.lambda caller) = caller := by
  cases action <;> rfl

/-- A lambda tells its own caller. -/
theorem invoke_caller (lambda : RegistrationLambda ℕ) (response : ProxyResponse) (error : Bytes) :
    (ProxyClient.invoke lambda response error).1 = ProxyClient.caller lambda :=
  (ProxyClient.invoke_success_iff lambda response error).1

/-- Of a failure a caller is told with the text its client was given. -/
theorem invoke_of_error (action : ProxyAction) (caller : ℕ) (response : ProxyResponse)
    {error : Bytes} (herror : error ≠ []) :
    ProxyClient.invoke (action.lambda caller) response error = (caller, false, error) := by
  cases action <;> exact if_pos herror

/-- Of a response a caller is told with what the response says. -/
theorem invoke_of_response (caller : ℕ) (res : HttpMessage) (headers : UnorderedMap Bytes Bytes) :
    ProxyClient.invoke (call.action.lambda caller) ⟨res.result_int, res.body, headers⟩ []
      = call.report caller res := by
  have htell : ∀ action : String,
      ProxyClient.tell action caller ⟨res.result_int, res.body, headers⟩ []
        = if res.result_int = 200 then (caller, true, bytes (action ++ " successful"))
          else (caller, false, bytes (action ++ " failed: ") ++ res.body) :=
    fun action => if_neg fun h => h rfl
  rw [ProxyCall.report]
  cases call.action with
  | register_backend request => exact htell "Registration"
  | unregister_backend backend_id => exact htell "Unregistration"

theorem Account.frame (h : Account json connections i call operations told)
    (hsame : connections'[i]? = connections[i]?) :
    Account json connections' i call operations told := by
  cases h with
  | underway hsocket hchain => exact .underway (hsame.trans hsocket) hchain
  | failed hsocket hchain => exact .failed (hsame.trans hsocket) hchain
  | answered res hsocket hchain => exact .answered res (hsame.trans hsocket) hchain

/-- **One completion, in the account of the caller it belongs to.** -/
theorem Account.complete {op : Op (RegistrationLambda ℕ)} {completion : Completion}
    {next : Next (RegistrationLambda ℕ)} (h : Account json connections i call operations told)
    (hop : op ∈ operations) (hnext : HttpClient.complete op completion = some next) :
    operations = [op] ∧ told = [] ∧ op.socket = i
      ∧ Account json (connections.modify op.socket fun c => c.record op.stage completion) i call
          next.started
          (next.called.map fun c => ProxyClient.invoke c.1 c.2.1 c.2.2).toList := by
  cases h with
  | failed hsocket hchain => exact absurd hop List.not_mem_nil
  | answered res hsocket hchain => exact absurd hop List.not_mem_nil
  | @underway stage connection hsocket hchain =>
      obtain rfl := List.mem_singleton.mp hop
      refine ⟨rfl, rfl, rfl, ?_⟩
      have hmodified : (connections.modify i fun c => c.record stage completion)[i]?
          = some (connection.record stage completion) := by
        rw [List.getElem?_modify_eq, hsocket]
        rfl
      -- the chain goes on, breaks off, or has read its response
      rcases underway_complete hchain hnext with
        ⟨stage', rfl, hchain'⟩ | ⟨message, rfl, hrecord⟩ | ⟨res, headers, hread, rfl, hrecord⟩
      · exact .underway hmodified hchain'
      · dsimp only at hrecord
        rw [hrecord] at hmodified
        simp only [Next.started, Next.called, Option.map_some, Option.toList_some,
          invoke_of_error _ _ _ (Stage.error_ne_nil stage message)]
        exact .failed hmodified hchain
      · dsimp only at hrecord hread
        rw [hrecord] at hmodified
        simp only [Next.started, Next.called, Option.map_some, Option.toList_some,
          invoke_of_response]
        subst hread
        exact .answered res hmodified hchain

/-! ## The books -/

/-- The accounts of all callers: the ledger goes by their numbers. -/
abbrev Books (json : JsonLibrary) (st : ProxyCalls) : Prop :=
  Pool.Ledger (fun op : Op (RegistrationLambda ℕ) => ProxyClient.caller op.callback) Prod.fst
    (fun i operations told => ∀ call, st.calls[i]? = some call →
      Account json st.client.http_client_.connections i call operations told)
    st.calls.length st.client.http_client_.pending st.told

/-- The books are in order, and each call has the connection with its number. -/
structure Invariant (json : JsonLibrary) (st : ProxyCalls) : Prop where
  books : Books json st
  connections : st.client.http_client_.connections.length = st.calls.length

theorem invariant_init : Invariant json {} where
  books := Pool.ledger_nil
  connections := rfl

/-- A call starts one chain, with its own request. -/
theorem perform_eq_ok {client client' : ProxyClient ℕ} {caller : ℕ}
    (h : perform json verbs client call caller = .ok client') :
    client' = ⟨client.http_client_.started call.proxy_host call.proxy_port call.action.method
      (bytes "/proxy/register") (call.action.body json) (call.action.lambda caller)⟩ := by
  rw [perform] at h
  cases haction : call.action with
  | register_backend request =>
      rw [haction] at h
      dsimp only at h
      rw [ProxyClient.register_backend_eq] at h
      split_ifs at h
      exact (Except.ok.inj h).symm
  | unregister_backend backend_id =>
      rw [haction] at h
      dsimp only at h
      rw [ProxyClient.unregister_backend_eq] at h
      split_ifs at h
      exact (Except.ok.inj h).symm

theorem Invariant.send (h : Invariant json st)
    (hstep : step json verbs st (.call call) = some st') : Invariant json st' := by
  rw [step] at hstep
  split at hstep
  · rename_i client hperform
    obtain rfl := Option.some.inj hstep
    obtain rfl := perform_eq_ok hperform
    have hlen : (st.calls ++ [call]).length = st.calls.length + 1 := List.length_append
    refine ⟨?_, ?_⟩
    · rw [Books, hlen, ← List.append_nil st.told]
      refine h.books.enroll ?_ (fun _ hmem => absurd hmem List.not_mem_nil) ?_ ?_
      · exact List.forall_mem_singleton.mpr (caller_lambda _ _)
      · -- an earlier call keeps its place, and its connection
        intro i hi operations told haccount other hother
        rw [List.getElem?_append_left hi] at hother
        refine (haccount other hother).frame ?_
        rw [HttpClient.started, List.getElem?_append_left (h.connections ▸ hi)]
      · intro other hother
        rw [List.getElem?_concat_length] at hother
        obtain rfl := Option.some.inj hother
        rw [h.connections]
        refine .underway ?_ (.resolve)
        rw [HttpClient.started, ← h.connections, List.getElem?_concat_length]
    · rw [hlen, ← h.connections]
      exact List.length_append
  · cases hstep

theorem Invariant.complete {k : ℕ} {completion : Completion} (h : Invariant json st)
    (hstep : step json verbs st (.complete k completion) = some st') : Invariant json st' := by
  rw [step, Option.map_eq_some_iff] at hstep
  obtain ⟨⟨client, called⟩, hclient, rfl⟩ := hstep
  obtain ⟨op, next, hop, hnext, hconnections, hpending, rfl⟩ := step_eq_some hclient
  refine ⟨?_, ?_⟩
  · rw [Books, hpending]
    have hcases := complete_cases hnext
    refine h.books.take hop ?_ ?_ ?_ ?_
    · rcases hcases with ⟨stage, rfl, -⟩ | ⟨response, error, rfl⟩
      · exact List.forall_mem_singleton.mpr rfl
      · exact fun _ hmem => absurd hmem List.not_mem_nil
    · rcases hcases with ⟨stage, rfl, -⟩ | ⟨response, error, rfl⟩
      · exact fun _ hmem => absurd hmem List.not_mem_nil
      · exact List.forall_mem_singleton.mpr (invoke_caller _ _ _)
    · intro i hi hne operations told haccount other hother
      refine (haccount other hother).frame ?_
      -- the operation is on its own caller's connection
      have hlt := h.books.pool_lt op (List.mem_of_getElem? hop)
      have hown := (h.books.account _ hlt _ (List.getElem?_eq_getElem hlt)).complete
        (Pool.mem_owned.mpr ⟨List.mem_of_getElem? hop, rfl⟩) hnext
      rw [hconnections, List.getElem?_modify_ne _ _ (hown.2.2.1 ▸ Ne.symm hne)]
    · -- its own caller's account takes the step
      intro operations told hmem haccount
      have hlt := h.books.pool_lt op (List.mem_of_getElem? hop)
      obtain ⟨hsingle, hnone, -, -⟩ :=
        (haccount _ (List.getElem?_eq_getElem hlt)).complete hmem hnext
      refine ⟨hsingle, fun other hother => ?_⟩
      obtain ⟨-, -, -, haccount'⟩ := (haccount other hother).complete hmem hnext
      rw [hconnections, hnone, List.nil_append]
      exact haccount'
  · rw [hconnections, List.length_modify]
    exact h.connections

/-- What a call adds: itself, and a fresh connection. -/
theorem step_call (h : step json verbs st (.call call) = some st') :
    st'.calls = st.calls ++ [call] ∧ st'.told = st.told
      ∧ st'.client.http_client_.connections = st.client.http_client_.connections
        ++ [{ host := call.proxy_host, service := toDecimal call.proxy_port }] := by
  rw [step] at h
  split at h
  · rename_i client hperform
    obtain rfl := Option.some.inj h
    obtain rfl := perform_eq_ok hperform
    exact ⟨rfl, rfl, rfl⟩
  · cases h

/-- What a completion changes: the record of the connection of its operation. -/
theorem step_complete {k : ℕ} {completion : Completion}
    (h : step json verbs st (.complete k completion) = some st') :
    st'.calls = st.calls
      ∧ ∃ op, st.client.http_client_.pending[k]? = some op
        ∧ st'.client.http_client_.connections = st.client.http_client_.connections.modify op.socket
          fun c => c.record op.stage completion := by
  rw [step, Option.map_eq_some_iff] at h
  obtain ⟨⟨client, called⟩, hclient, rfl⟩ := h
  obtain ⟨op, next, hop, -, hconnections, -, -⟩ := step_eq_some hclient
  exact ⟨rfl, op, hop, hconnections⟩

/-- **Every step keeps the books.** -/
theorem invariant_step (st : ProxyCalls) (e : Event) (st' : ProxyCalls) (h : Invariant json st)
    (hstep : step json verbs st e = some st') : Invariant json st' := by
  cases e with
  | call call => exact h.send hstep
  | complete k completion => exact h.complete hstep

/-- An outstanding operation is on the connection of its call, at the point its chain has
come to. -/
theorem Invariant.underway (h : Invariant json st) {op : Op (RegistrationLambda ℕ)}
    (hop : op ∈ st.client.http_client_.pending) :
    ∃ call connection, st.calls[op.socket]? = some call
      ∧ st.client.http_client_.connections[op.socket]? = some connection
      ∧ Underway call.proxy_host (toDecimal call.proxy_port) (call.request json) op.stage
          connection := by
  have hlt := h.books.pool_lt op hop
  obtain ⟨call, hcall⟩ : ∃ call, st.calls[ProxyClient.caller op.callback]? = some call :=
    ⟨_, List.getElem?_eq_getElem hlt⟩
  have haccount := h.books.account _ hlt call hcall
  generalize hoperations : Pool.owned (fun op => ProxyClient.caller op.callback)
    st.client.http_client_.pending (ProxyClient.caller op.callback) = operations at haccount
  generalize Pool.owned Prod.fst st.told (ProxyClient.caller op.callback) = told at haccount
  -- a chain that has ended has no operation under way
  have hmem : op ∈ operations := hoperations ▸ Pool.mem_owned.mpr ⟨hop, rfl⟩
  cases haccount with
  | failed hsocket hchain => exact absurd hmem List.not_mem_nil
  | answered res hsocket hchain => exact absurd hmem List.not_mem_nil
  | @underway stage connection hsocket hchain =>
      have hsame := List.mem_singleton.mp hmem
      have hsocket' : op.socket = ProxyClient.caller op.callback := congrArg Op.socket hsame
      have hstage : op.stage = stage := congrArg Op.stage hsame
      refine ⟨call, connection, ?_, ?_, ?_⟩
      · rw [hsocket']
        exact hcall
      · rw [hsocket']
        exact hsocket
      · rw [hstage]
        exact hchain

/-! ## What every caller is told -/

/-- **A caller is told of its own call.** Its connection is to the proxy it named, at what
its own resolution found, and carries its own request; and it has been told nothing while an
operation is outstanding, of the response that came, or of the operation that failed: the one
that was outstanding then, with the message of its error. -/
structure Told (json : JsonLibrary) (st : ProxyCalls) (i : ℕ) (call : ProxyCall)
    (connection : Connection) : Prop where
  host : connection.host = call.proxy_host
  service : connection.service = toDecimal call.proxy_port
  peer : ∀ endpoint, connection.peer = some endpoint →
    ∃ results, connection.resolved = some results ∧ endpoint = results.endpoint
  written : ∀ request, connection.written = some request → request = call.request json
  waiting : connection.failed = false → connection.received = none →
    (st.operationsOf i).length = 1 ∧ st.toldOf i = []
  answered : ∀ res, connection.received = some res →
    connection.failed = false ∧ connection.written = some (call.request json)
      ∧ st.operationsOf i = [] ∧ st.toldOf i = [call.report i res]
  failed : ∀ stage message, connection.failure = some (stage, message) →
    Underway call.proxy_host (toDecimal call.proxy_port) (call.request json) stage
        { connection with failure := none }
      ∧ st.operationsOf i = [] ∧ st.toldOf i = [(i, false, stage.error message)]

/-- What an outstanding chain has on record is its own. -/
theorem told_of_account {connection : Connection} (hconnection :
      st.client.http_client_.connections[i]? = some connection)
    (h : Account json st.client.http_client_.connections i call (st.operationsOf i)
      (st.toldOf i)) : Told json st i call connection := by
  generalize hops : st.operationsOf i = operations at h
  generalize htold : st.toldOf i = told at h
  cases h with
  | underway hsocket hchain =>
      obtain rfl := Option.some.inj (hconnection.symm.trans hsocket)
      cases hchain <;> exact
        { host := rfl, service := rfl, peer := by simp, written := by simp
          waiting := fun _ _ => ⟨by rw [hops]; rfl, htold⟩
          answered := by simp, failed := by simp }
  | @failed stage connection message hsocket hchain =>
      obtain rfl := Option.some.inj (hconnection.symm.trans hsocket)
      have hclean : { connection with failure := none } = connection := by cases hchain <;> rfl
      have hfailed : ∀ stage' message', some (stage, message) = some (stage', message') →
          Underway call.proxy_host (toDecimal call.proxy_port) (call.request json) stage'
              { connection with failure := none }
            ∧ st.operationsOf i = [] ∧ st.toldOf i = [(i, false, stage'.error message')] := by
        intro stage' message' hsame
        obtain ⟨rfl, rfl⟩ := Prod.mk.inj (Option.some.inj hsame)
        exact ⟨hclean.symm ▸ hchain, hops, htold⟩
      cases hchain <;> exact
        { host := rfl, service := rfl, peer := by simp, written := by simp
          waiting := by simp, answered := by simp, failed := hfailed }
  | answered res hsocket hchain =>
      obtain rfl := Option.some.inj (hconnection.symm.trans hsocket)
      cases hchain
      exact
        { host := rfl, service := rfl, peer := by simp, written := by simp
          waiting := by simp, failed := by simp
          answered := fun res' hres => ⟨rfl, rfl, hops, by rw [htold, Option.some.inj hres]⟩ }

/-- **Every caller is told once, of its own call.** In every run of any number of calls, each
has a connection of its own, and is told of success exactly by a response with status 200 on
it, of failure by any other response, with its body, or by the failure of one of its
operations, with the text of that operation and the message of its error; once, and not before
its chain has ended; and nobody else is told. -/
theorem every_call_told (json : JsonLibrary) (verbs : List Bytes) (events : List Event)
    (st : ProxyCalls) (hrun : Machine.exec (step json verbs) {} events = some st) :
    (∀ (i : ℕ) (call : ProxyCall), st.calls[i]? = some call →
        ∃ connection, st.client.http_client_.connections[i]? = some connection
          ∧ Told json st i call connection)
      ∧ ∀ told ∈ st.told, told.1 < st.calls.length := by
  have hinv : Invariant json st :=
    Machine.exec_invariant (Invariant json) invariant_step invariant_init hrun
  refine ⟨fun i call hcall => ?_, hinv.books.log_lt⟩
  have hlt := (List.getElem?_eq_some_iff.mp hcall).1
  have hconnection := List.getElem?_eq_getElem (hinv.connections.symm ▸ hlt)
  exact ⟨_, hconnection, told_of_account hconnection (hinv.books.account i hlt call hcall)⟩

/-- Two calls at once, of which the second is answered first. -/
def outOfOrder : List Event :=
  [.call ⟨bytes "proxy", 9080, .unregister_backend "a"⟩,
    .call ⟨bytes "proxy", 9080, .unregister_backend "b"⟩,
    .complete 1 (.resolved ⟨⟨bytes "10.0.0.1", 9080⟩, []⟩),
    .complete 1 .connected, .complete 1 .written,
    .complete 1 (.received ⟨200, [], []⟩),
    .complete 0 (.failed (bytes "Host not found"))]

theorem every_call_told_outOfOrder :
    ∃ (json : JsonLibrary) (st : ProxyCalls) (first second : ProxyCall)
      (lost answered : Connection),
      st.told = [(1, true, bytes "Unregistration successful"),
          (0, false, bytes "Failed to resolve host: Host not found")]
        ∧ st.calls = [first, second]
        ∧ Told json st 0 first lost ∧ Told json st 1 second answered := by
  let json : JsonLibrary := ⟨fun _ => none, fun _ => []⟩
  have hrun : (Machine.exec (step json documentedVerbs) {} outOfOrder).map (fun st =>
      (st.calls, st.told))
      = some ([⟨bytes "proxy", 9080, .unregister_backend "a"⟩,
            ⟨bytes "proxy", 9080, .unregister_backend "b"⟩],
          [(1, true, bytes "Unregistration successful"),
            (0, false, bytes "Failed to resolve host: Host not found")]) := by decide +kernel
  obtain ⟨st, hrun, hst⟩ := Option.map_eq_some_iff.mp hrun
  obtain ⟨hcalls, htold⟩ := Prod.mk.inj hst
  obtain ⟨hserved, -⟩ := every_call_told json documentedVerbs outOfOrder st hrun
  obtain ⟨lost, -, hlost⟩ := hserved 0 _ (by rw [hcalls]; rfl)
  obtain ⟨answered, -, hanswered⟩ := hserved 1 _ (by rw [hcalls]; rfl)
  exact ⟨json, st, _, _, lost, answered, htold, hcalls, hlost, hanswered⟩

end ProxyCalls

end Http2Server
