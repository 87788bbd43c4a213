/-
Forwarding over whole runs: any number of requests outstanding at once on the
shared `HttpClient`, their completions interleaved in any order with each other
and with changes of the routing table.

A run is a list of events. `forward_request` starts a call, `complete` is the
completion of one outstanding operation, `registry` is a call on the routing
table. The sender of the `i`-th call is the number `i`, so that the log of replies
says which sender was invoked.

The invariant is one `Account` per call: what is outstanding for it, what its
sender has been invoked with, and what its own socket has on record, which are
the three views of the one chain it started. A step touches the account of one
call and leaves the others as they are; `served_of_invariant` reads the result off
it.
-/
import Http2Server.ProxyHandler
import Http2Server.Lib.Machine
import Http2Server.Lib.Pool

set_option autoImplicit false

open ByteString

namespace Http2Server

/-- One call of `forward_request`, with the routing table its lookup searched, the
rule it found there, and the socket its chain was given if it started one. -/
structure ForwardCall where
  method : Bytes
  path : Bytes
  body : Bytes
  stream_id : StreamId
  registry : BackendRegistry
  rule : Option ForwardingRule
  socket : SocketPtr

/-- The request its chain sends. -/
def ForwardCall.request (call : ForwardCall) (rule : ForwardingRule) : HttpRequest :=
  HttpClient.send_request.request rule.target_host (.known call.method) call.path call.body

/-- The lookup of a call found a rule exactly when the pattern of one matched in the
table it searched, and then such a rule. -/
structure ForwardCall.LookedUp (call : ForwardCall) : Prop where
  none_iff : call.rule = none ↔ ∀ id rule, call.registry.backends_.lookup id = some rule →
    ¬ BackendRegistry.Matches rule call.path
  of_some : ∀ rule, call.rule = some rule →
    ∃ id, call.registry.backends_.lookup id = some rule ∧ BackendRegistry.Matches rule call.path

/-- The process, and the calls made so far. -/
structure Forwarding where
  world : World ℕ
  calls : List ForwardCall

namespace Forwarding

open HandlerM HttpClient

/-- What can happen next. -/
inductive Event
  | forward_request (method path body : Bytes) (stream_id : StreamId) (enumerate : Enumeration)
  | complete (k : ℕ) (completion : Completion)
  | registry (call : RegistryCall)

/-- One event. A call whose method Beast does not accept leaves the handler as an
exception and is not a step here. -/
def step (verbs : List Bytes) (st : Forwarding) : Event → Option Forwarding
  | .forward_request method path body stream_id enumerate =>
      match exec (ForwardingHandler.forward_request verbs enumerate (.of method) (.of path)
          (.of body) stream_id st.calls.length) st.world with
      | (.ok (), world) => some {
          world := world
          calls := st.calls ++ [{
            method := method, path := path, body := body, stream_id := stream_id
            registry := st.world.registry
            rule := ForwardingHandler.lookup enumerate st.world path
            socket := st.world.http_client_.connections.length }] }
      | (.error _, _) => none
  | .complete k completion => (st.world.complete k completion).map fun world => { st with world }
  | .registry call => some { st with world := st.world.call call }

/-- A process with nothing outstanding. -/
def start (registry : BackendRegistry) : Forwarding := ⟨World.serving registry, []⟩

/-- The operations outstanding for the `i`-th call. -/
def operationsOf (st : Forwarding) (i : ℕ) : List (Op (ForwardCallback ℕ)) :=
  Pool.owned (fun op => op.callback.sender) st.world.http_client_.pending i

/-- The invocations of its sender. -/
def repliesOf (st : Forwarding) (i : ℕ) : List (Reply ℕ) :=
  Pool.owned (fun reply => reply.sender) st.world.replies i

/-! ## What a call has come to -/

/-- The three ways a call ends: no rule matched, some stage of its chain failed,
or its backend connection returned a response. -/
inductive Outcome
  | noBackend
  | failed
  | relayed (res : HttpMessage)

/-- What the sender is invoked with in each case. -/
def Outcome.response : Outcome → HttpResponse
  | noBackend =>
      { status_code := 404
        body := bytes "\x7b\"error\": \"No backend found for this path\"\x7d" }
  | failed =>
      { status_code := 502
        body := bytes "\x7b\"error\": \"Backend request failed\"\x7d" }
  | relayed res => { status_code := res.result_int, body := res.body }

/-- How a chain has ended, from the record of its own socket. -/
def connectionOutcome (connection : Connection) : Option Outcome :=
  if connection.failed then some .failed else connection.received.map .relayed

/-- How a call has ended, if it has. -/
def outcome (st : Forwarding) (call : ForwardCall) : Option Outcome :=
  match call.rule with
  | none => some .noBackend
  | some _ => (st.world.http_client_.connections[call.socket]?).bind connectionOutcome

/-- The connection of a call to a backend: it resolved the host and port of the
rule, connected to what its own resolution found, and wrote the call's own
request. -/
structure Contacts (connection : Connection) (rule : ForwardingRule) (req : HttpRequest) :
    Prop where
  host : connection.host = rule.target_host
  service : connection.service = toDecimal rule.target_port
  peer : ∀ endpoint, connection.peer = some endpoint →
    ∃ results, connection.resolved = some results ∧ endpoint = results.endpoint
  written : ∀ req', connection.written = some req' → req' = req

/-- **A call is served.** Its lookup found a rule exactly when one matched then; its
sender has been invoked with its outcome, once, as soon as it has one, on its own
stream, and not before; nothing is outstanding for it from then on; and its socket
is its own and was used for the host and port of the rule alone. -/
structure Served (st : Forwarding) (i : ℕ) (call : ForwardCall) : Prop where
  looked_up : call.LookedUp
  replies : st.repliesOf i
    = (st.outcome call).toList.map fun o => ⟨i, call.stream_id, o.response⟩
  ended : st.operationsOf i = [] ↔ (st.outcome call).isSome
  contacted : ∀ rule, call.rule = some rule →
    ∃ connection, st.world.http_client_.connections[call.socket]? = some connection
      ∧ Contacts connection rule (call.request rule)
      ∧ ∀ op ∈ st.operationsOf i, op.socket = call.socket
        ∧ Underway rule.target_host (toDecimal rule.target_port) (call.request rule) op.stage
            connection
  own_socket : ∀ j other, st.calls[j]? = some other → call.rule.isSome → other.rule.isSome →
    other.socket = call.socket → j = i

/-! ## The account of one call -/

/-- What is outstanding for the `i`-th call and what its sender has been invoked
with, against the record of its socket. -/
inductive Account (connections : List Connection) (i : ℕ) (call : ForwardCall) :
    List (Op (ForwardCallback ℕ)) → List (Reply ℕ) → Prop
  | unrouted (hrule : call.rule = none) :
      Account connections i call [] [⟨i, call.stream_id, Outcome.noBackend.response⟩]
  | underway {rule : ForwardingRule} {stage : Stage} {connection : Connection}
      (hrule : call.rule = some rule) (hsocket : connections[call.socket]? = some connection)
      (hchain : Underway rule.target_host (toDecimal rule.target_port) (call.request rule) stage
        connection) :
      Account connections i call [⟨stage, call.socket, ⟨i, call.stream_id⟩⟩] []
  | failed {rule : ForwardingRule} {stage : Stage} {connection : Connection} {message : Bytes}
      (hrule : call.rule = some rule)
      (hsocket : connections[call.socket]?
        = some { connection with failure := some (stage, message) })
      (hchain : Underway rule.target_host (toDecimal rule.target_port) (call.request rule) stage
        connection) :
      Account connections i call [] [⟨i, call.stream_id, Outcome.failed.response⟩]
  | answered {rule : ForwardingRule} {connection : Connection} (res : HttpMessage)
      (hrule : call.rule = some rule)
      (hsocket : connections[call.socket]? = some { connection with received := some res })
      (hchain : Underway rule.target_host (toDecimal rule.target_port) (call.request rule) .read
        connection) :
      Account connections i call [] [⟨i, call.stream_id, (Outcome.relayed res).response⟩]

variable {connections connections' : List Connection} {i : ℕ} {call : ForwardCall}
  {operations : List (Op (ForwardCallback ℕ))} {replies : List (Reply ℕ)}

/-- The account of a call looks at its own socket only. -/
theorem Account.frame (h : Account connections i call operations replies)
    (hsame : call.rule.isSome → connections'[call.socket]? = connections[call.socket]?) :
    Account connections' i call operations replies := by
  cases h with
  | unrouted hrule => exact .unrouted hrule
  | underway hrule hsocket hchain =>
      exact .underway hrule ((hsame (by rw [hrule]; rfl)).trans hsocket) hchain
  | failed hrule hsocket hchain =>
      exact .failed hrule ((hsame (by rw [hrule]; rfl)).trans hsocket) hchain
  | answered res hrule hsocket hchain =>
      exact .answered res hrule ((hsame (by rw [hrule]; rfl)).trans hsocket) hchain

/-- **One completion, in the account of the call it belongs to.** The operation was
the only one outstanding and the sender had not been invoked; what is outstanding
and what is sent afterwards is what the handler did. -/
theorem Account.complete {op : Op (ForwardCallback ℕ)} {completion : Completion}
    {next : Next (ForwardCallback ℕ)} (h : Account connections i call operations replies)
    (hop : op ∈ operations) (hnext : HttpClient.complete op completion = some next) :
    operations = [op] ∧ replies = [] ∧ op.socket = call.socket ∧ call.rule.isSome
      ∧ Account (connections.modify op.socket fun c => c.record op.stage completion) i call
          next.started next.replies := by
  cases h with
  | unrouted hrule => simp at hop
  | failed hrule hsocket hchain => simp at hop
  | answered res hrule hsocket hchain => simp at hop
  | @underway rule stage connection hrule hsocket hchain =>
      obtain rfl := List.mem_singleton.mp hop
      refine ⟨rfl, rfl, rfl, by rw [hrule]; rfl, ?_⟩
      -- the record of the socket, before and after, is what the stage says it is
      have hmodified : (connections.modify call.socket fun c => c.record stage completion)[
          call.socket]? = some (connection.record stage completion) := by
        rw [List.getElem?_modify_eq, hsocket]
        rfl
      rcases underway_complete hchain hnext with
        ⟨stage', rfl, hchain'⟩ | ⟨message, rfl, hrecord⟩ | ⟨res, headers, hread, rfl, hrecord⟩
      · exact .underway hrule hmodified hchain'
      · dsimp only at hrecord
        rw [hrecord] at hmodified
        simp only [Next.started, Next.replies, Next.called, Option.toList_some, List.map_cons,
          List.map_nil, ForwardingHandler.answer, if_pos (Stage.error_ne_nil stage message)]
        exact .failed hrule hmodified hchain
      · dsimp only at hrecord hread
        rw [hrecord] at hmodified
        subst hread
        exact .answered res hrule hmodified hchain

/-! ## The invariant -/

/-- Everybody's account is in order, and no two chains share a socket. -/
structure Invariant (st : Forwarding) : Prop where
  looked_up : ∀ (i : ℕ) (call : ForwardCall), st.calls[i]? = some call → call.LookedUp
  account : ∀ (i : ℕ) (call : ForwardCall), st.calls[i]? = some call →
    Account st.world.http_client_.connections i call (st.operationsOf i) (st.repliesOf i)
  own_socket : ∀ (i j : ℕ) (call other : ForwardCall), st.calls[i]? = some call →
    st.calls[j]? = some other →
    call.rule.isSome → other.rule.isSome → other.socket = call.socket → j = i
  known_operations : ∀ op ∈ st.world.http_client_.pending,
    op.callback.sender < st.calls.length
  known_replies : ∀ reply ∈ st.world.replies, reply.sender < st.calls.length

theorem invariant_start (registry : BackendRegistry) : Invariant (start registry) where
  looked_up := by simp [start]
  account := by simp [start]
  own_socket := by simp [start]
  known_operations := by simp [start, World.serving]
  known_replies := by simp [start, World.serving]

/-- The socket of a chain exists. -/
theorem Account.socket_lt (h : Account connections i call operations replies)
    (hrule : call.rule.isSome) : call.socket < connections.length := by
  cases h with
  | unrouted hnone => simp [hnone] at hrule
  | underway _ hsocket _ => exact (List.getElem?_eq_some_iff.mp hsocket).1
  | failed _ hsocket _ => exact (List.getElem?_eq_some_iff.mp hsocket).1
  | answered _ _ hsocket _ => exact (List.getElem?_eq_some_iff.mp hsocket).1

/-- A call that finds a rule, with a method Beast accepts. -/
theorem step_forward_request_of_accepts {verbs : List Bytes} (st : Forwarding)
    {method path body : Bytes} (stream_id : StreamId) {enumerate : Enumeration}
    {rule : ForwardingRule} (hlookup : ForwardingHandler.lookup enumerate st.world path = some rule)
    (haccepts : Accepts verbs method body) :
    step verbs st (.forward_request method path body stream_id enumerate)
      = some {
          world := st.world.withClient (st.world.http_client_.started rule.target_host
            rule.target_port method path body ⟨st.calls.length, stream_id⟩)
          calls := st.calls ++ [{
            method := method, path := path, body := body, stream_id := stream_id
            registry := st.world.registry
            rule := some rule
            socket := st.world.http_client_.connections.length }] } := by
  rw [step, ForwardingHandler.exec_forward_request_of_accepts _ _ _ _ _ _ _ _
    (by rwa [StringView.chars_of]) (by rwa [StringView.chars_of, StringView.chars_of])]
  simp only [StringView.chars_of, hlookup]

/-- **What a call does.** It adds one call to the list, and either one reply, or
one socket with one operation on it. -/
theorem step_forward_request {verbs : List Bytes} {st st' : Forwarding}
    {method path body : Bytes} {stream_id : StreamId} {enumerate : Enumeration}
    (h : step verbs st (.forward_request method path body stream_id enumerate) = some st') :
    ∃ call : ForwardCall, st'.calls = st.calls ++ [call]
      ∧ call.LookedUp
      ∧ call.socket = st.world.http_client_.connections.length
      ∧ ∃ newConnections newOperations newReplies,
          st'.world.http_client_.connections
              = st.world.http_client_.connections ++ newConnections
          ∧ st'.world.http_client_.pending = st.world.http_client_.pending ++ newOperations
          ∧ st'.world.replies = st.world.replies ++ newReplies
          ∧ (∀ op ∈ newOperations, op.callback.sender = st.calls.length)
          ∧ (∀ reply ∈ newReplies, reply.sender = st.calls.length)
          ∧ Account st'.world.http_client_.connections st.calls.length call newOperations
              newReplies := by
  have hspec : ∀ found, ForwardingHandler.lookup enumerate st.world path = found →
      ForwardCall.LookedUp ⟨method, path, body, stream_id, st.world.registry, found,
        st.world.http_client_.connections.length⟩ := by
    rintro _ rfl
    exact ⟨BackendRegistry.find_backend_eq_none_iff _ _ _,
      fun _ hfound => BackendRegistry.find_backend_eq_some _ _ hfound⟩
  rcases hlookup : ForwardingHandler.lookup enumerate st.world path with _ | rule
  · rw [step, ForwardingHandler.exec_forward_request_of_none _ _ _ _ _ _ _ _
      (by rwa [StringView.chars_of])] at h
    obtain rfl := Option.some.inj h
    refine ⟨_, rfl, hspec _ rfl, rfl, [], [], _, (List.append_nil _).symm,
      (List.append_nil _).symm, rfl, by simp, by simp, ?_⟩
    exact .unrouted hlookup
  · by_cases haccepts : Accepts verbs method body
    · rw [step_forward_request_of_accepts st stream_id hlookup haccepts] at h
      obtain rfl := Option.some.inj h
      refine ⟨_, rfl, hspec _ hlookup, rfl, _, _, [], rfl, rfl, (List.append_nil _).symm, by simp,
        by simp, ?_⟩
      exact .underway rfl (by simp [started]) .resolve
    · rw [step, ForwardingHandler.exec_forward_request_of_not_accepts _ _ _ _ _ _ _ _
        (by rwa [StringView.chars_of]) (by rwa [StringView.chars_of, StringView.chars_of])] at h
      simp at h

theorem invariant_forward_request {verbs : List Bytes} {st st' : Forwarding}
    {method path body : Bytes} {stream_id : StreamId} {enumerate : Enumeration}
    (hinv : Invariant st)
    (h : step verbs st (.forward_request method path body stream_id enumerate) = some st') :
    Invariant st' := by
  obtain ⟨call, hcalls, hlooked, hsocket, newConnections, newOperations, newReplies,
    hconnections, hpending, hreplies, hops, hreps, haccount⟩ := step_forward_request h
  -- a call of the list after the step is an earlier one, or the new one
  have hcases : ∀ i c, st'.calls[i]? = some c →
      st.calls[i]? = some c ∨ (i = st.calls.length ∧ c = call) := fun i c hc =>
    Record.getElem?_concat_cases (hcalls ▸ hc)
  have hold : ∀ {i c}, st.calls[i]? = some c → i < st.calls.length := fun hc =>
    (List.getElem?_eq_some_iff.mp hc).1
  refine ⟨?_, ?_, ?_, ?_, ?_⟩
  · intro i c hc
    rcases hcases i c hc with hc | ⟨rfl, rfl⟩
    · exact hinv.looked_up i c hc
    · exact hlooked
  · intro i c hc
    rw [operationsOf, repliesOf, hpending, hreplies, Pool.owned_append, Pool.owned_append]
    rcases hcases i c hc with hc | ⟨rfl, rfl⟩
    · -- an earlier call: nothing new is its own
      have hi := (hold hc).ne'
      have hnoOps : Pool.owned (fun op => op.callback.sender) newOperations i = [] :=
        Pool.owned_eq_nil fun op hop => by rwa [hops op hop]
      have hnoReps : Pool.owned (fun reply => reply.sender) newReplies i = [] :=
        Pool.owned_eq_nil fun reply hreply => by rwa [hreps reply hreply]
      rw [hnoOps, hnoReps, List.append_nil, List.append_nil]
      have hacc := hinv.account i c hc
      refine hacc.frame fun hrule => ?_
      rw [hconnections, List.getElem?_append_left (hacc.socket_lt hrule)]
    · -- the new call: everything new is its own, and nothing older
      rw [Pool.owned_eq_nil fun op hop => (hinv.known_operations op hop).ne,
        Pool.owned_eq_nil fun r hr => (hinv.known_replies r hr).ne,
        Pool.owned_eq_self hops, Pool.owned_eq_self hreps]
      exact haccount
  · intro i j c other hc hother hrule hrule' hsame
    rcases hcases i c hc with hc | ⟨rfl, rfl⟩ <;>
      rcases hcases j other hother with hother | ⟨rfl, rfl⟩
    · exact hinv.own_socket i j c other hc hother hrule hrule' hsame
    · -- the new call's socket is one that did not exist before
      have hlt := (hinv.account i c hc).socket_lt hrule
      rw [← hsame, hsocket] at hlt
      exact absurd hlt (lt_irrefl _)
    · have hlt := (hinv.account j other hother).socket_lt hrule'
      rw [hsame, hsocket] at hlt
      exact absurd hlt (lt_irrefl _)
    · rfl
  · rw [hpending, hcalls, List.length_append, List.length_singleton]
    refine List.forall_mem_append.mpr ⟨fun op hop => ?_, fun op hop => ?_⟩
    · exact Nat.lt_succ_of_lt (hinv.known_operations op hop)
    · rw [hops op hop]
      exact Nat.lt_succ_self _
  · rw [hreplies, hcalls, List.length_append, List.length_singleton]
    refine List.forall_mem_append.mpr ⟨fun r hr => ?_, fun r hr => ?_⟩
    · exact Nat.lt_succ_of_lt (hinv.known_replies r hr)
    · rw [hreps r hr]
      exact Nat.lt_succ_self _

theorem invariant_complete {verbs : List Bytes} {st st' : Forwarding} {k : ℕ}
    {completion : Completion} (hinv : Invariant st)
    (h : step verbs st (.complete k completion) = some st') : Invariant st' := by
  rw [step, Option.map_eq_some_iff] at h
  obtain ⟨world, hcomplete, rfl⟩ := h
  obtain ⟨op, next, hop, hnext, hconnections, hpending, hreplies, -, -⟩ :=
    World.complete_eq_some hcomplete
  obtain ⟨hstarted, hsent⟩ := next_callback hnext
  have hmem : op ∈ st.world.http_client_.pending := List.mem_of_getElem? hop
  -- the call the operation belongs to
  obtain ⟨owner, howner⟩ : ∃ owner, st.calls[op.callback.sender]? = some owner :=
    ⟨_, List.getElem?_eq_getElem (hinv.known_operations op hmem)⟩
  obtain ⟨hsingle, hnone, hsocket, hrouted, haccount⟩ :=
    (hinv.account _ owner howner).complete (Pool.mem_owned.mpr ⟨hmem, rfl⟩) hnext
  refine ⟨hinv.looked_up, ?_, hinv.own_socket, ?_, ?_⟩
  · intro i call hcall
    rw [operationsOf, repliesOf, hpending, hreplies, hconnections, Pool.owned_append,
      Pool.owned_append]
    by_cases hi : op.callback.sender = i
    · -- the call the operation belongs to had nothing else outstanding
      subst hi
      obtain rfl : call = owner := Option.some.inj (hcall.symm.trans howner)
      rw [(Pool.owned_eraseIdx_of_single hop hsingle).2,
        Pool.owned_eq_self fun op' hop' => by rw [hstarted op' hop'],
        Pool.owned_eq_self hsent, show Pool.owned _ st.world.replies _ = [] from hnone]
      exact haccount
    · have hnoOps : Pool.owned (fun op => op.callback.sender) next.started i = [] :=
        Pool.owned_eq_nil fun op' hop' => by rwa [hstarted op' hop']
      have hnoReps : Pool.owned (fun reply => reply.sender) next.replies i = [] :=
        Pool.owned_eq_nil fun reply hreply => by rwa [hsent reply hreply]
      rw [Pool.owned_eraseIdx_of_ne hop hi, hnoOps, hnoReps, List.append_nil, List.append_nil]
      refine (hinv.account i call hcall).frame fun hrule => ?_
      have hother : op.socket ≠ call.socket := by
        rw [hsocket]
        exact fun hsame => hi (hinv.own_socket i _ call owner hcall howner hrule hrouted hsame)
      exact List.getElem?_modify_ne _ _ hother
  · rw [hpending]
    refine List.forall_mem_append.mpr ⟨fun op' hop' => ?_, fun op' hop' => ?_⟩
    · exact hinv.known_operations op' (List.mem_of_mem_eraseIdx hop')
    · rw [hstarted op' hop']
      exact hinv.known_operations op hmem
  · rw [hreplies]
    refine List.forall_mem_append.mpr ⟨hinv.known_replies, fun r hr => ?_⟩
    rw [hsent r hr]
    exact hinv.known_operations op hmem

/-- **Every step keeps the accounts in order.** -/
theorem invariant_step {verbs : List Bytes} (st : Forwarding) (e : Event) (st' : Forwarding)
    (hinv : Invariant st) (h : step verbs st e = some st') : Invariant st' := by
  cases e with
  | forward_request method path body stream_id enumerate => exact invariant_forward_request hinv h
  | complete k completion => exact invariant_complete hinv h
  | registry call =>
      obtain rfl := Option.some.inj h
      exact ⟨hinv.looked_up, hinv.account, hinv.own_socket, hinv.known_operations,
        hinv.known_replies⟩

/-! ## What the invariant says -/

/-- A chain under way has no outcome yet. -/
theorem connectionOutcome_of_underway {host service : Bytes} {req : HttpRequest} {stage : Stage}
    {connection : Connection} (h : Underway host service req stage connection) :
    connectionOutcome connection = none := by
  cases h <;> rfl

/-- A chain under way contacts nobody but its own backend. -/
theorem contacts_of_underway {rule : ForwardingRule} {req : HttpRequest} {stage : Stage}
    {connection : Connection}
    (h : Underway rule.target_host (toDecimal rule.target_port) req stage connection) :
    Contacts connection rule req := by
  cases h <;>
    exact ⟨rfl, rfl, fun _ hpeer => by simp_all, fun _ hwritten => by simp_all⟩

/-- The record of a socket does not change in what it says of the backend when its
chain ends. -/
theorem Contacts.of_ended {connection : Connection} {rule : ForwardingRule} {req : HttpRequest}
    (h : Contacts connection rule req) (failure : Option (Stage × Bytes))
    (received : Option HttpMessage) :
    Contacts { connection with failure := failure, received := received } rule req :=
  ⟨h.host, h.service, h.peer, h.written⟩

/-- The outcome of a routed call is the one its socket has on record. -/
theorem outcome_of_routed {st : Forwarding} {rule : ForwardingRule} {connection : Connection}
    (hrule : call.rule = some rule)
    (hsocket : st.world.http_client_.connections[call.socket]? = some connection) :
    st.outcome call = connectionOutcome connection := by
  rw [outcome, hrule, hsocket]
  rfl

/-- **An account in order means a call served.** -/
theorem served_of_account {st : Forwarding} (hlooked : call.LookedUp)
    (haccount : Account st.world.http_client_.connections i call (st.operationsOf i)
      (st.repliesOf i))
    (hown : ∀ j other, st.calls[j]? = some other → call.rule.isSome → other.rule.isSome →
      other.socket = call.socket → j = i) : Served st i call := by
  obtain ⟨operations, hoperations⟩ : ∃ operations, st.operationsOf i = operations := ⟨_, rfl⟩
  obtain ⟨replies, hreplies⟩ : ∃ replies, st.repliesOf i = replies := ⟨_, rfl⟩
  rw [hoperations, hreplies] at haccount
  cases haccount with
  | unrouted hrule =>
      have hout : st.outcome call = some .noBackend := by rw [outcome, hrule]
      refine ⟨hlooked, by rw [hreplies, hout]; rfl, by simp [hoperations, hout], ?_, hown⟩
      intro rule hsome
      simp [hrule] at hsome
  | @underway rule stage connection hrule hsocket hchain =>
      have hout : st.outcome call = none :=
        (outcome_of_routed hrule hsocket).trans (connectionOutcome_of_underway hchain)
      refine ⟨hlooked, by rw [hreplies, hout]; rfl, by simp [hoperations, hout], ?_, hown⟩
      intro rule' hrule'
      obtain rfl := Option.some.inj (hrule.symm.trans hrule')
      refine ⟨connection, hsocket, contacts_of_underway hchain, ?_⟩
      rw [hoperations]
      simpa using hchain
  | @failed rule stage connection message hrule hsocket hchain =>
      have hout : st.outcome call = some .failed := outcome_of_routed hrule hsocket
      refine ⟨hlooked, by rw [hreplies, hout]; rfl, by simp [hoperations, hout], ?_, hown⟩
      intro rule' hrule'
      obtain rfl := Option.some.inj (hrule.symm.trans hrule')
      refine ⟨_, hsocket, (contacts_of_underway hchain).of_ended _ _, ?_⟩
      simp [hoperations]
  | @answered rule connection res hrule hsocket hchain =>
      have hout : st.outcome call = some (.relayed res) := by
        rw [outcome_of_routed hrule hsocket]
        cases hchain
        rfl
      refine ⟨hlooked, by rw [hreplies, hout]; rfl, by simp [hoperations, hout], ?_, hown⟩
      intro rule' hrule'
      obtain rfl := Option.some.inj (hrule.symm.trans hrule')
      refine ⟨_, hsocket, (contacts_of_underway hchain).of_ended _ _, ?_⟩
      simp [hoperations]

theorem served_of_invariant {st : Forwarding} (hinv : Invariant st)
    (hcall : st.calls[i]? = some call) : Served st i call :=
  served_of_account (hinv.looked_up i call hcall) (hinv.account i call hcall)
    fun j other hother => hinv.own_socket i j call other hcall hother

/-- **Forwarding loses, duplicates and mixes nothing.** After any run from a process
with nothing outstanding, whatever the order in which the operations of the calls
complete, fail, and are interleaved with changes of the routing table, every call
is served, and no sender but theirs has been invoked. The proxy's own 404 and 502
are the first two outcomes; a backend that answers with either status is the
third. -/
theorem every_call_served (verbs : List Bytes) (registry : BackendRegistry) (events : List Event)
    (st : Forwarding) (hrun : Machine.exec (step verbs) (start registry) events = some st) :
    (∀ (i : ℕ) (call : ForwardCall), st.calls[i]? = some call → Served st i call)
      ∧ ∀ reply ∈ st.world.replies, ∃ call, st.calls[reply.sender]? = some call
          ∧ reply.stream_id = call.stream_id := by
  have hinv : Invariant st :=
    Machine.exec_invariant Invariant invariant_step (invariant_start registry) hrun
  refine ⟨fun i call hcall => served_of_invariant hinv hcall, fun reply hreply => ?_⟩
  have hcall := List.getElem?_eq_getElem (hinv.known_replies reply hreply)
  refine ⟨_, hcall, ?_⟩
  have hown : reply ∈ st.repliesOf reply.sender := Pool.mem_owned.mpr ⟨hreply, rfl⟩
  rw [(served_of_invariant hinv hcall).replies] at hown
  obtain ⟨o, -, hinvoked⟩ := List.mem_map.mp hown
  exact (congrArg Reply.stream_id hinvoked).symm

/-- Two requests for a catch-all backend, outstanding together. The second fails to
resolve; the backend is unregistered; the first goes through all the same. -/
def overlappingRequests (enumerate : Enumeration) : List Event :=
  [.forward_request (bytes "GET") (bytes "/a") [] 1 enumerate,
    .forward_request (bytes "GET") (bytes "/b") [] 3 enumerate,
    .complete 1 (.failed (bytes "Host not found")),
    .registry (.unregister_backend (bytes "root")),
    .complete 0 (.resolved ⟨⟨bytes "127.0.0.1", 9999⟩, []⟩),
    .complete 0 .connected,
    .complete 0 .written,
    .complete 0 (.received ⟨200, [], bytes "ok"⟩)]

theorem every_call_served_overlapping :
    ∃ (st : Forwarding) (call other : ForwardCall),
      st.world.replies.map (fun reply => (reply.stream_id, reply.response.status_code))
          = [(3, 502), (1, 200)]
        ∧ st.calls[0]? = some call ∧ st.calls[1]? = some other
        ∧ Served st 0 call ∧ Served st 1 other := by
  have hlookup : ∀ (w : World ℕ) (path : Bytes), w.registry = BackendRegistry.catchAll →
      bytes "/" <+: path → ForwardingHandler.lookup UnorderedMap.anyOrder w path
        = some BackendRegistry.catchAllRule := by
    rintro w path hcatchAll hslash
    rw [ForwardingHandler.lookup, hcatchAll]
    exact BackendRegistry.find_backend_catchAll _ hslash
  have hget : Accepts documentedVerbs (bytes "GET") [] := by decide
  have hrun : (Machine.exec (step documentedVerbs) (start BackendRegistry.catchAll)
        (overlappingRequests UnorderedMap.anyOrder)).map (fun st => (st.calls.length,
          st.world.replies.map fun reply => (reply.stream_id, reply.response.status_code)))
      = some (2, [(3, 502), (1, 200)]) := by
    rw [overlappingRequests, Machine.exec_cons,
      step_forward_request_of_accepts _ _ (hlookup _ _ rfl ⟨bytes "a", by decide⟩) hget,
      Option.bind_some, Machine.exec_cons,
      step_forward_request_of_accepts _ _ (hlookup _ _ rfl ⟨bytes "b", by decide⟩) hget,
      Option.bind_some]
    rfl
  obtain ⟨st, hrun, hst⟩ := Option.map_eq_some_iff.mp hrun
  obtain ⟨hlen, hreplies⟩ := Prod.mk.inj hst
  obtain ⟨hserved, -⟩ := every_call_served _ _ _ st hrun
  have hfirst := List.getElem?_eq_getElem (show 0 < st.calls.length by omega)
  have hsecond := List.getElem?_eq_getElem (show 1 < st.calls.length by omega)
  exact ⟨st, _, _, hreplies, hfirst, hsecond, hserved 0 _ hfirst, hserved 1 _ hsecond⟩

end Forwarding

end Http2Server
