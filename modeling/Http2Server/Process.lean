/-
The whole process: the HTTP/2 server and the HTTP/1.1 proxy on one routing table.

`BackendRegistry::instance()` is one object, and each front end was modelled with the other
as a source of calls on it that come from nowhere. Here the two run side by side, and each
call comes from a request the other has received. That the two worlds show the same table is
part of the state's type. `main` runs its `io_context` on several threads; here a handler is one
step, so what two handlers might do to each other while both run is left out.

`projections` says that nothing was lost by looking at them apart: a run of the process is,
seen from either side, a run of that front end alone, its own events in their order, with the
registrations the other has accepted in between. So what was proved of one holds beside the
other. `routes_what_was_registered` is about the two together: the table is at all times the
replay of the registration requests received through either, in their order, and a lookup
finds what they left.
-/
import Http2Server.ServerRequests
import Http2Server.Http1Session

set_option autoImplicit false

open ByteString

namespace Http2Server

/-- The two front ends a request may come through. -/
inductive FrontEnd
  | http2
  | http1
  deriving DecidableEq, Repr

/-- The call on the routing table a request leads to. On the HTTP/2 side the path need only
start like the registration path. -/
def FrontEnd.asked (json : JsonLibrary) (frontEnd : FrontEnd) (request : Http1Request) :
    Option RegistryCall :=
  match frontEnd with
  | .http2 =>
      (Main.ownAnswer json request.method_string request.target request.body).bind Prod.fst
  | .http1 => Http1ProxySession.asked json request

/-! ## Calls on the table, in a world -/

namespace World

variable {S T : Type}

/-- What a part of the process does to the table: some calls, in order. -/
structure Performed (w : World S) (calls : List RegistryCall) (w' : World S) : Prop where
  registry : w'.registry = calls.foldl RegistryCall.apply w.registry
  registry_calls : w'.registry_calls = w.registry_calls ++ calls
  initialized : w'.forwarding_handler_ = w.forwarding_handler_

theorem Performed.refl (w : World S) : Performed w [] w := ⟨rfl, (List.append_nil _).symm, rfl⟩

theorem performed_reply {w w' : World S} {calls : List RegistryCall} (h : Performed w calls w')
    (sender : S) (stream_id : StreamId) (response : HttpResponse) :
    Performed w calls (w'.reply sender stream_id response) :=
  ⟨h.registry, h.registry_calls, h.initialized⟩

theorem performed_perform (w : World S) (asked : Option RegistryCall) :
    Performed w asked.toList (w.perform asked) :=
  ⟨perform_registry w asked, perform_registry_calls w asked, perform_forwarding_handler w asked⟩

/-- A completion leaves the table alone. -/
theorem performed_complete {w w' : World S} {k : ℕ} {completion : Completion}
    (h : w.complete k completion = some w') : Performed w [] w' := by
  simp only [complete, bind, Option.bind_eq_some_iff] at h
  obtain ⟨⟨client, called⟩, -, h⟩ := h
  cases called with
  | none => exact Option.some.inj h ▸ ⟨rfl, (List.append_nil _).symm, rfl⟩
  | some called => exact Option.some.inj h ▸ ⟨rfl, (List.append_nil _).symm, rfl⟩

/-- The world that shows the table as another one does. -/
def seeing (w : World S) (other : World T) : World S :=
  { w with registry := other.registry, registry_calls := other.registry_calls }

/-- Two worlds that show one table. -/
structure SameTable (w : World S) (other : World T) : Prop where
  registry : w.registry = other.registry
  registry_calls : w.registry_calls = other.registry_calls

theorem sameTable_seeing (w : World S) (other : World T) : SameTable (w.seeing other) other :=
  ⟨rfl, rfl⟩

theorem SameTable.symm {w : World S} {other : World T} (h : SameTable w other) :
    SameTable other w := ⟨h.registry.symm, h.registry_calls.symm⟩

/-- **What one side does, the other sees as calls.** -/
theorem SameTable.seeing_eq {w w' : World S} {other : World T} {calls : List RegistryCall}
    (h : SameTable w other) (hperformed : Performed w calls w') :
    other.seeing w' = calls.foldl World.call other := by
  have hfold : ∀ (calls : List RegistryCall) (v : World T), calls.foldl World.call v
      = { v with
          registry := calls.foldl RegistryCall.apply v.registry
          registry_calls := v.registry_calls ++ calls } := by
    intro calls
    induction calls with
    | nil => exact fun v => by rw [List.foldl_nil, List.append_nil]; rfl
    | cons c calls ih =>
        intro v
        rw [List.foldl_cons, ih, World.call, List.append_assoc]
        rfl
  rw [hfold, seeing, hperformed.registry, hperformed.registry_calls, h.registry, h.registry_calls]

end World

/-! ## What one front end does to the table -/

namespace Server

open HandlerM World

variable {json : JsonLibrary} {verbs : List Bytes} {st st' : Server}

/-- The requests an event hands to the handler. -/
def received (st : Server) (e : Event) : List (FrontEnd × Http1Request) :=
  (dispatched st e).map fun d => (.http2, ⟨d.2.method, d.2.path, d.2.body⟩)

/-- The calls an event makes on the table: those its requests ask for, and, when the event is
itself a call, that. -/
def calls (json : JsonLibrary) (st : Server) : Event → List RegistryCall
  | .registry call => [call]
  | e => (received st e).filterMap fun r => r.1.asked json r.2

/-- What the handler does to the table is what the request asks for. -/
theorem performed_request_handler {enumerate : Enumeration} {method path body : Bytes}
    {stream_id : StreamId} {sender : SessionPtr} {w w' : World SessionPtr}
    (hinit : w.forwarding_handler_ = true)
    (h : exec (Main.request_handler json verbs enumerate (.of method) (.of path) (.of body)
        stream_id sender) w = (.ok (), w')) :
    Performed w (FrontEnd.http2.asked json ⟨method, path, body⟩).toList w' := by
  rw [FrontEnd.asked]
  rcases hown : Main.ownAnswer json method path body with _ | ⟨asked, response⟩
  · rw [Main.exec_request_handler_of_not_own verbs enumerate stream_id _ hinit hown] at h
    rw [Option.bind_none, Option.toList_none]
    -- forwarding replies or starts a chain, and makes no call on the table
    rcases ForwardingHandler.forward_request_cases h with ⟨-, rfl⟩ | ⟨rule, -, -, rfl⟩
    · exact performed_reply (.refl w) _ _ _
    · exact ⟨rfl, (List.append_nil _).symm, rfl⟩
  · rw [Main.exec_request_handler_of_own verbs enumerate stream_id _ hinit hown] at h
    obtain rfl := (Prod.mk.inj h).2
    exact performed_reply (performed_perform w asked) _ _ _

/-- **A step of the server**, as far as the table is concerned. -/
theorem performed_step (hinit : st.world.forwarding_handler_ = true) {e : Event}
    (h : step json verbs st e = some st') : Performed st.world (calls json st e) st'.world := by
  cases e with
  | accept use_ssl =>
      obtain rfl := Option.some.inj h
      exact .refl _
  | handshake sess ok => exact (alive_finish h).1 ▸ .refl _
  | read sess ok => exact (alive_finish h).1 ▸ .refl _
  | complete k completion =>
      rw [step, Option.map_eq_some_iff] at h
      obtain ⟨world, hcomplete, rfl⟩ := h
      exact performed_complete hcomplete
  | registry call =>
      obtain rfl := Option.some.inj h
      exact ⟨rfl, rfl, rfl⟩
  | recv sess callback enumerate =>
      simp only [step, bind, Option.bind_eq_some_iff] at h
      obtain ⟨object, hobject, h⟩ := h
      split_ifs at h with hpending
      have hcalls : calls json st (.recv sess callback enumerate)
          = (object.session.callback callback).2.toList.filterMap fun d =>
            FrontEnd.http2.asked json ⟨d.method, d.path, d.body⟩ := by
        simp only [calls, received, dispatched, hobject, List.filterMap_map, List.map_map]
        rfl
      rw [hcalls, Record.filterMap_toList]
      rcases hdispatched : (object.session.callback callback).2 with _ | d
      · rw [hdispatched] at h
        obtain rfl := Option.some.inj h
        exact .refl _
      · rw [hdispatched] at h
        dsimp only at h
        split at h
        · rename_i world hexec
          obtain rfl := Option.some.inj h
          exact performed_request_handler hinit hexec
        · cases h

/-- A call of the other front end can always happen. -/
theorem exec_registry (st : Server) (calls : List RegistryCall) :
    Machine.exec (step json verbs) st (calls.map .registry)
      = some { st with world := calls.foldl World.call st.world } := by
  induction calls generalizing st with
  | nil => rfl
  | cons c calls ih =>
      rw [List.map_cons, Machine.exec_cons, step, Option.bind_some, ih, List.foldl_cons]

end Server

/-- The request a completion brings a session. -/
def Http1SessionObject.receives (session : Http1SessionObject) (completion : Http1Completion) :
    Option Http1Request :=
  match session.pending, completion with
  | some .read_request, .received_request request => some request
  | _, _ => none

/-- **A handler of a session**, as far as the table is concerned. -/
theorem Http1ProxySession.performed_complete {json : JsonLibrary} {enumerate : Enumeration}
    {session : Http1SessionObject} {request : ActiveRequest} {completion : Http1Completion}
    {w w' : World Unit} {handled : Handled}
    (h : complete json enumerate session request completion w = some (handled, w')) :
    World.Performed w ((session.receives completion).bind (asked json)).toList w' := by
  obtain ⟨stage, hpending⟩ := exists_pending h
  simp only [complete, Http1SessionObject.record_pending, hpending] at h
  rw [Http1SessionObject.receives.eq_def, hpending]
  cases stage with
  | read_request =>
      cases completion with
      | received_request message =>
          dsimp only at h
          rw [exec_handle_request_eq] at h
          obtain ⟨-, rfl⟩ := Prod.mk.inj (Option.some.inj h)
          exact World.performed_perform w _
      | failed message =>
          obtain ⟨-, rfl⟩ := Prod.mk.inj (Option.some.inj h)
          exact .refl w
      | _ => cases h
  | _ =>
      -- the other operations are not about the table
      cases completion <;> cases h <;> exact .refl w

namespace Http1Proxy

open World

variable {json : JsonLibrary} {st st' : Http1Proxy}

/-- The request an event completes the read of. -/
def received (st : Http1Proxy) : Event → List (FrontEnd × Http1Request)
  | .complete k completion _ =>
      match st.sessions[k]? with
      | some session => (session.receives completion).toList.map fun request => (.http1, request)
      | none => []
  | _ => []

/-- The calls an event makes on the table. -/
def calls (json : JsonLibrary) (st : Http1Proxy) : Event → List RegistryCall
  | .registry call => [call]
  | e => (received st e).filterMap fun r => r.1.asked json r.2

/-- A completion makes the call that the request it brings asks for, if it brings one. -/
theorem calls_complete {session : Http1SessionObject} {k : ℕ}
    (hsession : st.sessions[k]? = some session) (completion : Http1Completion)
    (enumerate : Enumeration) :
    calls json st (.complete k completion enumerate)
      = ((session.receives completion).bind (Http1ProxySession.asked json)).toList := by
  simp only [calls, received, hsession, List.filterMap_map]
  exact Record.filterMap_toList _ _

/-- **A step of the proxy**, as far as the table is concerned. -/
theorem performed_step {e : Event} (h : step json st e = some st') :
    Performed st.world (calls json st e) st'.world := by
  cases e with
  | accept now =>
      obtain rfl := Option.some.inj h
      exact .refl _
  | cleanup now order =>
      obtain rfl := Option.some.inj h
      exact .refl _
  | registry call =>
      obtain rfl := Option.some.inj h
      exact ⟨rfl, rfl, rfl⟩
  | complete k completion enumerate =>
      obtain ⟨session, request, handled, world, hsession, hrequest, hcomplete, rfl⟩ :=
        step_complete_eq_some h
      rw [calls_complete hsession]
      exact Http1ProxySession.performed_complete hcomplete

/-- A call of the other front end can always happen. -/
theorem exec_registry (st : Http1Proxy) (calls : List RegistryCall) :
    Machine.exec (step json) st (calls.map .registry)
      = some { st with world := calls.foldl World.call st.world } := by
  induction calls generalizing st with
  | nil => rfl
  | cons c calls ih =>
      rw [List.map_cons, Machine.exec_cons, step, Option.bind_some, ih, List.foldl_cons]

end Http1Proxy

/-! ## The process -/

/-- Whether an event of a front end stands for the other one. -/
def Server.Event.isCall : Server.Event → Bool
  | .registry _ => true
  | _ => false

def Http1Proxy.Event.isCall : Http1Proxy.Event → Bool
  | .registry _ => true
  | _ => false

/-- The process. Both front ends show the one routing table. -/
structure Process where
  http2 : Server
  http1 : Http1Proxy
  one_table : World.SameTable http2.world http1.world

namespace Process

open World

/-- What can happen next, on either side. -/
inductive Event
  | http2 (e : Server.Event)
  | http1 (e : Http1Proxy.Event)

/-- One event: the one side takes its step, and the other sees the table it leaves. A call
comes from a request here, and is no event of its own. -/
def step (json : JsonLibrary) (verbs : List Bytes) (st : Process) : Event → Option Process
  | .http2 e =>
      if e.isCall then none
      else (Server.step json verbs st.http2 e).map fun http2 => {
        http2 := http2
        http1 := { st.http1 with world := st.http1.world.seeing http2.world }
        one_table := (sameTable_seeing st.http1.world http2.world).symm }
  | .http1 e =>
      if e.isCall then none
      else (Http1Proxy.step json st.http1 e).map fun http1 => {
        http2 := { st.http2 with world := st.http2.world.seeing http1.world }
        http1 := http1
        one_table := sameTable_seeing st.http2.world http1.world }

/-- A process that has accepted nobody yet. -/
def start (registry : BackendRegistry) : Process where
  http2 := Server.start registry
  http1 := Http1Proxy.start registry
  one_table := ⟨rfl, rfl⟩

/-- The requests an event brings, with the front end they come through. -/
def received (st : Process) : Event → List (FrontEnd × Http1Request)
  | .http2 e => Server.received st.http2 e
  | .http1 e => Http1Proxy.received st.http1 e

/-- The process as the HTTP/2 server sees it: its own events, and the other side's calls. -/
def seenByHttp2 (json : JsonLibrary) (st : Process) : Event → List Server.Event
  | .http2 e => [e]
  | .http1 e => (Http1Proxy.calls json st.http1 e).map .registry

/-- The process as the HTTP/1.1 proxy sees it. -/
def seenByHttp1 (json : JsonLibrary) (st : Process) : Event → List Http1Proxy.Event
  | .http2 e => (Server.calls json st.http2 e).map .registry
  | .http1 e => [e]

variable {json : JsonLibrary} {verbs : List Bytes} {st st' : Process}

/-- **One step, seen from both sides.** -/
theorem step_projects (hinit : st.http2.world.forwarding_handler_ = true) {e : Event}
    (h : step json verbs st e = some st') :
    st'.http2.world.forwarding_handler_ = true
      ∧ Machine.exec (Server.step json verbs) st.http2 (seenByHttp2 json st e) = some st'.http2
      ∧ Machine.exec (Http1Proxy.step json) st.http1 (seenByHttp1 json st e) = some st'.http1
      ∧ Performed st.http2.world
          ((received st e).filterMap fun r => r.1.asked json r.2) st'.http2.world := by
  cases e with
  | http2 e =>
      rw [step, Option.ite_none_left_eq_some, Option.map_eq_some_iff] at h
      obtain ⟨hcall, http2, hstep, rfl⟩ := h
      have hperformed := Server.performed_step hinit hstep
      refine ⟨hperformed.initialized.trans hinit, ?_, ?_, ?_⟩
      · rw [seenByHttp2, Machine.exec_cons, hstep]
        rfl
      · -- what it did to the table, the proxy sees as calls
        have hworld := st.one_table.seeing_eq hperformed
        rw [seenByHttp1, Http1Proxy.exec_registry, ← hworld]
      · cases e with
        | registry call => exact absurd rfl hcall
        | _ => exact hperformed
  | http1 e =>
      rw [step, Option.ite_none_left_eq_some, Option.map_eq_some_iff] at h
      obtain ⟨hcall, http1, hstep, rfl⟩ := h
      have hperformed := Http1Proxy.performed_step hstep
      refine ⟨hinit, ?_, ?_, ?_⟩
      · have hworld := st.one_table.symm.seeing_eq hperformed
        rw [seenByHttp2, Server.exec_registry, ← hworld]
      · rw [seenByHttp1, Machine.exec_cons, hstep]
        rfl
      · -- the one table, from the other side
        have hsame : Performed st.http2.world (Http1Proxy.calls json st.http1 e)
            (st.http2.world.seeing http1.world) := by
          refine ⟨?_, ?_, rfl⟩
          · rw [st.one_table.registry]
            exact hperformed.registry
          · rw [st.one_table.registry_calls]
            exact hperformed.registry_calls
        cases e with
        | registry call => exact absurd rfl hcall
        | _ => exact hsame

/-- **The invariant rule of the process**, with a log: its handler is initialized from the
start. -/
theorem run_invariant_log {ω : Type} {out : Process → Event → List ω}
    (I : Process → List ω → Prop)
    (hkeeps : ∀ st log e st', st.http2.world.forwarding_handler_ = true → I st log →
      step json verbs st e = some st' → I st' (log ++ out st e))
    {registry : BackendRegistry} (hstart : I (start registry) []) {events : List Event}
    (hrun : Machine.exec (step json verbs) (start registry) events = some st) :
    I st (Machine.outputs (step json verbs) out (start registry) events) := by
  refine (Machine.exec_invariant_log
    (fun st log => I st log ∧ st.http2.world.forwarding_handler_ = true)
    (fun st log e st' h hstep => ?_) ⟨hstart, rfl⟩ hrun).1
  exact ⟨hkeeps st log e st' h.2 h.1 hstep, (step_projects h.2 hstep).1⟩

/-- **Each front end runs as if it were alone.** After any run of the process, the HTTP/2
server is where a run of its own would have taken it: its events as they came, and between
them the registrations the HTTP/1.1 proxy accepted, as calls from outside. And the other way
round. -/
theorem projections (json : JsonLibrary) (verbs : List Bytes) (registry : BackendRegistry)
    (events : List Event) (st : Process)
    (hrun : Machine.exec (step json verbs) (start registry) events = some st) :
    Machine.exec (Server.step json verbs) (Server.start registry)
        (Machine.outputs (step json verbs) (seenByHttp2 json) (start registry) events)
        = some st.http2
      ∧ Machine.exec (Http1Proxy.step json) (Http1Proxy.start registry)
        (Machine.outputs (step json verbs) (seenByHttp1 json) (start registry) events)
        = some st.http1 := by
  constructor
  · refine run_invariant_log (fun st log =>
      Machine.exec (Server.step json verbs) (Server.start registry) log = some st.http2)
      (fun st log e st' hinit hexec hstep => ?_) rfl hrun
    obtain ⟨-, hhttp2, -, -⟩ := step_projects hinit hstep
    rw [Machine.exec_append, hexec, Option.bind_some, hhttp2]
  · refine run_invariant_log (fun st log =>
      Machine.exec (Http1Proxy.step json) (Http1Proxy.start registry) log = some st.http1)
      (fun st log e st' hinit hexec hstep => ?_) rfl hrun
    obtain ⟨-, -, hhttp1, -⟩ := step_projects hinit hstep
    rw [Machine.exec_append, hexec, Option.bind_some, hhttp1]

/-- A registration through the HTTP/1.1 proxy, for every path under a slash. -/
def registerThere (enumerate : Enumeration) : List Event :=
  [.http2 (.accept false), .http1 (.accept 0),
    .http1 (.complete 0
      (.received_request ⟨bytes "POST", bytes "/proxy/register", bytes "x"⟩) enumerate)]

/-- The text format of one body, the registration of a backend for `/`. -/
def registersSlash : JsonLibrary where
  parse := fun _ => some (.object [("backend_id", .string "b"), ("host", .string "localhost"),
    ("port", .number_unsigned 3000), ("path_pattern", .string "/")])
  dump := fun _ => []

/-- The run is accepted, and the table is called once. -/
theorem exec_registerThere :
    ∃ st, Machine.exec (step registersSlash documentedVerbs) (start .empty)
        (registerThere UnorderedMap.anyOrder) = some st
      ∧ st.http2.world.registry_calls
        = [.register_backend (bytes "b") (bytes "localhost") 3000 (bytes "/")] := by
  have hrun : (Machine.exec (step registersSlash documentedVerbs) (start .empty)
        (registerThere UnorderedMap.anyOrder)).map (fun st => st.http2.world.registry_calls)
      = some [.register_backend (bytes "b") (bytes "localhost") 3000 (bytes "/")] := rfl
  exact Option.map_eq_some_iff.mp hrun

theorem projections_registerThere :
    ∃ st, Machine.exec (step registersSlash documentedVerbs) (start .empty)
        (registerThere UnorderedMap.anyOrder) = some st
      ∧ Machine.exec (Server.step registersSlash documentedVerbs) (Server.start .empty)
          [.accept false,
            .registry (.register_backend (bytes "b") (bytes "localhost") 3000 (bytes "/"))]
        = some st.http2 := by
  obtain ⟨st, hrun, -⟩ := exec_registerThere
  exact ⟨st, hrun, (projections registersSlash documentedVerbs .empty _ st hrun).1⟩

/-- The calls that the requests of a run ask for. -/
def history (json : JsonLibrary) (requests : List (FrontEnd × Http1Request)) :
    List RegistryCall :=
  requests.filterMap fun r => r.1.asked json r.2

/-- The table is the replay of the requests received. -/
theorem table_eq {registry : BackendRegistry} {events : List Event}
    (hrun : Machine.exec (step json verbs) (start registry) events = some st) :
    st.http2.world.registry
        = (history json (Machine.outputs (step json verbs) received (start registry) events)).foldl
          RegistryCall.apply registry
      ∧ st.http2.world.registry_calls
        = history json (Machine.outputs (step json verbs) received (start registry) events) := by
  refine run_invariant_log (fun st log =>
    st.http2.world.registry = (history json log).foldl RegistryCall.apply registry
      ∧ st.http2.world.registry_calls = history json log)
    (fun st log e st' hinit h hstep => ?_) ⟨rfl, rfl⟩ hrun
  obtain ⟨-, -, -, hperformed⟩ := step_projects hinit hstep
  constructor
  · rw [hperformed.registry, h.1, history, history, List.filterMap_append, List.foldl_append]
  · rw [hperformed.registry_calls, h.2, history, history, List.filterMap_append]

/-- **Both front ends route by what was registered through either.** After any run of a fresh
process, whatever was forwarded, failed, refused or timed out in between: on both sides a
lookup fails exactly when no rule is live whose pattern the path starts with, and finds a
live one otherwise, where a rule is live that a registration request received by one of the
two asked for, and no request received by either since named its id. Nothing else changes the
table: it is the replay of the calls those requests asked for, and no other has been made. -/
theorem routes_what_was_registered (json : JsonLibrary) (verbs : List Bytes)
    (events : List Event) (st : Process)
    (hrun : Machine.exec (step json verbs) (start .empty) events = some st)
    (enumerate : Enumeration) (path : Bytes) :
    (st.http2.world.registry
        = (history json (Machine.outputs (step json verbs) received (start .empty) events)).foldl
          RegistryCall.apply .empty
      ∧ st.http2.world.registry_calls
        = history json (Machine.outputs (step json verbs) received (start .empty) events))
      ∧ ForwardingHandler.lookup enumerate st.http1.world path
        = ForwardingHandler.lookup enumerate st.http2.world path
      ∧ (ForwardingHandler.lookup enumerate st.http2.world path = none
        ↔ ∀ rule, BackendRegistry.Live (history json
            (Machine.outputs (step json verbs) received (start .empty) events)) rule →
          ¬ BackendRegistry.Matches rule path)
      ∧ ∀ rule, ForwardingHandler.lookup enumerate st.http2.world path = some rule →
        BackendRegistry.Matches rule path
          ∧ BackendRegistry.Live (history json
              (Machine.outputs (step json verbs) received (start .empty) events)) rule := by
  -- the table is the replay of the history, and of that it is known which rules are live
  have htable := (table_eq hrun).1
  rw [← BackendRegistry.after] at htable
  refine ⟨table_eq hrun, ?_, ?_, ?_⟩
  · rw [ForwardingHandler.lookup, ForwardingHandler.lookup, st.one_table.registry]
  · rw [ForwardingHandler.lookup, BackendRegistry.find_backend_eq_none_iff, htable]
    constructor
    · intro h rule hlive
      exact h rule.backend_id rule
        ((BackendRegistry.lookup_after_iff _ _ _).mpr ⟨rfl, hlive⟩)
    · intro h id rule hfound
      exact h rule ((BackendRegistry.lookup_after_iff _ _ _).mp hfound).2
  · intro rule hlookup
    obtain ⟨id, hfound, hmatch⟩ := BackendRegistry.find_backend_eq_some _ _ hlookup
    rw [htable] at hfound
    exact ⟨hmatch, ((BackendRegistry.lookup_after_iff _ _ _).mp hfound).2⟩

theorem routes_what_was_registered_registerThere :
    ∃ st rule, Machine.exec (step registersSlash documentedVerbs) (start .empty)
        (registerThere UnorderedMap.anyOrder) = some st
      ∧ ForwardingHandler.lookup UnorderedMap.anyOrder st.http2.world (bytes "/x") = some rule
      ∧ BackendRegistry.Live
          [.register_backend (bytes "b") (bytes "localhost") 3000 (bytes "/")] rule := by
  obtain ⟨st, hrun, -⟩ := exec_registerThere
  obtain ⟨-, -, hnone, hfound⟩ := routes_what_was_registered registersSlash documentedVerbs _ st
    hrun UnorderedMap.anyOrder (bytes "/x")
  have hlive : BackendRegistry.Live
      [.register_backend (bytes "b") (bytes "localhost") 3000 (bytes "/")]
      ⟨bytes "b", bytes "localhost", 3000, bytes "/"⟩ :=
    ⟨[], [], rfl, fun call hcall => absurd hcall List.not_mem_nil⟩
  -- it cannot fail, since the rule just registered is live
  have hlookup : ForwardingHandler.lookup UnorderedMap.anyOrder st.http2.world (bytes "/x")
      ≠ none := fun h => hnone.mp h _ hlive (by decide)
  obtain ⟨rule, hrule⟩ := Option.ne_none_iff_exists'.mp hlookup
  exact ⟨st, rule, hrun, hrule, (hfound rule hrule).2⟩

end Process

end Http2Server
