/-
Whether everybody is answered in the end.

A request is answered when operations complete that others decide about: a backend, the
network, the client's own reading. What the process can promise is that it needs only so many
of them. A forwarded request has a chain of four before it and a session of the proxy six, each
completion leaves fewer whatever it brings, and none is asked for again.

`comes_to_rest` draws this out for the whole process: any run sees no more completions than
that; from any state some completions alone lead to one in which no other is possible; and the
states in which none is possible are exactly those in which every request that was read has
been answered and every session of the proxy has ended.
-/
import Mathlib.Algebra.Order.BigOperators.Group.List
import Http2Server.Process
import Http2Server.Http1Lifecycle

set_option autoImplicit false

open ByteString

namespace Http2Server

/-! ## What is left, front end by front end -/

theorem HttpClient.Stage.rank_le_four (stage : Stage) : rank stage ≤ 4 := by
  cases stage <;> simp [rank]

theorem HttpClient.Stage.rank_pos (stage : Stage) : 0 < rank stage := by
  cases stage <;> simp [rank]

namespace World

open HttpClient

variable {S : Type} {w w' : World S}

/-- How many completions the backend operations under way still need at most. -/
def toGo (w : World S) : ℕ := (w.http_client_.pending.map fun op => Stage.rank op.stage).sum

/-- How many requests it has been given: each has been answered, or is being forwarded. -/
def taken (w : World S) : ℕ := w.replies.length + w.http_client_.pending.length

/-- A completion leaves fewer, and answers nobody but for an operation of theirs. -/
theorem toGo_complete {k : ℕ} {completion : Completion} (h : w.complete k completion = some w') :
    w'.toGo < w.toGo ∧ w'.taken = w.taken := by
  obtain ⟨op, next, hop, hnext, -, hpending, hreplies, -, -⟩ := World.complete_eq_some h
  -- the operation is taken out, and at most one of a lower rank put in
  have hperm := Pool.perm_cons_eraseIdx hop
  have hsum := (hperm.map fun op => Stage.rank op.stage).sum_eq
  have hlength := hperm.length_eq
  rw [List.map_cons, List.sum_cons] at hsum
  rw [List.length_cons] at hlength
  rw [toGo, toGo, taken, taken, hpending, hreplies, hsum, hlength, List.map_append,
    List.sum_append, List.length_append, List.length_append]
  rcases HttpClient.complete_cases hnext with ⟨stage, rfl, hrank⟩ | ⟨response, error, rfl⟩
  · simp only [Next.started, Next.replies, Next.called, List.map_cons, List.map_nil,
      List.sum_cons, List.sum_nil, Option.toList_none, List.length_nil, List.length_singleton]
    omega
  · have hrank := Stage.rank_pos op.stage
    simp only [Next.started, Next.replies, Next.called, List.map_cons, List.map_nil,
      List.sum_nil, Option.toList_some, List.length_nil, List.length_singleton]
    omega

/-- A request adds four for each operation it starts. -/
theorem toGo_adds {sender : S} {stream_id : StreamId} (h : Main.Adds sender stream_id w w') :
    w'.toGo + 4 * w.taken ≤ w.toGo + 4 * w'.taken := by
  obtain ⟨operations, replies, hpending, hreplies, -, -⟩ := h
  have hrank : (operations.map fun op => Stage.rank op.stage).sum ≤ operations.length * 4 := by
    have hsum := List.sum_le_card_nsmul (operations.map fun op => Stage.rank op.stage) 4
      fun rank hrank => by
        obtain ⟨op, -, rfl⟩ := List.mem_map.mp hrank
        exact Stage.rank_le_four op.stage
    rwa [List.length_map] at hsum
  rw [toGo, toGo, taken, taken, hpending, hreplies, List.map_append, List.sum_append,
    List.length_append, List.length_append]
  omega

end World

namespace Server

/-- The completions of backend operations. -/
def Event.completes : Event → Bool
  | .complete _ _ => true
  | _ => false

/-- **What the steps of the server cost**: a request four completions. -/
theorem spends (json : JsonLibrary) (verbs : List Bytes) :
    Machine.Spends (step json verbs) Event.completes (fun st => st.world.toGo)
      (fun st => 4 * st.world.taken) where
  pays := by
    intro st e st' h
    cases e with
    | accept use_ssl => exact Option.some.inj h ▸ le_refl _
    | handshake sess ok => exact (alive_finish h).1 ▸ le_refl _
    | read sess ok => exact (alive_finish h).1 ▸ le_refl _
    | registry call => exact Option.some.inj h ▸ le_refl _
    | complete k completion =>
        rw [step, Option.map_eq_some_iff] at h
        obtain ⟨world, hcomplete, rfl⟩ := h
        obtain ⟨hless, htaken⟩ := World.toGo_complete hcomplete
        rw [moveTo_world, htaken, Event.completes, if_pos rfl]
        omega
    | recv sess callback enumerate =>
        simp only [step, bind, Option.bind_eq_some_iff] at h
        obtain ⟨object, hobject, h⟩ := h
        split_ifs at h with hpending
        split at h
        · exact Option.some.inj h ▸ le_refl _
        · split at h
          · rename_i world hexec
            obtain rfl := Option.some.inj h
            exact World.toGo_adds (Main.request_handler_adds hexec)
          · cases h
  takes_nothing := by
    intro st e st' h hcompletes
    cases e with
    | complete k completion =>
        rw [step, Option.map_eq_some_iff] at h
        obtain ⟨world, hcomplete, rfl⟩ := h
        rw [moveTo_world, (World.toGo_complete hcomplete).2]
    | _ => cases hcompletes

/-- A call from outside dispatches nothing. -/
theorem outputs_registry {json : JsonLibrary} {verbs : List Bytes} (st : Server)
    (calls : List RegistryCall) :
    Machine.outputs (step json verbs) dispatched st (calls.map .registry) = [] := by
  induction calls generalizing st with
  | nil => rfl
  | cons c calls ih => exact ih _

end Server

namespace Http1Proxy

/-- How many completions its sessions still need at most. -/
def toGo (st : Http1Proxy) : ℕ := (st.sessions.map Http1SessionObject.toGo).sum

/-- The completions of the sessions' operations. -/
def Event.completes : Event → Bool
  | .complete _ _ _ => true
  | _ => false

/-- **What the steps of the proxy cost**: a session six completions. -/
theorem spends (json : JsonLibrary) :
    Machine.Spends (step json) Event.completes toGo (fun st => 6 * st.sessions.length) where
  pays := by
    intro st e st' h
    cases e with
    | accept now =>
        obtain rfl := Option.some.inj h
        have hsum : (st.accept now).toGo = st.toGo + 6 := by
          rw [toGo, accept, List.map_append, List.sum_append]
          rfl
        have hlength : (st.accept now).sessions.length = st.sessions.length + 1 :=
          List.length_append
        have hcompletes : ¬ (Event.accept now).completes = true := Bool.false_ne_true
        rw [hsum, hlength, if_neg hcompletes]
        omega
    | registry call => exact Option.some.inj h ▸ le_refl _
    | cleanup now order => exact Option.some.inj h ▸ le_refl _
    | complete k completion enumerate =>
        obtain ⟨session, request, handled, world, hsession, -, hcomplete, rfl⟩ :=
          step_complete_eq_some h
        obtain ⟨stage, hpending⟩ := Http1ProxySession.exists_pending hcomplete
        have hless := Http1ProxySession.toGo_lt hpending hcomplete
        have hlt := (List.getElem?_eq_some_iff.mp hsession).1
        -- the other sessions keep what they have to go
        have hbefore := ((Pool.perm_cons_eraseIdx hsession).map Http1SessionObject.toGo).sum_eq
        have hafter := ((List.set_perm_cons_eraseIdx hlt handled.session).map
          Http1SessionObject.toGo).sum_eq
        rw [List.map_cons, List.sum_cons] at hbefore hafter
        rw [Http1SessionObject.toGo, hpending] at hbefore
        rw [toGo, toGo, store]
        dsimp only at hbefore ⊢
        rw [hbefore, hafter, List.length_set, Event.completes, if_pos rfl]
        omega
  takes_nothing := by
    intro st e st' h hcompletes
    cases e with
    | complete k completion enumerate =>
        obtain ⟨session, request, handled, world, -, -, -, rfl⟩ := step_complete_eq_some h
        rw [store, List.length_set]
    | _ => cases hcompletes

end Http1Proxy

namespace Process

variable {json : JsonLibrary} {verbs : List Bytes} {st st' : Process}

/-- The completions of one front end. -/
def Event.completes : FrontEnd → Event → Bool
  | .http2, .http2 e => e.completes
  | .http1, .http1 e => e.completes
  | _, _ => false

/-- How many a front end still needs at most. -/
def toGo (st : Process) : FrontEnd → ℕ
  | .http2 => st.http2.world.toGo
  | .http1 => st.http1.toGo

/-- How many it has been given reason to need. -/
def taken (st : Process) : FrontEnd → ℕ
  | .http2 => 4 * st.http2.world.taken
  | .http1 => 6 * st.http1.sessions.length

/-- A front end has its own costs, and none from the other's steps. -/
theorem cost_of_step {e : Event} (h : step json verbs st e = some st') (frontEnd : FrontEnd) :
    toGo st' frontEnd + taken st frontEnd + (if e.completes frontEnd = true then 1 else 0)
        ≤ toGo st frontEnd + taken st' frontEnd
      ∧ ((∃ other, e.completes other = true) → taken st' frontEnd = taken st frontEnd) := by
  cases e with
  | http2 e =>
      rw [step, Option.ite_none_left_eq_some, Option.map_eq_some_iff] at h
      obtain ⟨-, http2, hstep, rfl⟩ := h
      cases frontEnd with
      | http2 =>
          refine ⟨(Server.spends json verbs).pays hstep, fun hsome => ?_⟩
          obtain ⟨other, hcompletes⟩ := hsome
          cases other with
          | http2 => exact (Server.spends json verbs).takes_nothing hstep hcompletes
          | http1 => cases hcompletes
      | http1 => exact ⟨le_refl _, fun _ => rfl⟩
  | http1 e =>
      rw [step, Option.ite_none_left_eq_some, Option.map_eq_some_iff] at h
      obtain ⟨-, http1, hstep, rfl⟩ := h
      cases frontEnd with
      | http2 => exact ⟨le_refl _, fun _ => rfl⟩
      | http1 =>
          refine ⟨(Http1Proxy.spends json).pays hstep, fun hsome => ?_⟩
          obtain ⟨other, hcompletes⟩ := hsome
          cases other with
          | http2 => cases hcompletes
          | http1 => exact (Http1Proxy.spends json).takes_nothing hstep hcompletes

/-- Whether an event is a completion, at either front end. -/
def Event.isCompletion (e : Event) : Bool := e.completes .http2 || e.completes .http1

/-- **What the steps of the process cost** at one front end. -/
theorem spends (json : JsonLibrary) (verbs : List Bytes) (frontEnd : FrontEnd) :
    Machine.Spends (step json verbs) (Event.completes frontEnd) (fun st => st.toGo frontEnd)
      (fun st => st.taken frontEnd) where
  pays := fun h => (cost_of_step h frontEnd).1
  takes_nothing := fun h hcompletes => (cost_of_step h frontEnd).2 ⟨frontEnd, hcompletes⟩

/-- What the steps of the process cost at both front ends. -/
theorem spends_either (json : JsonLibrary) (verbs : List Bytes) :
    Machine.Spends (step json verbs) Event.isCompletion
      (fun st => st.toGo .http2 + st.toGo .http1)
      (fun st => st.taken .http2 + st.taken .http1) where
  pays := by
    intro st e st' h
    have hhttp2 := (cost_of_step h .http2).1
    have hhttp1 := (cost_of_step h .http1).1
    have heither : (if e.isCompletion = true then 1 else 0)
        ≤ (if e.completes .http2 = true then 1 else 0)
          + (if e.completes .http1 = true then 1 else 0) := by
      rw [Event.isCompletion]
      cases e.completes .http2 <;> cases e.completes .http1 <;> decide
    omega
  takes_nothing := by
    intro st e st' h hcompletes
    have hother : ∃ other, e.completes other = true := by
      rcases Bool.or_eq_true_iff.mp hcompletes with hhttp2 | hhttp1
      · exact ⟨_, hhttp2⟩
      · exact ⟨_, hhttp1⟩
    rw [(cost_of_step h .http2).2 hother, (cost_of_step h .http1).2 hother]

/-! ## Everybody answered -/

/-- The requests an event hands to the HTTP/2 handler. -/
def dispatched (st : Process) : Event → List (SessionPtr × Dispatch)
  | .http2 e => Server.dispatched st.http2 e
  | .http1 _ => []

/-- Nobody waits any more: on each stream of each HTTP/2 session there have been as many replies
as requests dispatched, and each session of the proxy has ended, having written one answer if it
has read a request, and none if it has not. -/
structure Answered (st : Process) (log : List (SessionPtr × Dispatch)) : Prop where
  http2 : ∀ (sess : SessionPtr) (stream_id : StreamId),
    (st.http2.world.replies.filter fun reply =>
        reply.sender = sess ∧ reply.stream_id = stream_id).length
      = (log.filter fun d => d.1 = sess ∧ d.2.stream_id = stream_id).length
  http1 : ∀ session ∈ st.http1.sessions,
    session.pending = none ∧ session.client_writes.length = session.received.toList.length

section Run

variable {registry : BackendRegistry} {events : List Event}

/-- The HTTP/2 server is in a state of a run of its own, which dispatches the same. -/
theorem exists_http2_run
    (hrun : Machine.exec (step json verbs) (start registry) events = some st) :
    ∃ own, Machine.exec (Server.step json verbs) (Server.start registry) own = some st.http2
      ∧ Machine.outputs (Server.step json verbs) Server.dispatched (Server.start registry) own
        = Machine.outputs (step json verbs) dispatched (start registry) events := by
  refine run_invariant_log (fun st log =>
    ∃ own, Machine.exec (Server.step json verbs) (Server.start registry) own = some st.http2
      ∧ Machine.outputs (Server.step json verbs) Server.dispatched (Server.start registry) own
        = log)
    (fun st log e st' hinit h hstep => ?_) ⟨[], rfl, rfl⟩ hrun
  obtain ⟨own, hexec, rfl⟩ := h
  obtain ⟨-, hhttp2, -, -⟩ := step_projects hinit hstep
  refine ⟨own ++ seenByHttp2 json st e, ?_, ?_⟩
  · rw [Machine.exec_append, hexec, Option.bind_some, hhttp2]
  · rw [Machine.outputs_append hexec]
    congr 1
    cases e with
    | http2 e =>
        rw [seenByHttp2, Machine.exec_cons_eq_some] at hhttp2
        obtain ⟨http2, hfirst, -⟩ := hhttp2
        rw [seenByHttp2, Machine.outputs, hfirst]
        exact List.append_nil _
    | http1 e =>
        rw [seenByHttp2, dispatched]
        exact Server.outputs_registry st.http2 _

/-- The sessions of the proxy are as in a run of its own. -/
theorem tracked_of_run
    (hrun : Machine.exec (step json verbs) (start registry) events = some st) :
    Http1Proxy.Tracked st.http1 := by
  refine (Machine.exec_invariant (fun st =>
    Http1Proxy.Tracked st.http1 ∧ st.http2.world.forwarding_handler_ = true) ?_
    ⟨Http1Proxy.tracked_start registry, rfl⟩ hrun).1
  rintro st e st' ⟨htracked, hinit⟩ hstep
  obtain ⟨hinit', -, hhttp1, -⟩ := step_projects hinit hstep
  exact ⟨Machine.exec_invariant Http1Proxy.Tracked Http1Proxy.tracked_step htracked hhttp1, hinit'⟩

/-- The requests dispatched have been answered, or are being forwarded. -/
theorem length_dispatched
    (hrun : Machine.exec (step json verbs) (start registry) events = some st)
    (q : SessionPtr → StreamId → Bool) :
    (st.http2.world.http_client_.pending.filter fun op =>
          q op.callback.sender op.callback.stream_id).length
        + (st.http2.world.replies.filter fun reply => q reply.sender reply.stream_id).length
      = ((Machine.outputs (step json verbs) dispatched (start registry) events).filter fun d =>
          q d.1 d.2.stream_id).length := by
  obtain ⟨own, hexec, hlog⟩ := exists_http2_run hrun
  obtain ⟨more, h, -, hinv, hnum, -⟩ := Server.exists_numbered hexec
  rw [← hlog]
  exact hnum.length_filter_add hinv q

/-- At rest no backend operation is under way. -/
theorem atRest_http2 (hrest : Machine.AtRest (step json verbs) Event.isCompletion st) :
    st.http2.world.http_client_.pending = [] := by
  rw [List.eq_nil_iff_forall_not_mem]
  intro op hop
  obtain ⟨k, hk⟩ := List.getElem?_of_mem hop
  obtain ⟨http2, hstep, -⟩ := Server.step_complete_failed json verbs hk []
  have hnone := hrest (.http2 (.complete k (.failed []))) rfl
  rw [step, hstep] at hnone
  cases hnone

/-- At rest no session of the proxy waits for anything. -/
theorem atRest_http1 (htracked : Http1Proxy.Tracked st.http1)
    (hrest : Machine.AtRest (step json verbs) Event.isCompletion st) :
    ∀ session ∈ st.http1.sessions, session.pending = none := by
  intro session hsession
  obtain ⟨k, hk⟩ := List.getElem?_of_mem hsession
  rw [Option.eq_none_iff_forall_ne_some]
  intro stage hpending
  obtain ⟨http1, hstep⟩ :=
    Http1Proxy.exists_step_of_pending json htracked hk hpending UnorderedMap.anyOrder
  have hnone := hrest (.http1 (.complete k (.failed []) UnorderedMap.anyOrder)) rfl
  rw [step, hstep] at hnone
  cases hnone

/-- Without a backend operation or a waiting session there is nothing to complete. -/
theorem atRest_of_ended (hpending : st.http2.world.http_client_.pending = [])
    (hended : ∀ session ∈ st.http1.sessions, session.pending = none) :
    Machine.AtRest (step json verbs) Event.isCompletion st := by
  intro e hcompletion
  rw [Option.eq_none_iff_forall_ne_some]
  intro st' hstep
  cases e with
  | http2 e =>
      rw [step, Option.ite_none_left_eq_some, Option.map_eq_some_iff] at hstep
      obtain ⟨-, http2, hstep, -⟩ := hstep
      cases e with
      | complete k completion =>
          rw [Server.step, Option.map_eq_some_iff] at hstep
          obtain ⟨world, hcomplete, -⟩ := hstep
          -- a completion is of an operation under way
          obtain ⟨op, next, hop, -⟩ := World.complete_eq_some hcomplete
          rw [hpending] at hop
          cases hop
      | _ => cases hcompletion
  | http1 e =>
      rw [step, Option.ite_none_left_eq_some, Option.map_eq_some_iff] at hstep
      obtain ⟨-, http1, hstep, -⟩ := hstep
      cases e with
      | complete k completion enumerate =>
          obtain ⟨session, request, handled, world, hsession, -, hcomplete, -⟩ :=
            Http1Proxy.step_complete_eq_some hstep
          obtain ⟨stage, hstage⟩ := Http1ProxySession.exists_pending hcomplete
          rw [hended session (List.mem_of_getElem? hsession)] at hstage
          cases hstage
      | _ => cases hcompletion

/-- **At rest everybody is answered**, and not before. -/
theorem atRest_iff (hrun : Machine.exec (step json verbs) (start registry) events = some st) :
    Machine.AtRest (step json verbs) Event.isCompletion st
      ↔ Answered st (Machine.outputs (step json verbs) dispatched (start registry) events) := by
  have htracked := tracked_of_run hrun
  constructor
  · intro hrest
    have hpending := atRest_http2 hrest
    have hended := atRest_http1 htracked hrest
    refine ⟨fun sess stream_id => ?_, fun session hsession => ⟨hended session hsession, ?_⟩⟩
    · -- of the dispatches of a stream none is being forwarded any more
      have hcount := length_dispatched hrun fun s i => decide (s = sess ∧ i = stream_id)
      rw [hpending, List.filter_nil, List.length_nil, Nat.zero_add] at hcount
      exact hcount
    · have hdisciplined := htracked.disciplined session hsession
      rw [Disciplined, hended session hsession] at hdisciplined
      rcases hdisciplined with ⟨hreceived, hone⟩ | ⟨hnone, hwrites⟩
      · obtain ⟨request, hrequest⟩ := Option.isSome_iff_exists.mp hreceived
        rw [hone, hrequest]
        rfl
      · rw [hnone, hwrites]
        rfl
  · intro hanswered
    refine atRest_of_ended (List.eq_nil_iff_forall_not_mem.mpr fun op hop => ?_)
      fun session hsession => (hanswered.http1 session hsession).1
    -- the stream of an operation under way has a dispatch that is not answered
    have hcount := length_dispatched hrun fun s i =>
      decide (s = op.callback.sender ∧ i = op.callback.stream_id)
    have hreplies := hanswered.http2 op.callback.sender op.callback.stream_id
    have hmine : op ∈ st.http2.world.http_client_.pending.filter fun op' =>
        op'.callback.sender = op.callback.sender
          ∧ op'.callback.stream_id = op.callback.stream_id :=
      List.mem_filter.mpr ⟨hop, decide_eq_true ⟨rfl, rfl⟩⟩
    have hpos := List.length_pos_of_mem hmine
    omega

/-- A completion dispatches nothing. -/
theorem outputs_completions {more : List Event} (hmore : ∀ e ∈ more, e.isCompletion = true)
    (st : Process) : Machine.outputs (step json verbs) dispatched st more = [] := by
  induction more generalizing st with
  | nil => rfl
  | cons e more ih =>
      obtain ⟨hcompletion, hmore⟩ := List.forall_mem_cons.mp hmore
      have hnone : dispatched st e = [] := by
        cases e with
        | http1 e => rfl
        | http2 e =>
            cases e with
            | complete k completion => rfl
            | _ => cases hcompletion
      rw [Machine.outputs, hnone, List.nil_append]
      cases hstep : step json verbs st e with
      | none => rfl
      | some st' => exact ih hmore st'

end Run

/-- **Everybody is answered in the end.** In any run of the process there are at most four
completions at the HTTP/2 side for each request dispatched, and six at the other for each
session accepted. From any state of it completions alone lead to one in which everybody is
answered; and no other state is at rest. -/
theorem comes_to_rest (json : JsonLibrary) (verbs : List Bytes) (registry : BackendRegistry)
    (events : List Event) (st : Process)
    (hrun : Machine.exec (step json verbs) (start registry) events = some st) :
    (events.countP (Event.completes .http2)
        ≤ 4 * (Machine.outputs (step json verbs) dispatched (start registry) events).length
      ∧ events.countP (Event.completes .http1) ≤ 6 * st.http1.sessions.length)
      ∧ (∃ more st', (∀ e ∈ more, e.isCompletion = true)
        ∧ Machine.exec (step json verbs) st more = some st'
        ∧ Answered st' (Machine.outputs (step json verbs) dispatched (start registry) events))
      ∧ (Machine.AtRest (step json verbs) Event.isCompletion st
        ↔ Answered st (Machine.outputs (step json verbs) dispatched (start registry) events)) := by
  refine ⟨⟨?_, ?_⟩, ?_, atRest_iff hrun⟩
  · have hspent := (spends json verbs .http2).countP_le hrun
    have hall := length_dispatched hrun fun _ _ => true
    rw [List.filter_true, List.filter_true, List.filter_true] at hall
    have htaken : st.taken .http2
        = 4 * (Machine.outputs (step json verbs) dispatched (start registry) events).length := by
      rw [← hall, taken, World.taken, Nat.add_comm]
    have hstart : (start registry).toGo .http2 = 0 := rfl
    omega
  · have hspent := (spends json verbs .http1).countP_le hrun
    have htaken : st.taken .http1 = 6 * st.http1.sessions.length := rfl
    have hstart : (start registry).toGo .http1 = 0 := rfl
    omega
  · -- the completions that lead to rest dispatch nothing, so the log stays as it is
    obtain ⟨more, st', hmore, hexec, hrest⟩ := (spends_either json verbs).exists_exec_atRest st
    have hrun' : Machine.exec (step json verbs) (start registry) (events ++ more) = some st' := by
      rw [Machine.exec_append, hrun, Option.bind_some, hexec]
    have hanswered := (atRest_iff hrun').mp hrest
    rw [Machine.outputs_append hrun, outputs_completions hmore, List.append_nil] at hanswered
    exact ⟨more, st', hmore, hexec, hanswered⟩

/-- After the registration of `registerThere`, completions alone lead to where all are
answered. -/
theorem comes_to_rest_registerThere :
    ∃ st more st', Machine.exec (step registersSlash documentedVerbs) (start .empty)
        (registerThere UnorderedMap.anyOrder) = some st
      ∧ Machine.exec (step registersSlash documentedVerbs) st more = some st'
      ∧ ∀ session ∈ st'.http1.sessions, session.pending = none := by
  obtain ⟨st, hrun, -⟩ := exec_registerThere
  obtain ⟨-, ⟨more, st', -, hexec, hanswered⟩, -⟩ :=
    comes_to_rest registersSlash documentedVerbs .empty _ st hrun
  exact ⟨st, more, st', hrun, hexec, fun session hsession =>
    (hanswered.http1 session hsession).1⟩

end Process

end Http2Server
