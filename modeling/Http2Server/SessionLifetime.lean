/-
How long a session lives, and who may still act on it.

A `Session` is kept alive by the `self` pointer its pending handler captures: the
TLS handshake's, and then, again and again, the read's. A handler that fails
captures nothing further, and the session is destroyed with it. The senders a
session hands out capture the bare pointer `sess`, and a sender given to a request
that goes to a backend is invoked when the backend operation completes, which may
be after that.

The state is the process and its sessions, with a log of every act of a sender and
whether its session was alive then. `acts_on_live_sessions` says what the code needs
from its environment for the log to be clean: that no session ends while a backend
operation for it is outstanding. `late_completion_acts_on_dead` says that this is
all it needs and no less: when one does, the next completion of that operation may
act on the dead session.
-/
import Http2Server.Main
import Http2Server.Session
import Http2Server.Lib.Machine
import Http2Server.Lib.Pool

set_option autoImplicit false

open ByteString

namespace Http2Server

/-- The bare pointer `sess`. -/
abbrev SessionPtr := ℕ

/-- The handlers that capture `self`. -/
inductive SelfHandler
  | handshake
  | read
  deriving DecidableEq, Repr

/-- A session object: what its callbacks see, and the pending handler that keeps it
alive. `start` arms one, and each handler arms the next only as it ends. -/
structure SessionObject where
  session : Session := {}
  pending : Option SelfHandler

/-- One execution of a sender's body, `sess->send_response(…); sess->write_data();`,
and whether `sess` was alive. -/
structure Act where
  sess : SessionPtr
  stream_id : StreamId
  alive : Bool
  deriving DecidableEq, Repr

/-- The process, its sessions in the order they were accepted, and what senders have
done. -/
structure Server where
  world : World SessionPtr
  sessions : List SessionObject
  acts : List Act

namespace Server

open HandlerM

/-- A session is alive while a pending handler holds its `self`. -/
def alive (st : Server) (sess : SessionPtr) : Bool :=
  (st.sessions[sess]?).any fun object => object.pending.isSome

/-- The process moves on to a world in which more senders have been invoked; each of
them acts on its session now. -/
def moveTo (st : Server) (world : World SessionPtr) : Server where
  world := world
  sessions := st.sessions
  acts := st.acts ++ (world.replies.drop st.world.replies.length).map fun reply =>
    ⟨reply.sender, reply.stream_id, st.alive reply.sender⟩

/-- The pending handler of a session ends: it goes on to the next read, or lets go of
`self`. -/
def finish (st : Server) (sess : SessionPtr) (handler : SelfHandler) (ok : Bool) :
    Option Server := do
  let object ← st.sessions[sess]?
  if object.pending = some handler then
    some { st with
      sessions := st.sessions.set sess
        { object with pending := if ok then some .read else none } }
  else none

/-- What can happen next. A read handler runs `nghttp2_session_mem_recv`, which makes
any number of callbacks (`recv`), before it ends (`read`): well, or because the read
or the parsing failed. A stream reset is the callback `on_stream_close`. -/
inductive Event
  | accept (use_ssl : Bool)
  | handshake (sess : SessionPtr) (ok : Bool)
  | recv (sess : SessionPtr) (callback : Callback) (enumerate : Enumeration)
  | read (sess : SessionPtr) (ok : Bool)
  | complete (k : ℕ) (completion : Completion)
  | registry (call : RegistryCall)

/-- One event. A request handler that throws ends the process: there is no step. -/
def step (json : JsonLibrary) (verbs : List Bytes) (st : Server) : Event → Option Server
  | .accept use_ssl =>
      some { st with
        sessions := st.sessions
          ++ [{ pending := some (if use_ssl then .handshake else .read) }] }
  | .handshake sess ok => st.finish sess .handshake ok
  | .recv sess callback enumerate => do
      let object ← st.sessions[sess]?
      if object.pending = some .read then
        let (session, dispatched) := object.session.callback callback
        let st := { st with sessions := st.sessions.set sess { object with session := session } }
        match dispatched with
        | none => some st
        | some d =>
            -- the sender given to the handler is the bare pointer to this session
            match exec (Main.request_handler json verbs enumerate (.of d.method) (.of d.path)
                (.of d.body) d.stream_id sess) st.world with
            | (.ok (), world) => some (st.moveTo world)
            | (.error _, _) => none
      else none
  | .read sess ok => st.finish sess .read ok
  | .complete k completion => (st.world.complete k completion).map st.moveTo
  | .registry call => some { st with world := st.world.call call }

/-- A process that has accepted nobody yet. -/
def start (registry : BackendRegistry) : Server := ⟨World.serving registry, [], []⟩

/-- A backend operation is outstanding whose callback will invoke a sender of the
session. -/
def Owes (st : Server) (sess : SessionPtr) : Prop :=
  ∃ op ∈ st.world.http_client_.pending, op.callback.sender = sess

/-- **No session ends with a backend operation outstanding.** A condition on a step and
the state before it: where the step is the failure of a session's last handler, the
session is owed nothing. -/
def EndsUnowed (st : Server) : Event → Prop
  | .handshake sess false => ¬ st.Owes sess
  | .read sess false => ¬ st.Owes sess
  | _ => True

/-! ## Liveness -/

variable {st st' : Server} {sess other : SessionPtr}

@[simp] theorem moveTo_world (world : World SessionPtr) : (st.moveTo world).world = world := rfl

theorem alive_of_pending {object : SessionObject} (h : st.sessions[sess]? = some object)
    {handler : SelfHandler} (hpending : object.pending = some handler) :
    st.alive sess = true := by
  simp [alive, h, hpending]

/-- Changing a session object changes nobody's liveness but its own. -/
theorem alive_set_of_ne (object : SessionObject) (h : other ≠ sess) :
    ({ st with sessions := st.sessions.set sess object } : Server).alive other
      = st.alive other := by
  simp [alive, List.getElem?_set_ne (Ne.symm h)]

theorem alive_set_self {object object' : SessionObject} (h : st.sessions[sess]? = some object) :
    ({ st with sessions := st.sessions.set sess object' } : Server).alive sess
      = object'.pending.isSome := by
  have hlt := (List.getElem?_eq_some_iff.mp h).1
  simp [alive, List.getElem?_set_self hlt]

/-- What the end of a handler does to liveness: nothing, unless it fails. -/
theorem alive_finish {handler : SelfHandler} {ok : Bool}
    (h : st.finish sess handler ok = some st') :
    st'.world = st.world ∧ st'.acts = st.acts
      ∧ (∀ other, other ≠ sess → st'.alive other = st.alive other)
      ∧ st.alive sess = true ∧ st'.alive sess = ok := by
  simp only [finish, bind, Option.bind_eq_some_iff] at h
  obtain ⟨object, hobject, h⟩ := h
  obtain ⟨hpending, h⟩ := Option.ite_none_right_eq_some.mp h
  obtain rfl := Option.some.inj h
  refine ⟨rfl, rfl, fun other hother => alive_set_of_ne _ hother,
    alive_of_pending hobject hpending, ?_⟩
  rw [alive_set_self hobject]
  cases ok <;> rfl

/-- A pending handler may end either way. -/
theorem exists_finish {object : SessionObject} {handler : SelfHandler}
    (hobject : st.sessions[sess]? = some object) (hpending : object.pending = some handler)
    (ok : Bool) : ∃ st', st.finish sess handler ok = some st' := by
  simp only [finish, hobject, hpending, bind, Option.bind, if_true]
  exact ⟨_, rfl⟩

/-! ## The invariant -/

/-- Every outstanding backend operation is for a session that is alive, and so was
every act. -/
structure Invariant (st : Server) : Prop where
  owed : ∀ op ∈ st.world.http_client_.pending, st.alive op.callback.sender = true
  acted : ∀ act ∈ st.acts, act.alive = true

theorem invariant_start (registry : BackendRegistry) : Invariant (start registry) :=
  ⟨by simp [start, World.serving], by simp [start]⟩

/-- A move to a world whose new operations and replies are all for live sessions keeps
the invariant. -/
theorem invariant_moveTo {world : World SessionPtr} {replies : List (Reply SessionPtr)}
    (hinv : Invariant st) (hreplies : world.replies = st.world.replies ++ replies)
    (howed : ∀ op ∈ world.http_client_.pending, st.alive op.callback.sender = true)
    (hacted : ∀ reply ∈ replies, st.alive reply.sender = true) : Invariant (st.moveTo world) := by
  refine ⟨howed, fun act hact => ?_⟩
  rcases List.mem_append.mp hact with hact | hact
  · exact hinv.acted act hact
  · rw [hreplies, List.drop_left] at hact
    obtain ⟨reply, hreply, rfl⟩ := List.mem_map.mp hact
    exact hacted reply hreply

theorem invariant_finish {handler : SelfHandler} {ok : Bool} (hinv : Invariant st)
    (hends : ok = false → ¬ st.Owes sess) (h : st.finish sess handler ok = some st') :
    Invariant st' := by
  obtain ⟨hworld, hacts, hothers, -, hself⟩ := alive_finish h
  refine ⟨fun op hop => ?_, fun act hact => hinv.acted act (hacts ▸ hact)⟩
  rw [hworld] at hop
  by_cases hsess : op.callback.sender = sess
  · -- a handler that ends well arms the next read; one that fails must owe nothing
    rw [hsess, hself]
    cases ok with
    | false => exact absurd ⟨op, hop, hsess⟩ (hends rfl)
    | true => rfl
  · rw [hothers _ hsess]
    exact hinv.owed op hop

theorem invariant_recv {json : JsonLibrary} {verbs : List Bytes} {callback : Callback}
    {enumerate : Enumeration} (hinv : Invariant st)
    (h : step json verbs st (.recv sess callback enumerate) = some st') : Invariant st' := by
  simp only [step, bind, Option.bind_eq_some_iff] at h
  obtain ⟨object, hobject, h⟩ := h
  split_ifs at h with hpending
  -- the session stays as alive as it was: only its streams change
  have halive : ∀ other, ({ st with
      sessions := st.sessions.set sess
        { object with session := (object.session.callback callback).1 } } : Server).alive other
      = st.alive other := by
    intro other
    by_cases hother : other = sess
    · rw [hother, alive_set_self hobject, alive_of_pending hobject hpending, hpending]
      rfl
    · exact alive_set_of_ne _ hother
  have hinv' : Invariant { st with
      sessions := st.sessions.set sess
        { object with session := (object.session.callback callback).1 } } :=
    ⟨fun op hop => (halive _).trans (hinv.owed op hop), hinv.acted⟩
  rcases hdispatched : (object.session.callback callback).2 with _ | d
  · rw [hdispatched] at h
    exact Option.some.inj h ▸ hinv'
  · rw [hdispatched] at h
    dsimp only at h
    split at h
    · rename_i world hexec
      obtain rfl := Option.some.inj h
      obtain ⟨operations, replies, hpend, hreplies, hops, hreps⟩ :=
        Main.request_handler_adds hexec
      have hself := (halive sess).trans (alive_of_pending hobject hpending)
      refine invariant_moveTo hinv' hreplies (fun op hop => ?_) fun reply hreply => ?_
      · rw [hpend, List.mem_append] at hop
        rcases hop with hop | hop
        · exact hinv'.owed op hop
        · rw [hops op hop]
          exact hself
      · rw [(hreps reply hreply).1]
        exact hself
    · simp at h

theorem invariant_complete {json : JsonLibrary} {verbs : List Bytes} {k : ℕ}
    {completion : Completion} (hinv : Invariant st)
    (h : step json verbs st (.complete k completion) = some st') : Invariant st' := by
  rw [step, Option.map_eq_some_iff] at h
  obtain ⟨world, hcomplete, rfl⟩ := h
  obtain ⟨op, next, hop, hnext, -, hpending, hreplies, -, -⟩ := World.complete_eq_some hcomplete
  have halive := hinv.owed op (List.mem_of_getElem? hop)
  obtain ⟨hstarted, hsent⟩ := next_callback hnext
  refine invariant_moveTo hinv hreplies (fun op' hop' => ?_) fun reply hreply => ?_
  · rw [hpending, List.mem_append] at hop'
    rcases hop' with hop' | hop'
    · exact hinv.owed op' (List.mem_of_mem_eraseIdx hop')
    · rw [hstarted op' hop']
      exact halive
  · rw [hsent reply hreply]
    exact halive

/-- **Every step that ends no session it owes keeps the invariant.** -/
theorem invariant_step {json : JsonLibrary} {verbs : List Bytes} (st : Server) (e : Event)
    (st' : Server) (hinv : Invariant st) (hends : EndsUnowed st e)
    (h : step json verbs st e = some st') : Invariant st' := by
  cases e with
  | accept use_ssl =>
      -- the sessions there are keep their places
      obtain rfl := Option.some.inj h
      refine ⟨fun op hop => ?_, hinv.acted⟩
      have halive := hinv.owed op hop
      simp only [alive, Option.any_eq_true] at halive ⊢
      obtain ⟨object, hobject, hpending⟩ := halive
      exact ⟨object, Record.getElem?_append_of_some hobject _, hpending⟩
  | handshake sess ok => exact invariant_finish hinv (by rintro rfl; exact hends) h
  | recv sess callback enumerate => exact invariant_recv hinv h
  | read sess ok => exact invariant_finish hinv (by rintro rfl; exact hends) h
  | complete k completion => exact invariant_complete hinv h
  | registry call =>
      obtain rfl := Option.some.inj h
      exact ⟨hinv.owed, hinv.acted⟩

/-- **Senders act on live sessions, as long as no session ends that is owed a reply.**
In every run, of any number of sessions, streams and backend operations in any order,
each of whose steps ends only sessions no outstanding backend operation is for, every
act of a sender is on a session that is alive at that moment. -/
theorem acts_on_live_sessions (json : JsonLibrary) (verbs : List Bytes)
    (registry : BackendRegistry) (events : List Event) (st : Server)
    (hmeet : Machine.StepsMeet (step json verbs) EndsUnowed (start registry) events)
    (hrun : Machine.exec (step json verbs) (start registry) events = some st) :
    ∀ act ∈ st.acts, act.alive = true :=
  (Machine.exec_invariant_of_stepsMeet Invariant invariant_step (invariant_start registry)
    hmeet hrun).acted

/-! ## A late completion -/

/-- An outstanding operation may fail at any time; the sender it was for then acts. -/
theorem step_complete_failed (json : JsonLibrary) (verbs : List Bytes) {k : ℕ}
    {op : Op (ForwardCallback SessionPtr)} (hop : st.world.http_client_.pending[k]? = some op)
    (message : Bytes) :
    ∃ st', step json verbs st (.complete k (.failed message)) = some st'
      ∧ st'.sessions = st.sessions
      ∧ st'.world.http_client_.pending = st.world.http_client_.pending.eraseIdx k
      ∧ st'.acts = st.acts ++ [⟨op.callback.sender, op.callback.stream_id,
          st.alive op.callback.sender⟩] := by
  have hfailed := HttpClient.complete_failed op message
  obtain ⟨world, hcomplete⟩ := World.exists_complete hop hfailed
  obtain ⟨op', next, hop', hnext, -, hpending, hreplies, -, -⟩ :=
    World.complete_eq_some hcomplete
  obtain rfl := Option.some.inj (hop.symm.trans hop')
  obtain rfl := Option.some.inj (hfailed.symm.trans hnext)
  refine ⟨st.moveTo world, by rw [step, hcomplete]; rfl, rfl, ?_, ?_⟩
  · rw [moveTo_world, hpending, Next.started, List.append_nil]
  · rw [moveTo, hreplies, List.drop_left]
    rfl

/-- **A session that ends while it is owed a reply may be acted on.** After any step that
does not meet the condition, the next completion of the operation may invoke a sender
of a session that is no longer alive. -/
theorem late_completion_acts_on_dead {json : JsonLibrary} {verbs : List Bytes} {e : Event}
    (hends : ¬ EndsUnowed st e) (h : step json verbs st e = some st') :
    ∃ k completion st'', step json verbs st' (.complete k completion) = some st''
      ∧ ∃ act ∈ st''.acts, act.alive = false := by
  have hfinish : ∃ sess handler, st.finish sess handler false = some st' ∧ st.Owes sess := by
    cases e with
    | handshake sess ok =>
        cases ok with
        | false => exact ⟨sess, .handshake, h, not_not.mp hends⟩
        | true => exact absurd trivial hends
    | read sess ok =>
        cases ok with
        | false => exact ⟨sess, .read, h, not_not.mp hends⟩
        | true => exact absurd trivial hends
    | accept use_ssl => exact absurd trivial hends
    | recv sess callback enumerate => exact absurd trivial hends
    | complete k completion => exact absurd trivial hends
    | registry call => exact absurd trivial hends
  obtain ⟨sess, handler, hfinish, op, hop, hsess⟩ := hfinish
  obtain ⟨hworld, -, -, -, hdead⟩ := alive_finish hfinish
  obtain ⟨k, hk⟩ := List.getElem?_of_mem hop
  rw [← hworld] at hk
  obtain ⟨st'', hstep, -, -, hacts⟩ := step_complete_failed json verbs hk []
  refine ⟨k, _, st'', hstep, ⟨sess, op.callback.stream_id, false⟩, ?_, rfl⟩
  rw [hacts, hsess, hdead]
  exact List.mem_append_right _ (List.mem_singleton.mpr rfl)

/-- A callback that dispatches a request the handler takes. -/
theorem step_recv_of_dispatch {json : JsonLibrary} {verbs : List Bytes} {object : SessionObject}
    {callback : Callback} {enumerate : Enumeration} {session : Session} {d : Dispatch}
    {world : World SessionPtr} (hobject : st.sessions[sess]? = some object)
    (hpending : object.pending = some .read)
    (hdispatched : object.session.callback callback = (session, some d))
    (hexec : exec (Main.request_handler json verbs enumerate (.of d.method) (.of d.path)
      (.of d.body) d.stream_id sess) st.world = (.ok (), world)) :
    step json verbs st (.recv sess callback enumerate)
      = some ({ st with
          sessions := st.sessions.set sess { object with session := session } }.moveTo world) := by
  simp only [step, hobject, bind, Option.bind, hpending, if_true, hdispatched, hexec]

/-- A client that connects and asks for `/index`, up to the end of its request. -/
def getIndex (enumerate : Enumeration) : List Event :=
  let frame : Frame := ⟨.HEADERS, 0x05, 1, .REQUEST⟩
  [.accept false,
    .recv 0 (.on_header frame (bytes ":method") (bytes "GET")) enumerate,
    .recv 0 (.on_header frame (bytes ":path") (bytes "/index")) enumerate,
    .recv 0 (.on_frame_recv frame) enumerate]

/-- With a catch-all backend registered, its session is then owed a reply. -/
theorem exec_getIndex (json : JsonLibrary) :
    ∃ st op object, Machine.exec (step json documentedVerbs) (start BackendRegistry.catchAll)
        (getIndex UnorderedMap.anyOrder) = some st
      ∧ st.world.http_client_.pending = [op] ∧ op.callback = ⟨0, 1⟩
      ∧ st.sessions[0]? = some object ∧ object.pending = some .read ∧ st.acts = [] := by
  have hlookup : ForwardingHandler.lookup UnorderedMap.anyOrder
      (World.serving (S := SessionPtr) BackendRegistry.catchAll) (bytes "/index")
        = some BackendRegistry.catchAllRule :=
    BackendRegistry.find_backend_catchAll _ ⟨bytes "index", by decide⟩
  have hexec := (Main.exec_request_handler_of_forwarded json documentedVerbs
      UnorderedMap.anyOrder (.of (bytes "GET")) (.of (bytes "/index")) (.of []) 1 0
      (World.serving BackendRegistry.catchAll) rfl (by decide) (by decide)).trans
    (ForwardingHandler.exec_forward_request_of_accepts documentedVerbs UnorderedMap.anyOrder
      (.of (bytes "GET")) (.of (bytes "/index")) (.of []) 1 0 _
      (by rwa [StringView.chars_of]) (by decide))
  -- the session as the two header fields leave it
  have hheaders : Machine.exec (step json documentedVerbs) (start BackendRegistry.catchAll)
      ((getIndex UnorderedMap.anyOrder).take 3)
      = some ⟨World.serving BackendRegistry.catchAll,
        [{ session := ⟨Finmap.insert 1 ⟨bytes "GET", bytes "/index", []⟩
            (Finmap.insert 1 ⟨bytes "GET", [], []⟩ ∅)⟩, pending := some .read }], []⟩ := rfl
  exact ⟨_, _, _, Machine.exec_snoc hheaders (step_recv_of_dispatch rfl rfl rfl hexec), rfl, rfl,
    rfl, rfl, rfl⟩

/-- The client that is answered before it leaves: the backend operation fails, and then
the read does. -/
theorem acts_on_live_sessions_answered :
    ∃ (json : JsonLibrary) (st : Server),
      Machine.exec (step json documentedVerbs) (start BackendRegistry.catchAll)
          (getIndex UnorderedMap.anyOrder ++ [.complete 0 (.failed []), .read 0 false]) = some st
        ∧ st.acts ≠ [] ∧ ∀ act ∈ st.acts, act.alive = true := by
  let json : JsonLibrary := ⟨fun _ => none, fun _ => []⟩
  obtain ⟨st, op, object, hrun, hpending, hcallback, hobject, hread, hacts⟩ := exec_getIndex json
  have hop : st.world.http_client_.pending[0]? = some op := by rw [hpending]; rfl
  obtain ⟨st₁, hcomplete, hsessions, hpending₁, hacts₁⟩ :=
    step_complete_failed json documentedVerbs hop []
  obtain ⟨st₂, hfail⟩ := exists_finish (by rw [hsessions, hobject]) hread false
  have hunowed : ¬ st₁.Owes 0 := by
    rintro ⟨op', hop', -⟩
    rw [hpending₁, hpending] at hop'
    exact absurd hop' (by simp)
  have hexec : Machine.exec (step json documentedVerbs) (start BackendRegistry.catchAll)
      (getIndex UnorderedMap.anyOrder ++ [.complete 0 (.failed []), .read 0 false])
      = some st₂ := by
    rw [Machine.exec_append, hrun, Option.bind_some, Machine.exec_cons, hcomplete,
      Option.bind_some, Machine.exec_cons, step, hfail, Option.bind_some, Machine.exec_nil]
  refine ⟨json, st₂, hexec, ?_, acts_on_live_sessions json documentedVerbs _ _ st₂ ?_ hexec⟩
  · rw [(alive_finish hfail).2.1, hacts₁, hacts]
    simp
  · refine .append ?_ hrun (.cons trivial hcomplete (.cons hunowed hfail trivial))
    intro e he s
    simp only [getIndex, List.mem_cons, List.not_mem_nil, or_false] at he
    rcases he with rfl | rfl | rfl | rfl <;> trivial

/-- The client that leaves first: its session is gone when the backend operation
completes, and the sender acts on it all the same. -/
theorem disconnect_then_completion :
    ∃ (json : JsonLibrary) (st : Server),
      Machine.exec (step json documentedVerbs) (start BackendRegistry.catchAll)
          (getIndex UnorderedMap.anyOrder ++ [.read 0 false, .complete 0 (.failed [])]) = some st
        ∧ st.acts = [⟨0, 1, false⟩] := by
  let json : JsonLibrary := ⟨fun _ => none, fun _ => []⟩
  obtain ⟨st, op, object, hrun, hpending, hcallback, hobject, hread, hacts⟩ := exec_getIndex json
  obtain ⟨st₁, hfail⟩ := exists_finish hobject hread false
  obtain ⟨hworld, hacts₁, -, -, hdead⟩ := alive_finish hfail
  have hop : st₁.world.http_client_.pending[0]? = some op := by rw [hworld, hpending]; rfl
  obtain ⟨st₂, hcomplete, -, -, hacts₂⟩ := step_complete_failed json documentedVerbs hop []
  refine ⟨json, st₂, ?_, ?_⟩
  · rw [Machine.exec_append, hrun, Option.bind_some, Machine.exec_cons, step, hfail,
      Option.bind_some, Machine.exec_cons, hcomplete, Option.bind_some, Machine.exec_nil]
  · rw [hacts₂, hacts₁, hacts, hcallback, hdead]
    rfl

end Server

end Http2Server
