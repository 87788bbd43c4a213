/-
The HTTP/2 server's requests, one by one.

In the server a sender is the bare pointer to a session, so the replies and operations of
one session's streams cannot be told apart by their senders, and those of a stream that
was dispatched twice cannot be told apart at all. `Handling` numbers requests instead. The
two are the same process: a world whose senders are renamed (`World.map`) does what the
other does, so the server's run *is* a run of `Handling` in which the number of a request
is replaced by the session it came on (`Numbered`).

`each_dispatch_answered` carries over what `Handling` promises, and
`dispatches_conserved` is the count that remains when the numbers are forgotten: on every
stream of every session, replies and operations under way are together as many as
dispatches.
-/
import Http2Server.Handling
import Http2Server.SessionLifetime

set_option autoImplicit false

open ByteString

namespace Http2Server

/-! ## Renaming senders -/

section Map

variable {S T : Type} (f : S → T)

def ForwardCallback.map (callback : ForwardCallback S) : ForwardCallback T where
  sender := f callback.sender
  stream_id := callback.stream_id

def Reply.map (reply : Reply S) : Reply T where
  sender := f reply.sender
  stream_id := reply.stream_id
  response := reply.response

def Op.map {C D : Type} (f : C → D) (op : Op C) : Op D where
  stage := op.stage
  socket := op.socket
  callback := f op.callback

def Next.map {C D : Type} (f : C → D) : Next C → Next D
  | .start op => .start (op.map f)
  | .callback invoked response error => .callback (f invoked) response error

def HttpClient.map {C D : Type} (f : C → D) (client : HttpClient C) : HttpClient D where
  connections := client.connections
  pending := client.pending.map (Op.map f)

/-- The world with its senders renamed. -/
def World.map (w : World S) : World T where
  registry := w.registry
  registry_calls := w.registry_calls
  forwarding_handler_ := w.forwarding_handler_
  http_client_ := w.http_client_.map (ForwardCallback.map f)
  replies := w.replies.map (Reply.map f)

/-- A renaming matters only as far as there are senders. -/
theorem World.map_congr {f g : S → T} {w : World S}
    (hops : ∀ op ∈ w.http_client_.pending, f op.callback.sender = g op.callback.sender)
    (hreplies : ∀ reply ∈ w.replies, f reply.sender = g reply.sender) : w.map f = w.map g := by
  have hpending : w.http_client_.pending.map (Op.map (ForwardCallback.map f))
      = w.http_client_.pending.map (Op.map (ForwardCallback.map g)) := by
    refine List.map_congr_left fun op hop => ?_
    rw [Op.map, Op.map, ForwardCallback.map, ForwardCallback.map, hops op hop]
  have hlog : w.replies.map (Reply.map f) = w.replies.map (Reply.map g) := by
    refine List.map_congr_left fun reply hreply => ?_
    rw [Reply.map, Reply.map, hreplies reply hreply]
  rw [World.map, World.map, HttpClient.map, HttpClient.map, hpending, hlog]

/-- Replying, calling the registry and starting a request commute with renaming. -/
theorem World.map_reply (w : World S) (sender : S) (stream_id : StreamId)
    (response : HttpResponse) :
    (w.reply sender stream_id response).map f
      = (w.map f).reply (f sender) stream_id response := by
  simp [World.map, World.reply, Reply.map]

theorem World.map_perform (w : World S) (asked : Option RegistryCall) :
    (w.perform asked).map f = (w.map f).perform asked := by
  cases asked <;> rfl

theorem World.map_started (w : World S) (host : Bytes) (port : ℤ) (method path body : Bytes)
    (sender : S) (stream_id : StreamId) :
    (w.withClient (w.http_client_.started host port method path body ⟨sender, stream_id⟩)).map f
      = (w.map f).withClient ((w.map f).http_client_.started host port method path body
          ⟨f sender, stream_id⟩) := by
  simp [World.map, World.withClient, HttpClient.map, HttpClient.started, Op.map,
    ForwardCallback.map]

theorem HttpClient.complete_map {C D : Type} (f : C → D) (op : Op C) (completion : Completion) :
    HttpClient.complete (op.map f) completion
      = (HttpClient.complete op completion).map (Next.map f) := by
  rcases op with ⟨stage, socket, callback⟩
  cases stage <;> cases completion <;> rfl

theorem HttpClient.step_map {C D : Type} (f : C → D) (client : HttpClient C) (k : ℕ)
    (completion : Completion) :
    (client.map f).step k completion
      = (client.step k completion).map fun (client', called) =>
          (client'.map f, called.map fun (callback, response, error) =>
            (f callback, response, error)) := by
  rw [step, step]
  simp only [HttpClient.map, List.getElem?_map, bind]
  rcases client.pending[k]? with _ | op
  · rfl
  simp only [Option.map_some, Option.bind_some, complete_map]
  rcases complete op completion with _ | next
  · rfl
  · cases next <;> simp [Next.map, Op.map, List.eraseIdx_map]

/-- **A completion, renamed**, is the completion of the renamed world. -/
theorem World.complete_map (w : World S) (k : ℕ) (completion : Completion) :
    (w.map f).complete k completion = (w.complete k completion).map (World.map f) := by
  have hclient : (w.map f).http_client_ = w.http_client_.map (ForwardCallback.map f) := rfl
  simp only [World.complete, hclient, HttpClient.step_map, bind, Option.bind_map]
  rw [Option.map_bind]
  congr 1
  funext outcome
  obtain ⟨client', called⟩ := outcome
  rcases called with _ | ⟨callback, response, error⟩
  · rfl
  · exact congrArg some (World.map_reply f (w.withClient client') callback.sender
      callback.stream_id (ForwardingHandler.answer response error)).symm

end Map

namespace Main

open HandlerM

variable {S T : Type}

/-- **The installed handler does not look at its sender**: renaming before it runs or
after is the same. -/
theorem exec_request_handler_map (f : S → T) (json : JsonLibrary) (verbs : List Bytes)
    (enumerate : Enumeration) (method path body : Bytes) (stream_id : StreamId) (sender : S)
    {w : World S} (hinit : w.forwarding_handler_ = true) :
    exec (request_handler json verbs enumerate (.of method) (.of path) (.of body) stream_id
        (f sender)) (w.map f)
      = Prod.map id (World.map f)
          (exec (request_handler json verbs enumerate (.of method) (.of path) (.of body) stream_id
            sender) w) := by
  have hinit' : (w.map f).forwarding_handler_ = true := hinit
  rcases hown : ownAnswer json method path body with _ | ⟨asked, response⟩
  · rw [exec_request_handler_of_not_own verbs enumerate stream_id _ hinit hown,
      exec_request_handler_of_not_own verbs enumerate stream_id _ hinit' hown]
    -- the lookup sees the table only, which keeps its names
    have hsame : ForwardingHandler.lookup enumerate (w.map f) (StringView.of path).chars
        = ForwardingHandler.lookup enumerate w (StringView.of path).chars := rfl
    rcases hlookup : ForwardingHandler.lookup enumerate w (StringView.of path).chars with _ | rule
    · rw [ForwardingHandler.exec_forward_request_of_none _ _ _ _ _ _ _ _ hlookup,
        ForwardingHandler.exec_forward_request_of_none _ _ _ _ _ _ _ _ (hsame.trans hlookup)]
      exact congrArg (Prod.mk _) (World.map_reply f w _ _ _).symm
    by_cases haccepts : HttpClient.Accepts verbs (StringView.of method).chars
        (StringView.of body).chars
    · rw [ForwardingHandler.exec_forward_request_of_accepts _ _ _ _ _ _ _ _ hlookup haccepts,
        ForwardingHandler.exec_forward_request_of_accepts _ _ _ _ _ _ _ _ (hsame.trans hlookup)
          haccepts]
      exact congrArg (Prod.mk _) (World.map_started f w _ _ _ _ _ _ _).symm
    · rw [ForwardingHandler.exec_forward_request_of_not_accepts _ _ _ _ _ _ _ _ hlookup haccepts,
        ForwardingHandler.exec_forward_request_of_not_accepts _ _ _ _ _ _ _ _ (hsame.trans hlookup)
          haccepts]
      rfl
  · -- its own answer is the same one, to the other sender
    rw [exec_request_handler_of_own verbs enumerate stream_id _ hinit hown,
      exec_request_handler_of_own verbs enumerate stream_id _ hinit' hown]
    rw [Prod.map, World.map_reply, World.map_perform]
    rfl

end Main

/-! ## The server's run, numbered -/

/-- The request of a call, as a dispatch. -/
def ForwardCall.dispatch (call : ForwardCall) : Dispatch :=
  ⟨call.method, call.path, call.body, call.stream_id⟩

namespace Server

open HandlerM Forwarding

/-- The request an event hands to the handler, if it does, and the session it came on. -/
def dispatched (st : Server) : Event → List (SessionPtr × Dispatch)
  | .recv sess callback _ =>
      match st.sessions[sess]? with
      | some object => (object.session.callback callback).2.toList.map fun d => (sess, d)
      | none => []
  | _ => []

/-- What is kept of a request dispatched: for one that is forwarded, what its lookup finds and
the socket its chain is given. -/
def record (json : JsonLibrary) (st : Server) (enumerate : Enumeration) (d : Dispatch) :
    ForwardCall where
  method := d.method
  path := d.path
  body := d.body
  stream_id := d.stream_id
  registry := st.world.registry
  rule := if (Main.ownAnswer json d.method d.path d.body).isNone then
    ForwardingHandler.lookup enumerate st.world d.path else none
  socket := st.world.http_client_.connections.length

/-- The requests an event hands to the handler, as they are kept. -/
def recorded (json : JsonLibrary) (st : Server) (e : Event) : List ForwardCall :=
  match e with
  | .recv _ _ enumerate => (dispatched st e).map fun d => record json st enumerate d.2
  | _ => []

/-- The session of the `i`-th request dispatched. -/
def sessionOf (log : List (SessionPtr × Dispatch)) (i : ℕ) : SessionPtr :=
  (log[i]?).elim 0 Prod.fst

/-- **The server is the numbered process with its numbers forgotten**: its requests are the
ones dispatched, and in its world the number of a request stands for the session it came
on. -/
structure Numbered (st : Server) (log : List (SessionPtr × Dispatch)) (h : Forwarding) : Prop where
  world : st.world = h.world.map (sessionOf log)
  requests : h.calls.map ForwardCall.dispatch = log.map Prod.snd

variable {json : JsonLibrary} {verbs : List Bytes} {st st' : Server}
  {log : List (SessionPtr × Dispatch)} {h : Forwarding} {sess : SessionPtr}

theorem Numbered.length (hnum : Numbered st log h) : h.calls.length = log.length := by
  have hlength := congrArg List.length hnum.requests
  rwa [List.length_map, List.length_map] at hlength

theorem sessionOf_append_of_lt {more : List (SessionPtr × Dispatch)} {i : ℕ} (hi : i < log.length) :
    sessionOf (log ++ more) i = sessionOf log i := by
  rw [sessionOf, sessionOf, List.getElem?_append_left hi]

theorem sessionOf_concat_length (d : Dispatch) :
    sessionOf (log ++ [(sess, d)]) log.length = sess := by
  rw [sessionOf, List.getElem?_concat_length]
  rfl

theorem Numbered.stream_id_eq (hnum : Numbered st log h) {i : ℕ} {call : ForwardCall}
    {d : SessionPtr × Dispatch} (hcall : h.calls[i]? = some call) (hd : log[i]? = some d) :
    call.stream_id = d.2.stream_id := by
  have hsame := congrArg (fun l : List Dispatch => l[i]?) hnum.requests
  simp only [List.getElem?_map, hcall, hd, Option.map_some, Option.some.injEq] at hsame
  rw [← hsame]
  rfl

/-- One more dispatch renames none of the senders there are. -/
theorem Numbered.map_append (hnum : Numbered st log h) (hinv : Handling.Invariant json h)
    (more : List (SessionPtr × Dispatch)) :
    h.world.map (sessionOf (log ++ more)) = h.world.map (sessionOf log) := by
  refine World.map_congr (fun op hop => ?_) fun reply hreply => ?_
  · have hlt := hinv.books.pool_lt op hop
    rw [hnum.length] at hlt
    exact sessionOf_append_of_lt hlt
  · have hlt := hinv.books.log_lt reply hreply
    rw [hnum.length] at hlt
    exact sessionOf_append_of_lt hlt

/-- An event that hands nothing to the handler, and leaves the world as it is. -/
theorem Numbered.of_world_eq (hnum : Numbered st log h) (hworld : st'.world = st.world) :
    Numbered st' (log ++ []) h := by
  rw [List.append_nil]
  exact ⟨hworld.trans hnum.world, hnum.requests⟩

/-- **A dispatch** is the next numbered request. -/
theorem Numbered.recv (hnum : Numbered st log h) (hinv : Handling.Invariant json h)
    {callback : Callback} {enumerate : Enumeration}
    (hstep : step json verbs st (.recv sess callback enumerate) = some st') :
    ∃ more h', Machine.exec (Handling.step json verbs) h more = some h'
      ∧ Numbered st' (log ++ dispatched st (.recv sess callback enumerate)) h'
      ∧ h'.calls = h.calls ++ recorded json st (.recv sess callback enumerate) := by
  simp only [step, bind, Option.bind_eq_some_iff] at hstep
  obtain ⟨object, hobject, hstep⟩ := hstep
  split_ifs at hstep with hpending
  have hlog : dispatched st (.recv sess callback enumerate)
      = (object.session.callback callback).2.toList.map fun d => (sess, d) := by
    rw [dispatched, hobject]
  rw [recorded, hlog]
  rcases hdispatched : (object.session.callback callback).2 with _ | d
  · rw [hdispatched] at hstep
    -- the callback has only been noted in the session
    obtain rfl := Option.some.inj hstep
    exact ⟨[], h, rfl, hnum.of_world_eq rfl, (List.append_nil _).symm⟩
  rw [hdispatched] at hstep
  dsimp only at hstep
  -- the handler runs in the renamed world, for the session the next number stands for
  have hworld : st.world = h.world.map (sessionOf (log ++ [(sess, d)])) :=
    hnum.world.trans (hnum.map_append hinv _).symm
  have hsess : sessionOf (log ++ [(sess, d)]) h.calls.length = sess := by
    rw [hnum.length]
    exact sessionOf_concat_length d
  have hmap := Main.exec_request_handler_map (sessionOf (log ++ [(sess, d)])) json verbs enumerate
    d.method d.path d.body d.stream_id h.calls.length hinv.initialized
  rw [hsess, ← hworld] at hmap
  rw [hmap] at hstep
  rcases hexec : exec (Main.request_handler json verbs enumerate (.of d.method) (.of d.path)
      (.of d.body) d.stream_id h.calls.length) h.world with ⟨result, world⟩
  rw [hexec, Prod.map] at hstep
  cases result with
  | error e => cases hstep
  | ok value =>
      obtain rfl := Option.some.inj hstep
      refine ⟨[.request d.method d.path d.body d.stream_id enumerate],
        { world := world
          calls := h.calls ++ [Handling.record json h d.method d.path d.body d.stream_id
            enumerate] }, ?_, ⟨rfl, ?_⟩, ?_⟩
      · rw [Machine.exec_cons, Handling.step, hexec]
        rfl
      · rw [List.map_append, hnum.requests, List.map_append]
        rfl
      · -- the table and the sockets are those of the renamed world
        rw [Option.toList_some, List.map_singleton, List.map_singleton, record, Handling.record,
          hworld]
        congr 2

/-- **Every step of the server** is one of the numbered process, or none. -/
theorem numbered_step (hnum : Numbered st log h) (hinv : Handling.Invariant json h) {e : Event}
    (hstep : step json verbs st e = some st') :
    ∃ more h', Machine.exec (Handling.step json verbs) h more = some h'
      ∧ Numbered st' (log ++ dispatched st e) h' ∧ h'.calls = h.calls ++ recorded json st e := by
  have hnone : h.calls = h.calls ++ [] := (List.append_nil _).symm
  cases e with
  | accept use_ssl =>
      obtain rfl := Option.some.inj hstep
      exact ⟨[], h, rfl, hnum.of_world_eq rfl, hnone⟩
  | handshake sess ok =>
      obtain ⟨hworld, -, -, -, -⟩ := alive_finish hstep
      exact ⟨[], h, rfl, hnum.of_world_eq hworld, hnone⟩
  | recv sess callback enumerate => exact hnum.recv hinv hstep
  | read sess ok =>
      obtain ⟨hworld, -, -, -, -⟩ := alive_finish hstep
      exact ⟨[], h, rfl, hnum.of_world_eq hworld, hnone⟩
  | complete k completion =>
      -- which operation it is does not depend on what its sender is called
      rw [step, Option.map_eq_some_iff] at hstep
      obtain ⟨world, hcomplete, rfl⟩ := hstep
      rw [hnum.world, World.complete_map, Option.map_eq_some_iff] at hcomplete
      obtain ⟨world', hcomplete, rfl⟩ := hcomplete
      refine ⟨[.complete k completion], { h with world := world' }, ?_, ?_, hnone⟩
      · rw [Machine.exec_cons, Handling.step, hcomplete]
        rfl
      · exact (List.append_nil log).symm ▸ ⟨rfl, hnum.requests⟩
  | registry call =>
      obtain rfl := Option.some.inj hstep
      refine ⟨[.registry call], { h with world := h.world.call call }, rfl, ?_, hnone⟩
      exact (List.append_nil log).symm ▸
        ⟨congrArg (fun w => World.call w call) hnum.world, hnum.requests⟩

theorem numbered_start (registry : BackendRegistry) :
    Numbered (start registry) [] (Forwarding.start registry) := ⟨rfl, rfl⟩

/-- **A run of the server is a run of the numbered process**, of the requests it has
dispatched. -/
theorem exists_numbered {registry : BackendRegistry} {events : List Event}
    (hrun : Machine.exec (step json verbs) (start registry) events = some st) :
    ∃ more h, Machine.exec (Handling.step json verbs) (Forwarding.start registry) more = some h
      ∧ Handling.Invariant json h
      ∧ Numbered st (Machine.outputs (step json verbs) dispatched (start registry) events) h
      ∧ h.calls = Machine.outputs (step json verbs) (recorded json) (start registry) events := by
  refine Machine.exec_invariant_events
    (fun st done => ∃ more h,
      Machine.exec (Handling.step json verbs) (Forwarding.start registry) more = some h
        ∧ Handling.Invariant json h
        ∧ Numbered st (Machine.outputs (step json verbs) dispatched (start registry) done) h
        ∧ h.calls = Machine.outputs (step json verbs) (recorded json) (start registry) done)
    ?_ ?_ hrun
  · rintro st done e st' hdone ⟨more, h, hexec, hinv, hnum, hcalls⟩ hstep
    obtain ⟨last, h', hlast, hnum', hcalls'⟩ := numbered_step hnum hinv hstep
    rw [Machine.outputs_concat hdone, Machine.outputs_concat hdone]
    refine ⟨more ++ last, h', ?_, ?_, hnum', ?_⟩
    · rw [Machine.exec_append, hexec, Option.bind_some, hlast]
    · exact Machine.exec_invariant (Handling.Invariant json) Handling.invariant_step hinv hlast
    · rw [hcalls', hcalls]
  · exact ⟨[], _, rfl, Handling.invariant_start registry, numbered_start registry, rfl⟩

/-! ## What becomes of a dispatch -/

/-- **Every request dispatched is answered once, on its own stream.** In every run of the
server, of any number of sessions and streams, the senders invoked and the operations under
way are, with the requests numbered in the order they were dispatched, those of a run of the
numbered process, in which each request has its own answer, or is served as a forwarded one. -/
theorem each_dispatch_answered (json : JsonLibrary) (verbs : List Bytes)
    (registry : BackendRegistry) (events : List Event) (st : Server)
    (hrun : Machine.exec (step json verbs) (start registry) events = some st) :
    ∃ (more : List Handling.Event) (h : Forwarding),
      Machine.exec (Handling.step json verbs) (Forwarding.start registry) more = some h
        ∧ h.calls = Machine.outputs (step json verbs) (recorded json) (start registry) events
        ∧ Numbered st (Machine.outputs (step json verbs) dispatched (start registry) events) h
        ∧ ∀ (i : ℕ) (call : ForwardCall), h.calls[i]? = some call →
          Handling.Answered json h i call := by
  obtain ⟨more, h, hexec, hinv, hnum, hcalls⟩ := exists_numbered hrun
  exact ⟨more, h, hexec, hcalls, hnum,
    fun i call hcall => Handling.answered_of_invariant hinv hcall⟩

theorem each_dispatch_answered_getIndex :
    ∃ (json : JsonLibrary) (st : Server),
      Machine.exec (step json documentedVerbs) (start BackendRegistry.catchAll)
          (getIndex UnorderedMap.anyOrder) = some st
        ∧ ∃ (more : List Handling.Event) (h : Forwarding),
          Machine.exec (Handling.step json documentedVerbs)
              (Forwarding.start BackendRegistry.catchAll) more = some h
            ∧ Numbered st (Machine.outputs (step json documentedVerbs) dispatched
              (start BackendRegistry.catchAll) (getIndex UnorderedMap.anyOrder)) h
            ∧ ∀ (i : ℕ) (call : ForwardCall), h.calls[i]? = some call →
              Handling.Answered json h i call := by
  let json : JsonLibrary := ⟨fun _ => none, fun _ => []⟩
  obtain ⟨st, -, -, hrun, -⟩ := exec_getIndex json
  obtain ⟨more, h, hexec, -, hnum, hanswered⟩ :=
    each_dispatch_answered json documentedVerbs _ _ st hrun
  exact ⟨json, st, hrun, more, h, hexec, hnum, hanswered⟩

/-- The replies and the operations of any streams are as many as the requests dispatched on
them. -/
theorem Numbered.length_filter_add (hnum : Numbered st log h) (hinv : Handling.Invariant json h)
    (q : SessionPtr → StreamId → Bool) :
    (st.world.http_client_.pending.filter fun op =>
          q op.callback.sender op.callback.stream_id).length
        + (st.world.replies.filter fun reply => q reply.sender reply.stream_id).length
      = (log.filter fun d => q d.1 d.2.stream_id).length := by
  -- the numbers of the requests of these streams
  let p : ℕ → Bool := fun i => (h.calls[i]?).any fun call => q (sessionOf log i) call.stream_id
  have hpasses : ∀ {i : ℕ} {call : ForwardCall}, h.calls[i]? = some call →
      p i = q (sessionOf log i) call.stream_id := by
    intro i call hcall
    simp only [p, hcall, Option.any_some]
  -- an operation, and a reply, has the stream of the request of its number
  have hops : (st.world.http_client_.pending.filter fun op =>
        q op.callback.sender op.callback.stream_id).length
      = (h.world.http_client_.pending.filter fun op => p op.callback.sender).length := by
    rw [hnum.world, World.map, HttpClient.map, List.filter_map, List.length_map]
    refine congrArg List.length (List.filter_congr fun op hop => ?_)
    have hcall := List.getElem?_eq_getElem (hinv.books.pool_lt op hop)
    rw [hpasses hcall, ← (hinv.share hcall).callback_stream_id_eq op
      (Pool.mem_owned.mpr ⟨hop, rfl⟩)]
    rfl
  have hreplies : (st.world.replies.filter fun reply => q reply.sender reply.stream_id).length
      = (h.world.replies.filter fun reply => p reply.sender).length := by
    rw [hnum.world, World.map, List.filter_map, List.length_map]
    refine congrArg List.length (List.filter_congr fun reply hreply => ?_)
    have hcall := List.getElem?_eq_getElem (hinv.books.log_lt reply hreply)
    rw [hpasses hcall, ← (hinv.share hcall).stream_id_eq reply
      (Pool.mem_owned.mpr ⟨hreply, rfl⟩)]
    rfl
  rw [hops, hreplies, hinv.books.length_filter_add ?_ p, hnum.length]
  · refine Record.length_filter_range log p _ fun i d hd => ?_
    have hlt := (List.getElem?_eq_some_iff.mp hd).1
    rw [← hnum.length] at hlt
    have hcall := List.getElem?_eq_getElem hlt
    rw [hpasses hcall, hnum.stream_id_eq hcall hd, sessionOf, hd]
    rfl
  · intro i hi operations replies haccount
    exact (haccount _ (List.getElem?_eq_getElem hi)).length_add_length

/-- **No dispatch is lost and none answered twice.** In every run, on every stream of every
session, the replies so far and the backend operations under way are together exactly as
many as the requests dispatched on it. -/
theorem dispatches_conserved (json : JsonLibrary) (verbs : List Bytes)
    (registry : BackendRegistry) (events : List Event) (st : Server)
    (hrun : Machine.exec (step json verbs) (start registry) events = some st)
    (sess : SessionPtr) (stream_id : StreamId) :
    (st.world.http_client_.pending.filter fun op =>
          op.callback.sender = sess ∧ op.callback.stream_id = stream_id).length
        + (st.world.replies.filter fun reply =>
          reply.sender = sess ∧ reply.stream_id = stream_id).length
      = ((Machine.outputs (step json verbs) dispatched (start registry) events).filter fun d =>
          d.1 = sess ∧ d.2.stream_id = stream_id).length := by
  obtain ⟨more, h, -, hinv, hnum, -⟩ := exists_numbered hrun
  exact hnum.length_filter_add hinv fun s i => decide (s = sess ∧ i = stream_id)

theorem dispatches_conserved_getIndex :
    ∃ (json : JsonLibrary) (st : Server),
      Machine.exec (step json documentedVerbs) (start BackendRegistry.catchAll)
          (getIndex UnorderedMap.anyOrder) = some st
        ∧ (st.world.http_client_.pending.filter fun op =>
              op.callback.sender = 0 ∧ op.callback.stream_id = 1).length
            + (st.world.replies.filter fun reply =>
              reply.sender = 0 ∧ reply.stream_id = 1).length
          = ((Machine.outputs (step json documentedVerbs) dispatched
              (start BackendRegistry.catchAll) (getIndex UnorderedMap.anyOrder)).filter fun d =>
              d.1 = 0 ∧ d.2.stream_id = 1).length := by
  let json : JsonLibrary := ⟨fun _ => none, fun _ => []⟩
  obtain ⟨st, -, -, hrun, -⟩ := exec_getIndex json
  exact ⟨json, st, hrun, dispatches_conserved json documentedVerbs _ _ st hrun 0 1⟩

end Server

end Http2Server
