/-
What the caller of one `send_request` hears of it.

The callback is invoked when the resolve or the connect fails, and when the stream is
closed, and nowhere else: not when the session cannot be created, when the request is not
accepted, or when a read or `nghttp2_session_mem_recv` fails, after which nothing of the
client is pending any more and the caller waits for ever. A close invokes it with an empty
error text, whatever the error code and whatever has arrived.

`Phase` says where a run of one request can be, and what has been invoked by then;
`reported_iff` reads off it when the caller has been told once, and rightly.
-/
import Http2Server.Http2ClientIsolation

set_option autoImplicit false

open ByteString UnorderedMap

namespace Http2Server

namespace Http2Client

/-! ## One request -/

/-- Whether the event is a resolve or a connect that fails. -/
def Event.refuses : Event → Bool
  | .resolve _ ec => ec.isSome
  | .connect _ ec _ => ec.isSome
  | _ => false

/-- Whether it is a call of `send_request`. -/
def Event.asks : Event → Bool
  | .send_request _ _ _ _ _ => true
  | _ => false

/-- A client that has been asked for one request, with whether a resolve or a connect has
failed. -/
structure Single where
  st : State
  refused : Bool := false

namespace Single

/-- What can happen to it: what can happen to any client, and two things its callers never
see. Creating the session may fail after the connect has gone well; what a write comes to
is only logged, but nghttp2 may close a stream while it sends. -/
inductive Event
  | client (e : Http2Client.Event)
  | session_fails (k : ℕ)
  | write (ok : Bool) (closed : Option (StreamId × UInt32))

/-- One event. -/
def step (r : Single) : Event → Option Single
  | .client (.send_request _ _ _ _ _) => none
  | .client e => (Http2Client.step r.st e).map fun st => ⟨st, r.refused || e.refuses⟩
  | .session_fails k => do
      -- `setup_nghttp2_client` returns, and the request is submitted to no session: whatever
      -- that does, it does not get to `read_data`
      let _ ← r.st.connecting[k]?
      if r.st.running = none then
        some { r with st := { r.st with connecting := r.st.connecting.eraseIdx k } }
      else none
  | .write _ none => some r
  | .write _ (some (stream_id, error_code)) => do
      let socket ← r.st.client.socket_
      let session ← r.st.client.session_
      if stream_id ∈ session.opened then
        (r.st.recv socket session (.on_stream_close stream_id error_code)).map fun st =>
          { r with st := st }
      else none

/-- A new client, and `send_request`. -/
def start (host : Bytes) (port : ℤ) (method path body : Bytes) : Single where
  st := ({} : State).send_request host port method path body

/-- Nothing of the client is pending any more. -/
def Done (r : Single) : Prop :=
  r.st.resolving = [] ∧ r.st.connecting = [] ∧ r.st.reading = [] ∧ r.st.running = none

instance (r : Single) : Decidable r.Done := inferInstanceAs (Decidable (_ ∧ _))

/-- A complete response is among what the session has reported of a stream: a status that
is not informational, and a frame that ends the stream. -/
def CompleteResponse (callbacks : List ClientCallback) (stream_id : StreamId) : Prop :=
  (∃ frame value code, .on_header frame (bytes ":status") value ∈ callbacks
      ∧ frame.type = .HEADERS ∧ frame.stream_id = stream_id ∧ stoi value = some code ∧ 200 ≤ code)
    ∧ ∃ frame, .on_frame_recv frame ∈ callbacks ∧ (frame.type = .HEADERS ∨ frame.type = .DATA)
        ∧ frame.stream_id = stream_id ∧ endStream frame.flags

/-- The stream has closed with error code 0 after a complete response. The session has no
stream but the request's. -/
def ClosedNormally (r : Single) : Prop :=
  ∃ before after socket stream_id,
    r.st.received = before ++ (socket, .on_stream_close stream_id 0) :: after
      ∧ CompleteResponse (before.map Prod.snd) stream_id

/-- **The caller is told once, and rightly**: the callback has been invoked exactly once,
and its error text is empty exactly when the stream has closed normally. -/
def Reported (r : Single) : Prop :=
  ∃ invocation, r.st.invocations = [invocation]
    ∧ (invocation.error = [] ↔ r.ClosedNormally)

/-! ## Where a run can be -/

/-- No stream has been reported closed. -/
def NoClose (received : List (SocketPtr × ClientCallback)) : Prop :=
  ∀ p ∈ received, ∀ stream_id error_code, p.2 ≠ .on_stream_close stream_id error_code

/-- Nothing has been received, and nobody told. -/
structure Unconnected (r : Single) : Prop where
  session : r.st.client.session_ = none
  streams : r.st.client.streams_ = ∅
  reading : r.st.reading = []
  running : r.st.running = none
  received : r.st.received = []

/-- The request's stream: there is none, it is open with the callback in its entry, or it
has been closed and the callback invoked. -/
inductive Stream (r : Single) (session : nghttp2_session) : Prop
  | none (hopened : session.opened = []) (hinvocations : r.st.invocations = [])
      (hnoclose : NoClose r.st.received)
  | opened (entry : StreamData ℕ) (hopened : session.opened = [1])
      (hentry : r.st.client.streams_.lookup 1 = some entry) (hcallback : entry.callback = some 0)
      (hinvocations : r.st.invocations = []) (hnoclose : NoClose r.st.received)
  | closed (invocation : Invocation) (hopened : session.opened = [])
      (hinvocations : r.st.invocations = [invocation]) (herror : invocation.error = [])

/-- Where a run of one request can be. -/
inductive Phase (r : Single) : Prop
  | resolving (op : Resolve) (hop : op.callback = 0) (hunconnected : Unconnected r)
      (hresolving : r.st.resolving = [op]) (hconnecting : r.st.connecting = [])
      (hinvocations : r.st.invocations = []) (hrefused : r.refused = false)
  | connecting (op : Connect) (hop : op.callback = 0) (hunconnected : Unconnected r)
      (hresolving : r.st.resolving = []) (hconnecting : r.st.connecting = [op])
      (hinvocations : r.st.invocations = []) (hrefused : r.refused = false)
  | stopped (hunconnected : Unconnected r) (hresolving : r.st.resolving = [])
      (hconnecting : r.st.connecting = []) (hinvocations : r.st.invocations = [])
      (hrefused : r.refused = false)
  | refused (invocation : Invocation) (hunconnected : Unconnected r)
      (hresolving : r.st.resolving = []) (hconnecting : r.st.connecting = [])
      (hinvocations : r.st.invocations = [invocation]) (herror : invocation.error ≠ [])
      (hrefused : r.refused = true)
  | connected (session : nghttp2_session) (hsession : r.st.client.session_ = some session)
      (hresolving : r.st.resolving = []) (hconnecting : r.st.connecting = [])
      (hstream : Stream r session) (hrefused : r.refused = false)

variable {r r' : Single}

theorem phase_start (host : Bytes) (port : ℤ) (method path body : Bytes) :
    Phase (start host port method path body) :=
  .resolving ⟨host, toDecimal port, method, path, body, 0⟩ rfl ⟨rfl, rfl, rfl, rfl, rfl⟩ rfl rfl rfl
    rfl

/-- **What the phase says of the caller**, once nothing is pending. -/
theorem Phase.reported_of_done (h : Phase r) (hdone : r.Done) :
    r.Reported ↔ r.refused = true ∨ r.ClosedNormally := by
  have hnever : r.st.invocations = [] → ¬ r.Reported := by
    rintro hnone ⟨invocation, hone, -⟩
    rw [hnone] at hone
    exact absurd hone (by simp)
  have hopen : NoClose r.st.received → ¬ r.ClosedNormally := by
    rintro hnoclose ⟨before, after, socket, stream_id, hreceived, -⟩
    exact hnoclose (socket, .on_stream_close stream_id 0) (by simp [hreceived]) stream_id 0 rfl
  have hnothing : Unconnected r → ¬ r.ClosedNormally := by
    intro hunconnected
    exact hopen (by simp [NoClose, hunconnected.received])
  cases h with
  | resolving op _ _ hresolving =>
      rw [hdone.1] at hresolving
      exact absurd hresolving (by simp)
  | connecting op _ _ _ hconnecting =>
      rw [hdone.2.1] at hconnecting
      exact absurd hconnecting (by simp)
  | stopped hunconnected _ _ hinvocations hrefused =>
      refine iff_of_false (hnever hinvocations) ?_
      rintro (htrue | hclosed)
      · exact absurd (hrefused.symm.trans htrue) (by simp)
      · exact hnothing hunconnected hclosed
  | refused invocation hunconnected _ _ hinvocations herror hrefused =>
      exact iff_of_true ⟨invocation, hinvocations, iff_of_false herror (hnothing hunconnected)⟩
        (Or.inl hrefused)
  | connected session _ _ _ hstream hrefused =>
      have hright : r.refused = true ∨ r.ClosedNormally ↔ r.ClosedNormally := by simp [hrefused]
      rw [hright]
      cases hstream with
      | none _ hinvocations hnoclose =>
          exact iff_of_false (hnever hinvocations) (hopen hnoclose)
      | opened entry _ _ _ hinvocations hnoclose =>
          exact iff_of_false (hnever hinvocations) (hopen hnoclose)
      | closed invocation _ hinvocations herror =>
          constructor
          · rintro ⟨invocation', hone, hiff⟩
            rw [hinvocations, List.singleton_inj] at hone
            exact hiff.mp (hone ▸ herror)
          · exact fun hclosed => ⟨invocation, hinvocations, iff_of_true herror hclosed⟩

/-! ## One event -/

/-- The client is not asked again, and otherwise does what it does. -/
theorem step_client_eq_some {e : Http2Client.Event} (hstep : step r (.client e) = some r') :
    e.asks = false
      ∧ ∃ st, Http2Client.step r.st e = some st ∧ r' = ⟨st, r.refused || e.refuses⟩ := by
  cases e with
  | send_request host port method path body => exact absurd hstep (by simp [step])
  | _ =>
      obtain ⟨st, hst, rfl⟩ := Option.map_eq_some_iff.mp hstep
      exact ⟨rfl, st, hst, rfl⟩

/-- Before the connect has gone well, only the resolve and the connect can complete. -/
theorem Unconnected.step_cases (h : Unconnected r) {e : Event} (hstep : step r e = some r') :
    r' = r ∨ (∃ k ec, e = .client (.resolve k ec))
      ∨ (∃ k ec accepted, e = .client (.connect k ec accepted)) ∨ ∃ k, e = .session_fails k := by
  cases e with
  | client e =>
      cases e with
      | send_request host port method path body => exact absurd hstep (by simp [step])
      | resolve k ec => exact Or.inr (Or.inl ⟨k, ec, rfl⟩)
      | connect k ec accepted => exact Or.inr (Or.inr (Or.inl ⟨k, ec, accepted, rfl⟩))
      | body_read stream_id length =>
          exact absurd hstep (by simp [step, Http2Client.step, h.session])
      | read k ok => exact absurd hstep (by simp [step, Http2Client.step, h.reading])
      | recv callback => exact absurd hstep (by simp [step, Http2Client.step, h.running])
      | read_done ok => exact absurd hstep (by simp [step, Http2Client.step, h.running])
  | session_fails k => exact Or.inr (Or.inr (Or.inr ⟨k, rfl⟩))
  | write ok closed =>
      cases closed with
      | none => exact Or.inl (Option.some.inj hstep).symm
      | some close => exact absurd hstep (by simp [step, h.session])

/-- With no resolve and no connect pending, nothing happens any more. -/
theorem Unconnected.eq_of_step (h : Unconnected r) (hresolving : r.st.resolving = [])
    (hconnecting : r.st.connecting = []) {e : Event} (hstep : step r e = some r') : r' = r := by
  rcases h.step_cases hstep with rfl | ⟨k, ec, rfl⟩ | ⟨k, ec, accepted, rfl⟩ | ⟨k, rfl⟩
  · rfl
  · exact absurd hstep (by simp [step, Http2Client.step, hresolving])
  · exact absurd hstep (by simp [step, Http2Client.step, hconnecting])
  · exact absurd hstep (by simp [step, hconnecting])

/-- The only pending operation is the first. -/
theorem eq_of_getElem?_singleton {α : Type} {op op' : α} {k : ℕ} (h : [op][k]? = some op') :
    k = 0 ∧ op' = op := by
  rw [List.getElem?_singleton] at h
  split_ifs at h with hk
  exact ⟨hk, (Option.some.inj h).symm⟩

/-- The resolve completes: the connect is started, or the caller told. -/
theorem phase_resolve {op : Resolve} (hop : op.callback = 0) (hunconnected : Unconnected r)
    (hresolving : r.st.resolving = [op]) (hconnecting : r.st.connecting = [])
    (hinvocations : r.st.invocations = []) (hrefused : r.refused = false) {k : ℕ}
    {ec : Option Bytes} (hstep : step r (.client (.resolve k ec)) = some r') : Phase r' := by
  obtain ⟨-, st, hst, rfl⟩ := step_client_eq_some hstep
  obtain ⟨op', hop', -, hst⟩ := step_resolve_eq_some hst
  obtain ⟨rfl, rfl⟩ := eq_of_getElem?_singleton (hresolving ▸ hop')
  have hleft : r.st.resolving.eraseIdx 0 = [] := by rw [hresolving]; rfl
  cases ec with
  | some message =>
      obtain rfl := Option.some.inj hst
      refine .refused ⟨op'.callback, ⟨0, []⟩, bytes "Failed to resolve host: " ++ message, none⟩
        ⟨hunconnected.session, hunconnected.streams, hunconnected.reading, hunconnected.running,
          hunconnected.received⟩ hleft hconnecting (by simp [hinvocations]) ?_
        (by simp [Event.refuses])
      exact List.append_ne_nil_of_left_ne_nil (by decide) _
  | none =>
      obtain ⟨socket, -, rfl⟩ := State.resolved_eq_some hst
      exact .connecting ⟨op'.host, op'.service, socket, op'.method, op'.path, op'.body,
          op'.callback⟩ hop
        ⟨hunconnected.session, hunconnected.streams, hunconnected.reading, hunconnected.running,
          hunconnected.received⟩ hleft (by simp [hconnecting]) hinvocations
        (by simp [hrefused, Event.refuses])

/-- The connect completes: the request is submitted or not, or the caller told. -/
theorem phase_connect {op : Connect} (hop : op.callback = 0) (hunconnected : Unconnected r)
    (hresolving : r.st.resolving = []) (hconnecting : r.st.connecting = [op])
    (hinvocations : r.st.invocations = []) (hrefused : r.refused = false) {k : ℕ}
    {ec : Option Bytes} {accepted : Bool}
    (hstep : step r (.client (.connect k ec accepted)) = some r') : Phase r' := by
  obtain ⟨-, st, hst, rfl⟩ := step_client_eq_some hstep
  obtain ⟨op', hop', -, hst⟩ := step_connect_eq_some hst
  obtain ⟨rfl, rfl⟩ := eq_of_getElem?_singleton (hconnecting ▸ hop')
  have hleft : r.st.connecting.eraseIdx 0 = [] := by rw [hconnecting]; rfl
  have hnoclose : NoClose r.st.received := by simp [NoClose, hunconnected.received]
  cases ec with
  | some message =>
      obtain rfl := Option.some.inj hst
      refine .refused ⟨op'.callback, ⟨0, []⟩, bytes "Failed to connect: " ++ message, none⟩
        ⟨hunconnected.session, hunconnected.streams, hunconnected.reading, hunconnected.running,
          hunconnected.received⟩ hresolving hleft (by simp [hinvocations]) ?_
        (by simp [Event.refuses])
      exact List.append_ne_nil_of_left_ne_nil (by decide) _
  | none =>
      obtain ⟨socket, client, submitted, -, hsend, rfl⟩ := State.connected_eq_some hst
      cases accepted with
      | true =>
          obtain ⟨client, hclient, -, hstreams, session, hsession, hopened, -⟩ :=
            send_http2_request_fresh hunconnected.streams op'.method op'.path op'.body op'.callback
          obtain ⟨rfl, rfl⟩ := Prod.mk.inj (hclient.symm.trans hsend)
          refine .connected session hsession hresolving hleft
            (.opened { callback := some op'.callback } hopened ?_ (congrArg some hop) hinvocations
              hnoclose) (by simp [hrefused, Event.refuses])
          rw [hstreams]
          exact Finmap.lookup_insert _
      | false =>
          obtain ⟨client, hclient, -, -, hsession⟩ :=
            send_http2_request_refused r.st.client op'.method op'.path op'.body op'.callback
          obtain ⟨rfl, rfl⟩ := Prod.mk.inj (hclient.symm.trans hsend)
          exact .connected {} hsession hresolving hleft (.none rfl hinvocations hnoclose)
            (by simp [hrefused, Event.refuses])

/-- The session cannot be created. -/
theorem phase_session_fails {op : Connect} (hunconnected : Unconnected r)
    (hresolving : r.st.resolving = []) (hconnecting : r.st.connecting = [op])
    (hinvocations : r.st.invocations = []) (hrefused : r.refused = false) {k : ℕ}
    (hstep : step r (.session_fails k) = some r') : Phase r' := by
  obtain ⟨op', hop', hst⟩ := Option.bind_eq_some_iff.mp hstep
  obtain ⟨rfl, rfl⟩ := eq_of_getElem?_singleton (hconnecting ▸ hop')
  rw [if_pos hunconnected.running] at hst
  obtain rfl := Option.some.inj hst
  exact .stopped ⟨hunconnected.session, hunconnected.streams, hunconnected.reading,
    hunconnected.running, hunconnected.received⟩ hresolving (by rw [hconnecting]; rfl) hinvocations
    hrefused

/-- A callback of the session: the stream stays open, or is closed and the caller told. -/
theorem stream_recv {session : nghttp2_session} {socket : SocketPtr} {c : ClientCallback}
    {st : State} (hstream : Stream r session) (hopen : c.stream ∈ session.opened)
    (hst : r.st.recv socket session c = some st) :
    st.client.session_ = some (session.called c) ∧ st.resolving = r.st.resolving
      ∧ st.connecting = r.st.connecting ∧ Stream ⟨st, r.refused⟩ (session.called c) := by
  cases hstream with
  | none hopened _ _ => simp [hopened] at hopen
  | closed _ hopened _ _ => simp [hopened] at hopen
  | opened entry hopened hentry hcallback hinvocations hnoclose =>
      rw [hopened, List.mem_singleton] at hopen
      obtain ⟨client, invoked, hclient, rfl⟩ := State.recv_eq_some hst
      refine ⟨rfl, rfl, rfl, ?_⟩
      by_cases hclose : ∃ id code, c = .on_stream_close id code
      · obtain ⟨id, code, rfl⟩ := hclose
        obtain rfl : id = 1 := hopen
        simp only [callback, on_stream_close_cb, hentry, hcallback, Option.map_some,
          Option.some.injEq, Prod.mk.injEq] at hclient
        obtain ⟨rfl, rfl⟩ := hclient
        refine .closed _ ?_ (by rw [hinvocations]; rfl) rfl
        simp [nghttp2_session.called, nghttp2_session.close, hopened]
      · have hnot : ∀ id code, c ≠ .on_stream_close id code :=
          fun id code heq => hclose ⟨id, code, heq⟩
        obtain ⟨rfl, -, -, entry', hcallback', -, hstreams⟩ :=
          callback_of_entry (hopen ▸ hentry) hnot hclient
        have hcalled : session.called c = session := by
          cases c with
          | on_stream_close id code => exact absurd rfl (hnot id code)
          | _ => rfl
        refine .opened entry' (by rw [hcalled, hopened]) ?_ (hcallback'.trans hcallback)
          (by rw [hinvocations]; rfl) ?_
        · rw [hopen] at hstreams
          change client.streams_.lookup 1 = some entry'
          rw [hstreams]
          exact Finmap.lookup_insert _
        · intro p hp
          rcases List.mem_append.mp hp with hp | hp
          · exact hnoclose p hp
          · rw [List.mem_singleton.mp hp]
            exact hnot

/-- What leaves the entries, what has been received and whom it has been told leaves the
stream. -/
theorem Stream.keep {session session' : nghttp2_session} {st : State} (h : Stream r session)
    (hopened' : session'.opened = session.opened)
    (hstreams' : st.client.streams_ = r.st.client.streams_)
    (hreceived' : st.received = r.st.received) (hinvocations' : st.invocations = r.st.invocations) :
    Stream ⟨st, r.refused⟩ session' := by
  cases h with
  | none hopened hinvocations hnoclose =>
      exact .none (hopened'.trans hopened) (hinvocations'.trans hinvocations)
        (by rw [hreceived']; exact hnoclose)
  | opened entry hopened hentry hcallback hinvocations hnoclose =>
      exact .opened entry (hopened'.trans hopened) (by rw [hstreams']; exact hentry) hcallback
        (hinvocations'.trans hinvocations) (by rw [hreceived']; exact hnoclose)
  | closed invocation hopened hinvocations herror =>
      exact .closed invocation (hopened'.trans hopened) (hinvocations'.trans hinvocations) herror

section Connected

variable {session : nghttp2_session} (hsession : r.st.client.session_ = some session)
  (hresolving : r.st.resolving = []) (hconnecting : r.st.connecting = [])
  (hstream : Stream r session) (hrefused : r.refused = false)

include hresolving hconnecting hstream hrefused

/-- A callback of the session leaves a connected client connected. -/
theorem phase_recv {socket : SocketPtr} {c : ClientCallback} {st : State}
    (hopen : c.stream ∈ session.opened) (hst : r.st.recv socket session c = some st) :
    Phase ⟨st, r.refused⟩ := by
  obtain ⟨hsession', hresolving', hconnecting', hstream'⟩ := stream_recv hstream hopen hst
  exact .connected (session.called c) hsession' (hresolving'.trans hresolving)
    (hconnecting'.trans hconnecting) hstream' hrefused

include hsession

/-- An operation that asks for nothing leaves a connected client connected. -/
theorem phase_client {e : Http2Client.Event} {st : State} (hasked : e.asks = false)
    (hst : Http2Client.step r.st e = some st) : Phase ⟨st, r.refused || e.refuses⟩ := by
  cases e with
  | send_request host port method path body => exact absurd hasked (by simp [Event.asks])
  | resolve k ec => exact absurd hst (by simp [Http2Client.step, hresolving])
  | connect k ec accepted => exact absurd hst (by simp [Http2Client.step, hconnecting])
  | body_read stream_id length =>
      obtain ⟨socket, session', ptr, -, hsession', -, rfl⟩ := step_body_read_eq_some hst
      obtain rfl := Option.some.inj (hsession.symm.trans hsession')
      simp only [Event.refuses, Bool.or_false]
      exact .connected _ rfl hresolving hconnecting (hstream.keep rfl rfl rfl rfl) hrefused
  | read k ok =>
      obtain ⟨socket, -, -, -, rfl⟩ := step_read_eq_some hst
      simp only [Event.refuses, Bool.or_false]
      exact .connected _ hsession hresolving hconnecting (hstream.keep rfl rfl rfl rfl) hrefused
  | recv c =>
      obtain ⟨socket, session', -, hsession', hopen, hst⟩ := step_recv_eq_some hst
      obtain rfl := Option.some.inj (hsession.symm.trans hsession')
      simp only [Event.refuses, Bool.or_false]
      exact phase_recv hresolving hconnecting hstream hrefused hopen hst
  | read_done ok =>
      obtain ⟨socket, -, rfl⟩ := step_read_done_eq_some hst
      simp only [Event.refuses, Bool.or_false]
      exact .connected _ hsession hresolving hconnecting (hstream.keep rfl rfl rfl rfl) hrefused

/-- Once connected, the operations are reads, and nothing but a callback of the session
matters to the caller. -/
theorem phase_connected {e : Event} (hstep : step r e = some r') : Phase r' := by
  cases e with
  | client e =>
      obtain ⟨hasked, st, hst, rfl⟩ := step_client_eq_some hstep
      exact phase_client hsession hresolving hconnecting hstream hrefused hasked hst
  | session_fails k => exact absurd hstep (by simp [step, hconnecting])
  | write ok closed =>
      cases closed with
      | none =>
          obtain rfl := Option.some.inj hstep
          exact .connected session hsession hresolving hconnecting hstream hrefused
      | some close =>
          obtain ⟨stream_id, error_code⟩ := close
          simp only [step, bind, Option.bind_eq_some_iff, Option.ite_none_right_eq_some] at hstep
          obtain ⟨socket, -, session', hsession', hopen, hst⟩ := hstep
          obtain rfl := Option.some.inj (hsession.symm.trans hsession')
          obtain ⟨st, hst', rfl⟩ := Option.map_eq_some_iff.mp hst
          exact phase_recv (c := .on_stream_close stream_id error_code) hresolving hconnecting
            hstream hrefused hopen hst'

end Connected

/-- **One event.** A run of one request stays in its phases. -/
theorem phase_step (r : Single) (e : Event) (r' : Single) (h : Phase r)
    (hstep : step r e = some r') : Phase r' := by
  cases h with
  | resolving op hop hunconnected hresolving hconnecting hinvocations hrefused =>
      rcases hunconnected.step_cases hstep with
        rfl | ⟨k, ec, rfl⟩ | ⟨k, ec, accepted, rfl⟩ | ⟨k, rfl⟩
      · exact .resolving op hop hunconnected hresolving hconnecting hinvocations hrefused
      · exact phase_resolve hop hunconnected hresolving hconnecting hinvocations hrefused hstep
      · exact absurd hstep (by simp [step, Http2Client.step, hconnecting])
      · exact absurd hstep (by simp [step, hconnecting])
  | connecting op hop hunconnected hresolving hconnecting hinvocations hrefused =>
      rcases hunconnected.step_cases hstep with
        rfl | ⟨k, ec, rfl⟩ | ⟨k, ec, accepted, rfl⟩ | ⟨k, rfl⟩
      · exact .connecting op hop hunconnected hresolving hconnecting hinvocations hrefused
      · exact absurd hstep (by simp [step, Http2Client.step, hresolving])
      · exact phase_connect hop hunconnected hresolving hconnecting hinvocations hrefused hstep
      · exact phase_session_fails hunconnected hresolving hconnecting hinvocations hrefused hstep
  | stopped hunconnected hresolving hconnecting hinvocations hrefused =>
      obtain rfl := hunconnected.eq_of_step hresolving hconnecting hstep
      exact .stopped hunconnected hresolving hconnecting hinvocations hrefused
  | refused invocation hunconnected hresolving hconnecting hinvocations herror hrefused =>
      obtain rfl := hunconnected.eq_of_step hresolving hconnecting hstep
      exact .refused invocation hunconnected hresolving hconnecting hinvocations herror hrefused
  | connected session hsession hresolving hconnecting hstream hrefused =>
      exact phase_connected hsession hresolving hconnecting hstream hrefused hstep

/-! ## A run -/

/-- **When the caller is told**: in every run of a request after which nothing is pending,
exactly when the resolve or the connect has failed, or the stream has been closed with
error code 0 after a complete response. -/
theorem reported_iff (host : Bytes) (port : ℤ) (method path body : Bytes) (events : List Event)
    (r : Single) (hrun : Machine.exec step (start host port method path body) events = some r)
    (hdone : r.Done) : r.Reported ↔ r.refused = true ∨ r.ClosedNormally := by
  have hphase : Phase r :=
    Machine.exec_invariant Phase phase_step (phase_start host port method path body) hrun
  exact hphase.reported_of_done hdone

/-- The frame of a response without a body. -/
def answer : Frame := ⟨.HEADERS, 0x05, 1, .RESPONSE⟩

/-- A request that is answered; then the server closes the connection. -/
def answered : List Event :=
  [.client (.resolve 0 none), .client (.connect 0 none true), .write true none,
    .client (.body_read 1 16384), .client (.read 0 true),
    .client (.recv (.on_header answer (bytes ":status") (bytes "200"))),
    .client (.recv (.on_frame_recv answer)), .client (.recv (.on_stream_close 1 0)),
    .write true none, .client (.read_done true), .client (.read 0 false)]

theorem reported_iff_answered :
    ∃ r, Machine.exec step (start (bytes "a") 8080 (bytes "POST") (bytes "/") (bytes "x")) answered
        = some r
      ∧ r.st.invocations = [⟨0, ⟨200, []⟩, [], some (0, 1)⟩] ∧ r.Reported := by
  have hrecords : (Machine.exec step (start (bytes "a") 8080 (bytes "POST") (bytes "/") (bytes "x"))
      answered).map (fun r => (r.st.invocations, decide r.Done, r.st.received))
        = some ([⟨0, ⟨200, []⟩, [], some (0, 1)⟩], true,
          [(0, .on_header answer (bytes ":status") (bytes "200")), (0, .on_frame_recv answer),
            (0, .on_stream_close 1 0)]) := by decide
  obtain ⟨r, hrun, hr⟩ := Option.map_eq_some_iff.mp hrecords
  obtain ⟨hinvocations, hr⟩ := Prod.mk.inj hr
  obtain ⟨hdone, hreceived⟩ := Prod.mk.inj hr
  refine ⟨r, hrun, hinvocations,
    (reported_iff _ _ _ _ _ answered r hrun (of_decide_eq_true hdone)).mpr (Or.inr ?_)⟩
  refine ⟨[(0, .on_header answer (bytes ":status") (bytes "200")), (0, .on_frame_recv answer)], [],
    0, 1, hreceived, ⟨answer, bytes "200", 200, by simp, rfl, rfl, by decide, le_rfl⟩,
    answer, by simp, Or.inl rfl, rfl, by decide⟩

/-- **The caller may wait for ever**: the server closes the connection before it has
answered. -/
theorem read_error_unreported :
    ¬ ∀ (host : Bytes) (port : ℤ) (method path body : Bytes) (events : List Event) (r : Single),
        Machine.exec step (start host port method path body) events = some r → r.Done →
        r.Reported := by
  intro h
  have hrun : (Machine.exec step (start (bytes "a") 80 (bytes "GET") (bytes "/") [])
      [.client (.resolve 0 none), .client (.connect 0 none true), .client (.read 0 false)]).map
        (fun r => (decide r.Done, r.st.invocations)) = some (true, []) := by decide
  obtain ⟨r, hexec, hr⟩ := Option.map_eq_some_iff.mp hrun
  obtain ⟨hdone, hnone⟩ := Prod.mk.inj hr
  obtain ⟨invocation, hone, -⟩ := h _ _ _ _ _ _ r hexec (of_decide_eq_true hdone)
  rw [hnone] at hone
  exact absurd hone (by simp)

end Single

end Http2Client

end Http2Server
