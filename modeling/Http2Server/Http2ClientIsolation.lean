/-
Whether the requests of one `Http2Client` are kept apart.

They share the socket, the session, the host and port, the body buffer and the table
of callbacks, and the ids of the table restart with every session. Two requests asked
for one after the other can mix in each of these (`overlapping`).

What keeps them apart is that none comes between another's steps: a resolve and a
connect must go well, and the body be read, while their request is the latest one the
client was asked for, and no stream may be open when a request is submitted
(`Undisturbed`). Then each request goes to its own host and port with its own headers
and body bytes, and its callback gets the response to it. The invariant says that the
client's fields are the latest request's, that each pending request has the socket
made for it, and that a session has one stream open at most, whose entry holds what
has arrived (`Opened`).
-/
import Http2Server.Http2Client
import Http2Server.Lib.Pool

set_option autoImplicit false

open ByteString UnorderedMap

namespace Http2Server

namespace Http2Client

/-! ## What keeping apart means -/

/-- What one callback adds to a response. -/
def respond (response : Http2Response) : ClientCallback → Http2Response
  | .on_header frame name value =>
      if frame.type = .HEADERS ∧ frame.cat = .RESPONSE ∧ name = bytes ":status" then
        { response with status_code := (stoi value).getD response.status_code }
      else response
  | .on_data_chunk_recv _ _ data => { response with body := response.body ++ data }
  | _ => response

/-- What the table has gathered of a response. -/
def StreamData.result (entry : StreamData ℕ) : Http2Response :=
  { entry.response with body := entry.body_buffer }

/-- The response that has arrived on one stream of one socket. -/
def responseOn (received : List (SocketPtr × ClientCallback)) (socket : SocketPtr)
    (stream_id : StreamId) : Http2Response :=
  ((received.filter fun p => p.1 = socket ∧ p.2.stream = stream_id).map Prod.snd).foldl respond {}

/-- The request was submitted on the connection to its own host and port, with the
headers of its own host, port, method, path and body. -/
def Submission.Own (asked : List Asked) (sockets : List (Option (Bytes × Bytes)))
    (s : Submission) : Prop :=
  ∃ r, asked[s.callback]? = some r
    ∧ sockets[s.socket]? = some (some (r.host, toDecimal r.port))
    ∧ s.headers = requestHeaders r.host r.port r.method r.path r.body

/-- The bytes read for a stream are those of the body of the request submitted on it,
as many as the buffer holds. -/
def BodyRead.Own (asked : List Asked) (submissions : List Submission) (b : BodyRead) : Prop :=
  ∃ s ∈ submissions, s.socket = b.socket ∧ s.stream_id = b.stream_id
    ∧ ∃ r, asked[s.callback]? = some r ∧ b.data = some (r.body.take b.length.toNat)

/-- A callback invoked when a stream closes is that of the request submitted on it,
and gets the response that arrived on it. -/
def Invocation.Own (submissions : List Submission)
    (received : List (SocketPtr × ClientCallback)) (i : Invocation) : Prop :=
  ∀ socket stream_id, i.closed = some (socket, stream_id) →
    i.response = responseOn received socket stream_id
      ∧ ∃ s ∈ submissions, s.socket = socket ∧ s.stream_id = stream_id
          ∧ s.callback = i.callback

/-- **The requests are kept apart.** The last two fields say that no two requests are
submitted on one stream, and that a callback still to be invoked has not been
overwritten. -/
structure Apart (st : State) : Prop where
  submitted : ∀ s ∈ st.submissions, s.Own st.asked st.sockets
  bodies : ∀ b ∈ st.body_reads, b.Own st.asked st.submissions
  answered : ∀ i ∈ st.invocations, i.Own st.submissions st.received
  distinct : st.submissions.Pairwise fun s s' => ¬ (s.socket = s'.socket
    ∧ s.stream_id = s'.stream_id)
  kept : ∀ s ∈ st.submissions, (∃ i ∈ st.invocations, i.callback = s.callback)
    ∨ ∃ entry, st.client.streams_.lookup s.stream_id = some entry
        ∧ entry.callback = some s.callback

/-- **Undisturbed.** A resolve or a connect goes well, and a body is read, only while
no other request has been asked for since; and a request is submitted only when no
stream is open. -/
def Undisturbed (st : State) : Event → Prop
  | .resolve k none => ∀ op, st.resolving[k]? = some op → op.callback + 1 = st.asked.length
  | .connect k none accepted => ∀ op, st.connecting[k]? = some op →
      op.callback + 1 = st.asked.length ∧ (accepted = true → st.client.streams_ = ∅)
  | .body_read _ _ => ∃ s ∈ st.submissions, s.callback + 1 = st.asked.length
  | _ => True

instance (st : State) : ∀ e, Decidable (Undisturbed st e)
  | .resolve k none =>
      decidable_of_iff (∀ op ∈ st.resolving[k]?.toList, op.callback + 1 = st.asked.length)
        (by simp [Undisturbed])
  | .connect k none accepted =>
      decidable_of_iff (∀ op ∈ st.connecting[k]?.toList, op.callback + 1 = st.asked.length
        ∧ (accepted = true → st.client.streams_ = ∅)) (by simp [Undisturbed])
  | .body_read _ _ =>
      inferInstanceAs (Decidable (∃ s ∈ st.submissions, s.callback + 1 = st.asked.length))
  | .send_request _ _ _ _ _ | .resolve _ (some _) | .connect _ (some _) _ | .read _ _
  | .recv _ | .read_done _ => isTrue trivial

/-! ## The records, as they grow -/

section Records

variable {asked : List Asked} {sockets : List (Option (Bytes × Bytes))}
  {submissions : List Submission} {received : List (SocketPtr × ClientCallback)}

/-- A callback on another stream, or another socket, leaves the response on a stream. -/
theorem responseOn_concat_of_ne {socket socket' : SocketPtr} {stream_id : StreamId}
    {c : ClientCallback} (h : ¬ (socket' = socket ∧ c.stream = stream_id)) :
    responseOn (received ++ [(socket', c)]) socket stream_id
      = responseOn received socket stream_id := by
  rw [responseOn, List.filter_append, List.filter_cons_of_neg (by simpa using h),
    List.filter_nil, List.append_nil, responseOn]

/-- A callback on a stream adds to the response on it. -/
theorem responseOn_concat_self (socket : SocketPtr) (c : ClientCallback) :
    responseOn (received ++ [(socket, c)]) socket c.stream
      = respond (responseOn received socket c.stream) c := by
  rw [responseOn, List.filter_append, List.filter_cons_of_pos (by simp), List.filter_nil,
    List.map_append, List.foldl_append, responseOn]
  rfl

/-- Nothing has arrived on a socket nothing was received on. -/
theorem responseOn_of_fresh {socket : SocketPtr} (h : ∀ p ∈ received, p.1 ≠ socket)
    (stream_id : StreamId) : responseOn received socket stream_id = {} := by
  have hnone : (received.filter fun p => p.1 = socket ∧ p.2.stream = stream_id) = [] := by
    rw [List.filter_eq_nil_iff]
    intro p hp
    simp [h p hp]
  rw [responseOn, hnone]
  rfl

/-- A connect has gone well on the socket. -/
def Connected (sockets : List (Option (Bytes × Bytes))) (socket : SocketPtr) : Prop :=
  ∃ peer, sockets[socket]? = some (some peer)

/-- A new socket is not connected. -/
theorem connected_concat_none {socket : SocketPtr} :
    Connected (sockets ++ [none]) socket ↔ Connected sockets socket := by
  rw [Connected, Connected]
  rcases Nat.lt_trichotomy socket sockets.length with hlt | rfl | hgt
  · rw [List.getElem?_append_left hlt]
  · simp
  · rw [List.getElem?_eq_none_iff.mpr (by rw [List.length_append]; exact hgt),
      List.getElem?_eq_none_iff.mpr (Nat.le_of_lt hgt)]

/-- A socket that does not exist is not connected. -/
theorem not_connected_length : ¬ Connected sockets sockets.length := by
  rintro ⟨peer, hpeer⟩
  exact absurd (List.getElem?_eq_some_iff.mp hpeer).1 (lt_irrefl _)

/-- Connecting a socket leaves the others as they are. -/
theorem connected_set_of_ne {socket socket' : SocketPtr} {peer : Option (Bytes × Bytes)}
    (hne : socket' ≠ socket) :
    Connected (sockets.set socket' peer) socket ↔ Connected sockets socket := by
  rw [Connected, Connected, List.getElem?_set_ne hne]

theorem Connected.set {socket : SocketPtr} (h : Connected sockets socket) (socket' : SocketPtr)
    (peer : Bytes × Bytes) : Connected (sockets.set socket' (some peer)) socket := by
  by_cases hne : socket' = socket
  · obtain ⟨old, hold⟩ := h
    exact ⟨peer, by rw [hne, List.getElem?_set_self (List.getElem?_eq_some_iff.mp hold).1]⟩
  · exact (connected_set_of_ne hne).mpr h

theorem Submission.Own.connected {s : Submission} (h : s.Own asked sockets) :
    Connected sockets s.socket := by
  obtain ⟨r, -, hsocket, -⟩ := h
  exact ⟨_, hsocket⟩

theorem Submission.Own.ask {s : Submission} (h : s.Own asked sockets) (r : Asked)
    (socket : Option (Bytes × Bytes)) : s.Own (asked ++ [r]) (sockets ++ [socket]) := by
  obtain ⟨r', hasked, hsocket, hheaders⟩ := h
  exact ⟨r', Record.getElem?_append_of_some hasked _, Record.getElem?_append_of_some hsocket _,
    hheaders⟩

theorem Submission.Own.connect {s : Submission} (h : s.Own asked sockets) {socket : SocketPtr}
    (hne : s.socket ≠ socket) (peer : Option (Bytes × Bytes)) :
    s.Own asked (sockets.set socket peer) := by
  obtain ⟨r, hasked, hsocket, hheaders⟩ := h
  exact ⟨r, hasked, by rw [List.getElem?_set_ne (Ne.symm hne), hsocket], hheaders⟩

theorem BodyRead.Own.ask {b : BodyRead} (h : b.Own asked submissions) (r : Asked) :
    b.Own (asked ++ [r]) submissions := by
  obtain ⟨s, hs, hsocket, hstream, r', hasked, hdata⟩ := h
  exact ⟨s, hs, hsocket, hstream, r', Record.getElem?_append_of_some hasked _, hdata⟩

theorem BodyRead.Own.submit {b : BodyRead} (h : b.Own asked submissions)
    (more : List Submission) : b.Own asked (submissions ++ more) := by
  obtain ⟨s, hs, h⟩ := h
  exact ⟨s, List.mem_append_left _ hs, h⟩

theorem Invocation.Own.submit {i : Invocation} (h : i.Own submissions received)
    (more : List Submission) : i.Own (submissions ++ more) received := by
  intro socket stream_id hclosed
  obtain ⟨hresponse, s, hs, h⟩ := h socket stream_id hclosed
  exact ⟨hresponse, s, List.mem_append_left _ hs, h⟩

theorem Invocation.Own.receive {i : Invocation} (h : i.Own submissions received)
    {socket : SocketPtr} {c : ClientCallback} (hne : i.closed ≠ some (socket, c.stream)) :
    i.Own submissions (received ++ [(socket, c)]) := by
  intro socket' stream_id hclosed
  obtain ⟨hresponse, h⟩ := h socket' stream_id hclosed
  refine ⟨?_, h⟩
  rw [responseOn_concat_of_ne, hresponse]
  rintro ⟨rfl, rfl⟩
  exact hne hclosed

/-- An invocation that no stream close led to is nobody's response. -/
theorem Invocation.own_of_not_closed {i : Invocation} (h : i.closed = none) :
    i.Own submissions received := by
  intro socket stream_id hclosed
  rw [h] at hclosed
  exact absurd hclosed (by simp)

end Records

/-! ## The invariant -/

/-- The resolve of the `n`-th request. -/
def Asked.resolve (r : Asked) (n : ℕ) : Resolve :=
  ⟨r.host, toDecimal r.port, r.method, r.path, r.body, n⟩

/-- The connect of the `n`-th request, with the socket that was made for it. -/
def Asked.connect (r : Asked) (n : ℕ) : Connect :=
  ⟨r.host, toDecimal r.port, n, r.method, r.path, r.body, n⟩

/-- The requests being resolved or connected. -/
def State.pending (st : State) : List ℕ :=
  st.resolving.map Resolve.callback ++ st.connecting.map Connect.callback

/-- The session, if there is one, has no stream open and no body to read. -/
def Quiet (client : Http2Client ℕ) : Prop :=
  ∀ session, client.session_ = some session → session.opened = [] ∧ session.outgoing = []

/-- A request whose stream the session has open, and no other: what is stored of a body
is its own, the table has gathered what arrived, and no other socket can be read. -/
structure Opened (st : State) (s : Submission) (r : Asked) (session : nghttp2_session)
    (entry : StreamData ℕ) : Prop where
  mem : s ∈ st.submissions
  asked : st.asked[s.callback]? = some r
  current : st.client.session_ = some session
  opened : session.opened = [s.stream_id]
  outgoing : ∀ body ∈ session.outgoing, body.1 = s.stream_id
    ∧ body.2.generation = st.client.request_body_storage_.generation
    ∧ st.client.request_body_storage_.value = r.body
  streams : st.client.streams_ = (∅ : UnorderedMap _ _).insert s.stream_id entry
  callback : entry.callback = some s.callback
  result : entry.result = responseOn st.received s.socket s.stream_id
  running : ∀ socket, st.running = some socket → socket = s.socket
  alone : ∀ socket, st.client.socket_ = some socket → Connected st.sockets socket →
    socket = s.socket
  unclosed : ∀ i ∈ st.invocations, i.closed ≠ some (s.socket, s.stream_id)

/-- What holds of an undisturbed client. -/
structure Invariant (st : State) : Prop where
  apart : Apart st
  lengths : st.sockets.length = st.asked.length
  latest : ∀ n, n + 1 = st.asked.length → ∃ r, st.asked[n]? = some r
    ∧ st.client.current_host_ = r.host ∧ st.client.current_port_ = r.port
    ∧ st.client.socket_ = some n
  resolving : ∀ op ∈ st.resolving, ∃ r, st.asked[op.callback]? = some r
    ∧ op = r.resolve op.callback
  connecting : ∀ op ∈ st.connecting, ∃ r, st.asked[op.callback]? = some r
    ∧ op = r.connect op.callback
  pending : st.pending.Nodup
  unconnected : ∀ n ∈ st.pending, ¬ Connected st.sockets n
  own_socket : ∀ s ∈ st.submissions, s.socket = s.callback
  received : ∀ p ∈ st.received, Connected st.sockets p.1
  closed : ∀ i ∈ st.invocations, ∀ socket stream_id, i.closed = some (socket, stream_id) →
    Connected st.sockets socket
  session : Quiet st.client ∨ ∃ s r session entry, Opened st s r session entry

theorem invariant_start : Invariant {} where
  apart := ⟨by simp, by simp, by simp, by simp, by simp⟩
  lengths := rfl
  latest := by simp
  resolving := by simp
  connecting := by simp
  pending := List.nodup_nil
  unconnected := by simp [State.pending]
  own_socket := by simp
  received := by simp
  closed := by simp
  session := Or.inl fun _ h => absurd h (by simp)

variable {st st' : State}

/-- A socket that nothing has been recorded of. -/
structure Fresh (st : State) (socket : SocketPtr) : Prop where
  submissions : ∀ s ∈ st.submissions, s.socket ≠ socket
  received : ∀ p ∈ st.received, p.1 ≠ socket
  invocations : ∀ i ∈ st.invocations, ∀ stream_id, i.closed ≠ some (socket, stream_id)

/-- Nothing is recorded of a socket that is not connected. -/
theorem Invariant.fresh (hinv : Invariant st) {socket : SocketPtr}
    (h : ¬ Connected st.sockets socket) : Fresh st socket where
  submissions := by
    rintro s hs rfl
    exact h (hinv.apart.submitted s hs).connected
  received := by
    rintro p hp rfl
    exact h (hinv.received p hp)
  invocations := fun i hi stream_id hclosed => h (hinv.closed i hi socket stream_id hclosed)

/-- A session with something open has a request submitted. -/
theorem Invariant.opened_of_not_quiet (hinv : Invariant st) (h : ¬ Quiet st.client) :
    ∃ s r session entry, Opened st s r session entry :=
  hinv.session.resolve_left h

/-- The requests pending were asked for. -/
theorem Invariant.lt_of_pending (hinv : Invariant st) {n : ℕ} (h : n ∈ st.pending) :
    n < st.asked.length := by
  rcases List.mem_append.mp h with h | h
  · obtain ⟨op, hop, rfl⟩ := List.mem_map.mp h
    obtain ⟨r, hasked, -⟩ := hinv.resolving op hop
    exact (List.getElem?_eq_some_iff.mp hasked).1
  · obtain ⟨op, hop, rfl⟩ := List.mem_map.mp h
    obtain ⟨r, hasked, -⟩ := hinv.connecting op hop
    exact (List.getElem?_eq_some_iff.mp hasked).1

/-! ### Asking -/

theorem Apart.ask (h : Apart st) (host : Bytes) (port : ℤ) (method path body : Bytes) :
    Apart (st.send_request host port method path body) :=
  ⟨fun s hs => (h.submitted s hs).ask _ _, fun b hb => (h.bodies b hb).ask _, h.answered,
    h.distinct, h.kept⟩

/-- A request asked for is pending. -/
theorem pending_send_request (st : State) (host : Bytes) (port : ℤ)
    (method path body : Bytes) :
    (st.send_request host port method path body).pending.Perm
      (st.asked.length :: st.pending) := by
  simp only [State.pending, State.send_request, List.map_append, List.map_cons, List.map_nil,
    List.append_assoc, List.singleton_append]
  -- the new resolve stands between the other resolves and the connects
  exact List.perm_middle

theorem invariant_send_request {host : Bytes} {port : ℤ} {method path body : Bytes}
    (hinv : Invariant st) : Invariant (st.send_request host port method path body) where
  apart := hinv.apart.ask host port method path body
  lengths := by
    rw [State.send_request, List.length_append, List.length_append, hinv.lengths]
    rfl
  latest := by
    intro n hn
    obtain rfl : n = st.asked.length := by
      simpa [State.send_request] using hn
    exact ⟨⟨host, port, method, path, body⟩, by simp [State.send_request], rfl, rfl,
      congrArg some hinv.lengths⟩
  resolving := by
    refine Record.forall_mem_concat (fun op hop => ?_)
      ⟨⟨host, port, method, path, body⟩, by simp [State.send_request], rfl⟩
    obtain ⟨r, hasked, hown⟩ := hinv.resolving op hop
    exact ⟨r, Record.getElem?_append_of_some hasked _, hown⟩
  connecting := by
    intro op hop
    obtain ⟨r, hasked, hown⟩ := hinv.connecting op hop
    exact ⟨r, Record.getElem?_append_of_some hasked _, hown⟩
  pending := by
    have hnew : st.asked.length ∉ st.pending := fun h =>
      absurd (hinv.lt_of_pending h) (lt_irrefl _)
    rw [(pending_send_request st host port method path body).nodup_iff]
    exact List.nodup_cons.mpr ⟨hnew, hinv.pending⟩
  unconnected := by
    intro n hn
    rw [State.send_request, connected_concat_none]
    rcases List.mem_cons.mp ((pending_send_request st host port method path body).mem_iff.mp hn)
      with rfl | hn
    · -- the new request's number is that of the socket just made
      rw [← hinv.lengths]
      exact not_connected_length
    · exact hinv.unconnected n hn
  own_socket := hinv.own_socket
  received := fun p hp => connected_concat_none.mpr (hinv.received p hp)
  closed := fun i hi socket stream_id h =>
    connected_concat_none.mpr (hinv.closed i hi socket stream_id h)
  session := by
    refine hinv.session.imp id fun ⟨s, r, session, entry, hopened⟩ => ⟨s, r, session, entry, ?_⟩
    refine { hopened with asked := Record.getElem?_append_of_some hopened.asked _, alone := ?_ }
    -- the client's new socket is not connected yet
    intro socket hsocket hconnected
    obtain rfl := Option.some.inj hsocket
    exact absurd (connected_concat_none.mp hconnected) not_connected_length

/-! ### Failing, resolving -/

/-- A callback invoked for an error of its own request keeps the requests apart. -/
theorem Apart.fail (h : Apart st) {i : Invocation} (hclosed : i.closed = none) :
    Apart { st with invocations := st.invocations ++ [i] } := by
  refine ⟨h.submitted, h.bodies,
    Record.forall_mem_concat h.answered (Invocation.own_of_not_closed hclosed), h.distinct,
    fun s hs => ?_⟩
  exact (h.kept s hs).imp_left fun ⟨j, hj, hcallback⟩ =>
    ⟨j, List.mem_append_left _ hj, hcallback⟩

theorem Invariant.fail (hinv : Invariant st) {i : Invocation} (hclosed : i.closed = none) :
    Invariant { st with invocations := st.invocations ++ [i] } :=
  { hinv with
    apart := hinv.apart.fail hclosed
    closed := Record.forall_mem_concat hinv.closed fun socket stream_id h => by
      rw [hclosed] at h
      exact absurd h (by simp)
    session := hinv.session.imp id fun ⟨s, r, session, entry, hopened⟩ =>
      ⟨s, r, session, entry, { hopened with
        unclosed := Record.forall_mem_concat hopened.unclosed (by simp [hclosed]) }⟩ }

/-- Which resolves and connects are pending matters to nothing else, as long as they are
requests asked for and not connected, each once. -/
theorem Invariant.pend (hinv : Invariant st) {resolving : List Resolve}
    {connecting : List Connect}
    (hresolving : ∀ op ∈ resolving, op ∈ st.resolving)
    (hconnecting : ∀ op ∈ connecting, ∃ r, st.asked[op.callback]? = some r
      ∧ op = r.connect op.callback)
    {l : List ℕ} (hpending : st.pending.Perm
      (l ++ (resolving.map Resolve.callback ++ connecting.map Connect.callback))) :
    Invariant { st with resolving := resolving, connecting := connecting } :=
  { hinv with
    apart := ⟨hinv.apart.submitted, hinv.apart.bodies, hinv.apart.answered, hinv.apart.distinct,
      hinv.apart.kept⟩
    resolving := fun op hop => hinv.resolving op (hresolving op hop)
    connecting := hconnecting
    pending := (hpending.nodup_iff.mp hinv.pending).of_append_right
    unconnected := fun n hn => hinv.unconnected n
      (hpending.mem_iff.mpr (List.mem_append_right _ hn))
    session := hinv.session.imp id fun ⟨s, r, session, entry, hopened⟩ =>
      ⟨s, r, session, entry, { hopened with }⟩ }

/-- A resolve taken leaves the others pending. -/
theorem pending_resolving {k : ℕ} {op : Resolve} (hop : st.resolving[k]? = some op) :
    st.pending.Perm (op.callback :: ((st.resolving.eraseIdx k).map Resolve.callback
      ++ st.connecting.map Connect.callback)) :=
  ((Pool.perm_cons_eraseIdx hop).map Resolve.callback).append_right _

theorem invariant_resolve {k : ℕ} {ec : Option Bytes} (hinv : Invariant st)
    (hmeets : Undisturbed st (.resolve k ec)) (h : step st (.resolve k ec) = some st') :
    Invariant st' := by
  obtain ⟨op, hop, -, h⟩ := step_resolve_eq_some h
  have hrest : ∀ op' ∈ st.resolving.eraseIdx k, op' ∈ st.resolving := fun op' hop' =>
    List.mem_of_mem_eraseIdx hop'
  have hperm := pending_resolving hop
  cases ec with
  | some message =>
      obtain rfl := Option.some.inj h
      -- the request is done with, and its callback told so
      exact (hinv.pend hrest hinv.connecting (l := [op.callback]) hperm).fail rfl
  | none =>
      obtain ⟨r, hasked, hown⟩ := hinv.resolving op (List.mem_of_getElem? hop)
      obtain ⟨-, -, -, -, hsocket⟩ := hinv.latest op.callback (hmeets op hop)
      simp only [State.resolved, hsocket, bind, Option.bind] at h
      obtain rfl := Option.some.inj h
      refine hinv.pend (l := []) hrest ?_ ?_
      · -- the socket captured is the one the client has now, which is the request's own
        refine Record.forall_mem_concat hinv.connecting ⟨r, hasked, ?_⟩
        rw [hown]
        rfl
      · rw [List.nil_append, List.map_append, ← List.append_assoc]
        exact hperm.trans (List.perm_append_singleton _ _).symm

/-- Which reads are pending matters to nothing, and which handler is running only while a
stream is open. -/
theorem Invariant.reading (hinv : Invariant st) (reading : List SocketPtr)
    {running : Option SocketPtr}
    (hrunning : ∀ s r session entry, Opened st s r session entry → ∀ socket,
      running = some socket → socket = s.socket) :
    Invariant { st with reading := reading, running := running } :=
  { hinv with
    apart := ⟨hinv.apart.submitted, hinv.apart.bodies, hinv.apart.answered, hinv.apart.distinct,
      hinv.apart.kept⟩
    session := hinv.session.imp id fun ⟨s, r, session, entry, hopened⟩ =>
      ⟨s, r, session, entry, { hopened with running := hrunning s r session entry hopened }⟩ }

/-! ### Connecting and submitting -/

/-- Two states of a client have the same host, port and socket. -/
structure SameTarget (client client' : Http2Client ℕ) : Prop where
  socket : client'.socket_ = client.socket_
  host : client'.current_host_ = client.current_host_
  port : client'.current_port_ = client.current_port_

/-- A request without a body has no data provider. -/
theorem provide_nil (client : Http2Client ℕ) :
    send_http2_request.provide client [] = (client, none) := rfl

/-- The data provider of a request with a body points to what is stored. -/
theorem provide_of_ne_nil (client : Http2Client ℕ) {body : Bytes} (hbody : body ≠ []) :
    send_http2_request.provide client body
      = ({ client with
            request_body_storage_ := client.request_body_storage_.assign body
            data_providers_ := client.data_providers_.insert client.next_stream_id_
              ⟨(client.request_body_storage_.assign body).generation⟩ },
          some ⟨(client.request_body_storage_.assign body).generation⟩) :=
  if_pos hbody

/-- The data provider leaves the session, the target and the table as they are, and
points, when there is one, to the body stored. -/
theorem provide_spec (client : Http2Client ℕ) (body : Bytes) :
    ∃ client' data_prd, send_http2_request.provide client body = (client', data_prd)
      ∧ SameTarget client client' ∧ client'.session_ = client.session_
      ∧ client'.streams_ = client.streams_
      ∧ ∀ ptr, data_prd = some ptr →
        ptr.generation = client'.request_body_storage_.generation
          ∧ client'.request_body_storage_.value = body := by
  by_cases hbody : body = []
  · rw [hbody, provide_nil]
    exact ⟨client, none, rfl, ⟨rfl, rfl, rfl⟩, rfl, rfl, by simp⟩
  · rw [provide_of_ne_nil client hbody]
    refine ⟨_, _, rfl, ⟨rfl, rfl, rfl⟩, rfl, rfl, fun ptr hptr => ?_⟩
    obtain rfl := Option.some.inj hptr
    exact ⟨rfl, rfl⟩

/-- What a fresh session makes of a request, when the table is empty: its first stream,
with the headers of the host and port the client has, and an entry for its callback. -/
theorem send_http2_request_fresh {client : Http2Client ℕ} (hstreams : client.streams_ = ∅)
    (method path body : Bytes) (callback : ℕ) :
    ∃ client', client.setup_nghttp2_client.send_http2_request method path body callback true
        = (client', some (1, requestHeaders client.current_host_ client.current_port_ method path
            body))
      ∧ SameTarget client client'
      ∧ client'.streams_ = (∅ : UnorderedMap _ _).insert 1 { callback := some callback }
      ∧ ∃ session, client'.session_ = some session ∧ session.opened = [1]
          ∧ ∀ entry ∈ session.outgoing, entry.1 = 1
            ∧ entry.2.generation = client'.request_body_storage_.generation
            ∧ client'.request_body_storage_.value = body := by
  obtain ⟨c, data_prd, hprovide, htarget, hsession, htable, hptr⟩ :=
    provide_spec client.setup_nghttp2_client body
  replace hsession : c.session_ = some {} := hsession
  replace htable : c.streams_ = ∅ := htable.trans hstreams
  simp only [send_http2_request, hprovide, hsession, nghttp2_session.submit_request, htable,
    Finmap.lookup_empty, Option.getD_none]
  refine ⟨_, rfl, ⟨htarget.socket, htarget.host, htarget.port⟩, rfl, _, rfl, rfl,
    fun entry hentry => ?_⟩
  cases data_prd with
  | none => simp at hentry
  | some ptr =>
      obtain rfl := List.mem_singleton.mp hentry
      exact ⟨rfl, hptr _ rfl⟩

/-- A submission nghttp2 does not accept leaves a session with nothing in it. -/
theorem send_http2_request_refused (client : Http2Client ℕ) (method path body : Bytes)
    (callback : ℕ) :
    ∃ client', client.setup_nghttp2_client.send_http2_request method path body callback false
        = (client', none)
      ∧ SameTarget client client' ∧ client'.streams_ = client.streams_
      ∧ client'.session_ = some {} := by
  obtain ⟨c, data_prd, hprovide, htarget, hsession, htable, -⟩ :=
    provide_spec client.setup_nghttp2_client body
  replace hsession : c.session_ = some {} := hsession
  simp only [send_http2_request, hprovide, hsession]
  exact ⟨c, rfl, ⟨htarget.socket, htarget.host, htarget.port⟩, htable, hsession⟩

/-- A connect taken leaves the others pending. -/
theorem pending_connecting {k : ℕ} {op : Connect} (hop : st.connecting[k]? = some op) :
    st.pending.Perm (op.callback :: (st.resolving.map Resolve.callback
      ++ (st.connecting.eraseIdx k).map Connect.callback)) :=
  (((Pool.perm_cons_eraseIdx hop).map Connect.callback).append_left _).trans List.perm_middle

/-- Connecting a socket nothing was submitted on keeps the requests apart. -/
theorem Apart.connect (h : Apart st) {socket : SocketPtr} (hfresh : Fresh st socket)
    (peer : Option (Bytes × Bytes)) :
    Apart { st with sockets := st.sockets.set socket peer } :=
  ⟨fun s hs => (h.submitted s hs).connect (hfresh.submissions s hs) peer, h.bodies, h.answered,
    h.distinct, h.kept⟩

/-- A socket of a request that is not pending can be connected: that matters to no other,
if no stream is left open. -/
theorem Invariant.connect (hinv : Invariant st) {n : ℕ} (hn : n ∉ st.pending)
    (hunconnected : ¬ Connected st.sockets n) (peer : Bytes × Bytes) {client : Http2Client ℕ}
    (htarget : SameTarget st.client client) (hstreams : client.streams_ = st.client.streams_)
    (hquiet : Quiet client) :
    Invariant { st with client := client, sockets := st.sockets.set n (some peer) } := by
  refine { hinv with
    apart := { hinv.apart.connect (hinv.fresh hunconnected) (some peer) with kept := ?_ }
    lengths := (List.length_set).trans hinv.lengths
    latest := ?_
    unconnected := ?_
    received := fun p hp => (hinv.received p hp).set n peer
    closed := fun i hi socket stream_id h => (hinv.closed i hi socket stream_id h).set n peer
    session := Or.inl hquiet }
  · rw [hstreams]
    exact hinv.apart.kept
  · rw [htarget.host, htarget.port, htarget.socket]
    exact hinv.latest
  · intro m hm
    have hne : n ≠ m := fun h => hn (h ▸ hm)
    rw [connected_set_of_ne hne]
    exact hinv.unconnected m hm

/-- A request submitted on a socket nothing is recorded of, that is connected to its own
host and port, keeps the requests apart, and its callback has the entry of its stream. -/
theorem Apart.submit (h : Apart st) (s : Submission) (hfresh : Fresh st s.socket)
    (hown : s.Own st.asked st.sockets) (hinvoked : st.client.streams_ = ∅) (client : Http2Client ℕ)
    {entry : StreamData ℕ} (hentry : client.streams_.lookup s.stream_id = some entry)
    (hcallback : entry.callback = some s.callback) :
    Apart { st with client := client, submissions := st.submissions ++ [s] } := by
  refine ⟨Record.forall_mem_concat h.submitted hown, fun b hb => (h.bodies b hb).submit _,
    fun i hi => (h.answered i hi).submit _, ?_, ?_⟩
  · rw [List.pairwise_append]
    refine ⟨h.distinct, List.pairwise_singleton _ _, fun s' hs' s'' hs'' => ?_⟩
    rw [List.mem_singleton.mp hs'']
    exact fun hboth => hfresh.submissions s' hs' hboth.1
  · refine Record.forall_mem_concat (fun s' hs' => ?_) (Or.inr ⟨entry, hentry, hcallback⟩)
    -- whoever was submitted before has been answered: the table was empty
    refine Or.inl ((h.kept s' hs').resolve_right ?_)
    rintro ⟨entry', hentry', -⟩
    rw [hinvoked, Finmap.lookup_empty] at hentry'
    exact absurd hentry' (by simp)

/-- The latest request, submitted on its own socket when no stream is open. -/
theorem Invariant.submit (hinv : Invariant st) {n : ℕ} {r : Asked}
    (hlatest : n + 1 = st.asked.length) (hasked : st.asked[n]? = some r)
    (hsocket : st.sockets[n]? = some (some (r.host, toDecimal r.port))) (hfresh : Fresh st n)
    (hrunning : st.running = none) (hstreams : st.client.streams_ = ∅)
    {client : Http2Client ℕ} (htarget : SameTarget st.client client)
    (htable : client.streams_ = (∅ : UnorderedMap _ _).insert 1 { callback := some n })
    {session : nghttp2_session} (hsession : client.session_ = some session)
    (hopened : session.opened = [1]) (houtgoing : ∀ body ∈ session.outgoing, body.1 = 1
      ∧ body.2.generation = client.request_body_storage_.generation
      ∧ client.request_body_storage_.value = r.body) :
    Invariant { st with
      client := client
      submissions := st.submissions ++ [⟨n, n, 1, requestHeaders st.client.current_host_
        st.client.current_port_ r.method r.path r.body⟩] } := by
  obtain ⟨r', hasked', hhost, hport, hheld⟩ := hinv.latest n hlatest
  obtain rfl := Option.some.inj (hasked'.symm.trans hasked)
  refine { hinv with
    apart := hinv.apart.submit _ hfresh ⟨r', hasked, hsocket, by rw [hhost, hport]⟩ hstreams client
      (htable ▸ Finmap.lookup_insert _) rfl
    latest := ?_
    own_socket := Record.forall_mem_concat hinv.own_socket rfl
    session := Or.inr ⟨_, r', session, _, ⟨List.mem_append_right _ (List.mem_singleton_self _),
      hasked, hsession, hopened, houtgoing, htable, rfl,
      (responseOn_of_fresh hfresh.received 1).symm, ?_, ?_,
      fun i hi => hfresh.invocations i hi 1⟩⟩ }
  · rw [htarget.host, htarget.port, htarget.socket]
    exact hinv.latest
  · intro socket h
    rw [hrunning] at h
    exact absurd h (by simp)
  · intro socket h _
    exact Option.some.inj (h.symm.trans (htarget.socket.trans hheld))

theorem invariant_connect {k : ℕ} {ec : Option Bytes} {accepted : Bool} (hinv : Invariant st)
    (hmeets : Undisturbed st (.connect k ec accepted))
    (h : step st (.connect k ec accepted) = some st') : Invariant st' := by
  obtain ⟨op, hop, hrunning, h⟩ := step_connect_eq_some h
  have hperm := pending_connecting hop
  have hpend := hinv.pend (l := [op.callback]) (fun op' hop' => hop')
    (fun op' hop' => hinv.connecting op' (List.mem_of_mem_eraseIdx hop')) hperm
  cases ec with
  | some message =>
      obtain rfl := Option.some.inj h
      exact hpend.fail rfl
  | none =>
      obtain ⟨r, hasked, hown⟩ := hinv.connecting op (List.mem_of_getElem? hop)
      obtain ⟨hlatest, hempty⟩ := hmeets op hop
      obtain ⟨-, -, -, -, hsocket⟩ := hinv.latest op.callback hlatest
      -- the socket of a request is connected once, by the one connect it has pending
      have hunconnected : ¬ Connected st.sockets op.callback :=
        hinv.unconnected _ (hperm.mem_iff.mpr (List.mem_cons_self ..))
      have hnotPending := (List.nodup_cons.mp (hperm.nodup_iff.mp hinv.pending)).1
      simp only [State.connected, hsocket, bind, Option.bind] at h
      rw [hown] at h
      cases accepted with
      | false =>
          obtain ⟨client, hsend, htarget, hstreams, hsession⟩ :=
            send_http2_request_refused st.client r.method r.path r.body op.callback
          simp only [Asked.connect, hsend, Option.map_none, Option.toList_none,
            List.append_nil] at h
          obtain rfl := Option.some.inj h
          refine (hpend.connect hnotPending hunconnected (r.host, toDecimal r.port) htarget
            hstreams fun session h => ?_).reading _ fun _ _ _ _ hopened => hopened.running
          obtain rfl := Option.some.inj (hsession.symm.trans h)
          exact ⟨rfl, rfl⟩
      | true =>
          obtain ⟨client, hsend, htarget, htable, session, hsession, hopened, houtgoing⟩ :=
            send_http2_request_fresh (hempty rfl) r.method r.path r.body op.callback
          simp only [Asked.connect, hsend] at h
          obtain rfl := Option.some.inj h
          -- the socket is connected while the client has, for a moment, no session
          have hconnected := hpend.connect hnotPending hunconnected (r.host, toDecimal r.port)
            (⟨rfl, rfl, rfl⟩ : SameTarget st.client { st.client with session_ := none }) rfl
            (fun session h => absurd h (by simp))
          have hfresh := hpend.fresh hunconnected
          have hlt : op.callback < st.sockets.length := by
            rw [hinv.lengths, ← hlatest]
            exact Nat.lt_succ_self _
          exact (hconnected.submit hlatest hasked (List.getElem?_set_self hlt)
            ⟨hfresh.submissions, hfresh.received, hfresh.invocations⟩ hrunning (hempty rfl)
            ⟨htarget.socket, htarget.host, htarget.port⟩ htable hsession hopened houtgoing).reading
            _ fun _ _ _ _ hopened => hopened.running

/-! ### Reading the body -/

/-- Read through a pointer to what is stored, a body is its own bytes. -/
theorem read_callback_data {client : Http2Client ℕ} {ptr : BodyPtr}
    (hptr : ptr.generation = client.request_body_storage_.generation) (length : UInt64) :
    (client.read_callback ptr length).map Prod.fst
      = some (client.request_body_storage_.value.take length.toNat) := by
  rw [read_callback]
  split_ifs with hempty
  · rw [List.length_eq_zero_iff.mp hempty, List.take_nil]
    rfl
  · rw [Option.map_some, ← List.take_eq_take_min]

theorem Apart.read (h : Apart st) {b : BodyRead} (hown : b.Own st.asked st.submissions) :
    Apart { st with body_reads := st.body_reads ++ [b] } := by
  exact ⟨h.submitted, Record.forall_mem_concat h.bodies hown, h.answered, h.distinct, h.kept⟩

theorem invariant_body_read {stream_id : StreamId} {length : UInt64} (hinv : Invariant st)
    (hmeets : Undisturbed st (.body_read stream_id length))
    (h : step st (.body_read stream_id length) = some st') : Invariant st' := by
  obtain ⟨socket, session, ptr, hsocket, hsession, hlookup, rfl⟩ := step_body_read_eq_some h
  obtain ⟨before, after, hsplit, -⟩ := List.lookup_eq_some_iff.mp hlookup
  have hptr : (stream_id, ptr) ∈ session.outgoing := by rw [hsplit]; simp
  have hnotQuiet : ¬ Quiet st.client := fun hquiet => by
    rw [(hquiet session hsession).2] at hptr
    exact absurd hptr (by simp)
  obtain ⟨s, r, session', entry, hopened⟩ := hinv.opened_of_not_quiet hnotQuiet
  obtain rfl := Option.some.inj (hopened.current.symm.trans hsession)
  obtain ⟨rfl, hgeneration, hvalue⟩ := hopened.outgoing _ hptr
  -- the client's socket is connected, so it is the open stream's
  obtain rfl : socket = s.socket := by
    obtain ⟨s', hs', hlatest⟩ := hmeets
    obtain ⟨-, -, -, -, hheld⟩ := hinv.latest s'.callback hlatest
    obtain rfl := Option.some.inj (hheld.symm.trans hsocket)
    have hconnected := (hinv.apart.submitted s' hs').connected
    rw [hinv.own_socket s' hs'] at hconnected
    exact hopened.alone _ hheld hconnected
  have hown : BodyRead.Own st.asked st.submissions
      ⟨s.socket, s.stream_id, length, (st.client.read_callback ptr length).map Prod.fst⟩ :=
    ⟨s, hopened.mem, rfl, rfl, r, hopened.asked, by rw [read_callback_data hgeneration, hvalue]⟩
  have hapart := hinv.apart.read hown
  exact { hinv with
    apart := ⟨hapart.submitted, hapart.bodies, hapart.answered, hapart.distinct, hapart.kept⟩
    session := Or.inr ⟨s, r, _, entry, { hopened with
      current := rfl
      outgoing := fun body hbody => hopened.outgoing body (List.mem_of_mem_filter hbody) }⟩ }

/-! ### Reading the answer -/

theorem invariant_read {k : ℕ} {ok : Bool} (hinv : Invariant st)
    (h : step st (.read k ok) = some st') : Invariant st' := by
  obtain ⟨read, -, -, hreadable, rfl⟩ := step_read_eq_some h
  refine hinv.reading _ fun s r session entry hopened other hother => ?_
  obtain ⟨hok, hother⟩ := Option.ite_none_right_eq_some.mp hother
  obtain rfl := Option.some.inj hother
  obtain ⟨hheld | ⟨op, hop, rfl⟩, hconnected⟩ := hreadable hok
  · exact hopened.alone _ hheld hconnected
  · -- a socket still being connected cannot be read
    obtain ⟨r', -, hown⟩ := hinv.connecting op hop
    have hpending : op.callback ∈ st.pending :=
      List.mem_append_right _ (List.mem_map_of_mem hop)
    rw [hown] at hconnected
    exact absurd hconnected (hinv.unconnected _ hpending)

theorem invariant_read_done {ok : Bool} (hinv : Invariant st)
    (h : step st (.read_done ok) = some st') : Invariant st' := by
  obtain ⟨_, -, rfl⟩ := step_read_done_eq_some h
  exact hinv.reading _ fun _ _ _ _ _ _ hother => absurd hother (by simp)

/-- Without an entry for its stream, a callback changes no entry and invokes nothing. -/
theorem callback_of_none {client client' : Http2Client ℕ} {c : ClientCallback}
    {invoked : Option (ℕ × Http2Response × Bytes)}
    (hentry : client.streams_.lookup c.stream = none)
    (h : client.callback c = some (client', invoked)) :
    client'.streams_ = client.streams_
      ∧ client'.request_body_storage_ = client.request_body_storage_ ∧ invoked = none := by
  cases c with
  | on_header frame name value =>
      rw [ClientCallback.stream] at hentry
      simp only [callback, on_header_cb, hentry, ite_self, Option.map_some, Option.some.injEq,
        Prod.mk.injEq] at h
      obtain ⟨rfl, rfl⟩ := h
      exact ⟨rfl, rfl, rfl⟩
  | on_frame_recv frame =>
      obtain ⟨rfl, rfl⟩ := Prod.mk.inj (Option.some.inj h)
      exact ⟨rfl, rfl, rfl⟩
  | on_data_chunk_recv flags id data =>
      rw [ClientCallback.stream] at hentry
      simp only [callback, on_data_chunk_recv_cb, hentry, Option.some.injEq, Prod.mk.injEq] at h
      obtain ⟨rfl, rfl⟩ := h
      exact ⟨rfl, rfl, rfl⟩
  | on_stream_close id code =>
      rw [ClientCallback.stream] at hentry
      simp only [callback, on_stream_close_cb, hentry, Option.some.injEq, Prod.mk.injEq] at h
      obtain ⟨rfl, rfl⟩ := h
      exact ⟨rfl, rfl, rfl⟩

/-- A close takes the entry of its stream away and invokes the callback in it. -/
theorem callback_of_close {client client' : Http2Client ℕ} {id : StreamId} {code : UInt32}
    {entry : StreamData ℕ} {invoked : Option (ℕ × Http2Response × Bytes)}
    (hentry : client.streams_.lookup id = some entry)
    (h : client.callback (.on_stream_close id code) = some (client', invoked)) :
    client'.streams_ = client.streams_.erase id
      ∧ client'.request_body_storage_ = client.request_body_storage_
      ∧ invoked = entry.callback.map fun f => (f, entry.result, []) := by
  simp only [callback, on_stream_close_cb, hentry, Option.some.injEq, Prod.mk.injEq] at h
  obtain ⟨rfl, rfl⟩ := h
  exact ⟨rfl, rfl, rfl⟩

/-- A callback that closes nothing adds to the entry of its stream, and leaves the socket,
the stored body and every other entry as they are. -/
theorem callback_of_entry {client client' : Http2Client ℕ} {c : ClientCallback}
    {entry : StreamData ℕ} {invoked : Option (ℕ × Http2Response × Bytes)}
    (hentry : client.streams_.lookup c.stream = some entry)
    (hopen : ∀ id code, c ≠ .on_stream_close id code)
    (h : client.callback c = some (client', invoked)) :
    invoked = none ∧ SameTarget client client'
      ∧ client'.request_body_storage_ = client.request_body_storage_
      ∧ ∃ entry', entry'.callback = entry.callback ∧ entry'.result = respond entry.result c
          ∧ client'.streams_ = client.streams_.insert c.stream entry' := by
  have hsame := (insert_of_lookup hentry).symm
  cases c with
  | on_stream_close id code => exact absurd rfl (hopen id code)
  | on_frame_recv frame =>
      obtain ⟨rfl, rfl⟩ := Prod.mk.inj (Option.some.inj h)
      exact ⟨rfl, ⟨rfl, rfl, rfl⟩, rfl, entry, rfl, rfl, hsame⟩
  | on_data_chunk_recv flags id data =>
      rw [ClientCallback.stream] at hentry
      simp only [callback, on_data_chunk_recv_cb, hentry] at h
      obtain ⟨rfl, rfl⟩ := Prod.mk.inj (Option.some.inj h)
      exact ⟨rfl, ⟨rfl, rfl, rfl⟩, rfl, { entry with body_buffer := entry.body_buffer ++ data },
        rfl, rfl, rfl⟩
  | on_header frame name value =>
      rw [ClientCallback.stream] at hentry
      simp only [callback, Option.map_eq_some_iff] at h
      obtain ⟨client'', hheader, h⟩ := h
      obtain ⟨rfl, rfl⟩ := Prod.mk.inj h
      simp only [on_header_cb, hentry] at hheader
      split_ifs at hheader with htype hname
      · -- the status of the response
        obtain ⟨code, hcode, rfl⟩ := Option.map_eq_some_iff.mp hheader
        refine ⟨rfl, ⟨rfl, rfl, rfl⟩, rfl,
          { entry with response := { entry.response with status_code := code } }, rfl, ?_, rfl⟩
        rw [respond, if_pos ⟨htype.1, htype.2, hname⟩, hcode]
        rfl
      · -- another field of it
        obtain rfl := Option.some.inj hheader
        refine ⟨rfl, ⟨rfl, rfl, rfl⟩, rfl, entry, rfl, ?_, hsame⟩
        rw [respond, if_neg fun h => hname h.2.2]
      · -- trailers
        obtain rfl := Option.some.inj hheader
        refine ⟨rfl, ⟨rfl, rfl, rfl⟩, rfl, entry, rfl, ?_, hsame⟩
        rw [respond, if_neg fun h => htype ⟨h.1, h.2.1⟩]

/-- The three ways a callback can go, by the entry of its stream. -/
inductive CallbackEffect (client client' : Http2Client ℕ)
    (invoked : Option (ℕ × Http2Response × Bytes)) : ClientCallback → Prop
  | idle {c : ClientCallback} (hentry : client.streams_.lookup c.stream = none)
      (hstreams : client'.streams_ = client.streams_) (hinvoked : invoked = none) :
      CallbackEffect client client' invoked c
  | closed {id : StreamId} {code : UInt32} (entry : StreamData ℕ)
      (hentry : client.streams_.lookup id = some entry)
      (hstreams : client'.streams_ = client.streams_.erase id)
      (hinvoked : invoked = entry.callback.map fun f => (f, entry.result, [])) :
      CallbackEffect client client' invoked (.on_stream_close id code)
  | added {c : ClientCallback} (entry entry' : StreamData ℕ)
      (hopen : ∀ id code, c ≠ .on_stream_close id code)
      (hentry : client.streams_.lookup c.stream = some entry)
      (hcallback : entry'.callback = entry.callback)
      (hresult : entry'.result = respond entry.result c)
      (hstreams : client'.streams_ = client.streams_.insert c.stream entry')
      (hinvoked : invoked = none) : CallbackEffect client client' invoked c

/-- A callback goes one of them, and none touches the stored body. -/
theorem callback_effect {client client' : Http2Client ℕ} {c : ClientCallback}
    {invoked : Option (ℕ × Http2Response × Bytes)}
    (h : client.callback c = some (client', invoked)) :
    client'.request_body_storage_ = client.request_body_storage_
      ∧ CallbackEffect client client' invoked c := by
  rcases hentry : client.streams_.lookup c.stream with _ | entry
  · obtain ⟨hstreams, hstorage, hinvoked⟩ := callback_of_none hentry h
    exact ⟨hstorage, .idle hentry hstreams hinvoked⟩
  · by_cases hclose : ∃ id code, c = .on_stream_close id code
    · obtain ⟨id, code, rfl⟩ := hclose
      obtain ⟨hstreams, hstorage, hinvoked⟩ := callback_of_close hentry h
      exact ⟨hstorage, .closed entry hentry hstreams hinvoked⟩
    · have hopen : ∀ id code, c ≠ .on_stream_close id code :=
        fun id code heq => hclose ⟨id, code, heq⟩
      obtain ⟨hinvoked, -, hstorage, entry', hcallback, hresult, hstreams⟩ :=
        callback_of_entry hentry hopen h
      exact ⟨hstorage, .added entry entry' hopen hentry hcallback hresult hstreams hinvoked⟩

/-- A callback on the one open stream keeps the requests apart, if whatever it invokes
is its own and no callback leaves the table uninvoked. -/
theorem Apart.recv (h : Apart st) {socket : SocketPtr} {c : ClientCallback}
    {client : Http2Client ℕ} {more : List Invocation}
    (hunclosed : ∀ i ∈ st.invocations, i.closed ≠ some (socket, c.stream))
    (hmore : ∀ i ∈ more, i.Own st.submissions (st.received ++ [(socket, c)]))
    (hkept : ∀ (id : StreamId) (entry : StreamData ℕ) (f : ℕ),
      st.client.streams_.lookup id = some entry → entry.callback = some f →
        (∃ i ∈ more, i.callback = f)
          ∨ ∃ entry', client.streams_.lookup id = some entry' ∧ entry'.callback = some f) :
    Apart { st with
      client := client
      received := st.received ++ [(socket, c)]
      invocations := st.invocations ++ more } := by
  refine ⟨h.submitted, h.bodies, List.forall_mem_append.mpr
    ⟨fun i hi => (h.answered i hi).receive (hunclosed i hi), hmore⟩, h.distinct, fun s hs => ?_⟩
  · rcases h.kept s hs with ⟨i, hi, hcallback⟩ | ⟨entry, hentry, hcallback⟩
    · exact Or.inl ⟨i, List.mem_append_left _ hi, hcallback⟩
    · exact (hkept s.stream_id entry s.callback hentry hcallback).imp_left
        fun ⟨i, hi, hi'⟩ => ⟨i, List.mem_append_right _ hi, hi'⟩

/-- A session with one stream open, once it is closed. -/
theorem close_quiet {session : nghttp2_session} {stream_id : StreamId}
    (hopened : session.opened = [stream_id])
    (houtgoing : ∀ entry ∈ session.outgoing, entry.1 = stream_id) :
    (session.close stream_id).opened = [] ∧ (session.close stream_id).outgoing = [] := by
  constructor
  · rw [nghttp2_session.close, hopened]
    simp
  · rw [nghttp2_session.close, List.filter_eq_nil_iff]
    intro entry hentry
    simp [houtgoing entry hentry]

/-- A table with one entry, that entry erased. -/
theorem erase_insert_empty (stream_id : StreamId) (entry : StreamData ℕ) :
    ((∅ : UnorderedMap StreamId (StreamData ℕ)).insert stream_id entry).erase stream_id = ∅ := by
  apply Finmap.ext_lookup
  intro id
  by_cases hid : id = stream_id
  · rw [hid, Finmap.lookup_erase, Finmap.lookup_empty]
  · rw [Finmap.lookup_erase_ne hid, Finmap.lookup_insert_of_ne _ hid]

/-- A callback that closes nothing leaves the request where it is. -/
theorem Opened.respond {s : Submission} {r : Asked} {session : nghttp2_session}
    {entry : StreamData ℕ} (hopened : Opened st s r session entry) {c : ClientCallback}
    (hstream : c.stream = s.stream_id) (hopen : ∀ id code, c ≠ .on_stream_close id code)
    {client : Http2Client ℕ} {invoked : Option (ℕ × Http2Response × Bytes)}
    (h : st.client.callback c = some (client, invoked)) :
    invoked = none ∧ SameTarget st.client client ∧ ∃ entry', Opened { st with
        client := { client with session_ := some (session.called c) }
        received := st.received ++ [(s.socket, c)] } s r session entry' := by
  have hentry : st.client.streams_.lookup c.stream = some entry := by
    rw [hopened.streams, hstream, Finmap.lookup_insert]
  obtain ⟨hnone, htarget, hstorage, entry', hcallback, hresult, htable⟩ :=
    callback_of_entry hentry hopen h
  have hcalled : session.called c = session := by
    cases c with
    | on_stream_close id code => exact absurd rfl (hopen id code)
    | _ => rfl
  refine ⟨hnone, htarget, entry', { hopened with
    current := congrArg some hcalled
    outgoing := ?_
    streams := ?_
    callback := hcallback.trans hopened.callback
    result := ?_
    alone := ?_ }⟩
  · rw [hstorage]
    exact hopened.outgoing
  · rw [htable, hopened.streams, hstream, Finmap.insert_insert]
  · rw [hresult, hopened.result, ← hstream, responseOn_concat_self]
  · rw [htarget.socket]
    exact hopened.alone

/-- The close of its stream invokes the request's callback with what arrived, and
leaves the table empty. -/
theorem Opened.close {s : Submission} {r : Asked} {session : nghttp2_session}
    {entry : StreamData ℕ} (hopened : Opened st s r session entry) (code : UInt32) :
    ∃ client, st.client.callback (.on_stream_close s.stream_id code)
        = some (client, some (s.callback, responseOn st.received s.socket s.stream_id, []))
      ∧ SameTarget st.client client ∧ client.streams_ = ∅ := by
  have hentry : st.client.streams_.lookup s.stream_id = some entry := by
    rw [hopened.streams, Finmap.lookup_insert]
  simp only [Http2Client.callback, on_stream_close_cb, hentry, hopened.callback,
    Option.map_some, ← hopened.result]
  exact ⟨_, rfl, ⟨rfl, rfl, rfl⟩, by rw [hopened.streams, erase_insert_empty]⟩

/-- The table has no entry but the open stream's. -/
theorem Opened.eq_of_lookup {s : Submission} {r : Asked} {session : nghttp2_session}
    {entry : StreamData ℕ} (hopened : Opened st s r session entry) {id : StreamId}
    {entry' : StreamData ℕ} (h : st.client.streams_.lookup id = some entry') :
    id = s.stream_id ∧ entry' = entry := by
  by_cases hid : id = s.stream_id
  · rw [hopened.streams, hid, Finmap.lookup_insert] at h
    exact ⟨hid, (Option.some.inj h).symm⟩
  · rw [hopened.streams, Finmap.lookup_insert_of_ne _ hid, Finmap.lookup_empty] at h
    exact absurd h (by simp)

/-- What the records of a connected socket's callback keep of the invariant, apart from
the session. -/
theorem Invariant.recv (hinv : Invariant st) {socket : SocketPtr} {c : ClientCallback}
    {client : Http2Client ℕ} {more : List Invocation}
    (hconnected : Connected st.sockets socket) (htarget : SameTarget st.client client)
    (hclosed : ∀ i ∈ more, i.closed = some (socket, c.stream))
    (hapart : Apart { st with
      client := client
      received := st.received ++ [(socket, c)]
      invocations := st.invocations ++ more })
    (hsession : Quiet client ∨ ∃ s r session entry, Opened { st with
      client := client
      received := st.received ++ [(socket, c)]
      invocations := st.invocations ++ more } s r session entry) :
    Invariant { st with
      client := client
      received := st.received ++ [(socket, c)]
      invocations := st.invocations ++ more } := by
  refine { hinv with
    apart := hapart
    latest := ?_
    received := Record.forall_mem_concat hinv.received hconnected
    closed := List.forall_mem_append.mpr ⟨hinv.closed, fun i hi socket' stream_id h => ?_⟩
    session := hsession }
  · rw [htarget.host, htarget.port, htarget.socket]
    exact hinv.latest
  · obtain ⟨rfl, -⟩ := Prod.mk.inj (Option.some.inj ((hclosed i hi).symm.trans h))
    exact hconnected

theorem invariant_recv {c : ClientCallback} (hinv : Invariant st)
    (h : step st (.recv c) = some st') : Invariant st' := by
  obtain ⟨socket, session, hrunning, hsession, hopen, h⟩ := step_recv_eq_some h
  have hnotQuiet : ¬ Quiet st.client := fun hquiet => by
    rw [(hquiet session hsession).1] at hopen
    exact absurd hopen (by simp)
  obtain ⟨s, r, session', entry, hopened⟩ := hinv.opened_of_not_quiet hnotQuiet
  obtain rfl := hopened.running socket hrunning
  obtain rfl := Option.some.inj (hopened.current.symm.trans hsession)
  have hstream : c.stream = s.stream_id := by
    rw [hopened.opened] at hopen
    exact List.mem_singleton.mp hopen
  have hunclosed : ∀ i ∈ st.invocations, i.closed ≠ some (s.socket, c.stream) := by
    rw [hstream]
    exact hopened.unclosed
  have hconnected := (hinv.apart.submitted s hopened.mem).connected
  obtain ⟨client, invoked, hclient, rfl⟩ := State.recv_eq_some h
  -- the close of the stream ends the request; any other callback leaves it open
  by_cases hclose : ∃ id code, c = .on_stream_close id code
  · obtain ⟨id, code, rfl⟩ := hclose
    obtain rfl : id = s.stream_id := hstream
    obtain ⟨client', hclient', htarget, hstreams⟩ := hopened.close code
    obtain ⟨rfl, rfl⟩ := Prod.mk.inj (Option.some.inj (hclient.symm.trans hclient'))
    refine hinv.recv hconnected ⟨htarget.socket, htarget.host, htarget.port⟩ (by simp) ?_
      (Or.inl fun session h => ?_)
    · refine hinv.apart.recv hunclosed (fun i hi => ?_) fun id entry' f hlookup hf => Or.inl ?_
      · -- closing the stream adds nothing to what arrived on it
        obtain rfl := List.mem_singleton.mp hi
        rintro socket stream_id hclosed
        obtain ⟨rfl, rfl⟩ := Prod.mk.inj (Option.some.inj hclosed)
        exact ⟨(responseOn_concat_self s.socket (.on_stream_close s.stream_id code)).symm,
          s, hopened.mem, rfl, rfl, rfl⟩
      · obtain ⟨rfl, rfl⟩ := hopened.eq_of_lookup hlookup
        exact ⟨_, List.mem_singleton_self _, Option.some.inj (hopened.callback.symm.trans hf)⟩
    · obtain rfl := Option.some.inj h
      exact close_quiet hopened.opened fun body hbody => (hopened.outgoing body hbody).1
  · obtain ⟨rfl, htarget, entry', hopened'⟩ := hopened.respond hstream
      (fun id code hc => hclose ⟨id, code, hc⟩) hclient
    refine hinv.recv hconnected ⟨htarget.socket, htarget.host, htarget.port⟩ (by simp) ?_
      (Or.inr ⟨s, r, _, entry', { hopened' with
        unclosed := fun i hi => hopened.unclosed i (by simpa using hi) }⟩)
    refine hinv.apart.recv hunclosed (by simp) fun id entry'' f hlookup hf => Or.inr ⟨entry', ?_⟩
    obtain ⟨rfl, rfl⟩ := hopened.eq_of_lookup hlookup
    rw [hopened'.streams, Finmap.lookup_insert]
    exact ⟨rfl, hopened'.callback.trans (hopened.callback.symm.trans hf)⟩

/-! ## Undisturbed runs -/

theorem invariant_step {e : Event} (hinv : Invariant st) (hmeets : Undisturbed st e)
    (h : step st e = some st') : Invariant st' := by
  cases e with
  | send_request host port method path body =>
      obtain rfl := Option.some.inj h
      exact invariant_send_request hinv
  | resolve k ec => exact invariant_resolve hinv hmeets h
  | connect k ec accepted => exact invariant_connect hinv hmeets h
  | body_read stream_id length => exact invariant_body_read hinv hmeets h
  | read k ok => exact invariant_read hinv h
  | recv c => exact invariant_recv hinv h
  | read_done ok => exact invariant_read_done hinv h

/-- **An undisturbed client keeps its requests apart.** In every run, of any number of
requests to any hosts and ports, whose steps are undisturbed. -/
theorem kept_apart (events : List Event) (st : State)
    (hmeets : Machine.StepsMeet step Undisturbed {} events)
    (hrun : Machine.exec step {} events = some st) : Apart st :=
  (Machine.exec_invariant_of_stepsMeet Invariant (fun _ _ _ => invariant_step) invariant_start
    hmeets hrun).apart

/-- Two requests, the second asked for while the first is being answered. -/
def handedOver : List Event :=
  let frame : Frame := ⟨.HEADERS, 0x04, 1, .RESPONSE⟩
  [.send_request (bytes "a") 8080 (bytes "POST") (bytes "/x") (bytes "one"),
    .resolve 0 none, .connect 0 none true, .body_read 1 16384, .read 0 true,
    .recv (.on_header frame (bytes ":status") (bytes "200")),
    .send_request (bytes "b") 9090 (bytes "GET") (bytes "/y") [],
    .recv (.on_data_chunk_recv 0 1 (bytes "done")), .recv (.on_stream_close 1 0),
    .read_done false, .resolve 0 none, .connect 0 none true]

/-- Two requests, the second asked for during the first's answer, are kept apart. -/
theorem kept_apart_handedOver :
    ∃ st, Machine.exec step {} handedOver = some st ∧ st.submissions.length = 2
      ∧ st.invocations = [⟨0, ⟨200, bytes "done"⟩, [], some (0, 1)⟩] ∧ Apart st := by
  have hsome : (Machine.exec step {} handedOver).isSome := by decide
  obtain ⟨st, hrun⟩ := Option.isSome_iff_exists.mp hsome
  have hrecords : (Machine.exec step {} handedOver).map
      (fun st => (st.submissions.length, st.invocations))
        = some (2, [⟨0, ⟨200, bytes "done"⟩, [], some (0, 1)⟩]) := by decide
  rw [hrun, Option.map_some] at hrecords
  obtain ⟨hlength, hinvocations⟩ := Prod.mk.inj (Option.some.inj hrecords)
  exact ⟨st, hrun, hlength, hinvocations, kept_apart handedOver st (by decide) hrun⟩

/-- Two requests asked for one after the other, before the first is resolved. -/
def overlapping : List Event :=
  [.send_request (bytes "a") 8080 (bytes "GET") (bytes "/x") [],
    .send_request (bytes "b") 9090 (bytes "GET") (bytes "/y") [],
    .resolve 0 none, .connect 0 none true, .resolve 0 none, .connect 0 none true]

/-- The first of two requests is submitted on the second's socket, with the second's authority,
and its callback is overwritten. -/
theorem overlapping_requests_mix :
    ∃ st, Machine.exec step {} overlapping = some st
      ∧ st.submissions = [
          ⟨0, 1, 1, requestHeaders (bytes "b") 9090 (bytes "GET") (bytes "/x") []⟩,
          ⟨1, 1, 1, requestHeaders (bytes "b") 9090 (bytes "GET") (bytes "/y") []⟩]
      ∧ st.invocations = []
      ∧ (st.client.streams_.lookup 1).map StreamData.callback = some (some 1)
      ∧ ¬ Apart st := by
  have hsome : (Machine.exec step {} overlapping).isSome := by decide
  obtain ⟨st, hrun⟩ := Option.isSome_iff_exists.mp hsome
  have hrecords : (Machine.exec step {} overlapping).map (fun st => (st.asked[0]?,
      st.submissions, st.invocations, (st.client.streams_.lookup 1).map StreamData.callback))
        = some (some ⟨bytes "a", 8080, bytes "GET", bytes "/x", []⟩, [
            ⟨0, 1, 1, requestHeaders (bytes "b") 9090 (bytes "GET") (bytes "/x") []⟩,
            ⟨1, 1, 1, requestHeaders (bytes "b") 9090 (bytes "GET") (bytes "/y") []⟩],
          [], some (some 1)) := by decide
  rw [hrun, Option.map_some] at hrecords
  obtain ⟨hasked, hrecords⟩ := Prod.mk.inj (Option.some.inj hrecords)
  obtain ⟨hsubmissions, hrecords⟩ := Prod.mk.inj hrecords
  obtain ⟨hinvocations, htable⟩ := Prod.mk.inj hrecords
  refine ⟨st, hrun, hsubmissions, hinvocations, htable, fun hapart => ?_⟩
  -- the first request's host is not the one it was submitted with
  obtain ⟨r, hr, -, hheaders⟩ := hapart.submitted _ (hsubmissions ▸ List.mem_cons_self ..)
  obtain rfl := Option.some.inj (hasked.symm.trans hr)
  exact absurd hheaders (by decide)

end Http2Client

end Http2Server
