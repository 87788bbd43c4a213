/-
The two tables `Http2Client` keeps by stream id.

A callback is stored under the id its stream was given, a data provider under the id the
client expects its stream to get, before it is submitted. The close of the stream takes both
away, under its id. The expectation is right once: a session is set up for every request and
starts again at 1, but the client expects 3 after its first. So a provider is stored under the
wrong id, and never taken away, when its request is not the first to be submitted, and it stays
too when its request is not accepted.

`tables_kept_iff` says that this is all that goes wrong with requests made one after another:
`Clean` holds of the client as long as no provider is lost, and a provider that is lost is
missed at once.
-/
import Http2Server.Http2ClientBody
import Http2Server.Http2ClientOutcome

set_option autoImplicit false

open ByteString UnorderedMap

namespace Http2Server

/-- The stream a callback reports the close of. -/
def ClientCallback.closes : ClientCallback → Option StreamId
  | .on_stream_close stream_id _ => some stream_id
  | _ => none

theorem ClientCallback.closes_eq_some_iff {c : ClientCallback} {stream_id : StreamId} :
    c.closes = some stream_id ↔ ∃ error_code, c = .on_stream_close stream_id error_code := by
  cases c with
  | on_stream_close id code => simp [closes]
  | _ => simp [closes]

namespace Http2Client

/-! ## Requests one after another -/

/-- What can happen to a client: an event of its own, or that nghttp2 closes a stream while it
sends. -/
inductive Activity
  | client (e : Event)
  | write_closes (stream_id : StreamId) (error_code : UInt32)

/-- One activity of a client. -/
def act (st : State) : Activity → Option State
  | .client e => step st e
  | .write_closes stream_id error_code => do
      let socket ← st.client.socket_
      let session ← st.client.session_
      if stream_id ∈ session.opened then
        st.recv socket session (.on_stream_close stream_id error_code)
      else none

/-- The streams that are open. -/
def State.opened (st : State) : List StreamId :=
  (st.client.session_.map fun session => session.opened).getD []

/-- How many requests have not got to their submission. -/
def State.waiting (st : State) : ℕ := st.resolving.length + st.connecting.length

/-- A stream was opened for a request: it is the stream of the last submission. -/
def State.OpenedFor (st : State) (stream_id : StreamId) (r : Asked) : Prop :=
  ∃ s, st.submissions.getLast? = some s ∧ s.stream_id = stream_id
    ∧ st.asked[s.callback]? = some r

/-- **The tables are kept**: with no stream open they are empty, and while a stream is open, and
its request has a body, the provider for what is stored is there under its id. -/
structure TablesKept (st : State) : Prop where
  idle : st.opened = [] → st.client.streams_ = ∅ ∧ st.client.data_providers_ = ∅
  provided : ∀ id ∈ st.opened, ∃ r, st.OpenedFor id r ∧ (r.body ≠ [] →
    st.client.data_providers_.lookup id = some ⟨st.client.request_body_storage_.generation⟩)

/-- A request is made when no other waits to be submitted, and no stream is open. -/
def OneByOne (st : State) : Activity → Prop
  | .client (.send_request _ _ _ _ _) => st.waiting = 0 ∧ st.opened = []
  | _ => True

/-- A request that gets to its submission with a body is accepted, and the first to be. -/
def BodyFirst (st : State) : Activity → Prop
  | .client (.connect k none accepted) =>
      ∀ op, st.connecting[k]? = some op → op.body ≠ [] → accepted = true ∧ st.submissions = []
  | _ => True

instance (st : State) : ∀ a, Decidable (OneByOne st a)
  | .client (.send_request _ _ _ _ _) => inferInstanceAs (Decidable (_ ∧ _))
  | .write_closes _ _ | .client (.resolve _ _) | .client (.connect _ _ _)
  | .client (.body_read _ _) | .client (.read _ _) | .client (.recv _)
  | .client (.read_done _) => isTrue trivial

instance (st : State) : ∀ a, Decidable (BodyFirst st a)
  | .client (.connect k none accepted) => inferInstanceAs (Decidable (∀ op ∈ st.connecting[k]?,
      op.body ≠ [] → accepted = true ∧ st.submissions = []))
  | .write_closes _ _ | .client (.send_request _ _ _ _ _) | .client (.resolve _ _)
  | .client (.connect _ (some _) _) | .client (.body_read _ _) | .client (.read _ _)
  | .client (.recv _) | .client (.read_done _) => isTrue trivial

/-! ## What a step does to the tables -/

variable {st st' : State}

theorem State.opened_of_session {session : nghttp2_session}
    (hsession : st.client.session_ = some session) : st.opened = session.opened := by
  rw [State.opened, hsession]
  rfl

/-- A step that is no business of the tables. -/
structure SameTables (st st' : State) : Prop where
  streams : st'.client.streams_ = st.client.streams_
  providers : st'.client.data_providers_ = st.client.data_providers_
  storage : st'.client.request_body_storage_ = st.client.request_body_storage_
  next : st'.client.next_stream_id_ = st.client.next_stream_id_
  opened : st'.opened = st.opened
  submissions : st'.submissions = st.submissions

/-- A step that makes no request, submits none and runs no callback leaves the tables. -/
theorem sameTables_of_step {e : Event} (hasks : e.asks = false) (hsubmits : e.submits = false)
    (hrecv : ∀ c, e ≠ .recv c) (hstep : step st e = some st') :
    SameTables st st' ∧ st'.asked = st.asked ∧ st'.waiting ≤ st.waiting := by
  cases e with
  | send_request host port method path body => exact absurd hasks (by simp [Event.asks])
  | resolve k ec =>
      obtain ⟨op, hop, -, hst⟩ := step_resolve_eq_some hstep
      have hlength := List.length_eraseIdx_add_one (List.getElem?_eq_some_iff.mp hop).1
      cases ec with
      | some message =>
          obtain rfl := Option.some.inj hst
          refine ⟨⟨rfl, rfl, rfl, rfl, rfl, rfl⟩, rfl, ?_⟩
          simp only [State.waiting]
          omega
      | none =>
          obtain ⟨socket, -, rfl⟩ := State.resolved_eq_some hst
          refine ⟨⟨rfl, rfl, rfl, rfl, rfl, rfl⟩, rfl, ?_⟩
          simp only [State.waiting, List.length_append, List.length_singleton]
          omega
  | connect k ec accepted =>
      cases ec with
      | none => exact absurd hsubmits (by simp [Event.submits])
      | some message =>
          obtain ⟨op, hop, -, hst⟩ := step_connect_eq_some hstep
          have hlength := List.length_eraseIdx_add_one (List.getElem?_eq_some_iff.mp hop).1
          obtain rfl := Option.some.inj hst
          refine ⟨⟨rfl, rfl, rfl, rfl, rfl, rfl⟩, rfl, ?_⟩
          simp only [State.waiting]
          omega
  | body_read stream_id length =>
      obtain ⟨socket, session, ptr, -, hsession, -, rfl⟩ := step_body_read_eq_some hstep
      have hopened := (State.opened_of_session hsession).symm
      exact ⟨⟨rfl, rfl, rfl, rfl, hopened, rfl⟩, rfl, le_rfl⟩
  | read k ok =>
      obtain ⟨socket, -, -, -, rfl⟩ := step_read_eq_some hstep
      exact ⟨⟨rfl, rfl, rfl, rfl, rfl, rfl⟩, rfl, le_rfl⟩
  | recv c => exact absurd rfl (hrecv c)
  | read_done ok =>
      obtain ⟨socket, -, rfl⟩ := step_read_done_eq_some hstep
      exact ⟨⟨rfl, rfl, rfl, rfl, rfl, rfl⟩, rfl, le_rfl⟩

/-- A callback takes away the entry of the stream it reports closed, and no other. -/
theorem mem_streams_of_callback {client client' : Http2Client ℕ} {c : ClientCallback}
    {invoked : Option (ℕ × Http2Response × Bytes)}
    (h : client.callback c = some (client', invoked)) (id : StreamId) :
    id ∈ client'.streams_ ↔ id ∈ client.streams_ ∧ c.closes ≠ some id := by
  cases (callback_effect h).2 with
  | idle hentry hstreams hinvoked =>
      rw [hstreams]
      refine (and_iff_left_of_imp fun hid hcloses => ?_).symm
      obtain ⟨code, rfl⟩ := ClientCallback.closes_eq_some_iff.mp hcloses
      exact Finmap.lookup_eq_none.mp hentry hid
  | closed entry hentry hstreams hinvoked =>
      rw [hstreams, Finmap.mem_erase, and_comm]
      exact and_congr_right fun _ => ne_comm.trans (Option.some_injective _).ne_iff.symm
  | added entry entry' hopen hentry hcallback hresult hstreams hinvoked =>
      rw [hstreams, mem_insert_of_lookup hentry]
      refine (and_iff_left fun hcloses => ?_).symm
      obtain ⟨code, heq⟩ := ClientCallback.closes_eq_some_iff.mp hcloses
      exact hopen id code heq

/-- A callback takes away the provider of the stream it reports closed, and no other. -/
theorem providers_of_callback {client client' : Http2Client ℕ} {c : ClientCallback}
    {invoked : Option (ℕ × Http2Response × Bytes)}
    (h : client.callback c = some (client', invoked)) :
    client'.next_stream_id_ = client.next_stream_id_ ∧ ∀ id, client'.data_providers_.lookup id
      = if c.closes = some id then none else client.data_providers_.lookup id := by
  cases c with
  | on_stream_close stream_id code =>
      obtain rfl := congrArg Prod.fst (Option.some.inj h)
      have herased : ∀ id, (client.data_providers_.erase stream_id).lookup id
          = if some stream_id = some id then none else client.data_providers_.lookup id := by
        intro id
        by_cases hid : stream_id = id
        · rw [if_pos (congrArg some hid), hid, Finmap.lookup_erase]
        · rw [if_neg (mt Option.some.inj hid), Finmap.lookup_erase_ne (Ne.symm hid)]
      rw [on_stream_close_cb]
      split <;> exact ⟨rfl, herased⟩
  | on_frame_recv frame =>
      obtain ⟨rfl, -⟩ := Prod.mk.inj (Option.some.inj h)
      exact ⟨rfl, fun _ => rfl⟩
  | on_data_chunk_recv flags stream_id data =>
      obtain ⟨rfl, -⟩ := Prod.mk.inj (Option.some.inj h)
      rw [on_data_chunk_recv_cb]
      split <;> exact ⟨rfl, fun _ => rfl⟩
  | on_header frame name value =>
      obtain ⟨client'', hheader, h⟩ := Option.map_eq_some_iff.mp h
      obtain ⟨rfl, -⟩ := Prod.mk.inj h
      -- no field of a header but the status is kept, and that in the entry of its stream
      rw [on_header_cb] at hheader
      rcases hentry : client.streams_.lookup frame.stream_id with _ | entry
      · simp only [hentry, ite_self] at hheader
        exact Option.some.inj hheader ▸ ⟨rfl, fun _ => rfl⟩
      · simp only [hentry] at hheader
        split_ifs at hheader
        · obtain ⟨code, -, rfl⟩ := Option.map_eq_some_iff.mp hheader
          exact ⟨rfl, fun _ => rfl⟩
        · exact Option.some.inj hheader ▸ ⟨rfl, fun _ => rfl⟩
        · exact Option.some.inj hheader ▸ ⟨rfl, fun _ => rfl⟩

/-- The session closes that stream, and no other. -/
theorem mem_opened_called {session : nghttp2_session} {c : ClientCallback} {id : StreamId} :
    id ∈ (session.called c).opened ↔ id ∈ session.opened ∧ c.closes ≠ some id := by
  cases c with
  | on_stream_close stream_id code =>
      rw [nghttp2_session.called, nghttp2_session.close, List.mem_filter, decide_eq_true_eq,
        ClientCallback.closes, Ne, Ne, Option.some.injEq, eq_comm]
  | _ => simp [nghttp2_session.called, ClientCallback.closes]

/-- The data provider of a body is stored under the id the client expects. -/
theorem tables_of_provide (client : Http2Client ℕ) (body : Bytes) :
    ∃ client' data_prd, send_http2_request.provide client body = (client', data_prd)
      ∧ client'.session_ = client.session_ ∧ client'.streams_ = client.streams_
      ∧ client'.next_stream_id_ = client.next_stream_id_
      ∧ client'.data_providers_
          = if body = [] then client.data_providers_
            else client.data_providers_.insert client.next_stream_id_
              ⟨client'.request_body_storage_.generation⟩ := by
  by_cases hbody : body = []
  · rw [hbody, provide_nil]
    exact ⟨client, none, rfl, rfl, rfl, rfl, rfl⟩
  · simp only [provide_of_ne_nil client hbody, if_neg hbody]
    exact ⟨_, _, rfl, rfl, rfl, rfl, rfl⟩

/-- What a request that gets to its submission leaves: when it is accepted, a stream in a new
session and an entry for its callback, and otherwise a new session with nothing in it. -/
structure AfterConnect (st st' : State) (op : Connect) (accepted : Bool) : Prop where
  asked : st'.asked = st.asked
  waiting : st'.waiting + 1 = st.waiting
  providers : st'.client.data_providers_
    = if op.body = [] then st.client.data_providers_
      else st.client.data_providers_.insert st.client.next_stream_id_
        ⟨st'.client.request_body_storage_.generation⟩
  of_accepted : accepted = true → st'.opened = [1] ∧ st'.client.next_stream_id_ = 3
    ∧ (∃ s, st'.submissions = st.submissions ++ [s] ∧ s.stream_id = 1 ∧ s.callback = op.callback)
    ∧ ∃ entry, st'.client.streams_ = st.client.streams_.insert 1 entry
  of_refused : accepted = false → st'.opened = []
    ∧ st'.client.next_stream_id_ = st.client.next_stream_id_
    ∧ st'.submissions = st.submissions ∧ st'.client.streams_ = st.client.streams_

theorem afterConnect {k : ℕ} {op : Connect} {accepted : Bool}
    (hop : st.connecting[k]? = some op)
    (hstep : step st (.connect k none accepted) = some st') : AfterConnect st st' op accepted := by
  have hlength := List.length_eraseIdx_add_one (List.getElem?_eq_some_iff.mp hop).1
  have hwaiting : st.resolving.length + (st.connecting.eraseIdx k).length + 1 = st.waiting := by
    rw [State.waiting]
    omega
  obtain ⟨op', hop', -, hst⟩ := step_connect_eq_some hstep
  obtain rfl := Option.some.inj (hop.symm.trans hop')
  obtain ⟨socket, client', submitted, -, hsend, rfl⟩ := State.connected_eq_some hst
  obtain ⟨client, data_prd, hprovide, hsession, hstreams, hnext, hproviders⟩ :=
    tables_of_provide st.client.setup_nghttp2_client op.body
  replace hsession : client.session_ = some {} := hsession
  cases accepted with
  | true =>
      simp only [send_http2_request, hprovide, hsession] at hsend
      obtain ⟨rfl, rfl⟩ := Prod.mk.inj hsend
      exact ⟨rfl, hwaiting, hproviders, fun _ => ⟨rfl, rfl, ⟨_, rfl, rfl, rfl⟩, _,
        congrArg (Finmap.insert 1 _) hstreams⟩, by simp⟩
  | false =>
      simp only [send_http2_request, hprovide, hsession] at hsend
      obtain ⟨rfl, rfl⟩ := Prod.mk.inj hsend
      refine ⟨rfl, hwaiting, hproviders, by simp, fun _ => ⟨?_, hnext, List.append_nil _, hstreams⟩⟩
      simp only [State.opened, hsession, Option.map_some, Option.getD_some]

/-! ## While no provider is lost -/

/-- What holds of requests made one after another: one of them waits, with no stream open, or
one of them has its stream, with an entry for its callback; and, as long as no provider has been
lost, the providers are those of streams that are open, of every request with a body. -/
structure Clean (st : State) : Prop where
  carried : Carried st
  one : st.waiting ≤ 1
  closed : 0 < st.waiting → st.opened = []
  next : st.client.next_stream_id_ = if st.submissions = [] then 1 else 3
  streams : ∀ id, id ∈ st.client.streams_ ↔ id ∈ st.opened
  providers : ∀ id ∈ st.client.data_providers_, id ∈ st.opened
  provided : ∀ id ∈ st.opened, ∃ r, st.OpenedFor id r ∧ (r.body ≠ [] →
    st.client.data_providers_.lookup id = some ⟨st.client.request_body_storage_.generation⟩)

/-- A new client is clean. -/
theorem clean_start : Clean {} where
  carried := ⟨by simp, by simp⟩
  one := Nat.zero_le _
  closed := fun _ => rfl
  next := rfl
  streams := fun id => iff_of_false (Finmap.notMem_empty) (List.not_mem_nil)
  providers := fun id hid => absurd hid Finmap.notMem_empty
  provided := fun id hid => absurd hid List.not_mem_nil

/-- The tables are kept then. -/
theorem Clean.tablesKept (h : Clean st) : TablesKept st where
  idle := fun hnone => ⟨
    eq_empty_of_notMem fun id hid => by simpa [hnone] using (h.streams id).mp hid,
    eq_empty_of_notMem fun id hid => by simpa [hnone] using h.providers id hid⟩
  provided := h.provided

/-- When a request waits there are no providers. -/
theorem Clean.providers_of_waiting (h : Clean st) (hwaiting : 0 < st.waiting) :
    st.client.data_providers_ = ∅ :=
  (h.tablesKept.idle (h.closed hwaiting)).2

/-- A step that leaves the tables alone keeps a client clean. -/
theorem Clean.of_step (h : Clean st) {e : Event} (hasks : e.asks = false)
    (hsubmits : e.submits = false) (hrecv : ∀ c, e ≠ .recv c)
    (hstep : step st e = some st') : Clean st' := by
  obtain ⟨hsame, hasked, hwaiting⟩ := sameTables_of_step hasks hsubmits hrecv hstep
  exact {
    carried := carried_step st e st' h.carried hstep
    one := hwaiting.trans h.one
    closed := fun hpos => hsame.opened.trans (h.closed (hpos.trans_le hwaiting))
    next := by rw [hsame.next, hsame.submissions, h.next]
    streams := by
      rw [hsame.streams, hsame.opened]
      exact h.streams
    providers := by
      rw [hsame.providers, hsame.opened]
      exact h.providers
    provided := by
      simp only [State.OpenedFor, hsame.opened, hsame.providers, hsame.storage, hsame.submissions,
        hasked]
      exact h.provided }

/-- A request made when nothing is waiting or open keeps a client clean. -/
theorem Clean.send_request (h : Clean st) (hwaiting : st.waiting = 0) (hopened : st.opened = [])
    {host : Bytes} {port : ℤ} {method path body : Bytes}
    (hcarried : Carried (st.send_request host port method path body)) :
    Clean (st.send_request host port method path body) where
  carried := hcarried
  one := by
    simp only [State.waiting, State.send_request, List.length_append, List.length_singleton]
      at hwaiting ⊢
    omega
  closed := fun _ => hopened
  next := h.next
  streams := h.streams
  providers := h.providers
  provided := fun id hid => absurd hid (List.eq_nil_iff_forall_not_mem.mp hopened id)

/-- A callback of the session keeps a client clean. -/
theorem Clean.recv (h : Clean st) {socket : SocketPtr} {session : nghttp2_session}
    {c : ClientCallback} (hsession : st.client.session_ = some session)
    (hst : st.recv socket session c = some st') : Clean st' := by
  obtain ⟨client, invoked, hcallback, rfl⟩ := State.recv_eq_some hst
  obtain ⟨hnext, hproviders⟩ := providers_of_callback hcallback
  have hstorage := (callback_effect hcallback).1
  have hopened := State.opened_of_session hsession
  have hleft : ∀ {id}, id ∈ (session.called c).opened → id ∈ st.opened ∧ c.closes ≠ some id :=
    fun hid => hopened ▸ mem_opened_called.mp hid
  exact {
    carried := ⟨h.carried.resolving, h.carried.connecting⟩
    one := h.one
    closed := fun hpos => List.eq_nil_iff_forall_not_mem.mpr fun id hid => by
      simpa [h.closed hpos] using (hleft hid).1
    next := hnext.trans h.next
    streams := fun id => by
      rw [mem_streams_of_callback hcallback, h.streams, hopened]
      exact mem_opened_called.symm
    providers := fun id hid => by
      rw [← Finmap.lookup_isSome, hproviders] at hid
      split_ifs at hid with hcloses
      · cases hid
      · rw [Finmap.lookup_isSome] at hid
        exact mem_opened_called.mpr ⟨hopened ▸ h.providers id hid, hcloses⟩
    provided := fun id hid => by
      obtain ⟨r, howner, hprovided⟩ := h.provided id (hleft hid).1
      refine ⟨r, howner, fun hbody => ?_⟩
      rw [hproviders, if_neg (hleft hid).2, hprovided hbody, hstorage] }

/-- A request with its stream has an entry for its callback, and of it alone. -/
theorem Clean.connect_accepted (h : Clean st) {k : ℕ} {op : Connect}
    (hop : st.connecting[k]? = some op) (hfirst : op.body ≠ [] → st.submissions = [])
    (hcarried : Carried st') (hstep : step st (.connect k none true) = some st') : Clean st' := by
  obtain ⟨hasked, hwaiting, hproviders, haccepted, -⟩ := afterConnect hop hstep
  obtain ⟨hopened, hnext, ⟨s, hsubmissions, hid, hcallback⟩, entry, hstreams⟩ := haccepted rfl
  have hone := h.one
  have hempty := h.tablesKept.idle (h.closed (by omega))
  obtain ⟨r, hr, hbody⟩ := h.carried.connecting op (List.mem_of_getElem? hop)
  -- the first stream of a session is the one expected by a client that has submitted nothing
  have hexpected : op.body ≠ [] → st.client.next_stream_id_ = 1 := fun hne => by
    rw [h.next, if_pos (hfirst hne)]
  exact {
    carried := hcarried
    one := by omega
    closed := fun hpos => by omega
    next := by rw [hnext, hsubmissions, if_neg (by simp)]
    streams := fun id => by
      rw [hstreams, hempty.1, Finmap.mem_insert, hopened, List.mem_singleton]
      exact or_iff_left Finmap.notMem_empty
    providers := fun id hmem => by
      rw [hproviders, hempty.2] at hmem
      split_ifs at hmem with hnone
      · exact absurd hmem Finmap.notMem_empty
      · rw [Finmap.mem_insert, hexpected hnone] at hmem
        rw [hopened, List.mem_singleton]
        exact hmem.resolve_right Finmap.notMem_empty
    provided := fun id hmem => by
      rw [hopened, List.mem_singleton] at hmem
      refine ⟨r, ⟨s, ?_, hid.trans hmem.symm, ?_⟩, fun hne => ?_⟩
      · rw [hsubmissions, List.getLast?_concat]
      · rw [hcallback, hasked, hr]
      · rw [hbody] at hne
        rw [hproviders, if_neg hne, hexpected hne, hmem, Finmap.lookup_insert] }

/-- One without a body that is not accepted leaves nothing. -/
theorem Clean.connect_refused (h : Clean st) {k : ℕ} {op : Connect}
    (hop : st.connecting[k]? = some op) (hbody : op.body = []) (hcarried : Carried st')
    (hstep : step st (.connect k none false) = some st') : Clean st' := by
  obtain ⟨hasked, hwaiting, hproviders, -, hrefused⟩ := afterConnect hop hstep
  obtain ⟨hopened, hnext, hsubmissions, hstreams⟩ := hrefused rfl
  have hone := h.one
  have hempty := h.tablesKept.idle (h.closed (by omega))
  exact {
    carried := hcarried
    one := by omega
    closed := fun _ => hopened
    next := by rw [hnext, hsubmissions, h.next]
    streams := fun id => by
      rw [hstreams, hempty.1, hopened]
      exact iff_of_false Finmap.notMem_empty List.not_mem_nil
    providers := fun id hmem => by
      rw [hproviders, if_pos hbody, hempty.2] at hmem
      exact absurd hmem Finmap.notMem_empty
    provided := fun id hmem => by
      rw [hopened] at hmem
      exact absurd hmem List.not_mem_nil }

/-! ## When the tables are kept -/

theorem act_write_closes_eq_some {stream_id : StreamId} {error_code : UInt32}
    (h : act st (.write_closes stream_id error_code) = some st') :
    ∃ socket session, st.client.session_ = some session
      ∧ st.recv socket session (.on_stream_close stream_id error_code) = some st' := by
  simp only [act, bind, Option.bind_eq_some_iff, Option.ite_none_right_eq_some] at h
  obtain ⟨socket, -, session, hsession, -, hst⟩ := h
  exact ⟨socket, session, hsession, hst⟩

/-- **A step keeps the tables**, when the request with a body it submits is the first. -/
theorem clean_act {a : Activity} (h : Clean st) (hone : OneByOne st a) (hfirst : BodyFirst st a)
    (hact : act st a = some st') : Clean st' := by
  cases a with
  | write_closes stream_id error_code =>
      obtain ⟨socket, session, hsession, hst⟩ := act_write_closes_eq_some hact
      exact h.recv hsession hst
  | client e =>
      replace hact : step st e = some st' := hact
      have hcarried := carried_step st e st' h.carried hact
      cases e with
      | send_request host port method path body =>
          obtain rfl := Option.some.inj hact
          exact h.send_request hone.1 hone.2 hcarried
      | connect k ec accepted =>
          cases ec with
          | some message => exact h.of_step rfl rfl (by simp) hact
          | none =>
              obtain ⟨op, hop, -, -⟩ := step_connect_eq_some hact
              cases accepted with
              | true =>
                  exact h.connect_accepted hop (fun hne => (hfirst op hop hne).2) hcarried hact
              | false =>
                  have hbody : op.body = [] := by
                    by_contra hne
                    exact absurd (hfirst op hop hne).1 (by simp)
                  exact h.connect_refused hop hbody hcarried hact
      | recv c =>
          obtain ⟨socket, session, -, hsession, -, hst⟩ := step_recv_eq_some hact
          exact h.recv hsession hst
      | resolve k ec => exact h.of_step rfl rfl (by simp) hact
      | body_read stream_id length => exact h.of_step rfl rfl (by simp) hact
      | read k ok => exact h.of_step rfl rfl (by simp) hact
      | read_done ok => exact h.of_step rfl rfl (by simp) hact

/-- **A step that submits another request with a body loses its provider.** -/
theorem bodyFirst_of_tablesKept {a : Activity} (h : Clean st) (hact : act st a = some st')
    (hkept : TablesKept st') : BodyFirst st a := by
  match a with
  | .client (.connect k none accepted) =>
      intro op hop hne
      have hwaiting : 0 < st.waiting := by
        have := (List.getElem?_eq_some_iff.mp hop).1
        rw [State.waiting]
        omega
      have hempty := h.providers_of_waiting hwaiting
      have hafter := afterConnect hop hact
      cases accepted with
      | false =>
          -- a provider, and no stream
          obtain ⟨hopened, -⟩ := hafter.of_refused rfl
          have hproviders := hafter.providers
          rw [if_neg hne, (hkept.idle hopened).2] at hproviders
          have hlookup := congrArg (Finmap.lookup st.client.next_stream_id_) hproviders
          rw [Finmap.lookup_insert, Finmap.lookup_empty] at hlookup
          cases hlookup
      | true =>
          refine ⟨rfl, ?_⟩
          obtain ⟨hopened, -, ⟨s, hsubmissions, -, hcallback⟩, -⟩ := hafter.of_accepted rfl
          obtain ⟨r, ⟨s', hlast, -, hr⟩, hprovided⟩ := hkept.provided 1 (by simp [hopened])
          obtain ⟨r', hr', hbody⟩ := h.carried.connecting op (List.mem_of_getElem? hop)
          rw [hsubmissions, List.getLast?_concat, Option.some.injEq] at hlast
          subst hlast
          rw [hafter.asked, hcallback, hr', Option.some.injEq] at hr
          subst hr
          -- the stream is 1, and the provider is stored under 1 by a new client only
          have hlookup := hprovided (hbody ▸ hne)
          rw [hafter.providers, if_neg hne, hempty] at hlookup
          by_contra hsome
          rw [h.next, if_neg hsome, Finmap.lookup_insert_of_ne _ (by decide), Finmap.lookup_empty]
            at hlookup
          cases hlookup
  | .write_closes _ _ | .client (.send_request _ _ _ _ _) | .client (.resolve _ _)
  | .client (.connect _ (some _) _) | .client (.body_read _ _) | .client (.read _ _)
  | .client (.recv _) | .client (.read_done _) => trivial

/-- **When the tables are kept**: of requests made one after another, in every state of the run
exactly when no request with a body is submitted but the first, and that is accepted. -/
theorem tables_kept_iff (events : List Activity) (st : State)
    (hrun : Machine.exec act {} events = some st)
    (hone : Machine.StepsMeet act OneByOne {} events) :
    Machine.Throughout act TablesKept {} events ↔ Machine.StepsMeet act BodyFirst {} events := by
  refine Machine.throughout_iff_stepsMeet (I := Clean) (fun _ h => h.tablesKept) ?_ ?_ clean_start
    (hone.and (.of_exec hrun))
  · rintro s a h ⟨hone, s', hact⟩ hfirst
    exact ⟨s', hact, clean_act h hone hfirst hact⟩
  · exact fun s a s' h _ hact hkept => bodyFirst_of_tablesKept h hact hkept

/-- A request and its answer: its stream is the first of its session. -/
def exchange (body : Bytes) : List Activity :=
  [.client (.send_request (bytes "a") 80 (bytes "POST") (bytes "/") body),
    .client (.resolve 0 none), .client (.connect 0 none true), .client (.read 0 true),
    .client (.recv (.on_stream_close 1 0)), .client (.read_done false)]

/-- A request with a body, and one without. -/
theorem tables_kept_iff_one_body :
    Machine.Throughout act TablesKept {} (exchange (bytes "x") ++ exchange []) := by
  obtain ⟨st, hrun⟩ : ∃ st, Machine.exec act {} (exchange (bytes "x") ++ exchange []) = some st :=
    ⟨_, rfl⟩
  exact (tables_kept_iff _ st hrun (by decide)).mpr (by decide)

/-- **The provider of a second body stays for ever.** -/
theorem second_body_leaks :
    ¬ ∀ (events : List Activity) (st : State), Machine.exec act {} events = some st →
        Machine.StepsMeet act OneByOne {} events → Machine.Throughout act TablesKept {} events := by
  intro h
  obtain ⟨st, hrun, hopened, hleft⟩ : ∃ st, Machine.exec act {}
      (exchange (bytes "x") ++ exchange (bytes "y")) = some st ∧ st.opened = []
        ∧ st.client.data_providers_.lookup 3 = some ⟨2⟩ := ⟨_, rfl, rfl, rfl⟩
  obtain ⟨st', hrun', hkept⟩ := h _ st hrun (by decide) _ List.prefix_rfl
  obtain rfl := Option.some.inj (hrun.symm.trans hrun')
  rw [(hkept.idle hopened).2, Finmap.lookup_empty] at hleft
  cases hleft

end Http2Client

end Http2Server
