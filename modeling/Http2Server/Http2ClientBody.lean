/-
How the body of a request reaches the wire.

The body is kept in one buffer of the client, and nghttp2 fetches it through a callback,
one output buffer after another until the callback flags EOF. The callback keeps no offset:
it copies what fits from the start of the body, and flags EOF whenever it is called. With
nothing else submitted on the client meanwhile, the buffer holds the body at every call
(`storage_of_run`), so the first call decides, and `body_transmitted_iff` says how: the body is
transmitted exactly when the first output buffer holds all of it.
-/
import Http2Server.Http2ClientIsolation

set_option autoImplicit false

open ByteString UnorderedMap

namespace Http2Server

namespace Http2Client

/-! ## Fetching a body -/

/-- Whether the event gets to the submission of a request. -/
def Event.submits : Event → Bool
  | .connect _ none _ => true
  | _ => false

/-- One call of the data read callback: the state in which it comes, reached from the one
after the submission with no other submission on the way, and the length of the output
buffer, a positive `size_t`. -/
structure Pull (submitted : State) where
  events : List Event
  meanwhile : ∀ e ∈ events, e.submits = false
  state : State
  reached : Machine.exec step submitted events = some state
  length : UInt64
  positive : 0 < length

/-- nghttp2's use of the callback: call it for one buffer after another, until it flags
EOF. The bytes it has produced by then; none if a call is undefined, or if the calls end
before EOF. -/
def drain {submitted : State} (ptr : BodyPtr) : List (Pull submitted) → Option Bytes
  | [] => none
  | pull :: pulls => do
      let (data, eof) ← pull.state.client.read_callback ptr pull.length
      if eof then return data
      let more ← drain ptr pulls
      return data ++ more

/-- The provider the session has for a stream. -/
def provider (st : State) (stream_id : StreamId) : Option BodyPtr :=
  st.client.session_.bind fun session => session.outgoing.lookup stream_id

/-- The value of the `content-length` header, as nghttp2 reads it. -/
def contentLength (headers : List nghttp2_nv) : Option Bytes :=
  (headers.map nghttp2_nv.readBack).lookup (bytes "content-length")

/-- **The body is transmitted**: the bytes produced for the stream are the body, and the
`content-length` submitted is their number. -/
def Transmitted (submitted : State) (s : Submission) (body : Bytes)
    (schedule : List (Pull submitted)) : Prop :=
  ∃ ptr, provider submitted s.stream_id = some ptr ∧ drain ptr schedule = some body
    ∧ contentLength s.headers = some (decimal body.length)

/-! ## What stays as it is -/

variable {st st' : State}

/-- A step that submits no request leaves the stored body. -/
theorem storage_of_step {e : Event} (hsubmits : e.submits = false) (hstep : step st e = some st') :
    st'.client.request_body_storage_ = st.client.request_body_storage_ := by
  cases e with
  | send_request host port method path body => exact Option.some.inj hstep ▸ rfl
  | resolve k ec =>
      obtain ⟨op, -, -, hst⟩ := step_resolve_eq_some hstep
      cases ec with
      | some message => exact Option.some.inj hst ▸ rfl
      | none =>
          obtain ⟨socket, -, rfl⟩ := State.resolved_eq_some hst
          rfl
  | connect k ec accepted =>
      cases ec with
      | none => exact absurd hsubmits (by simp [Event.submits])
      | some message =>
          obtain ⟨op, -, -, hst⟩ := step_connect_eq_some hstep
          exact Option.some.inj hst ▸ rfl
  | body_read stream_id length =>
      obtain ⟨socket, session, ptr, -, -, -, rfl⟩ := step_body_read_eq_some hstep
      rfl
  | read k ok =>
      obtain ⟨socket, -, -, -, rfl⟩ := step_read_eq_some hstep
      rfl
  | recv c =>
      obtain ⟨socket, session, -, -, -, hst⟩ := step_recv_eq_some hstep
      obtain ⟨client, invoked, hcallback, rfl⟩ := State.recv_eq_some hst
      have hstorage := (callback_effect hcallback).1
      exact hstorage
  | read_done ok =>
      obtain ⟨socket, -, rfl⟩ := step_read_done_eq_some hstep
      rfl

/-- A run that submits no request leaves the stored body. -/
theorem storage_of_run {events : List Event} (hsubmits : ∀ e ∈ events, e.submits = false)
    (hrun : Machine.exec step st events = some st') :
    st'.client.request_body_storage_ = st.client.request_body_storage_ := by
  induction events generalizing st with
  | nil => exact Option.some.inj hrun ▸ rfl
  | cons e events ih =>
      obtain ⟨st₁, hfirst, hrest⟩ := Machine.exec_cons_eq_some.mp hrun
      rw [ih (fun e he => hsubmits e (List.mem_cons_of_mem _ he)) hrest,
        storage_of_step (hsubmits e (by simp)) hfirst]

/-- The pending operations carry the bodies their callers gave. -/
structure Carried (st : State) : Prop where
  resolving : ∀ op ∈ st.resolving, ∃ r, st.asked[op.callback]? = some r ∧ r.body = op.body
  connecting : ∀ op ∈ st.connecting, ∃ r, st.asked[op.callback]? = some r ∧ r.body = op.body

theorem carried_step (st : State) (e : Event) (st' : State) (h : Carried st)
    (hstep : step st e = some st') : Carried st' := by
  cases e with
  | send_request host port method path body =>
      obtain rfl := Option.some.inj hstep
      refine ⟨Record.forall_mem_concat (fun op hop => ?_)
        ⟨_, List.getElem?_concat_length, rfl⟩, fun op hop => ?_⟩
      · obtain ⟨r, hasked, hbody⟩ := h.resolving op hop
        exact ⟨r, Record.getElem?_append_of_some hasked _, hbody⟩
      · obtain ⟨r, hasked, hbody⟩ := h.connecting op hop
        exact ⟨r, Record.getElem?_append_of_some hasked _, hbody⟩
  | resolve k ec =>
      obtain ⟨op, hop, -, hst⟩ := step_resolve_eq_some hstep
      have hleft : ∀ op ∈ st.resolving.eraseIdx k, ∃ r, st.asked[op.callback]? = some r
          ∧ r.body = op.body := fun op hop => h.resolving op (List.mem_of_mem_eraseIdx hop)
      cases ec with
      | some message =>
          obtain rfl := Option.some.inj hst
          exact ⟨hleft, h.connecting⟩
      | none =>
          obtain ⟨socket, -, rfl⟩ := State.resolved_eq_some hst
          exact ⟨hleft, Record.forall_mem_concat h.connecting
            (h.resolving op (List.mem_of_getElem? hop))⟩
  | connect k ec accepted =>
      obtain ⟨op, hop, -, hst⟩ := step_connect_eq_some hstep
      have hleft : ∀ op ∈ st.connecting.eraseIdx k, ∃ r, st.asked[op.callback]? = some r
          ∧ r.body = op.body := fun op hop => h.connecting op (List.mem_of_mem_eraseIdx hop)
      cases ec with
      | some message =>
          obtain rfl := Option.some.inj hst
          exact ⟨h.resolving, hleft⟩
      | none =>
          obtain ⟨socket, client, submitted, -, -, rfl⟩ := State.connected_eq_some hst
          exact ⟨h.resolving, hleft⟩
  | body_read stream_id length =>
      obtain ⟨socket, session, ptr, -, -, -, rfl⟩ := step_body_read_eq_some hstep
      exact ⟨h.resolving, h.connecting⟩
  | read k ok =>
      obtain ⟨socket, -, -, -, rfl⟩ := step_read_eq_some hstep
      exact ⟨h.resolving, h.connecting⟩
  | recv c =>
      obtain ⟨socket, session, -, -, -, hst⟩ := step_recv_eq_some hstep
      obtain ⟨client, invoked, -, rfl⟩ := State.recv_eq_some hst
      exact ⟨h.resolving, h.connecting⟩
  | read_done ok =>
      obtain ⟨socket, -, rfl⟩ := step_read_done_eq_some hstep
      exact ⟨h.resolving, h.connecting⟩

/-! ## Submitting a body -/

/-- What the submission of a request with a body leaves: the body stored, and a provider
for its stream that points to it. -/
structure Submitted (st st' : State) (op : Connect) (s : Submission) (ptr : BodyPtr) : Prop where
  submissions : st'.submissions = st.submissions ++ [s]
  callback : s.callback = op.callback
  provider : provider st' s.stream_id = some ptr
  generation : ptr.generation = st'.client.request_body_storage_.generation
  stored : st'.client.request_body_storage_.value = op.body
  headers : s.headers = requestHeaders st.client.current_host_ st.client.current_port_ op.method
    op.path op.body

theorem exists_submitted {k : ℕ} {op : Connect} (hop : st.connecting[k]? = some op)
    (hbody : op.body ≠ []) (hstep : step st (.connect k none true) = some st') :
    ∃ s ptr, Submitted st st' op s ptr := by
  obtain ⟨op', hop', -, hst⟩ := step_connect_eq_some hstep
  obtain rfl := Option.some.inj (hop.symm.trans hop')
  obtain ⟨socket, client, submitted, -, hsend, rfl⟩ := State.connected_eq_some hst
  have hprovide := provide_of_ne_nil st.client.setup_nghttp2_client hbody
  rw [setup_nghttp2_client] at hprovide
  simp only [send_http2_request, setup_nghttp2_client, hprovide] at hsend
  obtain ⟨rfl, rfl⟩ := Prod.mk.inj hsend
  exact ⟨⟨op.callback, socket, 1, _⟩, _, rfl, rfl, rfl, rfl, rfl, rfl⟩

/-! ## When a body is transmitted -/

variable {submitted : State} {ptr : BodyPtr} {body : Bytes}

/-- Every call copies from the start of the body, and flags EOF. -/
theorem read_callback_pull
    (hptr : ptr.generation = submitted.client.request_body_storage_.generation)
    (hstored : submitted.client.request_body_storage_.value = body) (hbody : body ≠ [])
    (pull : Pull submitted) :
    pull.state.client.read_callback ptr pull.length
      = some (body.take pull.length.toNat, true) := by
  have hstorage := storage_of_run pull.meanwhile pull.reached
  rw [read_callback, hstorage, hstored, if_neg (mt List.length_eq_zero_iff.mp hbody), if_pos hptr,
    ← List.take_eq_take_min]

/-- The first call produces all there will be: what fits its buffer. -/
theorem drain_eq_take (hptr : ptr.generation = submitted.client.request_body_storage_.generation)
    (hstored : submitted.client.request_body_storage_.value = body) (hbody : body ≠ [])
    (first : Pull submitted) (rest : List (Pull submitted)) :
    drain ptr (first :: rest) = some (body.take first.length.toNat) := by
  rw [drain, read_callback_pull hptr hstored hbody first]
  rfl

/-- The length of a body that fits an output buffer is submitted as it is. -/
theorem contentLength_requestHeaders (host : Bytes) (port : ℤ) (method path : Bytes)
    (hbody : body ≠ []) (hlen : body.length < 2 ^ 64) :
    contentLength (requestHeaders host port method path body) = some (decimal body.length) := by
  have hname : (bytes "content-length").length < 2 ^ 16 := by decide
  -- the pseudo-headers in front of it have other names
  have hother : ∀ name ∈ [bytes ":method", bytes ":path", bytes ":scheme", bytes ":authority"],
      (bytes "content-length" == name.take (uint16 name.length)) = false := by decide
  rw [contentLength, requestHeaders, if_pos hbody]
  simp only [List.cons_append, List.nil_append, List.map_cons, readBack_decimal hname hlen]
  simp only [List.lookup_cons, nghttp2_nv.readBack, make_nv_ls,
    hother (bytes ":method") (by simp), hother (bytes ":path") (by simp),
    hother (bytes ":scheme") (by simp), hother (bytes ":authority") (by simp), beq_self_eq_true]

/-- **When a body is transmitted**: whatever else is going on in the client short of another
submission, exactly when the first buffer holds all of it. -/
theorem body_transmitted_iff (events : List Event) (st st' : State) (k : ℕ) (op : Connect)
    (r : Asked) (hrun : Machine.exec step {} events = some st) (hop : st.connecting[k]? = some op)
    (hasked : st.asked[op.callback]? = some r) (hbody : r.body ≠ [])
    (hstep : step st (.connect k none true) = some st') :
    ∃ s, st'.submissions = st.submissions ++ [s] ∧ s.callback = op.callback
      ∧ ∀ (first : Pull st') (rest : List (Pull st')),
          Transmitted st' s r.body (first :: rest) ↔ r.body.length ≤ first.length.toNat := by
  have hcarried : Carried st :=
    Machine.exec_invariant Carried carried_step ⟨by simp, by simp⟩ hrun
  obtain ⟨r', hasked', hsame⟩ := hcarried.connecting op (List.mem_of_getElem? hop)
  obtain rfl := Option.some.inj (hasked.symm.trans hasked')
  obtain ⟨s, ptr, hsubmitted⟩ := exists_submitted hop (hsame ▸ hbody) hstep
  refine ⟨s, hsubmitted.submissions, hsubmitted.callback, fun first rest => ?_⟩
  have hdrain := drain_eq_take hsubmitted.generation (hsubmitted.stored.trans hsame.symm) hbody
    first rest
  constructor
  · rintro ⟨ptr', hptr', hproduced, -⟩
    obtain rfl := Option.some.inj (hsubmitted.provider.symm.trans hptr')
    rw [hdrain, Option.some.injEq, List.take_eq_self_iff] at hproduced
    exact hproduced
  · intro hfits
    refine ⟨ptr, hsubmitted.provider, ?_, ?_⟩
    · rw [hdrain, List.take_of_length_le hfits]
    · rw [hsubmitted.headers, ← hsame]
      exact contentLength_requestHeaders _ _ _ _ hbody
        (lt_of_le_of_lt hfits first.length.toNat_lt)

/-- A request with a body of three bytes, up to its connect. -/
def posted : List Event :=
  [.send_request (bytes "a") 8080 (bytes "POST") (bytes "/") (bytes "abc"), .resolve 0 none]

/-- A call that comes right away. -/
def Pull.atOnce (submitted : State) (length : UInt64) (positive : 0 < length) :
    Pull submitted :=
  ⟨[], by simp, submitted, rfl, length, positive⟩

/-- The state after the connect of `posted`. -/
theorem exists_posted :
    ∃ st st' op, Machine.exec step {} posted = some st ∧ st.connecting[0]? = some op
      ∧ op.callback = 0 ∧ op.body = bytes "abc"
      ∧ st.asked = [⟨bytes "a", 8080, bytes "POST", bytes "/", bytes "abc"⟩]
      ∧ st.submissions = [] ∧ step st (.connect 0 none true) = some st' :=
  ⟨_, _, _, rfl, rfl, rfl, rfl, rfl, rfl, rfl⟩

/-- In a buffer of 16 KiB it is transmitted. -/
theorem body_transmitted_iff_posted :
    ∃ (st : State) (s : Submission), st.submissions = [s]
      ∧ Transmitted st s (bytes "abc") [.atOnce st 16384 (by decide)] := by
  obtain ⟨st, st', op, hrun, hop, hcallback, -, hasked, hnone, hstep⟩ := exists_posted
  obtain ⟨s, hsubmissions, -, hiff⟩ := body_transmitted_iff posted st st' 0 op
    ⟨bytes "a", 8080, bytes "POST", bytes "/", bytes "abc"⟩ hrun hop
    (by rw [hcallback, hasked]; rfl) (by decide) hstep
  rw [hnone] at hsubmissions
  refine ⟨st', s, hsubmissions, (hiff (.atOnce st' 16384 (by decide)) []).mpr ?_⟩
  change (bytes "abc").length ≤ (16384 : UInt64).toNat
  decide

/-- **A body can be cut**: in a buffer of two bytes, two of the three are sent, and EOF is
flagged. -/
theorem small_buffer_cuts_body :
    ¬ ∀ (events : List Event) (st st' : State) (k : ℕ) (op : Connect) (r : Asked),
        Machine.exec step {} events = some st → st.connecting[k]? = some op →
        st.asked[op.callback]? = some r → r.body ≠ [] →
        step st (.connect k none true) = some st' →
        ∃ s, st'.submissions = st.submissions ++ [s] ∧ s.callback = op.callback
          ∧ ∀ (first : Pull st') (rest : List (Pull st')),
              Transmitted st' s r.body (first :: rest) := by
  intro h
  obtain ⟨st, st', op, hrun, hop, hcallback, hbody, hasked, hnone, hstep⟩ := exists_posted
  have hne : op.body ≠ [] := by
    rw [hbody]
    decide
  obtain ⟨s, hsubmissions, -, htransmitted⟩ := h posted st st' 0 op
    ⟨bytes "a", 8080, bytes "POST", bytes "/", bytes "abc"⟩ hrun hop
    (by rw [hcallback, hasked]; rfl) (by decide) hstep
  obtain ⟨s', ptr, hsubmitted⟩ := exists_submitted hop hne hstep
  rw [hsubmitted.submissions, hnone, List.nil_append, List.nil_append, List.singleton_inj]
    at hsubmissions
  obtain ⟨ptr', hptr', hproduced, -⟩ := htransmitted (.atOnce st' 2 (by decide)) []
  obtain rfl := Option.some.inj (hsubmitted.provider.symm.trans (hsubmissions ▸ hptr'))
  rw [drain_eq_take hsubmitted.generation hsubmitted.stored hne, hbody, Option.some.injEq]
    at hproduced
  exact absurd hproduced (by change (bytes "abc").take (2 : UInt64).toNat ≠ bytes "abc"; decide)

end Http2Client

end Http2Server
