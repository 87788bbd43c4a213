/-
What a session keeps of each stream, and that streams do not get at each other.

Two of the callbacks make the entry of a stream by looking it up, one takes it away, and
the map is shared by all streams of the connection. `collected` says what the entry of a
stream ought to hold, read off the history of the connection and of that stream alone:
the last `:method` and `:path` among its request headers, and its data chunks in order.
`entry_of_run` is the statement that it does, in every interleaving: the induction is on
the history from the right, and each callback does to the entry what it does to
`collected`.

nghttp2 promises one thing, that it reports nothing about a stream it has reported
closed (`ClosedForGood`). Responses are under no such rule: the application may answer a
stream at any time, and `send_response` looks at no entry.
-/
import Http2Server.SessionResponse

set_option autoImplicit false

open ByteString UnorderedMap

namespace Http2Server

/-! ## The history of a stream -/

/-- The request header a callback reports on a stream. Trailers are none: they have
another category. -/
def Callback.requestHeader (stream_id : StreamId) : Callback → Option (Bytes × Bytes)
  | .on_header frame name value =>
      if frame.type = .HEADERS ∧ frame.cat = .REQUEST ∧ frame.stream_id = stream_id then
        some (name, value)
      else none
  | _ => none

/-- The chunk of data it reports on a stream. -/
def Callback.chunk (stream_id : StreamId) : Callback → Option Bytes
  | .on_data_chunk_recv _ id data => if id = stream_id then some data else none
  | _ => none

/-- The stream it reports closed. -/
def Callback.closes : Callback → Option StreamId
  | .on_stream_close stream_id => some stream_id
  | _ => none

/-- nghttp2 reports nothing about a stream after its close. -/
def ClosedForGood (run : List Callback) : Prop :=
  run.Pairwise fun c later => ∀ stream_id ∈ c.closes, later.stream ≠ some stream_id

instance (run : List Callback) : Decidable (ClosedForGood run) :=
  inferInstanceAs (Decidable (List.Pairwise _ _))

/-- The stream has had a request header or a data chunk. -/
def Opened (run : List Callback) (stream_id : StreamId) : Prop :=
  ∃ c ∈ run, (c.requestHeader stream_id).isSome ∨ (c.chunk stream_id).isSome

instance (run : List Callback) (stream_id : StreamId) : Decidable (Opened run stream_id) :=
  inferInstanceAs (Decidable (∃ c ∈ run, _))

/-- The stream has been closed. -/
def Closed (run : List Callback) (stream_id : StreamId) : Prop :=
  Callback.on_stream_close stream_id ∈ run

instance (run : List Callback) (stream_id : StreamId) : Decidable (Closed run stream_id) :=
  inferInstanceAs (Decidable (_ ∈ run))

/-- The last value of a header field, empty if it has none. -/
def lastValue (fields : List (Bytes × Bytes)) (name : Bytes) : Bytes :=
  (((fields.filter fun field => field.1 = name).getLast?).map fun field => field.2).getD []

/-- What the callbacks about a stream amount to. -/
def collected (run : List Callback) (stream_id : StreamId) : StreamData where
  method := lastValue (run.filterMap (Callback.requestHeader stream_id)) (bytes ":method")
  path := lastValue (run.filterMap (Callback.requestHeader stream_id)) (bytes ":path")
  body := (run.filterMap (Callback.chunk stream_id)).flatten

/-- The entry a stream should have. -/
def collectedEntry (run : List Callback) (stream_id : StreamId) : Option StreamData :=
  if Opened run stream_id ∧ ¬ Closed run stream_id then some (collected run stream_id) else none

/-! ## One more callback -/

variable {run : List Callback} {c : Callback} {stream_id : StreamId}

theorem lastValue_concat (fields : List (Bytes × Bytes)) (field : Bytes × Bytes) (name : Bytes) :
    lastValue (fields ++ [field]) name
      = if field.1 = name then field.2 else lastValue fields name := by
  rw [lastValue, List.filter_append]
  split_ifs with hname
  · rw [List.filter_cons_of_pos (by simpa using hname), List.filter_nil,
      List.getLast?_append_of_ne_nil _ (by simp)]
    rfl
  · rw [List.filter_cons_of_neg (by simpa using hname), List.filter_nil, List.append_nil, lastValue]

theorem opened_concat :
    Opened (run ++ [c]) stream_id ↔ Opened run stream_id
      ∨ (c.requestHeader stream_id).isSome ∨ (c.chunk stream_id).isSome := by
  simp only [Opened, List.mem_append, List.mem_singleton, or_and_right, exists_or,
    exists_eq_left]

theorem closed_concat :
    Closed (run ++ [c]) stream_id ↔ Closed run stream_id ∨ c = .on_stream_close stream_id := by
  simp only [Closed, List.mem_append, List.mem_singleton, eq_comm]

/-- A stream that has had nothing amounts to nothing. -/
theorem collected_of_not_opened (h : ¬ Opened run stream_id) : collected run stream_id = {} := by
  have hfields : run.filterMap (Callback.requestHeader stream_id) = [] := by
    rw [List.filterMap_eq_nil_iff]
    intro c hc
    by_contra hsome
    exact h ⟨c, hc, Or.inl (Option.isSome_iff_ne_none.mpr hsome)⟩
  have hchunks : run.filterMap (Callback.chunk stream_id) = [] := by
    rw [List.filterMap_eq_nil_iff]
    intro c hc
    by_contra hsome
    exact h ⟨c, hc, Or.inr (Option.isSome_iff_ne_none.mpr hsome)⟩
  rw [collected, hfields, hchunks]
  rfl

theorem getD_collectedEntry (h : ¬ Closed run stream_id) :
    (collectedEntry run stream_id).getD {} = collected run stream_id := by
  rw [collectedEntry]
  split_ifs with hopened
  · rfl
  · exact (collected_of_not_opened fun hrun => hopened ⟨hrun, h⟩).symm

/-- A header adds itself to what the stream amounts to. -/
theorem collected_concat_header {field : Bytes × Bytes}
    (h : c.requestHeader stream_id = some field) :
    collected (run ++ [c]) stream_id = (collected run stream_id).setHeader field.1 field.2 := by
  have hchunk : c.chunk stream_id = none := by
    cases c <;> simp_all [Callback.requestHeader, Callback.chunk]
  have hne : bytes ":path" ≠ bytes ":method" := by decide
  simp only [collected, StreamData.setHeader, List.filterMap_append, List.filterMap_cons, h, hchunk,
    List.filterMap_nil, lastValue_concat, List.append_nil]
  by_cases hmethod : field.1 = bytes ":method"
  · simp [hmethod, hne.symm]
  · by_cases hpath : field.1 = bytes ":path"
    · simp [hpath, hne]
    · simp [hmethod, hpath]

/-- A chunk adds its bytes to what the stream amounts to. -/
theorem collected_concat_chunk {data : Bytes} (h : c.chunk stream_id = some data) :
    collected (run ++ [c]) stream_id
      = { collected run stream_id with body := (collected run stream_id).body ++ data } := by
  have hheader : c.requestHeader stream_id = none := by
    cases c <;> simp_all [Callback.requestHeader, Callback.chunk]
  simp [collected, hheader, h]

/-- Any other callback adds nothing to what the stream amounts to. -/
theorem collected_concat_of_none (hheader : c.requestHeader stream_id = none)
    (hchunk : c.chunk stream_id = none) :
    collected (run ++ [c]) stream_id = collected run stream_id := by
  simp [collected, hheader, hchunk]

/-- **One more callback**, on the stream it is about: what it does to the entry is what it
does to what the stream amounts to. -/
theorem collectedEntry_concat_of_stream (hstream : c.stream = some stream_id)
    (hopen : ¬ Closed run stream_id) :
    collectedEntry (run ++ [c]) stream_id
      = (Session.onEntry stream_id (collectedEntry run stream_id) c).1 := by
  have hgetD := getD_collectedEntry hopen
  cases c with
  | on_header frame name value =>
      obtain rfl := Option.some.inj hstream
      rw [Session.onEntry]
      by_cases hreq : frame.type = .HEADERS ∧ frame.cat = .REQUEST
      · have hheader : (Callback.on_header frame name value).requestHeader frame.stream_id
            = some (name, value) := by simp [Callback.requestHeader, hreq]
        rw [if_pos hreq, hgetD, collectedEntry, collected_concat_header hheader, if_pos]
        exact ⟨opened_concat.mpr (Or.inr (Or.inl (by rw [hheader]; rfl))),
          by simpa [closed_concat] using hopen⟩
      · have hheader : (Callback.on_header frame name value).requestHeader frame.stream_id
            = none := by
          rw [Callback.requestHeader, if_neg fun h => hreq ⟨h.1, h.2.1⟩]
        rw [if_neg hreq, collectedEntry, collected_concat_of_none hheader rfl, collectedEntry]
        simp [opened_concat, closed_concat, hheader, Callback.chunk]
  | on_frame_recv frame =>
      rw [Session.onEntry, collectedEntry, collected_concat_of_none rfl rfl, collectedEntry]
      simp [opened_concat, closed_concat, Callback.requestHeader, Callback.chunk]
  | on_data_chunk_recv flags id data =>
      obtain rfl := Option.some.inj hstream
      have hchunk : (Callback.on_data_chunk_recv flags id data).chunk id = some data := by
        simp [Callback.chunk]
      rw [Session.onEntry, hgetD, collectedEntry, collected_concat_chunk hchunk, if_pos]
      exact ⟨opened_concat.mpr (Or.inr (Or.inr (by rw [hchunk]; rfl))),
        by simpa [closed_concat] using hopen⟩
  | on_stream_close id =>
      obtain rfl := Option.some.inj hstream
      rw [Session.onEntry, collectedEntry, if_neg]
      exact fun h => h.2 (closed_concat.mpr (Or.inr rfl))

/-- A callback about another stream, or about none, changes nothing in the history of
this one. -/
theorem collectedEntry_concat_of_other (hstream : c.stream ≠ some stream_id) :
    collectedEntry (run ++ [c]) stream_id = collectedEntry run stream_id := by
  have hheader : c.requestHeader stream_id = none := by
    cases c with
    | on_header frame name value =>
        rw [Callback.requestHeader, if_neg]
        rintro ⟨-, -, rfl⟩
        exact hstream rfl
    | _ => rfl
  have hchunk : c.chunk stream_id = none := by
    cases c with
    | on_data_chunk_recv flags id data =>
        rw [Callback.chunk, if_neg]
        rintro rfl
        exact hstream rfl
    | _ => rfl
  have hclose : c ≠ .on_stream_close stream_id := by
    rintro rfl
    exact hstream rfl
  rw [collectedEntry, collected_concat_of_none hheader hchunk, collectedEntry]
  simp [opened_concat, closed_concat, hheader, hchunk, hclose]

/-- The entry of a stream, in every run of the callbacks. The induction is on the run from
the right, where a callback meets the entry that the ones before it have left. -/
theorem Session.entry_of_run (h : ClosedForGood run) (stream_id : StreamId) :
    (run.foldl recv ({}, [])).1.streams_data_.lookup stream_id = collectedEntry run stream_id := by
  induction run using List.reverseRecOn with
  | nil => rfl
  | append_singleton run c ih =>
      obtain ⟨hrun, -, hlater⟩ := List.pairwise_append.mp h
      rw [List.foldl_append, List.foldl_cons, List.foldl_nil]
      by_cases hstream : c.stream = some stream_id
      · have hopen : ¬ Closed run stream_id := fun hclosed =>
          hlater _ hclosed c (by simp) stream_id rfl hstream
        rw [collectedEntry_concat_of_stream hstream hopen, ← ih hrun]
        exact (callback_of_stream _ hstream).1
      · rw [collectedEntry_concat_of_other hstream, ← ih hrun]
        exact (callback_of_other _ hstream).1

/-! ## A connection -/

/-- A session with what it has dispatched, and what has been submitted to nghttp2 through
its senders. -/
structure ServedSession where
  session : Session := {}
  dispatched : List Dispatch := []
  submitted : List Submission := []

namespace ServedSession

/-- A callback of nghttp2, or a response to a stream through its sender. -/
inductive Event
  | callback (c : Callback)
  | answer (stream_id : StreamId) (response : HttpResponse)
  deriving DecidableEq

/-- The stream an event is about. -/
def Event.stream : Event → Option StreamId
  | .callback c => c.stream
  | .answer stream_id _ => some stream_id

/-- The callbacks among the events. -/
def callbacks (events : List Event) : List Callback :=
  events.filterMap fun
    | .callback c => some c
    | .answer _ _ => none

/-- One event. -/
def step (st : ServedSession) : Event → ServedSession
  | .callback c =>
      { st with
        session := (st.session.callback c).1
        dispatched := st.dispatched ++ (st.session.callback c).2.toList }
  | .answer stream_id response =>
      { st with submitted := st.submitted ++ [Session.send_response stream_id response] }

/-- What the connection has of a stream. -/
def lookup (st : ServedSession) (stream_id : StreamId) : Option StreamData :=
  st.session.streams_data_.lookup stream_id

/-- **The streams are kept apart.** The entries are those of the streams opened and not
closed, each holding what its own callbacks brought; whatever happens next, the entries of
the streams it is not about stay as they are, and in particular those other than the
stream of a request dispatched, or of a response. -/
structure Isolated (events : List Event) (st : ServedSession) : Prop where
  keys : ∀ stream_id, stream_id ∈ st.session.streams_data_
    ↔ Opened (callbacks events) stream_id ∧ ¬ Closed (callbacks events) stream_id
  entries : ∀ stream_id stream_data, st.lookup stream_id = some stream_data →
    stream_data = collected (callbacks events) stream_id
  own : ∀ (events' : List Event) (stream_id : StreamId),
    (events'.filter fun e => e.stream = some stream_id)
      = (events.filter fun e => e.stream = some stream_id) →
    (events'.foldl step {}).lookup stream_id = st.lookup stream_id
  others : ∀ e other, e.stream ≠ some other → (st.step e).lookup other = st.lookup other
  dispatching : ∀ e d, (st.step e).dispatched = st.dispatched ++ [d] →
    ∀ other, other ≠ d.stream_id → (st.step e).lookup other = st.lookup other
  answering : ∀ stream_id response other,
    (st.step (.answer stream_id response)).lookup other = st.lookup other

@[simp] theorem callbacks_append (events more : List Event) :
    callbacks (events ++ more) = callbacks events ++ callbacks more :=
  List.filterMap_append ..

/-- The session of a connection is what the callbacks make it. -/
theorem session_of_run (events : List Event) :
    (events.foldl step {}).session = ((callbacks events).foldl Session.recv ({}, [])).1 := by
  induction events using List.reverseRecOn with
  | nil => rfl
  | append_singleton events e ih =>
      rw [callbacks_append, List.foldl_append, List.foldl_append, List.foldl_cons, List.foldl_nil]
      cases e with
      | callback c =>
          have hc : callbacks [.callback c] = [c] := rfl
          rw [hc, List.foldl_cons, List.foldl_nil, Session.recv, step, ih]
      | answer stream_id response => exact ih

theorem lookup_of_run {events : List Event} (h : ClosedForGood (callbacks events))
    (stream_id : StreamId) :
    (events.foldl step {}).lookup stream_id = collectedEntry (callbacks events) stream_id := by
  rw [lookup, session_of_run, Session.entry_of_run h]

theorem callbacks_filter (events : List Event) (stream_id : StreamId) :
    (callbacks events).filter (fun c => c.stream = some stream_id)
      = callbacks (events.filter fun e => e.stream = some stream_id) := by
  induction events using List.reverseRecOn with
  | nil => rfl
  | append_singleton events e ih =>
      rw [callbacks_append, List.filter_append, ih, List.filter_append, callbacks_append]
      congr 1
      cases e with
      | callback c =>
          by_cases hstream : c.stream = some stream_id <;>
            simp [hstream, Event.stream, callbacks]
      | answer id response =>
          rw [List.filter_cons]
          split_ifs <;> rfl

/-- An event leaves the entries of the streams it is not about. -/
theorem lookup_step_of_other (st : ServedSession) {e : Event} {other : StreamId}
    (h : e.stream ≠ some other) : (st.step e).lookup other = st.lookup other := by
  cases e with
  | callback c => exact (Session.callback_of_other st.session h).1
  | answer stream_id response => rfl

/-- A request is dispatched on the stream its callback is about. -/
theorem stream_of_dispatched {st : ServedSession} {e : Event} {d : Dispatch}
    (h : (st.step e).dispatched = st.dispatched ++ [d]) : e.stream = some d.stream_id := by
  cases e with
  | callback c =>
      have hd : (st.session.callback c).2 = some d := by
        rw [← Option.mem_toList, List.append_cancel_left h]
        exact List.mem_singleton_self d
      by_contra hother
      exact (Session.callback_of_other st.session hother).2 d hd rfl
  | answer stream_id response => exact absurd h (by simp [step])

/-- **Streams are isolated**: in every state a connection can be in, however the callbacks
of its streams and the responses to them are interleaved. -/
theorem isolated (events : List Event) (hclosed : ClosedForGood (callbacks events)) :
    Isolated events (events.foldl step {}) where
  keys := by
    intro stream_id
    rw [← Finmap.lookup_isSome]
    change ((events.foldl step {}).lookup stream_id).isSome ↔ _
    rw [lookup_of_run hclosed, collectedEntry]
    split_ifs with hentry
    · exact iff_of_true rfl hentry
    · exact iff_of_false (by simp) hentry
  entries := by
    intro stream_id stream_data hentry
    rw [lookup_of_run hclosed, collectedEntry, Option.ite_none_right_eq_some] at hentry
    exact (Option.some.inj hentry.2).symm
  own := by
    intro events' stream_id hsame
    have hrun := fun events => congrArg Prod.fst
      (Session.stream_of_run (callbacks events) stream_id)
    dsimp only at hrun
    rw [lookup, lookup, session_of_run, session_of_run, hrun, hrun, callbacks_filter,
      callbacks_filter, hsame]
  others := fun _ _ h => lookup_step_of_other _ h
  dispatching := by
    intro e d hd other hne
    refine lookup_step_of_other _ fun hother => hne ?_
    exact Option.some.inj (hother.symm.trans (stream_of_dispatched hd))
  answering := fun _ _ _ => rfl

/-- Two uploads at once, the second with trailers; the first is answered and closed. -/
def twoUploads : List Event :=
  [.callback (.on_header ⟨.HEADERS, 4, 1, .REQUEST⟩ (bytes ":path") (bytes "/a")),
    .callback (.on_header ⟨.HEADERS, 4, 3, .REQUEST⟩ (bytes ":path") (bytes "/b")),
    .callback (.on_data_chunk_recv 0 3 (bytes "on")),
    .callback (.on_data_chunk_recv 1 1 (bytes "all")),
    .answer 1 { body := bytes "ok" },
    .callback (.on_stream_close 1),
    .callback (.on_data_chunk_recv 0 3 (bytes "e")),
    .callback (.on_header ⟨.HEADERS, 5, 3, .HEADERS⟩ (bytes ":path") (bytes "/c"))]

theorem isolated_twoUploads :
    Isolated twoUploads (twoUploads.foldl step {})
      ∧ (twoUploads.foldl step {}).lookup 1 = none
      ∧ (twoUploads.foldl step {}).lookup 3 = some ⟨[], bytes "/b", bytes "one"⟩ :=
  ⟨isolated twoUploads (by decide), by decide, by decide⟩

end ServedSession

end Http2Server
