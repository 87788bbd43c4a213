/-
`Session` (`transport/session.{h,cpp}`): one HTTP/2 connection, as nghttp2 calls
it back.

nghttp2 parses what the client sends and reports it by callbacks; the session
collects the pieces of each request in `streams_data_` and hands the request to
`request_cb_` when it takes it for complete. The callbacks are the events of this
model: `recv` runs one of them, and `dispatches` are the invocations of
`request_cb_` a run of them makes.

Which callback belongs to which stream, and what each does to the entry of its own
stream, is stated once (`Callback.stream`, `onEntry`). A run seen from one stream
is the run of that stream's callbacks (`stream_of_run`), so nothing after this file
looks at two streams at a time.
-/
import Http2Server.Nghttp2
import Http2Server.Lib.Machine
import Http2Server.Lib.UnorderedMap

set_option autoImplicit false

open ByteString UnorderedMap

namespace Http2Server

/-! ## What nghttp2 reports -/

/-- One invocation of a session callback. -/
inductive Callback
  | on_header (frame : Frame) (name value : Bytes)
  | on_frame_recv (frame : Frame)
  | on_data_chunk_recv (flags : UInt8) (stream_id : StreamId) (data : Bytes)
  | on_stream_close (stream_id : StreamId)
  deriving DecidableEq, Repr

/-- The stream a callback is about. Frames other than HEADERS and DATA are about
none here: they may come at any time, and the session looks at no other. -/
def Callback.stream : Callback → Option StreamId
  | .on_header frame _ _ => some frame.stream_id
  | .on_frame_recv frame =>
      if frame.type = .HEADERS ∨ frame.type = .DATA then some frame.stream_id else none
  | .on_data_chunk_recv _ stream_id _ => some stream_id
  | .on_stream_close stream_id => some stream_id

/-! ## The session -/

/-- `Session::StreamData`. -/
@[ext] structure StreamData where
  method : Bytes := []
  path : Bytes := []
  body : Bytes := []
  deriving DecidableEq, Repr

/-- `class Session`, as the callbacks see it. -/
structure Session where
  streams_data_ : UnorderedMap StreamId StreamData := ∅
  deriving DecidableEq

/-- One invocation of `request_cb_`. -/
structure Dispatch where
  method : Bytes
  path : Bytes
  body : Bytes
  stream_id : StreamId
  deriving DecidableEq, Repr

/-- The request in an entry, dispatched on a stream. -/
def StreamData.dispatch (stream_data : StreamData) (stream_id : StreamId) : Dispatch :=
  ⟨stream_data.method, stream_data.path, stream_data.body, stream_id⟩

/-- The header fields the session keeps. -/
def StreamData.setHeader (stream_data : StreamData) (name value : Bytes) : StreamData :=
  if name = bytes ":method" then { stream_data with method := value }
  else if name = bytes ":path" then { stream_data with path := value }
  else stream_data

namespace Session

/-- `streams_data_[stream_id]`, changed in place: the entry is made if there is
none. -/
def modify (session : Session) (stream_id : StreamId) (f : StreamData → StreamData) : Session :=
  { session with
    streams_data_ := session.streams_data_.insert stream_id
      (f ((session.streams_data_.lookup stream_id).getD {})) }

/-- `Session::on_header_cb`. -/
def on_header_cb (session : Session) (frame : Frame) (name value : Bytes) : Session :=
  -- trailers have category HEADERS, and are dropped
  if frame.type = .HEADERS ∧ frame.cat = .REQUEST then
    session.modify frame.stream_id fun stream_data => stream_data.setHeader name value
  else session

/-- `Session::on_frame_recv_cb`. -/
def on_frame_recv_cb (session : Session) (frame : Frame) : Option Dispatch :=
  if frame.type = .HEADERS ∧ frame.cat = .REQUEST then
    if endStream frame.flags then
      (session.streams_data_.lookup frame.stream_id).map fun stream_data =>
        stream_data.dispatch frame.stream_id
    else none
  else none

/-- `Session::on_data_chunk_recv_cb`. -/
def on_data_chunk_recv_cb (session : Session) (flags : UInt8) (stream_id : StreamId)
    (data : Bytes) : Session × Option Dispatch :=
  let session := session.modify stream_id fun stream_data =>
    { stream_data with body := stream_data.body ++ data }
  -- the flag is the frame's, which this chunk need not be the end of
  (session,
    if endStream flags then
      (session.streams_data_.lookup stream_id).map fun stream_data =>
        stream_data.dispatch stream_id
    else none)

/-- `Session::on_stream_close_cb`. -/
def on_stream_close_cb (session : Session) (stream_id : StreamId) : Session :=
  { session with streams_data_ := session.streams_data_.erase stream_id }

/-- What a callback does: the session it leaves, and the request it dispatches. -/
def callback (session : Session) : Callback → Session × Option Dispatch
  | .on_header frame name value => (session.on_header_cb frame name value, none)
  | .on_frame_recv frame => (session, session.on_frame_recv_cb frame)
  | .on_data_chunk_recv flags stream_id data =>
      session.on_data_chunk_recv_cb flags stream_id data
  | .on_stream_close stream_id => (session.on_stream_close_cb stream_id, none)

/-- A session, with the log of what it has dispatched. -/
abbrev Logged := Session × List Dispatch

/-- One callback, logged. -/
def recv (st : Logged) (c : Callback) : Logged :=
  ((st.1.callback c).1, st.2 ++ (st.1.callback c).2.toList)

/-- The invocations of `request_cb_` on one stream, in a run from a fresh
session. -/
def dispatches (run : List Callback) (stream_id : StreamId) : List Dispatch :=
  (run.foldl recv ({}, [])).2.filter fun d => d.stream_id = stream_id

/-! ## One stream of a run -/

/-- What a callback about a stream does to that stream's entry, and what it
dispatches. -/
def onEntry (stream_id : StreamId) (entry : Option StreamData) :
    Callback → Option StreamData × Option Dispatch
  | .on_header frame name value =>
      (if frame.type = .HEADERS ∧ frame.cat = .REQUEST then
        some ((entry.getD {}).setHeader name value) else entry, none)
  | .on_frame_recv frame =>
      (entry, if frame.type = .HEADERS ∧ frame.cat = .REQUEST ∧ endStream frame.flags then
        entry.map fun stream_data => stream_data.dispatch stream_id else none)
  | .on_data_chunk_recv flags _ data =>
      let stream_data := { entry.getD {} with body := (entry.getD {}).body ++ data }
      (some stream_data,
        if endStream flags then some (stream_data.dispatch stream_id) else none)
  | .on_stream_close _ => (none, none)

/-- One callback, logged, on one stream. -/
def recvOn (stream_id : StreamId) (st : Option StreamData × List Dispatch) (c : Callback) :
    Option StreamData × List Dispatch :=
  ((onEntry stream_id st.1 c).1, st.2 ++ (onEntry stream_id st.1 c).2.toList)

@[simp] theorem lookup_modify_self (session : Session) (stream_id : StreamId)
    (f : StreamData → StreamData) :
    (session.modify stream_id f).streams_data_.lookup stream_id
      = some (f ((session.streams_data_.lookup stream_id).getD {})) :=
  Finmap.lookup_insert _

theorem lookup_modify_of_ne (session : Session) {stream_id other : StreamId}
    (f : StreamData → StreamData) (h : other ≠ stream_id) :
    (session.modify stream_id f).streams_data_.lookup other
      = session.streams_data_.lookup other :=
  Finmap.lookup_insert_of_ne _ h

/-- A callback about a stream acts on that stream's entry alone. -/
theorem callback_of_stream (session : Session) {c : Callback} {stream_id : StreamId}
    (h : c.stream = some stream_id) :
    (session.callback c).1.streams_data_.lookup stream_id
        = (onEntry stream_id (session.streams_data_.lookup stream_id) c).1
      ∧ (session.callback c).2
        = (onEntry stream_id (session.streams_data_.lookup stream_id) c).2 := by
  cases c with
  | on_header frame name value =>
      obtain rfl := Option.some.inj h
      refine ⟨?_, rfl⟩
      simp only [callback, on_header_cb, onEntry]
      split_ifs with hreq
      · exact lookup_modify_self _ _ _
      · rfl
  | on_frame_recv frame =>
      rw [Callback.stream] at h
      split_ifs at h with htype
      obtain rfl := Option.some.inj h
      refine ⟨rfl, ?_⟩
      simp only [callback, on_frame_recv_cb, onEntry]
      by_cases hreq : frame.type = .HEADERS ∧ frame.cat = .REQUEST
      · simp only [hreq, and_self, true_and, if_true]
      · rw [if_neg hreq, if_neg fun hend => hreq ⟨hend.1, hend.2.1⟩]
  | on_data_chunk_recv flags id data =>
      obtain rfl := Option.some.inj h
      simp only [callback, on_data_chunk_recv_cb, onEntry, lookup_modify_self, Option.map_some]
      exact ⟨trivial, trivial⟩
  | on_stream_close id =>
      obtain rfl := Option.some.inj h
      exact ⟨Finmap.lookup_erase _ _, rfl⟩

/-- A callback about a stream dispatches on that stream. -/
theorem stream_id_of_onEntry {stream_id : StreamId} {entry : Option StreamData} {c : Callback}
    {d : Dispatch} (h : (onEntry stream_id entry c).2 = some d) : d.stream_id = stream_id := by
  cases c with
  | on_header frame name value => simp [onEntry] at h
  | on_frame_recv frame =>
      simp only [onEntry, Option.ite_none_right_eq_some, Option.map_eq_some_iff] at h
      obtain ⟨-, stream_data, -, rfl⟩ := h
      rfl
  | on_data_chunk_recv flags id data =>
      simp only [onEntry, Option.ite_none_right_eq_some, Option.some.injEq] at h
      obtain ⟨-, rfl⟩ := h
      rfl
  | on_stream_close id => simp [onEntry] at h

/-- A callback about another stream, or about none, leaves the entry as it is and
dispatches nothing on the stream. -/
theorem callback_of_other (session : Session) {c : Callback} {stream_id : StreamId}
    (h : c.stream ≠ some stream_id) :
    (session.callback c).1.streams_data_.lookup stream_id
        = session.streams_data_.lookup stream_id
      ∧ ∀ d, (session.callback c).2 = some d → d.stream_id ≠ stream_id := by
  rcases hstream : c.stream with _ | other
  · -- only a frame the session does not look at is about no stream
    cases c with
    | on_frame_recv frame =>
        rw [Callback.stream] at hstream
        split_ifs at hstream with htype
        have hheaders : ¬ frame.type = .HEADERS := fun heq => htype (Or.inl heq)
        simp [callback, on_frame_recv_cb, hheaders]
    | on_header frame name value => simp [Callback.stream] at hstream
    | on_data_chunk_recv flags id data => simp [Callback.stream] at hstream
    | on_stream_close id => simp [Callback.stream] at hstream
  · -- a callback about another stream changes that stream's entry
    have hne : stream_id ≠ other := fun heq => h (by rw [hstream, heq])
    refine ⟨?_, fun d hd => ?_⟩
    · cases c with
      | on_header frame name value =>
          obtain rfl := Option.some.inj hstream
          simp only [callback, on_header_cb]
          split_ifs with hreq
          · exact lookup_modify_of_ne _ _ hne
          · rfl
      | on_frame_recv frame => rfl
      | on_data_chunk_recv flags id data =>
          obtain rfl := Option.some.inj hstream
          exact lookup_modify_of_ne _ _ hne
      | on_stream_close id =>
          obtain rfl := Option.some.inj hstream
          exact Finmap.lookup_erase_ne hne
    · rw [(callback_of_stream session hstream).2] at hd
      rw [stream_id_of_onEntry hd]
      exact hne.symm

/-- **A run, seen from one stream**: its entry and its dispatches are what its own
callbacks make of them, however the other streams' callbacks are interleaved with
them. -/
theorem stream_of_run (run : List Callback) (stream_id : StreamId) :
    ((run.foldl recv ({}, [])).1.streams_data_.lookup stream_id, dispatches run stream_id)
      = (run.filter fun c => c.stream = some stream_id).foldl (recvOn stream_id) (none, []) := by
  have hview := Machine.foldl_view recv
    (fun st => (st.1.streams_data_.lookup stream_id,
      st.2.filter fun d => d.stream_id = stream_id))
    (recvOn stream_id) (fun c => c.stream = some stream_id) ?_ ?_ ({}, []) run
  · exact hview
  · rintro ⟨session, log⟩ c hc
    obtain ⟨hentry, hdispatch⟩ := callback_of_stream session (of_decide_eq_true hc)
    simp only [recv, recvOn, List.filter_append, hentry, hdispatch]
    congr 2
    rw [List.filter_eq_self]
    intro d hd
    rw [decide_eq_true_eq]
    exact stream_id_of_onEntry (Option.mem_toList.mp hd)
  · rintro ⟨session, log⟩ c hc
    obtain ⟨hentry, hdispatch⟩ := callback_of_other session (of_decide_eq_false hc)
    simp only [recv, List.filter_append, hentry]
    congr 1
    rw [List.append_right_eq_self, List.filter_eq_nil_iff]
    intro d hd
    rw [decide_eq_true_eq]
    exact hdispatch d (Option.mem_toList.mp hd)

end Session

end Http2Server
