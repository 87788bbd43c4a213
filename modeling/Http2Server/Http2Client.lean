/-
`Http2Client` (`transport/http2_client.{hpp,cpp}`): requests over HTTP/2, as the
registration client of the examples sends them.

The client has one socket, one nghttp2 session, one host and port, one body buffer
and one table of callbacks, and every request goes through all of them. A handler
captures what the source's lambda captures and reads the rest from the client when
it runs; which of the two a value comes from is what this file is careful about.

`step` runs one handler, or one nghttp2 callback of a read handler. The state is
the client, its pending operations, and a record of what has happened: the sockets
and whom they were connected to, the requests asked for, what was submitted and
read of their bodies, what arrived on which socket, and which callbacks were
invoked. The callback of the `i`-th request is the number `i`.

Nothing in the class is synchronised, so handlers run one at a time: while a read
handler is running (`running`), no other starts, but callers may ask for more from
inside its callbacks. Asio and nghttp2 are taken as they document themselves.
Destroying a socket fails the operations outstanding on it. A session numbers the
streams it opens 1, 3, 5, …, calls back only for streams it has open, and reads a body
through the provider it was given. Creating a session fails only for want of memory,
which is not modelled; a write that fails is logged and nothing else.
-/
import Http2Server.Nghttp2
import Http2Server.HttpClient
import Http2Server.Lib.Machine

set_option autoImplicit false

open ByteString UnorderedMap

namespace Http2Server

/-- `struct Http2Response`. -/
structure Http2Response where
  status_code : ℤ := 0
  body : Bytes := []
  deriving DecidableEq, Repr

/-! ## What the session reports -/

/-- One invocation of a client callback. -/
inductive ClientCallback
  | on_header (frame : Frame) (name value : Bytes)
  | on_frame_recv (frame : Frame)
  | on_data_chunk_recv (flags : UInt8) (stream_id : StreamId) (data : Bytes)
  | on_stream_close (stream_id : StreamId) (error_code : UInt32)
  deriving DecidableEq, Repr

/-- The stream it is about. -/
def ClientCallback.stream : ClientCallback → StreamId
  | .on_header frame _ _ => frame.stream_id
  | .on_frame_recv frame => frame.stream_id
  | .on_data_chunk_recv _ stream_id _ => stream_id
  | .on_stream_close stream_id _ => stream_id

/-! ## The body buffer -/

/-- `request_body_storage_`, with a count of the assignments made to it. A pointer
into the buffer is good until the next assignment. -/
structure BodyStorage where
  value : Bytes := []
  generation : ℕ := 0
  deriving DecidableEq, Repr

/-- `request_body_storage_ = body`. -/
def BodyStorage.assign (storage : BodyStorage) (body : Bytes) : BodyStorage where
  value := body
  generation := storage.generation + 1

/-- `request_body_storage_.c_str()`: a pointer into the buffer as it is now. -/
structure BodyPtr where
  generation : ℕ
  deriving DecidableEq, Repr

/-- `nghttp2_session`, of a client: the next stream it opens, the streams it has
open, and the bodies it has still to read. -/
structure nghttp2_session where
  next : StreamId := 1
  opened : List StreamId := []
  outgoing : List (StreamId × BodyPtr) := []
  deriving DecidableEq, Repr

/-- `nghttp2_submit_request`, when it succeeds. -/
def nghttp2_session.submit_request (session : nghttp2_session) (data_prd : Option BodyPtr) :
    nghttp2_session × StreamId :=
  ({ next := session.next + 2
     opened := session.opened ++ [session.next]
     outgoing := session.outgoing ++ (data_prd.map fun ptr => (session.next, ptr)).toList },
    session.next)

/-- A stream is closed. -/
def nghttp2_session.close (session : nghttp2_session) (stream_id : StreamId) :
    nghttp2_session where
  next := session.next
  opened := session.opened.filter fun id => id ≠ stream_id
  outgoing := session.outgoing.filter fun entry => entry.1 ≠ stream_id

/-- The session after a callback: the one that reports a close closes the stream. -/
def nghttp2_session.called (session : nghttp2_session) : ClientCallback → nghttp2_session
  | .on_stream_close stream_id _ => session.close stream_id
  | _ => session

/-! ## The client -/

namespace Http2Client

/-- `Http2Client::StreamData`. -/
structure StreamData (C : Type) where
  callback : Option C := none
  response : Http2Response := {}
  body_buffer : Bytes := []
  deriving DecidableEq, Repr

end Http2Client

/-- `class Http2Client`. -/
structure Http2Client (C : Type) where
  socket_ : Option SocketPtr := none
  session_ : Option nghttp2_session := none
  streams_ : UnorderedMap StreamId (Http2Client.StreamData C) := ∅
  data_providers_ : UnorderedMap StreamId BodyPtr := ∅
  request_body_storage_ : BodyStorage := {}
  current_host_ : Bytes := []
  current_port_ : ℤ := 0
  next_stream_id_ : StreamId := 1

namespace Http2Client

variable {C : Type}

/-- The `:authority` of a host and port. -/
def authority (host : Bytes) (port : ℤ) : Bytes :=
  if port ≠ 80 ∧ port ≠ 0 then host ++ (bytes ":" ++ toDecimal port) else host

/-- The headers of a request, in the order `send_http2_request` pushes them. -/
def requestHeaders (host : Bytes) (port : ℤ) (method path body : Bytes) : List nghttp2_nv :=
  [make_nv_ls (bytes ":method") method, make_nv_ls (bytes ":path") path,
    make_nv_ls (bytes ":scheme") (bytes "http"),
    make_nv_ls (bytes ":authority") (authority host port)]
  ++ if body ≠ [] then
      [make_nv_ls (bytes "content-length") (decimal body.length),
        make_nv_ls_temporary (bytes "content-type") (bytes "application/json")]
    else []

/-- `Http2Client::setup_nghttp2_client`: the previous session is dropped. -/
def setup_nghttp2_client (client : Http2Client C) : Http2Client C :=
  { client with session_ := some {} }

/-- The data provider of a body: the body is stored, and the provider kept under the
id the client expects the stream to get. -/
def send_http2_request.provide (client : Http2Client C) (body : Bytes) :
    Http2Client C × Option BodyPtr :=
  if body ≠ [] then
    let storage := client.request_body_storage_.assign body
    let ptr : BodyPtr := ⟨storage.generation⟩
    ({ client with
        request_body_storage_ := storage
        data_providers_ := client.data_providers_.insert client.next_stream_id_ ptr }, some ptr)
  else (client, none)

/-- `Http2Client::send_http2_request`, with what is submitted: on which stream, and
with which headers. A submission nghttp2 does not accept is only logged. -/
def send_http2_request (client : Http2Client C) (method path body : Bytes) (callback : C)
    (accepted : Bool) : Http2Client C × Option (StreamId × List nghttp2_nv) :=
  -- the host and port are the client's, whatever the request was asked for
  let headers := requestHeaders client.current_host_ client.current_port_ method path body
  let (client, data_prd) := send_http2_request.provide client body
  match client.session_, accepted with
  | some session, true =>
      let (session, stream_id) := session.submit_request data_prd
      -- `streams_[stream_id].callback = callback`: an entry that is there is kept but for it
      let stream_data := (client.streams_.lookup stream_id).getD {}
      ({ client with
          session_ := some session
          next_stream_id_ := stream_id + 2
          streams_ := client.streams_.insert stream_id
            { stream_data with callback := some callback } },
        some (stream_id, headers))
  | _, _ => (client, none)

/-- The data read callback of `send_http2_request`: the length is that of what is
stored now, the bytes are what the pointer reaches, and EOF is set on every call. A
pointer into a buffer assigned since is not one that can be read. -/
def read_callback (client : Http2Client C) (ptr : BodyPtr) (length : UInt64) :
    Option (Bytes × Bool) :=
  let body_len := client.request_body_storage_.value.length
  if body_len = 0 then some ([], true)
  -- nothing is copied then; otherwise the pointer must still be good
  else if ptr.generation = client.request_body_storage_.generation then
    some (client.request_body_storage_.value.take (min length.toNat body_len), true)
  else none

/-- `Http2Client::on_header_cb`; `none` when `std::stoi` throws. -/
def on_header_cb (client : Http2Client C) (frame : Frame) (name value : Bytes) :
    Option (Http2Client C) :=
  if frame.type = .HEADERS ∧ frame.cat = .RESPONSE then
    match client.streams_.lookup frame.stream_id with
    | none => some client
    | some stream_data =>
        -- the other fields of a response are dropped
        if name = bytes ":status" then
          (stoi value).map fun code => { client with
            streams_ := client.streams_.insert frame.stream_id
              { stream_data with response := { stream_data.response with status_code := code } } }
        else some client
  else some client

/-- `Http2Client::on_data_chunk_recv_cb`. -/
def on_data_chunk_recv_cb (client : Http2Client C) (stream_id : StreamId) (data : Bytes) :
    Http2Client C :=
  match client.streams_.lookup stream_id with
  | none => client
  | some stream_data => { client with
      streams_ := client.streams_.insert stream_id
        { stream_data with body_buffer := stream_data.body_buffer ++ data } }

/-- `Http2Client::on_stream_close_cb`: the callback invoked, if any, with the response
and an empty error text, whatever the error code. -/
def on_stream_close_cb (client : Http2Client C) (stream_id : StreamId) :
    Http2Client C × Option (C × Http2Response × Bytes) :=
  match client.streams_.lookup stream_id with
  | none =>
      ({ client with data_providers_ := client.data_providers_.erase stream_id }, none)
  | some stream_data =>
      ({ client with
          streams_ := client.streams_.erase stream_id
          data_providers_ := client.data_providers_.erase stream_id },
        stream_data.callback.map fun callback =>
          (callback, { stream_data.response with body := stream_data.body_buffer }, []))

/-- What a callback does; `none` when it throws. -/
def callback (client : Http2Client C) :
    ClientCallback → Option (Http2Client C × Option (C × Http2Response × Bytes))
  | .on_header frame name value => (client.on_header_cb frame name value).map fun c => (c, none)
  | .on_frame_recv _ => some (client, none)
  | .on_data_chunk_recv _ stream_id data =>
      some (client.on_data_chunk_recv_cb stream_id data, none)
  | .on_stream_close stream_id _ => some (client.on_stream_close_cb stream_id)

/-! ## Its runs -/

/-- One call of `send_request`. -/
structure Asked where
  host : Bytes
  port : ℤ
  method : Bytes
  path : Bytes
  body : Bytes
  deriving DecidableEq, Repr

/-- The pending `async_resolve` of `connect_and_send`: its query, and what its lambda
captures. The socket is not among it. -/
structure Resolve where
  host : Bytes
  service : Bytes
  method : Bytes
  path : Bytes
  body : Bytes
  callback : ℕ
  deriving DecidableEq, Repr

/-- The pending `async_connect` of `handle_connect`: whose endpoints it tries, and
what its lambda captures. -/
structure Connect where
  host : Bytes
  service : Bytes
  socket : SocketPtr
  method : Bytes
  path : Bytes
  body : Bytes
  callback : ℕ
  deriving DecidableEq, Repr

/-- A request submitted for a caller: the socket its bytes go to, its stream there,
and its headers. -/
structure Submission where
  callback : ℕ
  socket : SocketPtr
  stream_id : StreamId
  headers : List nghttp2_nv
  deriving DecidableEq, Repr

/-- One call of the data read callback: for which stream of which socket, with a
buffer of what length, and what it produced. -/
structure BodyRead where
  socket : SocketPtr
  stream_id : StreamId
  length : UInt64
  data : Option Bytes
  deriving DecidableEq, Repr

/-- One invocation of a caller's callback; when a stream close led to it, which stream
of which socket. -/
structure Invocation where
  callback : ℕ
  response : Http2Response
  error : Bytes
  closed : Option (SocketPtr × StreamId)
  deriving DecidableEq, Repr

/-- The client, its pending operations, and what has happened. -/
structure State where
  client : Http2Client ℕ := {}
  resolving : List Resolve := []
  connecting : List Connect := []
  reading : List SocketPtr := []
  /-- The socket whose read handler is running. -/
  running : Option SocketPtr := none
  /-- For each socket made, the host and service it was connected to. -/
  sockets : List (Option (Bytes × Bytes)) := []
  asked : List Asked := []
  submissions : List Submission := []
  body_reads : List BodyRead := []
  received : List (SocketPtr × ClientCallback) := []
  invocations : List Invocation := []

/-- What can happen next. A read that goes well starts its handler (`read`), which runs
`nghttp2_session_mem_recv` with any number of callbacks (`recv`) and ends well or not
(`read_done`). -/
inductive Event
  | send_request (host : Bytes) (port : ℤ) (method path body : Bytes)
  | resolve (k : ℕ) (ec : Option Bytes)
  | connect (k : ℕ) (ec : Option Bytes) (accepted : Bool)
  | body_read (stream_id : StreamId) (length : UInt64)
  | read (k : ℕ) (ok : Bool)
  | recv (callback : ClientCallback)
  | read_done (ok : Bool)

namespace State

/-- A socket exists while the client or a pending connect holds it; it can be read
once it is connected. -/
def Readable (st : State) (socket : SocketPtr) : Prop :=
  (st.client.socket_ = some socket ∨ ∃ op ∈ st.connecting, op.socket = socket)
    ∧ ∃ peer, st.sockets[socket]? = some (some peer)

instance (st : State) (socket : SocketPtr) : Decidable (st.Readable socket) :=
  decidable_of_iff ((st.client.socket_ = some socket ∨ ∃ op ∈ st.connecting, op.socket = socket)
      ∧ ((st.sockets[socket]?).bind id).isSome) (by
    rw [Readable, Option.isSome_iff_exists]
    simp only [Option.bind_eq_some_iff, id_eq, exists_eq_right])

/-- `Http2Client::send_request`, which is `connect_and_send`. -/
def send_request (st : State) (host : Bytes) (port : ℤ) (method path body : Bytes) : State :=
  { st with
    client := { st.client with
      current_host_ := host
      current_port_ := port
      socket_ := some st.sockets.length }
    sockets := st.sockets ++ [none]
    resolving := st.resolving ++ [⟨host, toDecimal port, method, path, body, st.asked.length⟩]
    asked := st.asked ++ [⟨host, port, method, path, body⟩] }

/-- The lambda of `connect_and_send`, with `handle_connect`: it connects the socket the
client has when it runs. -/
def resolved (st : State) (op : Resolve) (ec : Option Bytes) : Option State :=
  match ec with
  | some message =>
      some { st with
        invocations := st.invocations
          ++ [⟨op.callback, ⟨0, []⟩, bytes "Failed to resolve host: " ++ message, none⟩] }
  | none => do
      -- `socket_` is not captured: it is read now
      let socket ← st.client.socket_
      some { st with
        connecting := st.connecting
          ++ [⟨op.host, op.service, socket, op.method, op.path, op.body, op.callback⟩] }

/-- The lambda of `handle_connect`, with `read_data`: the request is built and submitted
with the client's host, port and socket. -/
def connected (st : State) (op : Connect) (ec : Option Bytes) (accepted : Bool) :
    Option State :=
  match ec with
  | some message =>
      some { st with
        invocations := st.invocations
          ++ [⟨op.callback, ⟨0, []⟩, bytes "Failed to connect: " ++ message, none⟩] }
  | none => do
      -- the socket that was connected is `op.socket`; the session writes to the client's
      let socket ← st.client.socket_
      let (client, submitted) :=
        st.client.setup_nghttp2_client.send_http2_request op.method op.path op.body op.callback
          accepted
      some { st with
        client := client
        sockets := st.sockets.set op.socket (some (op.host, op.service))
        submissions := st.submissions ++ (submitted.map fun (stream_id, headers) =>
          (⟨op.callback, socket, stream_id, headers⟩ : Submission)).toList
        reading := st.reading ++ [socket] }

/-- A read handler runs a session callback. -/
def recv (st : State) (socket : SocketPtr) (session : nghttp2_session)
    (callback : ClientCallback) : Option State := do
  let (client, invoked) ← st.client.callback callback
  some { st with
    client := { client with session_ := some (session.called callback) }
    received := st.received ++ [(socket, callback)]
    invocations := st.invocations ++ (invoked.map fun (f, response, error) =>
      (⟨f, response, error, some (socket, callback.stream)⟩ : Invocation)).toList }

end State

/-- One event. A session calls back only for streams it has open; a read handler that
ends well starts a read on the client's socket. -/
def step (st : State) : Event → Option State
  | .send_request host port method path body => some (st.send_request host port method path body)
  | .resolve k ec => do
      let op ← st.resolving[k]?
      if st.running = none then
        ({ st with resolving := st.resolving.eraseIdx k } : State).resolved op ec
      else none
  | .connect k ec accepted => do
      let op ← st.connecting[k]?
      if st.running = none then
        ({ st with connecting := st.connecting.eraseIdx k } : State).connected op ec accepted
      else none
  | .body_read stream_id length => do
      -- what `send_cb` writes goes to the client's socket, whichever stream it is of
      let socket ← st.client.socket_
      let session ← st.client.session_
      let ptr ← session.outgoing.lookup stream_id
      some { st with
        client := { st.client with
          session_ := some { session with
            outgoing := session.outgoing.filter fun entry => entry.1 ≠ stream_id } }
        body_reads := st.body_reads
          ++ [⟨socket, stream_id, length, (st.client.read_callback ptr length).map Prod.fst⟩] }
  | .read k ok => do
      let socket ← st.reading[k]?
      if st.running = none ∧ (ok → st.Readable socket) then
        some { st with
          reading := st.reading.eraseIdx k
          running := if ok then some socket else none }
      else none
  | .recv callback => do
      let socket ← st.running
      let session ← st.client.session_
      if callback.stream ∈ session.opened then st.recv socket session callback else none
  | .read_done ok => do
      let _ ← st.running
      some { st with
        running := none
        reading := st.reading ++ if ok then st.client.socket_.toList else [] }

/-! ## What an event does -/

variable {st st' : State} {k : ℕ} {ec : Option Bytes} {accepted ok : Bool} {stream_id : StreamId}
  {length : UInt64} {c : ClientCallback}

/-- A resolve that completes was pending, and no longer is. -/
theorem step_resolve_eq_some (h : step st (.resolve k ec) = some st') :
    ∃ op, st.resolving[k]? = some op ∧ st.running = none
      ∧ ({ st with resolving := st.resolving.eraseIdx k } : State).resolved op ec = some st' := by
  simp only [step, bind, Option.bind_eq_some_iff, Option.ite_none_right_eq_some] at h
  exact h

/-- A resolve that goes well starts the connect of the client's socket. -/
theorem State.resolved_eq_some {op : Resolve} (h : st.resolved op none = some st') :
    ∃ socket, st.client.socket_ = some socket
      ∧ st' = { st with
          connecting := st.connecting
            ++ [⟨op.host, op.service, socket, op.method, op.path, op.body, op.callback⟩] } := by
  obtain ⟨socket, hsocket, h⟩ := Option.bind_eq_some_iff.mp h
  exact ⟨socket, hsocket, (Option.some.inj h).symm⟩

theorem step_connect_eq_some (h : step st (.connect k ec accepted) = some st') :
    ∃ op, st.connecting[k]? = some op ∧ st.running = none
      ∧ ({ st with connecting := st.connecting.eraseIdx k } : State).connected op ec accepted
        = some st' := by
  simp only [step, bind, Option.bind_eq_some_iff, Option.ite_none_right_eq_some] at h
  exact h

/-- A connect that goes well sends the request, and reads from the client's socket. -/
theorem State.connected_eq_some {op : Connect} (h : st.connected op none accepted = some st') :
    ∃ socket client submitted, st.client.socket_ = some socket
      ∧ st.client.setup_nghttp2_client.send_http2_request op.method op.path op.body op.callback
        accepted = (client, submitted)
      ∧ st' = { st with
          client := client
          sockets := st.sockets.set op.socket (some (op.host, op.service))
          submissions := st.submissions ++ (submitted.map fun (stream_id, headers) =>
            (⟨op.callback, socket, stream_id, headers⟩ : Submission)).toList
          reading := st.reading ++ [socket] } := by
  obtain ⟨socket, hsocket, h⟩ := Option.bind_eq_some_iff.mp h
  exact ⟨socket, _, _, hsocket, rfl, (Option.some.inj h).symm⟩

/-- The body of a stream is read once. -/
theorem step_body_read_eq_some (h : step st (.body_read stream_id length) = some st') :
    ∃ socket session ptr, st.client.socket_ = some socket ∧ st.client.session_ = some session
      ∧ session.outgoing.lookup stream_id = some ptr
      ∧ st' = { st with
          client := { st.client with
            session_ := some { session with
              outgoing := session.outgoing.filter fun entry => entry.1 ≠ stream_id } }
          body_reads := st.body_reads ++ [⟨socket, stream_id, length,
            (st.client.read_callback ptr length).map Prod.fst⟩] } := by
  simp only [step, bind, Option.bind_eq_some_iff] at h
  obtain ⟨socket, hsocket, session, hsession, ptr, hptr, h⟩ := h
  exact ⟨socket, session, ptr, hsocket, hsession, hptr, (Option.some.inj h).symm⟩

theorem step_read_eq_some (h : step st (.read k ok) = some st') :
    ∃ socket, st.reading[k]? = some socket ∧ st.running = none ∧ (ok → st.Readable socket)
      ∧ st' = { st with
          reading := st.reading.eraseIdx k
          running := if ok then some socket else none } := by
  simp only [step, bind, Option.bind_eq_some_iff, Option.ite_none_right_eq_some] at h
  obtain ⟨socket, hread, ⟨hrunning, hreadable⟩, h⟩ := h
  exact ⟨socket, hread, hrunning, hreadable, (Option.some.inj h).symm⟩

/-- A callback runs in a read handler, for a stream that is open. -/
theorem step_recv_eq_some (h : step st (.recv c) = some st') :
    ∃ socket session, st.running = some socket ∧ st.client.session_ = some session
      ∧ c.stream ∈ session.opened ∧ st.recv socket session c = some st' := by
  simp only [step, bind, Option.bind_eq_some_iff, Option.ite_none_right_eq_some] at h
  obtain ⟨socket, hrunning, session, hsession, hopen, h⟩ := h
  exact ⟨socket, session, hrunning, hsession, hopen, h⟩

theorem State.recv_eq_some {socket : SocketPtr} {session : nghttp2_session}
    (h : st.recv socket session c = some st') :
    ∃ client invoked, st.client.callback c = some (client, invoked)
      ∧ st' = { st with
          client := { client with session_ := some (session.called c) }
          received := st.received ++ [(socket, c)]
          invocations := st.invocations ++ (invoked.map fun (f, response, error) =>
            (⟨f, response, error, some (socket, c.stream)⟩ : Invocation)).toList } := by
  simp only [State.recv, bind, Option.bind_eq_some_iff] at h
  obtain ⟨⟨client, invoked⟩, hcallback, h⟩ := h
  exact ⟨client, invoked, hcallback, (Option.some.inj h).symm⟩

theorem step_read_done_eq_some (h : step st (.read_done ok) = some st') :
    ∃ socket, st.running = some socket
      ∧ st' = { st with
          running := none
          reading := st.reading ++ if ok then st.client.socket_.toList else [] } := by
  simp only [step, bind, Option.bind_eq_some_iff] at h
  obtain ⟨socket, hrunning, h⟩ := h
  exact ⟨socket, hrunning, (Option.some.inj h).symm⟩

end Http2Client

end Http2Server
