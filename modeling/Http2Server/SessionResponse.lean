/-
What a response looks like on the wire.

`send_response` submits the headers and, for a non-empty body, a data provider:
a pointer into the body, and a callback nghttp2 calls for one output buffer after
another until it sets the EOF flag. The callback measures the body with `strlen`,
copies what fits the buffer from the start of the body, and sets EOF, on its first
call and on every other.

The pointer is to memory of the caller: every response in the server is a
temporary of the call that sends it. nghttp2 may read it within the sender's own
`write_data`, or, when flow control holds the data back, in a later one, and by
then the temporary is gone. A read through the pointer is then undefined, which
the model renders as no result.

`transmitted_iff` says for which bodies, buffers and moments the bytes produced
are the body and as many as the `content-length` submitted with them.
-/
import Http2Server.Session

set_option autoImplicit false

open ByteString

namespace Http2Server

/-! ## Submitting a response -/

/-- When nghttp2 calls the data read callback: within the sender's `write_data`, or
in a later one. -/
inductive Moment
  | withinSender
  | later
  deriving DecidableEq, Repr

/-- `nghttp2_data_source`, for a pointer: what it reaches at either moment, up to
the end of the allocation. -/
structure DataSource where
  ptr : Moment → Option Bytes

/-- What `send_response` submits. Without a data provider the headers carry
END_STREAM. -/
structure Submission where
  stream_id : StreamId
  headers : List nghttp2_nv
  data_prd : Option DataSource

namespace Session

/-- `p_response.body.c_str()`: the body and its terminating NUL, as long as the
response lives. It lives until the sender returns. -/
def c_str (body : Bytes) : DataSource where
  ptr := fun
    | .withinSender => some (nulTerminated body)
    | .later => none

/-- `Session::send_response`. -/
def send_response (p_stream_id : StreamId) (p_response : HttpResponse) : Submission :=
  let status := toDecimal p_response.status_code
  let content_len := decimal p_response.body.length
  let headers := [make_nv_ls (bytes ":status") status]
  if p_response.body = [] then
    { stream_id := p_stream_id, headers := headers, data_prd := none }
  else
    { stream_id := p_stream_id
      headers := headers ++ [make_nv_ls (bytes "content-type") p_response.content_type,
        make_nv_ls (bytes "content-length") content_len]
      data_prd := some (c_str p_response.body) }

/-! ## Reading the body -/

/-- One call of the data read callback: the moment, and the length of the output
buffer, a positive `size_t`. -/
structure Pull where
  moment : Moment
  length : UInt64
  positive : 0 < length

/-- The data read callback of `send_response`: the bytes it puts into the buffer,
and whether it sets `NGHTTP2_DATA_FLAG_EOF`. -/
def read_callback (source : DataSource) (pull : Pull) : Option (Bytes × Bool) := do
  let data ← source.ptr pull.moment
  -- measured and copied from the start of the body on every call: no offset is kept
  let len := strlen data
  let len := if len > pull.length.toNat then pull.length.toNat else len
  return (data.take len, true)

/-- nghttp2's use of a callback: call it for one buffer after another, until it sets
EOF. The bytes it has produced by then; none if a call is undefined, or if the
calls end before EOF. -/
def drain (read : Pull → Option (Bytes × Bool)) : List Pull → Option Bytes
  | [] => none
  | pull :: pulls => do
      let (data, eof) ← read pull
      if eof then return data
      let more ← drain read pulls
      return data ++ more

/-- The body a submission produces under a schedule of calls. -/
def produced (submission : Submission) (schedule : List Pull) : Option Bytes :=
  match submission.data_prd with
  | none => some []
  | some source => drain (read_callback source) schedule

/-- The value of the `content-length` header, as nghttp2 reads it. -/
def contentLength (submission : Submission) : Option Bytes :=
  (submission.headers.map nghttp2_nv.readBack).lookup (bytes "content-length")

/-- **The response is transmitted**: the bytes produced are its body, and the
`content-length` submitted is their number. -/
def Transmitted (stream_id : StreamId) (response : HttpResponse) (schedule : List Pull) : Prop :=
  produced (send_response stream_id response) schedule = some response.body
    ∧ contentLength (send_response stream_id response) = some (decimal response.body.length)

/-- The first call comes while the response lives and with a buffer that holds the
whole body, and the body holds no NUL. -/
def FitsFirstPull (response : HttpResponse) (first : Pull) : Prop :=
  first.moment = .withinSender ∧ response.body.length ≤ first.length.toNat
    ∧ (0 : UInt8) ∉ response.body

/-! ## When a response is transmitted -/

/-- The callback is called once: its first call sets EOF. -/
theorem drain_read_callback (source : DataSource) (first : Pull) (rest : List Pull) :
    drain (read_callback source) (first :: rest)
      = (read_callback source first).map fun result => result.1 := by
  rw [drain, read_callback]
  rcases source.ptr first.moment with _ | data
  · rfl
  · rfl

/-- What that call produces within the sender: the start of the body, up to its
first NUL and to the length of the buffer. -/
theorem read_callback_within (body : Bytes) (first : Pull) (h : first.moment = .withinSender) :
    read_callback (c_str body) first
      = some (body.take (min (strlen (nulTerminated body)) first.length.toNat), true) := by
  have hlen := strlen_nulTerminated_le body
  simp only [read_callback, c_str, h, bind, Option.bind, pure, Option.some.injEq, Prod.mk.injEq,
    and_true]
  have hmin : (if strlen (nulTerminated body) > first.length.toNat then first.length.toNat
      else strlen (nulTerminated body)) = min (strlen (nulTerminated body)) first.length.toNat := by
    split_ifs <;> omega
  rw [hmin, nulTerminated, List.take_append_of_le_length]
  have := min_le_left (strlen (nulTerminated body)) first.length.toNat
  rw [nulTerminated] at *
  omega

/-- The body is produced whole exactly when it fits the first call. -/
theorem produced_eq_body_iff (stream_id : StreamId) (response : HttpResponse)
    (hbody : response.body ≠ []) (first : Pull) (rest : List Pull) :
    produced (send_response stream_id response) (first :: rest) = some response.body
      ↔ FitsFirstPull response first := by
  rw [produced, send_response, if_neg hbody]
  simp only
  rw [drain_read_callback, FitsFirstPull]
  rcases hmoment : first.moment with _ | _
  · -- what is taken is all of the body when neither the NUL nor the buffer cuts it
    rw [read_callback_within _ _ hmoment, Option.map_some, Option.some.injEq,
      List.take_eq_self_iff, ← strlen_nulTerminated_eq_iff]
    have hlen := strlen_nulTerminated_le response.body
    simp only [true_and]
    omega
  · -- the response is gone by then
    simp [read_callback, c_str, hmoment]

/-- The length of a body that fits an output buffer is submitted as it is. -/
theorem contentLength_of_lt (stream_id : StreamId) (response : HttpResponse)
    (hbody : response.body ≠ []) (hlen : response.body.length < 2 ^ 64) :
    contentLength (send_response stream_id response) = some (decimal response.body.length) := by
  have hstatus : (bytes "content-length"
      == (bytes ":status").take (uint16 (bytes ":status").length)) = false := by decide
  have htype : (bytes "content-length"
      == (bytes "content-type").take (uint16 (bytes "content-type").length)) = false := by decide
  have hname : (bytes "content-length").length < 2 ^ 16 := by decide
  rw [contentLength, send_response, if_neg hbody]
  simp only [List.cons_append, List.nil_append, List.map_cons, List.map_nil,
    readBack_decimal hname hlen]
  simp only [List.lookup_cons, nghttp2_nv.readBack, make_nv_ls, hstatus, htype, beq_self_eq_true]

/-- **When a response is transmitted**: exactly when its body holds no NUL, and the
first call of the read callback comes within the sender and with room for all of
it. -/
theorem transmitted_iff (stream_id : StreamId) (response : HttpResponse)
    (hbody : response.body ≠ []) (first : Pull) (rest : List Pull) :
    Transmitted stream_id response (first :: rest) ↔ FitsFirstPull response first := by
  rw [Transmitted, produced_eq_body_iff _ _ hbody]
  refine ⟨fun h => h.1, fun h => ⟨h, ?_⟩⟩
  refine contentLength_of_lt _ _ hbody ?_
  calc response.body.length ≤ first.length.toNat := h.2.1
    _ < 2 ^ 64 := first.length.toNat_lt

/-- A short JSON body, sent at once. -/
theorem transmitted_iff_short :
    Transmitted 1 { body := bytes "ok" } [⟨.withinSender, 16384, by decide⟩] :=
  (transmitted_iff 1 { body := bytes "ok" } (by decide) ⟨.withinSender, 16384, by decide⟩ []).mpr
    ⟨rfl, by decide, by decide⟩

/-- A body with a NUL in it is cut there, although the buffer has room for all of
it; what is missing the `content-length` promises all the same. -/
theorem nul_cuts_response :
    ∃ (response : HttpResponse) (schedule : List Pull), response.body ≠ [] ∧ schedule ≠ []
      ∧ produced (send_response 1 response) schedule = some (bytes "a")
      ∧ contentLength (send_response 1 response) = some (bytes "3")
      ∧ ¬ Transmitted 1 response schedule := by
  refine ⟨{ body := [0x61, 0x00, 0x62] }, [⟨.withinSender, 16384, by decide⟩], by decide,
    by decide, by decide, by decide, fun h => ?_⟩
  exact absurd h.1 (by decide)

end Session

end Http2Server
