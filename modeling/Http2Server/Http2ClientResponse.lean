/-
How the client puts a response together, stream by stream.

A server may send any number of informational header blocks before the final one. nghttp2
tags the first block of a stream RESPONSE and every other HEADERS, the tag it also gives
to trailers, and the client takes a status from blocks tagged RESPONSE alone: after an
informational block the final status is dropped, and the caller gets the informational
one. The body is kept whole either way.

The callbacks of the streams of one session may be interleaved in any order. A stream is
looked at through its own entry and its own deliveries (`deliver`), and `exec_view` says
that the others do not matter there.
-/
import Http2Server.Http2ClientIsolation

set_option autoImplicit false

open ByteString UnorderedMap

namespace Http2Server

/-- Whether it is the callback of a frame, which the client only logs. -/
def ClientCallback.isFrame : ClientCallback → Bool
  | .on_frame_recv _ => true
  | _ => false

namespace Http2Client

/-! ## Responses, in blocks and chunks -/

/-- A HEADERS frame of a response with its continuations: a status of three digits, in one
field, among others. -/
structure StatusBlock where
  status : ℕ
  flags : UInt8
  fields : List (Bytes × Bytes)
  one_status : (fields.filter fun field => field.1 = bytes ":status")
    = [(bytes ":status", decimal status)]
  three_digits : 100 ≤ status ∧ status < 1000

/-- A response: informational blocks, the final one, and chunks of data. -/
structure StreamResponse where
  informational : List StatusBlock
  final : StatusBlock
  chunks : List (UInt8 × Bytes)
  informational_lt : ∀ block ∈ informational, block.status < 200
  final_ge : 200 ≤ final.status

/-- The callbacks of a header block. -/
def StatusBlock.callbacks (stream_id : StreamId) (cat : HeadersCategory) (block : StatusBlock) :
    List ClientCallback :=
  block.fields.map fun field => .on_header ⟨.HEADERS, block.flags, stream_id, cat⟩ field.1 field.2

namespace StreamResponse

variable (r : StreamResponse) (stream_id : StreamId)

/-- Its body: all chunks. -/
def body : Bytes := (r.chunks.map fun chunk => chunk.2).flatten

/-- The callbacks of its header blocks: the first block is tagged RESPONSE. -/
def headerCallbacks : List ClientCallback :=
  match r.informational with
  | [] => r.final.callbacks stream_id .RESPONSE
  | first :: rest =>
      first.callbacks stream_id .RESPONSE
        ++ rest.flatMap (StatusBlock.callbacks stream_id .HEADERS)
        ++ r.final.callbacks stream_id .HEADERS

/-- The callbacks of a response on its stream, a normal close at the end. -/
def callbacks : List ClientCallback :=
  r.headerCallbacks stream_id
    ++ (r.chunks.map fun chunk => .on_data_chunk_recv chunk.1 stream_id chunk.2)
    ++ [.on_stream_close stream_id 0]

/-- The status that the client takes from a response. -/
def taken : ℕ :=
  match r.informational with
  | [] => r.final.status
  | first :: _ => first.status

end StreamResponse

/-! ## Runs -/

/-- One invocation of a callback, on a stream. -/
structure Delivery where
  stream_id : StreamId
  callback : ℕ
  response : Http2Response
  error : Bytes
  deriving DecidableEq, Repr

/-- What a callback of the session adds to the log. -/
def deliveries (stream_id : StreamId) (invoked : Option (ℕ × Http2Response × Bytes)) :
    List Delivery :=
  (invoked.map fun (callback, response, error) => ⟨stream_id, callback, response, error⟩).toList

/-- One callback of the session, logged. -/
def recv (st : Http2Client ℕ × List Delivery) (c : ClientCallback) :
    Option (Http2Client ℕ × List Delivery) := do
  let (client, invoked) ← st.1.callback c
  some (client, st.2 ++ deliveries c.stream invoked)

/-- A run of callbacks in which each stream receives its response, or nothing. The streams
may be interleaved in any order, and frames reported anywhere. -/
def Receives (streams : StreamId → Option (ℕ × StreamResponse)) (run : List ClientCallback) :
    Prop :=
  ∀ stream_id, (run.filter fun c => c.stream = stream_id ∧ c.isFrame = false)
    = match streams stream_id with
      | none => []
      | some (_, r) => r.callbacks stream_id

/-- The streams wait for their responses, each with its callback. -/
def Waits (client : Http2Client ℕ) (streams : StreamId → Option (ℕ × StreamResponse)) : Prop :=
  ∀ stream_id f r, streams stream_id = some (f, r) →
    client.streams_.lookup stream_id = some { callback := some f }

/-- **The response is delivered**: its callback is called once, with the final status and
the whole body. -/
def Delivered (log : List Delivery) (stream_id : StreamId) (f : ℕ) (r : StreamResponse) : Prop :=
  (log.filter fun d => d.stream_id = stream_id)
    = [⟨stream_id, f, ⟨r.final.status, r.body⟩, []⟩]

/-! ## One stream of a run -/

/-- A stream as its caller sees it: the callback and what has been gathered for it, while
it is open, and what has been delivered. -/
abbrev StreamView := Option (Option ℕ × Http2Response) × List Delivery

/-- The view of a stream. -/
def view (stream_id : StreamId) (st : Http2Client ℕ × List Delivery) : StreamView :=
  ((st.1.streams_.lookup stream_id).map fun entry => (entry.callback, entry.result),
    st.2.filter fun d => d.stream_id = stream_id)

/-- What a callback about a stream does to the view of it. -/
def deliver (v : StreamView) : ClientCallback → StreamView
  | .on_stream_close stream_id _ =>
      (none, v.2 ++ deliveries stream_id (v.1.bind fun (callback, response) =>
        callback.map fun f => (f, response, [])))
  | c => (v.1.map fun (callback, response) => (callback, respond response c), v.2)

variable {client client' : Http2Client ℕ} {c : ClientCallback} {stream_id : StreamId}
  {invoked : Option (ℕ × Http2Response × Bytes)}

/-- A callback leaves the entries of the other streams. -/
theorem callback_of_ne (h : client.callback c = some (client', invoked))
    (hne : stream_id ≠ c.stream) :
    client'.streams_.lookup stream_id = client.streams_.lookup stream_id := by
  cases (callback_effect h).2 with
  | idle hentry hstreams hinvoked => rw [hstreams]
  | closed entry hentry hstreams hinvoked =>
      rw [hstreams]
      exact Finmap.lookup_erase_ne hne
  | added entry entry' hopen hentry hcallback hresult hstreams hinvoked =>
      rw [hstreams, Finmap.lookup_insert_of_ne _ hne]

/-- What a callback does to the view of its own stream. -/
theorem view_recv_self (h : client.callback c = some (client', invoked)) (log : List Delivery) :
    view c.stream (client', log ++ deliveries c.stream invoked)
      = deliver (view c.stream (client, log)) c := by
  have hown : (deliveries c.stream invoked).filter (fun d => d.stream_id = c.stream)
      = deliveries c.stream invoked := by
    rw [List.filter_eq_self]
    intro d hd
    simp only [deliveries, Option.mem_toList, Option.map_eq_some_iff] at hd
    obtain ⟨-, -, rfl⟩ := hd
    simp
  rw [view, view, List.filter_append, hown]
  cases (callback_effect h).2 with
  | idle hentry hstreams hinvoked =>
      rw [hstreams, hentry, hinvoked]
      cases c <;> simp [deliver, deliveries]
  | closed entry hentry hstreams hinvoked =>
      rw [hstreams, hinvoked]
      simp only [ClientCallback.stream, deliver, hentry, Finmap.lookup_erase, Option.map_none,
        Option.map_some, Option.bind_some]
  | added entry entry' hopen hentry hcallback hresult hstreams hinvoked =>
      rw [hstreams, hentry, hinvoked, Finmap.lookup_insert, Option.map_some, Option.map_some,
        hcallback, hresult]
      cases c with
      | on_stream_close id code => exact absurd rfl (hopen id code)
      | _ => simp [deliver, deliveries]

/-- **A run, seen from one stream**: what its own callbacks make of it, however the other
streams' are interleaved with them. -/
theorem view_of_run {st st' : Http2Client ℕ × List Delivery} {run : List ClientCallback}
    (hrun : Machine.exec recv st run = some st') (stream_id : StreamId) :
    view stream_id st'
      = (run.filter fun c => c.stream = stream_id ∧ c.isFrame = false).foldl deliver
          (view stream_id st) := by
  refine Machine.exec_view (view stream_id) deliver _ ?_ ?_ hrun
  · rintro ⟨client, log⟩ c st' hc hstep
    obtain ⟨⟨client', invoked⟩, hcallback, hst'⟩ := Option.bind_eq_some_iff.mp hstep
    obtain rfl := Option.some.inj hst'
    obtain ⟨rfl, -⟩ := of_decide_eq_true hc
    exact view_recv_self hcallback log
  · rintro ⟨client, log⟩ c st' hc hstep
    obtain ⟨⟨client', invoked⟩, hcallback, hst'⟩ := Option.bind_eq_some_iff.mp hstep
    obtain rfl := Option.some.inj hst'
    have hother := of_decide_eq_false hc
    by_cases hstream : c.stream = stream_id
    · -- a frame of the stream
      have hframe : c.isFrame = true := by simpa [hstream] using hother
      cases c with
      | on_frame_recv frame =>
          obtain ⟨rfl, rfl⟩ := Prod.mk.inj (Option.some.inj hcallback)
          simp [view, deliveries]
      | _ => simp [ClientCallback.isFrame] at hframe
    · have hnone :
          (deliveries c.stream invoked).filter (fun d => d.stream_id = stream_id) = [] := by
        rw [List.filter_eq_nil_iff]
        intro d hd
        simp only [deliveries, Option.mem_toList, Option.map_eq_some_iff] at hd
        obtain ⟨-, -, rfl⟩ := hd
        simpa using hstream
      rw [view, view, List.filter_append, hnone, List.append_nil,
        callback_of_ne hcallback (Ne.symm hstream)]

/-! ## The pieces of a response -/

/-- What callbacks other than a close make of an open stream. -/
theorem foldl_deliver_open {callbacks : List ClientCallback}
    (hopen : ∀ c ∈ callbacks, ∀ id code, c ≠ .on_stream_close id code) (callback : Option ℕ)
    (response : Http2Response) (log : List Delivery) :
    callbacks.foldl deliver (some (callback, response), log)
      = (some (callback, callbacks.foldl respond response), log) := by
  induction callbacks generalizing response with
  | nil => rfl
  | cons c callbacks ih =>
      have hstep : deliver (some (callback, response), log) c
          = (some (callback, respond response c), log) := by
        cases c with
        | on_stream_close id code => exact absurd rfl (hopen _ (by simp) id code)
        | _ => rfl
      rw [List.foldl_cons, hstep, ih fun c hc => hopen c (List.mem_cons_of_mem _ hc),
        List.foldl_cons]

/-- A block tagged RESPONSE sets the status. -/
theorem respond_response_block (block : StatusBlock) (stream_id : StreamId)
    (response : Http2Response) :
    (block.callbacks stream_id .RESPONSE).foldl respond response
      = { response with status_code := block.status } := by
  have hcode : stoi (decimal block.status) = some (block.status : ℤ) :=
    stoi_decimal (lt_trans block.three_digits.2 (by norm_num))
  -- the fields that are no status leave the response, and there is one that is
  have hfields : ∀ (fields : List (Bytes × Bytes)) (response : Http2Response),
      (fields.map fun field => ClientCallback.on_header ⟨.HEADERS, block.flags, stream_id,
          .RESPONSE⟩ field.1 field.2).foldl respond response
        = ((fields.filter fun field => field.1 = bytes ":status").map fun field =>
            ClientCallback.on_header ⟨.HEADERS, block.flags, stream_id, .RESPONSE⟩ field.1
              field.2).foldl respond response := by
    intro fields
    induction fields with
    | nil => exact fun _ => rfl
    | cons field fields ih =>
        intro response
        by_cases hname : field.1 = bytes ":status"
        · rw [List.filter_cons_of_pos (by simpa using hname), List.map_cons, List.foldl_cons, ih,
            List.map_cons, List.foldl_cons]
        · have hskip : respond response (.on_header ⟨.HEADERS, block.flags, stream_id, .RESPONSE⟩
              field.1 field.2) = response := by
            rw [respond, if_neg fun h => hname h.2.2]
          rw [List.filter_cons_of_neg (by simpa using hname), List.map_cons, List.foldl_cons,
            hskip, ih]
  rw [StatusBlock.callbacks, hfields, block.one_status]
  simp [respond, hcode]

/-- A block tagged HEADERS sets nothing. -/
theorem respond_headers_block (block : StatusBlock) (stream_id : StreamId)
    (response : Http2Response) :
    (block.callbacks stream_id .HEADERS).foldl respond response = response := by
  rw [StatusBlock.callbacks]
  induction block.fields with
  | nil => rfl
  | cons field fields ih =>
      rw [List.map_cons, List.foldl_cons, respond, if_neg (by simp), ih]

/-- Chunks are added to the body. -/
theorem respond_chunks (chunks : List (UInt8 × Bytes)) (stream_id : StreamId)
    (response : Http2Response) :
    (chunks.map fun chunk => ClientCallback.on_data_chunk_recv chunk.1 stream_id chunk.2).foldl
        respond response
      = { response with body := response.body ++ (chunks.map fun chunk => chunk.2).flatten } := by
  induction chunks generalizing response with
  | nil => simp
  | cons chunk chunks ih =>
      rw [List.map_cons, List.foldl_cons, ih]
      simp [respond]

namespace StreamResponse

variable (r : StreamResponse)

/-- The status comes from the first block. -/
theorem respond_headers (stream_id : StreamId) (response : Http2Response) :
    (r.headerCallbacks stream_id).foldl respond response
      = { response with status_code := r.taken } := by
  rw [headerCallbacks, taken]
  split
  · exact respond_response_block _ _ _
  · rename_i first rest hblocks
    have hrest : ∀ (blocks : List StatusBlock) (response : Http2Response),
        (blocks.flatMap (StatusBlock.callbacks stream_id .HEADERS)).foldl respond response
          = response := by
      intro blocks
      induction blocks with
      | nil => exact fun _ => rfl
      | cons block blocks ih =>
          intro response
          rw [List.flatMap_cons, List.foldl_append, respond_headers_block, ih]
    rw [List.foldl_append, List.foldl_append, respond_response_block, hrest, respond_headers_block]

/-- Each callback of the header blocks reports a field of one of them. -/
theorem exists_block_of_mem {stream_id : StreamId} {c : ClientCallback}
    (h : c ∈ r.headerCallbacks stream_id) :
    ∃ (block : StatusBlock) (cat : HeadersCategory), c ∈ block.callbacks stream_id cat := by
  rw [headerCallbacks] at h
  split at h
  · exact ⟨r.final, .RESPONSE, h⟩
  · rename_i first rest hblocks
    rw [List.mem_append, List.mem_append, List.mem_flatMap] at h
    rcases h with (hfirst | ⟨block, -, hblock⟩) | hfinal
    · exact ⟨first, .RESPONSE, hfirst⟩
    · exact ⟨block, .HEADERS, hblock⟩
    · exact ⟨r.final, .HEADERS, hfinal⟩

/-- What a response makes of a stream that waits for it. -/
theorem foldl_deliver (stream_id : StreamId) (f : ℕ) :
    (r.callbacks stream_id).foldl deliver (some (some f, {}), [])
      = (none, [⟨stream_id, f, ⟨r.taken, r.body⟩, []⟩]) := by
  have hopen : ∀ c ∈ r.headerCallbacks stream_id
      ++ (r.chunks.map fun chunk => .on_data_chunk_recv chunk.1 stream_id chunk.2),
      ∀ id code, c ≠ .on_stream_close id code := by
    intro c hc id code
    rcases List.mem_append.mp hc with hc | hc
    · obtain ⟨block, cat, hc⟩ := r.exists_block_of_mem hc
      obtain ⟨field, -, rfl⟩ := List.mem_map.mp hc
      simp
    · obtain ⟨chunk, -, rfl⟩ := List.mem_map.mp hc
      simp
  rw [callbacks, List.foldl_append, foldl_deliver_open hopen, List.foldl_append, r.respond_headers,
    respond_chunks]
  rfl

/-- The status taken is the final one exactly when no informational block comes before it. -/
theorem taken_eq_final_iff : r.taken = r.final.status ↔ r.informational = [] := by
  rw [taken]
  have hfinal := r.final_ge
  rcases hblocks : r.informational with _ | ⟨first, rest⟩
  · simp
  · have hfirst := r.informational_lt first (by simp [hblocks])
    simp only [reduceCtorEq, iff_false]
    omega

end StreamResponse

/-! ## A run -/

/-- A callback throws only for a status that is no number. -/
theorem exists_recv (hparse : ∀ frame value, c = .on_header frame (bytes ":status") value →
      ∃ code, stoi value = some code) (st : Http2Client ℕ × List Delivery) :
    ∃ st', recv st c = some st' := by
  have hcallback : ∃ result, st.1.callback c = some result := by
    cases c with
    | on_header frame name value =>
        have hheader : ∃ client, st.1.on_header_cb frame name value = some client := by
          rw [on_header_cb]
          by_cases htype : frame.type = .HEADERS ∧ frame.cat = .RESPONSE
          · rw [if_pos htype]
            rcases st.1.streams_.lookup frame.stream_id with _ | entry
            · exact ⟨_, rfl⟩
            · by_cases hname : name = bytes ":status"
              · obtain ⟨code, hcode⟩ := hparse frame value (by rw [hname])
                simp only [hname, if_true, hcode, Option.map_some]
                exact ⟨_, rfl⟩
              · simp only [hname, if_false]
                exact ⟨_, rfl⟩
          · rw [if_neg htype]
            exact ⟨_, rfl⟩
        obtain ⟨client, hclient⟩ := hheader
        exact ⟨(client, none), by rw [callback, hclient]; rfl⟩
    | on_frame_recv frame => exact ⟨_, rfl⟩
    | on_data_chunk_recv flags id data => exact ⟨_, rfl⟩
    | on_stream_close id code => exact ⟨_, rfl⟩
  obtain ⟨⟨client, invoked⟩, hresult⟩ := hcallback
  exact ⟨(client, st.2 ++ deliveries c.stream invoked), by simp [recv, hresult]⟩

/-- A status in a response is a number. -/
theorem Receives.parses {streams : StreamId → Option (ℕ × StreamResponse)}
    {run : List ClientCallback} (h : Receives streams run) (hc : c ∈ run) {frame : Frame}
    {value : Bytes} (hheader : c = .on_header frame (bytes ":status") value) :
    ∃ code, stoi value = some code := by
  have hown : c ∈ run.filter fun c => c.stream = frame.stream_id ∧ c.isFrame = false := by
    rw [List.mem_filter, hheader]
    exact ⟨hheader ▸ hc, by simp [ClientCallback.stream, ClientCallback.isFrame]⟩
  rw [h frame.stream_id] at hown
  rcases hstream : streams frame.stream_id with _ | ⟨f, r⟩
  · simp [hstream] at hown
  · simp only [hstream, StreamResponse.callbacks, List.mem_append, List.mem_singleton] at hown
    rcases hown with (hblocks | hchunk) | hclose
    · obtain ⟨block, cat, hblock⟩ := r.exists_block_of_mem hblocks
      obtain ⟨field, hfield, heq⟩ := List.mem_map.mp hblock
      rw [hheader, ClientCallback.on_header.injEq] at heq
      obtain ⟨-, hname, rfl⟩ := heq
      -- the one field of that name is the block's status
      have hstatus : field ∈ block.fields.filter fun field => field.1 = bytes ":status" :=
        List.mem_filter.mpr ⟨hfield, by simpa using hname⟩
      rw [block.one_status, List.mem_singleton] at hstatus
      rw [hstatus]
      exact ⟨block.status, stoi_decimal (lt_trans block.three_digits.2 (by norm_num))⟩
    · obtain ⟨chunk, -, heq⟩ := List.mem_map.mp hchunk
      exact absurd (heq.trans hheader) (by simp)
    · exact absurd (hclose.symm.trans hheader) (by simp)

/-- **When responses are delivered.** Any number of streams, their callbacks interleaved in
any order, run to the end; and of each the caller gets the final status and the whole
body exactly when no informational block came before the final one. -/
theorem delivered_iff (client : Http2Client ℕ) (streams : StreamId → Option (ℕ × StreamResponse))
    (run : List ClientCallback) (hwaits : Waits client streams) (hreceives : Receives streams run) :
    ∃ st, Machine.exec recv (client, []) run = some st
      ∧ ∀ stream_id f r, streams stream_id = some (f, r) →
          (Delivered st.2 stream_id f r ↔ r.informational = []) := by
  have hsteps : ∀ c ∈ run, ∀ st, ∃ st', recv st c = some st' :=
    fun c hc => exists_recv fun _ _ => hreceives.parses hc
  obtain ⟨st, hrun⟩ := Machine.exists_exec_eq_some hsteps (client, [])
  refine ⟨st, hrun, fun stream_id f r hstream => ?_⟩
  have hview := view_of_run hrun stream_id
  rw [hreceives stream_id, hstream, view, view, hwaits stream_id f r hstream] at hview
  have hlog := congrArg Prod.snd (hview.trans (r.foldl_deliver stream_id f))
  dsimp only at hlog
  rw [Delivered, hlog, ← r.taken_eq_final_iff]
  simp

/-- A response alone on its session. -/
theorem receives_alone (r : StreamResponse) (callback : ℕ) (stream_id : StreamId) :
    Receives (fun id => if id = stream_id then some (callback, r) else none)
      (r.callbacks stream_id) := by
  intro id
  -- all its callbacks are of its stream, and are header fields, chunks and the close
  have hown : ∀ c ∈ r.callbacks stream_id, c.stream = stream_id ∧ c.isFrame = false := by
    intro c hc
    simp only [StreamResponse.callbacks, List.mem_append, List.mem_singleton] at hc
    rcases hc with (hblocks | hchunk) | rfl
    · obtain ⟨block, cat, hblock⟩ := r.exists_block_of_mem hblocks
      obtain ⟨field, -, rfl⟩ := List.mem_map.mp hblock
      exact ⟨rfl, rfl⟩
    · obtain ⟨chunk, -, rfl⟩ := List.mem_map.mp hchunk
      exact ⟨rfl, rfl⟩
    · exact ⟨rfl, rfl⟩
  by_cases hid : id = stream_id
  · simp only [hid, if_true, List.filter_eq_self]
    exact fun c hc => decide_eq_true (hown c hc)
  · simp only [hid, if_false, List.filter_eq_nil_iff]
    intro c hc hstream
    exact hid ((of_decide_eq_true hstream).1.symm.trans (hown c hc).1)

/-- A header block with nothing but a status. -/
def StatusBlock.of (status : ℕ) (h : 100 ≤ status ∧ status < 1000) : StatusBlock where
  status := status
  flags := 0x04
  fields := [(bytes ":status", decimal status)]
  one_status := by simp
  three_digits := h

/-- A plain response. -/
def plain : StreamResponse where
  informational := []
  final := .of 200 (by decide)
  chunks := [(1, bytes "yes")]
  informational_lt := by simp
  final_ge := by decide

/-- The response to a request for what is not there. -/
def missing : StreamResponse where
  informational := []
  final := .of 404 (by decide)
  chunks := [(1, bytes "none")]
  informational_lt := by simp
  final_ge := by decide

/-- The two responses on two streams of one session, each with its callback. -/
def twoStreams (stream_id : StreamId) : Option (ℕ × StreamResponse) :=
  if stream_id = 1 then some (0, plain) else if stream_id = 3 then some (1, missing) else none

/-- The callbacks of the two streams, taking turns. -/
def twoPlain : List ClientCallback :=
  ((plain.callbacks 1).zip (missing.callbacks 3)).flatMap fun turn => [turn.1, turn.2]

/-- A client that waits on both streams. -/
def waitingTwice : Http2Client ℕ where
  streams_ := ((∅ : UnorderedMap StreamId (StreamData ℕ)).insert 1 { callback := some 0 }).insert
    3 { callback := some 1 }

theorem waits_waitingTwice : Waits waitingTwice twoStreams := by
  intro stream_id f r hstream
  rw [twoStreams] at hstream
  split_ifs at hstream with hone hthree
  · obtain ⟨rfl, -⟩ := Prod.mk.inj (Option.some.inj hstream)
    rw [hone, waitingTwice, Finmap.lookup_insert_of_ne _ (by decide)]
    exact Finmap.lookup_insert _
  · obtain ⟨rfl, -⟩ := Prod.mk.inj (Option.some.inj hstream)
    rw [hthree]
    exact Finmap.lookup_insert _

theorem receives_twoPlain : Receives twoStreams twoPlain := by
  have hstreams : ∀ c ∈ twoPlain, c.stream = 1 ∨ c.stream = 3 := by decide
  intro stream_id
  by_cases hone : stream_id = 1
  · subst hone
    decide
  · by_cases hthree : stream_id = 3
    · subst hthree
      decide
    · simp only [twoStreams, hone, hthree, if_false, List.filter_eq_nil_iff, decide_eq_true_eq]
      rintro c hc ⟨hstream, -⟩
      rcases hstreams c hc with hfirst | hsecond
      · exact hone (hstream.symm.trans hfirst)
      · exact hthree (hstream.symm.trans hsecond)

/-- Both responses are delivered, each to the callback of its own stream. -/
theorem delivered_iff_twoPlain :
    ∃ st, Machine.exec recv (waitingTwice, []) twoPlain = some st
      ∧ Delivered st.2 1 0 plain ∧ Delivered st.2 3 1 missing := by
  obtain ⟨st, hrun, hdelivered⟩ :=
    delivered_iff waitingTwice twoStreams twoPlain waits_waitingTwice receives_twoPlain
  exact ⟨st, hrun, (hdelivered 1 0 plain rfl).mpr rfl, (hdelivered 3 1 missing rfl).mpr rfl⟩

/-- A response after early hints. -/
def hinted : StreamResponse where
  informational := [.of 103 (by decide)]
  final := .of 200 (by decide)
  chunks := [(1, bytes "no")]
  informational_lt := by simp [StatusBlock.of]
  final_ge := by decide

/-- A response on one stream, and nothing on the others. -/
def alone (r : StreamResponse) (stream_id : StreamId) : Option (ℕ × StreamResponse) :=
  if stream_id = 1 then some (0, r) else none

/-- A client that waits on the one stream. -/
def waiting : Http2Client ℕ where
  streams_ := (∅ : UnorderedMap StreamId (StreamData ℕ)).insert 1 { callback := some 0 }

theorem waits_waiting (r : StreamResponse) : Waits waiting (alone r) := by
  intro stream_id f r' hstream
  rw [alone] at hstream
  split_ifs at hstream with hone
  obtain ⟨rfl, -⟩ := Prod.mk.inj (Option.some.inj hstream)
  rw [hone]
  exact Finmap.lookup_insert _

/-- **A status can be the wrong one**: after early hints, 103 instead of 200. -/
theorem hints_delivered :
    ¬ ∀ (client : Http2Client ℕ) (streams : StreamId → Option (ℕ × StreamResponse))
        (run : List ClientCallback), Waits client streams → Receives streams run →
        ∃ st, Machine.exec recv (client, []) run = some st
          ∧ ∀ stream_id f r, streams stream_id = some (f, r) → Delivered st.2 stream_id f r := by
  intro h
  obtain ⟨st, hrun, hdelivered⟩ := h waiting _ _ (waits_waiting hinted) (receives_alone hinted 0 1)
  have hlog : (Machine.exec recv (waiting, []) (hinted.callbacks 1)).map Prod.snd
      = some [⟨1, 0, ⟨103, bytes "no"⟩, []⟩] := by decide
  rw [hrun, Option.map_some, Option.some.injEq] at hlog
  have hone := hdelivered 1 0 hinted rfl
  rw [Delivered, hlog] at hone
  exact absurd hone (by decide)

end Http2Client

end Http2Server
