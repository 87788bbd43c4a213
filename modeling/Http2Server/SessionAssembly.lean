/-
When a request reaches `request_cb_` whole, and when it does not.

The session decides in two places that a request is complete: on the request
HEADERS frame, and on a chunk of a DATA frame, each by the END_STREAM flag of the
frame. The first is right. The second is not a test for the end of the stream: a
frame may be delivered in several chunks, all of which carry its flags, or in
none, when it is empty; and the last frame of a request may be its trailers, which
neither place looks at.

`assembled_iff` says exactly when the request is dispatched once, whole and not
before it has arrived: it has no trailers, and its last DATA frame, if it has DATA
frames, came as one chunk.
-/
import Http2Server.Session

set_option autoImplicit false

open ByteString

namespace Http2Server

/-! ## Requests, in frames and chunks -/

/-- A DATA frame, and the chunks nghttp2 delivers it in. -/
structure DataFrame where
  flags : UInt8
  chunks : List Bytes
  deriving DecidableEq, Repr

/-- A HEADERS frame with its continuations: its flags, and the fields in it. -/
structure HeaderBlock where
  flags : UInt8
  fields : List (Bytes × Bytes)
  deriving DecidableEq, Repr

/-- The flags of the frames of a request, in order. -/
def frameFlags (head : HeaderBlock) (data : List DataFrame) (trailers : Option HeaderBlock) :
    List UInt8 :=
  (head.flags :: data.map fun frame => frame.flags)
    ++ trailers.toList.map fun block => block.flags

/-- A well-formed request: one `:method`, one `:path`, chunks that are not empty,
and END_STREAM on its last frame and on no other. -/
structure Request where
  method : Bytes
  path : Bytes
  head : HeaderBlock
  data : List DataFrame
  trailers : Option HeaderBlock
  one_method : (head.fields.filter fun field => field.1 = bytes ":method")
    = [(bytes ":method", method)]
  one_path : (head.fields.filter fun field => field.1 = bytes ":path")
    = [(bytes ":path", path)]
  chunks_nonempty : ∀ frame ∈ data, ∀ chunk ∈ frame.chunks, chunk ≠ []
  end_stream : ∃ init last, frameFlags head data trailers = init ++ [last]
    ∧ endStream last = true ∧ ∀ flags ∈ init, endStream flags = false

namespace Request

/-- Its body: all chunks of all DATA frames. -/
def body (r : Request) : Bytes := r.data.flatMap fun frame => frame.chunks.flatten

/-- The callbacks of a HEADERS frame. -/
def headersCallbacks (stream_id : StreamId) (cat : HeadersCategory) (block : HeaderBlock) :
    List Callback :=
  (block.fields.map fun field =>
      .on_header ⟨.HEADERS, block.flags, stream_id, cat⟩ field.1 field.2)
    ++ [.on_frame_recv ⟨.HEADERS, block.flags, stream_id, cat⟩]

/-- The callbacks of a DATA frame: its chunks, each with its flags, and then the
frame. -/
def dataCallbacks (stream_id : StreamId) (frame : DataFrame) : List Callback :=
  (frame.chunks.map fun chunk => .on_data_chunk_recv frame.flags stream_id chunk)
    ++ [.on_frame_recv ⟨.DATA, frame.flags, stream_id, .HEADERS⟩]

/-- The callbacks of a request on its stream, in order. -/
def callbacks (r : Request) (stream_id : StreamId) : List Callback :=
  headersCallbacks stream_id .REQUEST r.head
    ++ r.data.flatMap (dataCallbacks stream_id)
    ++ r.trailers.toList.flatMap (headersCallbacks stream_id .HEADERS)

/-- The flags of all frames but the last of a request, and of the last. -/
theorem flags_of_snoc (r : Request) {init : List UInt8} {last : UInt8}
    (h : frameFlags r.head r.data r.trailers = init ++ [last]) :
    endStream last = true ∧ ∀ flags ∈ init, endStream flags = false := by
  obtain ⟨init', last', heq, hlast, hinit⟩ := r.end_stream
  obtain ⟨rfl, hsingle⟩ := List.append_inj' (h.symm.trans heq) rfl
  obtain rfl := List.head_eq_of_cons_eq hsingle
  exact ⟨hlast, hinit⟩

/-- A request has header fields. -/
theorem fields_ne_nil (r : Request) : r.head.fields ≠ [] := by
  intro hnil
  have hmethod := r.one_method
  rw [hnil] at hmethod
  simp at hmethod

end Request

/-- A run of callbacks in which each stream carries its one request, or nothing,
and is closed after it if at all. The streams may be interleaved in any order. -/
def Carries (requests : StreamId → Option Request) (run : List Callback) : Prop :=
  ∀ stream_id, ∃ closing, (closing = [] ∨ closing = [.on_stream_close stream_id])
    ∧ (run.filter fun c => c.stream = some stream_id)
      = match requests stream_id with
        | none => []
        | some r => r.callbacks stream_id ++ closing

/-- One stream of a run carries the request, and is closed after it if at all. -/
def CarriesOn (run : List Callback) (stream_id : StreamId) (r : Request) : Prop :=
  ∃ closing, (closing = [] ∨ closing = [.on_stream_close stream_id])
    ∧ (run.filter fun c => c.stream = some stream_id) = r.callbacks stream_id ++ closing

theorem Carries.on {requests : StreamId → Option Request} {run : List Callback}
    (h : Carries requests run) {stream_id : StreamId} {r : Request}
    (hr : requests stream_id = some r) : CarriesOn run stream_id r := by
  obtain ⟨closing, hclosing, hfilter⟩ := h stream_id
  rw [hr] at hfilter
  exact ⟨closing, hclosing, hfilter⟩

/-- Whether a callback brings a piece of a request with it. The `on_frame_recv` of a
DATA frame does not: its chunks have come before. -/
def Callback.brings : Callback → Bool
  | .on_header _ _ _ => true
  | .on_frame_recv frame => frame.type = .HEADERS
  | .on_data_chunk_recv _ _ _ => true
  | .on_stream_close _ => false

/-- **The request is assembled.** It is dispatched once, with its own method and
path and its whole body, and not while a piece of it is still to come. -/
def Assembled (run : List Callback) (stream_id : StreamId) (r : Request) : Prop :=
  Session.dispatches run stream_id = [⟨r.method, r.path, r.body, stream_id⟩]
    ∧ ∀ earlier later, run = earlier ++ later → Session.dispatches earlier stream_id ≠ [] →
        ∀ c ∈ later, c.stream = some stream_id → c.brings = false

/-- The last frame of the request is its HEADERS frame, or a DATA frame that came
as one chunk. -/
def Request.EndsInOneChunk (r : Request) : Prop :=
  r.trailers = none ∧ ∀ frame, r.data.getLast? = some frame → frame.chunks.length = 1

namespace Session

/-! ## The pieces of a request -/

variable {stream_id : StreamId} {stream_data : StreamData} {log : List Dispatch}

/-- The header fields of a request, in the entry of its stream. -/
theorem foldl_headers (fields : List (Bytes × Bytes)) (flags : UInt8)
    (entry : Option StreamData) (hne : fields ≠ []) :
    (fields.map fun field => Callback.on_header ⟨.HEADERS, flags, stream_id, .REQUEST⟩ field.1
        field.2).foldl (recvOn stream_id) (entry, log)
      = (some (fields.foldl (fun d field => d.setHeader field.1 field.2) (entry.getD {})),
          log) := by
  induction fields generalizing entry with
  | nil => exact absurd rfl hne
  | cons field fields ih =>
      rw [List.map_cons, List.foldl_cons, List.foldl_cons]
      have hfirst : recvOn stream_id (entry, log)
            (.on_header ⟨.HEADERS, flags, stream_id, .REQUEST⟩ field.1 field.2)
          = (some ((entry.getD {}).setHeader field.1 field.2), log) := by
        simp [recvOn, onEntry]
      rw [hfirst]
      by_cases hlast : fields = []
      · rw [hlast]
        rfl
      · exact ih _ hlast

/-- What the fields of a well-formed request leave in the entry. -/
theorem setHeaders_of_request (r : Request) :
    r.head.fields.foldl (fun d field => d.setHeader field.1 field.2) ({} : StreamData)
      = ⟨r.method, r.path, []⟩ := by
  have hdistinct : bytes ":path" ≠ bytes ":method" := by decide
  -- the method is set by the one `:method` field, the path by the one `:path` field
  have hmethod := Machine.foldl_view (fun (d : StreamData) field => d.setHeader field.1 field.2)
    (fun d => d.method) (fun _ field => field.2) (fun field => field.1 = bytes ":method")
    (fun d field h => by simp [StreamData.setHeader, of_decide_eq_true h])
    (fun d field h => by
      rw [StreamData.setHeader, if_neg (of_decide_eq_false h)]
      split_ifs <;> rfl) {} r.head.fields
  have hpath := Machine.foldl_view (fun (d : StreamData) field => d.setHeader field.1 field.2)
    (fun d => d.path) (fun _ field => field.2) (fun field => field.1 = bytes ":path")
    (fun d field h => by simp [StreamData.setHeader, of_decide_eq_true h, hdistinct])
    (fun d field h => by
      rw [StreamData.setHeader]
      split_ifs with hm hp
      · rfl
      · exact absurd hp (of_decide_eq_false h)
      · rfl) {} r.head.fields
  have hbody := Machine.foldl_invariant (fun (d : StreamData) (field : Bytes × Bytes) =>
      d.setHeader field.1 field.2) (fun d => d.body = [])
    (fun d field h => by rw [StreamData.setHeader]; split_ifs <;> exact h)
    (show ({} : StreamData).body = [] from rfl) r.head.fields
  rw [r.one_method] at hmethod
  rw [r.one_path] at hpath
  exact StreamData.ext hmethod hpath hbody

/-- The chunks of a frame, in the entry of their stream: each is appended, and each
one of a frame with END_STREAM dispatches what there is by then. -/
theorem foldl_chunks (chunks : List Bytes) (flags : UInt8) :
    (chunks.map fun chunk => Callback.on_data_chunk_recv flags stream_id chunk).foldl
        (recvOn stream_id) (some stream_data, log)
      = (some { stream_data with body := stream_data.body ++ chunks.flatten },
          log ++ if endStream flags then
            chunks.inits.tail.map fun part =>
              { stream_data with body := stream_data.body ++ part.flatten }.dispatch stream_id
          else []) := by
  induction chunks generalizing stream_data log with
  | nil => simp
  | cons chunk chunks ih =>
      -- the first chunk is appended, and with END_STREAM the entry is dispatched as it is then
      have hfirst : recvOn stream_id (some stream_data, log)
            (.on_data_chunk_recv flags stream_id chunk)
          = (some { stream_data with body := stream_data.body ++ chunk },
              log ++ if endStream flags then
                [{ stream_data with body := stream_data.body ++ chunk }.dispatch stream_id]
              else []) := by
        simp only [recvOn, onEntry, Option.getD_some]
        split_ifs <;> rfl
      have hinits : chunks.inits = [] :: chunks.inits.tail := by cases chunks <;> rfl
      rw [List.map_cons, List.foldl_cons, hfirst, ih]
      split_ifs
      · rw [List.inits_cons, List.tail_cons, List.map_map, hinits, List.map_cons, List.tail_cons,
          List.append_assoc, List.flatten_cons, List.append_assoc]
        simp [Function.comp_def, List.append_assoc]
      · simp [List.append_assoc]

/-- The `on_frame_recv` of a DATA frame, and everything of the trailers, does
nothing. -/
theorem foldl_inert {callbacks : List Callback}
    (h : ∀ c ∈ callbacks, ∀ entry, onEntry stream_id entry c = (entry, none))
    (st : Option StreamData × List Dispatch) :
    callbacks.foldl (recvOn stream_id) st = st := by
  induction callbacks generalizing st with
  | nil => rfl
  | cons c callbacks ih =>
      rw [List.foldl_cons, recvOn, h c (List.mem_cons_self ..)]
      simp only [Option.toList_none, List.append_nil]
      exact ih (fun c hc => h c (List.mem_cons_of_mem _ hc)) st

theorem onEntry_data_frame (flags : UInt8) (entry : Option StreamData) :
    onEntry stream_id entry (.on_frame_recv ⟨.DATA, flags, stream_id, .HEADERS⟩)
      = (entry, none) := by
  simp [onEntry]

theorem onEntry_trailers (block : HeaderBlock) :
    ∀ c ∈ Request.headersCallbacks stream_id .HEADERS block, ∀ entry,
      onEntry stream_id entry c = (entry, none) := by
  intro c hc entry
  rcases List.mem_append.mp hc with hc | hc
  · obtain ⟨field, -, rfl⟩ := List.mem_map.mp hc
    simp [onEntry]
  · obtain rfl := List.mem_singleton.mp hc
    simp [onEntry]

/-- A DATA frame without END_STREAM adds its chunks and dispatches nothing. -/
theorem foldl_data_frame {frame : DataFrame} (hend : endStream frame.flags = false) :
    (Request.dataCallbacks stream_id frame).foldl (recvOn stream_id) (some stream_data, log)
      = (some { stream_data with body := stream_data.body ++ frame.chunks.flatten }, log) := by
  rw [Request.dataCallbacks, List.foldl_append, foldl_chunks, hend]
  simp only [Bool.false_eq_true, if_false, List.append_nil]
  exact foldl_inert (fun c hc entry => by
    rw [List.mem_singleton.mp hc, onEntry_data_frame]) _

/-- DATA frames before the last one add their bytes to the body. -/
theorem foldl_data_frames {data : List DataFrame}
    (hend : ∀ frame ∈ data, endStream frame.flags = false) :
    (data.flatMap (Request.dataCallbacks stream_id)).foldl (recvOn stream_id)
        (some stream_data, log)
      = (some { stream_data with
          body := stream_data.body ++ data.flatMap fun frame => frame.chunks.flatten }, log) := by
  induction data generalizing stream_data with
  | nil => simp
  | cons frame data ih =>
      rw [List.flatMap_cons, List.foldl_append, foldl_data_frame (hend frame (by simp)),
        ih fun frame hframe => hend frame (List.mem_cons_of_mem _ hframe)]
      simp [List.append_assoc]

/-- The request HEADERS frame fills the entry, and dispatches it when it ends the
stream. -/
theorem foldl_head (r : Request) :
    (Request.headersCallbacks stream_id .REQUEST r.head).foldl (recvOn stream_id) (none, [])
      = (some ⟨r.method, r.path, []⟩,
          if endStream r.head.flags then [⟨r.method, r.path, [], stream_id⟩] else []) := by
  rw [Request.headersCallbacks, List.foldl_append, foldl_headers _ _ _ r.fields_ne_nil,
    Option.getD_none, setHeaders_of_request]
  by_cases hend : endStream r.head.flags
  · simp [recvOn, onEntry, hend, StreamData.dispatch]
  · simp [recvOn, onEntry, hend]

/-- A callback that dispatches nothing, whatever the entry of its stream: a header field, the
end of a frame that is no HEADERS, or a close. -/
theorem foldl_silent {callbacks : List Callback}
    (h : ∀ c ∈ callbacks, ∀ entry, (onEntry stream_id entry c).2 = none)
    (st : Option StreamData × List Dispatch) :
    (callbacks.foldl (recvOn stream_id) st).2 = st.2 := by
  induction callbacks generalizing st with
  | nil => rfl
  | cons c callbacks ih =>
      rw [List.foldl_cons, ih fun c hc => h c (List.mem_cons_of_mem _ hc), recvOn,
        h c (List.mem_cons_self ..)]
      exact List.append_nil _

/-- A callback that brings nothing dispatches nothing. -/
theorem foldl_quiet {callbacks : List Callback} (h : ∀ c ∈ callbacks, c.brings = false)
    (st : Option StreamData × List Dispatch) :
    (callbacks.foldl (recvOn stream_id) st).2 = st.2 := by
  refine foldl_silent (fun c hc entry => ?_) st
  have hquiet := h c hc
  cases c with
  | on_header frame name value => simp [Callback.brings] at hquiet
  | on_data_chunk_recv flags id data => simp [Callback.brings] at hquiet
  | on_frame_recv frame =>
      have hheaders : ¬ frame.type = .HEADERS := by simpa [Callback.brings] using hquiet
      simp [onEntry, hheaders]
  | on_stream_close id => rfl

/-- The log only grows. -/
theorem log_prefix (callbacks : List Callback) (st : Option StreamData × List Dispatch) :
    st.2 <+: (callbacks.foldl (recvOn stream_id) st).2 := by
  induction callbacks generalizing st with
  | nil => exact List.prefix_refl _
  | cons c callbacks ih => exact (List.prefix_append _ _).trans (ih (recvOn stream_id st c))

/-! ## When a request is assembled -/

/-- The dispatches on a stream, from its own callbacks. -/
theorem dispatches_eq (run : List Callback) (stream_id : StreamId) :
    dispatches run stream_id
      = ((run.filter fun c => c.stream = some stream_id).foldl (recvOn stream_id)
          (none, [])).2 :=
  congrArg Prod.snd (stream_of_run run stream_id)

/-- A stream on which nothing is dispatched up to one callback, that one dispatches
the request, and the rest brings nothing. -/
theorem assembled_of_split {run : List Callback} {r : Request} {before after : List Callback}
    {trigger : Callback} {entry : Option StreamData}
    (hsplit : (run.filter fun c => c.stream = some stream_id) = before ++ trigger :: after)
    (hbefore : before.foldl (recvOn stream_id) (none, []) = (entry, []))
    (htrigger : (onEntry stream_id entry trigger).2 = some ⟨r.method, r.path, r.body, stream_id⟩)
    (hafter : ∀ c ∈ after, c.brings = false) : Assembled run stream_id r := by
  constructor
  · rw [dispatches_eq, hsplit, List.foldl_append, hbefore, List.foldl_cons, foldl_quiet hafter,
      recvOn, htrigger]
    rfl
  · rintro earlier later rfl hdispatched c hc hstream
    rw [List.filter_append] at hsplit
    have hc' : c ∈ later.filter fun c => c.stream = some stream_id :=
      List.mem_filter.mpr ⟨hc, decide_eq_true hstream⟩
    rcases List.append_eq_append_iff.mp hsplit with ⟨rest, hfront, -⟩ | ⟨rest, hfront, hrest⟩
    · -- the run was cut before the callback that dispatches
      have hlog : ((earlier.filter fun c => c.stream = some stream_id).foldl (recvOn stream_id)
          (none, [])).2 <+: (before.foldl (recvOn stream_id) (none, [])).2 := by
        rw [hfront, List.foldl_append]
        exact log_prefix rest _
      rw [hbefore, List.prefix_nil, ← dispatches_eq] at hlog
      exact absurd hlog hdispatched
    · cases rest with
      | nil =>
          rw [dispatches_eq, hfront, List.append_nil, hbefore] at hdispatched
          exact absurd rfl hdispatched
      | cons first rest =>
          rw [List.cons_append, List.cons.injEq] at hrest
          exact hafter c (hrest.2 ▸ List.mem_append_right _ hc')

/-! ### The three kinds of last frame -/

section CarriesOn

variable {run : List Callback} {r : Request}

/-- The callbacks of a stream that carries a request, and the closing that brings
nothing. -/
theorem filter_of_carriesOn (hrun : CarriesOn run stream_id r) :
    ∃ closing, (∀ c ∈ closing, c.brings = false)
      ∧ (run.filter fun c => c.stream = some stream_id) = r.callbacks stream_id ++ closing := by
  obtain ⟨closing, hclosing, hfilter⟩ := hrun
  refine ⟨closing, ?_, hfilter⟩
  rcases hclosing with rfl | rfl
  · simp
  · simp [Callback.brings]

/-- A request that is its HEADERS frame is assembled by it. -/
theorem assembled_of_head (hrun : CarriesOn run stream_id r) (hdata : r.data = [])
    (htrailers : r.trailers = none) : Assembled run stream_id r := by
  obtain ⟨closing, hclosing, hfilter⟩ := filter_of_carriesOn hrun
  have hflags : frameFlags r.head r.data r.trailers = [] ++ [r.head.flags] := by
    simp [frameFlags, hdata, htrailers]
  obtain ⟨hend, -⟩ := r.flags_of_snoc hflags
  -- nothing is dispatched by the fields, and the frame itself dispatches the request
  have hsplit : (run.filter fun c => c.stream = some stream_id)
      = (r.head.fields.map fun field =>
          .on_header ⟨.HEADERS, r.head.flags, stream_id, .REQUEST⟩ field.1 field.2)
        ++ .on_frame_recv ⟨.HEADERS, r.head.flags, stream_id, .REQUEST⟩ :: closing := by
    rw [hfilter]
    simp [Request.callbacks, Request.headersCallbacks, hdata, htrailers]
  refine assembled_of_split hsplit (foldl_headers _ _ _ r.fields_ne_nil) ?_ hclosing
  · rw [Option.getD_none, setHeaders_of_request]
    simp [onEntry, hend, Request.body, hdata, StreamData.dispatch]

/-- A request with trailers is never dispatched. -/
theorem dispatches_of_trailers (hrun : CarriesOn run stream_id r) {block : HeaderBlock}
    (htrailers : r.trailers = some block) : dispatches run stream_id = [] := by
  obtain ⟨closing, hclosing, hfilter⟩ := filter_of_carriesOn hrun
  have hflags : frameFlags r.head r.data r.trailers
      = (r.head.flags :: r.data.map fun frame => frame.flags) ++ [block.flags] := by
    simp [frameFlags, htrailers]
  obtain ⟨-, hopen⟩ := r.flags_of_snoc hflags
  have hhead : endStream r.head.flags = false := hopen _ (List.mem_cons_self ..)
  have hdata : ∀ frame ∈ r.data, endStream frame.flags = false := fun frame hframe =>
    hopen _ (List.mem_cons_of_mem _ (List.mem_map_of_mem hframe))
  -- no frame before the trailers has END_STREAM, and nothing looks at theirs
  rw [dispatches_eq, hfilter, List.foldl_append, foldl_quiet hclosing, Request.callbacks,
    List.foldl_append, List.foldl_append, foldl_head, foldl_data_frames hdata, htrailers,
    Option.toList_some, List.flatMap_singleton, foldl_inert (onEntry_trailers block)]
  simp [hhead]

/-- Before the last DATA frame of a request without trailers, nothing has been
dispatched, and the entry holds the rest of the body. -/
theorem foldl_before_last (stream_id : StreamId) (r : Request) {data : List DataFrame}
    {last : DataFrame} (hdata : r.data = data ++ [last]) (htrailers : r.trailers = none) :
    (Request.headersCallbacks stream_id .REQUEST r.head
        ++ data.flatMap (Request.dataCallbacks stream_id)).foldl (recvOn stream_id) (none, [])
      = (some ⟨r.method, r.path, data.flatMap fun frame => frame.chunks.flatten⟩, [])
    ∧ endStream last.flags = true := by
  have hflags : frameFlags r.head r.data r.trailers
      = (r.head.flags :: data.map fun frame => frame.flags) ++ [last.flags] := by
    simp [frameFlags, htrailers, hdata]
  obtain ⟨hlast, hopen⟩ := r.flags_of_snoc hflags
  have hhead : endStream r.head.flags = false := hopen _ (List.mem_cons_self ..)
  refine ⟨?_, hlast⟩
  rw [List.foldl_append, foldl_head, foldl_data_frames fun frame hframe =>
    hopen _ (List.mem_cons_of_mem _ (List.mem_map_of_mem hframe)), hhead]
  simp

/-- A request that ends in a DATA frame is dispatched once for each chunk of that
frame, with the body there is by then. -/
theorem dispatches_of_data (hrun : CarriesOn run stream_id r) {data : List DataFrame}
    {last : DataFrame} (hdata : r.data = data ++ [last]) (htrailers : r.trailers = none) :
    dispatches run stream_id = last.chunks.inits.tail.map fun part =>
      ⟨r.method, r.path, (data.flatMap fun frame => frame.chunks.flatten) ++ part.flatten,
        stream_id⟩ := by
  obtain ⟨closing, hclosing, hfilter⟩ := filter_of_carriesOn hrun
  obtain ⟨hbefore, hlast⟩ := foldl_before_last stream_id r hdata htrailers
  rw [dispatches_eq, hfilter, List.foldl_append, foldl_quiet hclosing, Request.callbacks, hdata,
    htrailers, List.flatMap_append, List.flatMap_singleton, Option.toList_none,
    List.flatMap_nil, List.append_nil, ← List.append_assoc, List.foldl_append, hbefore,
    Request.dataCallbacks, List.foldl_append, foldl_chunks, hlast]
  simp [recvOn, onEntry, StreamData.dispatch]

/-- A request that ends in a DATA frame that comes as one chunk is assembled by that
chunk. -/
theorem assembled_of_single_chunk (hrun : CarriesOn run stream_id r) {data : List DataFrame}
    {last : DataFrame} (hdata : r.data = data ++ [last]) (htrailers : r.trailers = none)
    {chunk : Bytes} (hchunk : last.chunks = [chunk]) : Assembled run stream_id r := by
  obtain ⟨closing, hclosing, hfilter⟩ := filter_of_carriesOn hrun
  obtain ⟨hbefore, hlast⟩ := foldl_before_last stream_id r hdata htrailers
  have hsplit : (run.filter fun c => c.stream = some stream_id)
      = (Request.headersCallbacks stream_id .REQUEST r.head
          ++ data.flatMap (Request.dataCallbacks stream_id))
        ++ .on_data_chunk_recv last.flags stream_id chunk
          :: .on_frame_recv ⟨.DATA, last.flags, stream_id, .HEADERS⟩ :: closing := by
    rw [hfilter, Request.callbacks, hdata, htrailers, List.flatMap_append,
      List.flatMap_singleton, Request.dataCallbacks, hchunk]
    simp
  refine assembled_of_split hsplit hbefore ?_ ?_
  · simp [onEntry, hlast, StreamData.dispatch, Request.body, hdata, hchunk]
  · simpa [Callback.brings] using hclosing

/-- A request that ends in its HEADERS frame, or in a DATA frame that came as one chunk, is
assembled. -/
theorem assembled_of_endsInOneChunk (hrun : CarriesOn run stream_id r)
    (hends : r.EndsInOneChunk) : Assembled run stream_id r := by
  obtain ⟨htrailers, hlast⟩ := hends
  rcases List.eq_nil_or_concat r.data with hdata | ⟨data, last, hdata⟩
  · exact assembled_of_head hrun hdata htrailers
  · rw [List.concat_eq_append] at hdata
    obtain ⟨chunk, hchunk⟩ := List.length_eq_one_iff.mp
      (hlast last (by rw [hdata, List.getLast?_concat]))
    exact assembled_of_single_chunk hrun hdata htrailers hchunk

/-- A request without trailers of which the session makes one dispatch ends so. -/
theorem endsInOneChunk_of_dispatches (hrun : CarriesOn run stream_id r)
    (htrailers : r.trailers = none) {d : Dispatch} (hone : dispatches run stream_id = [d]) :
    r.EndsInOneChunk := by
  refine ⟨htrailers, fun frame hframe => ?_⟩
  obtain ⟨data, hdata⟩ := List.getLast?_eq_some_iff.mp hframe
  -- one dispatch for each chunk of the last frame
  have hlength := congrArg List.length hone
  rw [dispatches_of_data hrun hdata htrailers] at hlength
  simpa using hlength

end CarriesOn

/-- **When a request is assembled**: exactly when it ends in its HEADERS frame, or in
a DATA frame delivered as one chunk. The other streams of the run do not matter. -/
theorem assembled_iff (requests : StreamId → Option Request) (run : List Callback)
    (hrun : Carries requests run) (stream_id : StreamId) (r : Request)
    (hr : requests stream_id = some r) :
    Assembled run stream_id r ↔ r.EndsInOneChunk := by
  have hstream := hrun.on hr
  refine ⟨fun h => ?_, assembled_of_endsInOneChunk hstream⟩
  rcases htrailers : r.trailers with _ | block
  · exact endsInOneChunk_of_dispatches hstream htrailers h.1
  · -- with trailers it is not dispatched at all
    have hnone := h.1
    rw [dispatches_of_trailers hstream htrailers] at hnone
    exact absurd hnone (by simp)

/-! ### A request alone on its session -/

/-- Every callback of a request is about its stream. -/
theorem stream_of_callbacks (r : Request) :
    ∀ c ∈ r.callbacks stream_id, c.stream = some stream_id := by
  have hheaders : ∀ cat block, ∀ c ∈ Request.headersCallbacks stream_id cat block,
      c.stream = some stream_id := by
    intro cat block c hc
    rcases List.mem_append.mp hc with hc | hc
    · obtain ⟨field, -, rfl⟩ := List.mem_map.mp hc
      rfl
    · obtain rfl := List.mem_singleton.mp hc
      simp [Callback.stream]
  intro c hc
  rcases List.mem_append.mp hc with hc | hc
  · rcases List.mem_append.mp hc with hc | hc
    · exact hheaders _ _ c hc
    · obtain ⟨frame, -, hc⟩ := List.mem_flatMap.mp hc
      rcases List.mem_append.mp hc with hc | hc
      · obtain ⟨chunk, -, rfl⟩ := List.mem_map.mp hc
        rfl
      · obtain rfl := List.mem_singleton.mp hc
        simp [Callback.stream]
  · obtain ⟨block, -, hc⟩ := List.mem_flatMap.mp hc
    exact hheaders _ _ c hc

theorem carries_alone (r : Request) (stream_id : StreamId) :
    Carries (fun other => if other = stream_id then some r else none)
      (r.callbacks stream_id) := by
  intro other
  refine ⟨[], Or.inl rfl, ?_⟩
  by_cases hother : other = stream_id
  · simp only [hother, if_true, List.append_nil, List.filter_eq_self, decide_eq_true_eq]
    exact stream_of_callbacks r
  · simp only [hother, if_false, List.filter_eq_nil_iff, decide_eq_true_eq]
    intro c hc heq
    rw [stream_of_callbacks r c hc] at heq
    exact hother (Option.some.inj heq).symm

/-- `POST /upload` with a body in one DATA frame, delivered in the given chunks. -/
def upload (chunks : List Bytes) (h : ∀ chunk ∈ chunks, chunk ≠ []) : Request where
  method := bytes "POST"
  path := bytes "/upload"
  head := ⟨0x04, [(bytes ":method", bytes "POST"), (bytes ":path", bytes "/upload")]⟩
  data := [⟨0x01, chunks⟩]
  trailers := none
  one_method := by decide
  one_path := by decide
  chunks_nonempty := by simpa using h
  end_stream := ⟨[0x04], 0x01, rfl, by decide,
    List.forall_mem_singleton.mpr (by decide)⟩

/-- An upload that fits one chunk. -/
def firstUpload : Request := upload [bytes "abcdef"] (by decide)

/-- Another upload that fits one chunk. -/
def secondUpload : Request := upload [bytes "xyz"] (by decide)

/-- The callbacks of two streams, taking turns. -/
def twoUploads : List Callback :=
  ((firstUpload.callbacks 1).zip (secondUpload.callbacks 3)).flatMap fun turn => [turn.1, turn.2]

theorem carries_twoUploads :
    Carries (fun stream_id => if stream_id = 1 then some firstUpload
      else if stream_id = 3 then some secondUpload else none) twoUploads := by
  have hstreams : ∀ c ∈ twoUploads, c.stream = some 1 ∨ c.stream = some 3 := by decide
  intro stream_id
  refine ⟨[], Or.inl rfl, ?_⟩
  by_cases hfirst : stream_id = 1
  · subst hfirst
    decide
  · by_cases hsecond : stream_id = 3
    · subst hsecond
      decide
    · simp only [hfirst, hsecond, if_false, List.filter_eq_nil_iff, decide_eq_true_eq]
      intro c hc hstream
      rcases hstreams c hc with hone | hthree
      · exact hfirst (Option.some.inj (hstream.symm.trans hone))
      · exact hsecond (Option.some.inj (hstream.symm.trans hthree))

/-- Both uploads arrive, as each fits one chunk. -/
theorem assembled_iff_twoUploads :
    Assembled twoUploads 1 firstUpload ∧ Assembled twoUploads 3 secondUpload :=
  ⟨(assembled_iff _ _ carries_twoUploads 1 _ rfl).mpr ⟨rfl, by decide⟩,
    (assembled_iff _ _ carries_twoUploads 3 _ rfl).mpr ⟨rfl, by decide⟩⟩

/-- The same upload, cut by the read buffer in the middle of its DATA frame, is
dispatched twice, and the first time with half its body. -/
theorem split_upload_dispatched_twice :
    ∃ (requests : StreamId → Option Request) (run : List Callback) (stream_id : StreamId)
      (r : Request), Carries requests run ∧ requests stream_id = some r
        ∧ r.body = bytes "abcdef"
        ∧ (dispatches run stream_id).map (fun d => d.body) = [bytes "abc", bytes "abcdef"]
        ∧ ¬ Assembled run stream_id r := by
  have hsplit : ∀ chunk ∈ [bytes "abc", bytes "def"], chunk ≠ [] := by decide
  have hbodies : (dispatches ((upload [bytes "abc", bytes "def"] hsplit).callbacks 1) 1).map
      (fun d => d.body) = [bytes "abc", bytes "abcdef"] := by
    have hdata : (upload [bytes "abc", bytes "def"] hsplit).data
        = [] ++ [⟨0x01, [bytes "abc", bytes "def"]⟩] := rfl
    rw [dispatches_of_data ((carries_alone _ 1).on (if_pos rfl)) hdata rfl]
    rfl
  refine ⟨_, _, 1, _, carries_alone (upload [bytes "abc", bytes "def"] hsplit) 1, if_pos rfl, rfl,
    hbodies, fun h => ?_⟩
  rw [h.1] at hbodies
  exact absurd (congrArg List.length hbodies) (by simp)

end Session

end Http2Server
