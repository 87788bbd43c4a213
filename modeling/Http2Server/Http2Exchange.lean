/-
A request from the repository's HTTP/2 client to its HTTP/2 server, and the answer back.

Each end was modelled against the callbacks of its own nghttp2. What lies between them is
HTTP/2, and all that is used of it is said by `Wire` and `WireBack`: header fields arrive in
order, as nghttp2 read them at the other end, and so do the bytes it read of the body, in
frames and chunks of any size; END_STREAM comes with the last of the frames.

A field made of a string that was gone by then may arrive with any value, and nghttp2 at the
server checks the fields of a request before the session hears of it: it takes the header
block, or resets the stream. The check is not part of the repository, so it is a parameter
(`accepts`). Every request with a body has such a field, its content type.

`request_arrives_iff` says which requests come through whole, and `WireBack.told_iff` which
responses. `tunnel_request_served` puts the two together, for what the tunnel client asks of
the server, which always has a body: it says what happens when the header block is taken, and
what happens when it is not.
-/
import Http2Server.Http2ClientBody
import Http2Server.Http2ClientResponse
import Http2Server.SessionAssembly
import Http2Server.SessionResponse
import Http2Server.Handling
import Http2Server.Registration
import Http2Server.TunnelLifecycle

set_option autoImplicit false

open ByteString UnorderedMap

namespace Http2Server

namespace Http2Exchange

/-! ## The wire -/

/-- What arrives of a header submitted: its value, unless the string of that is gone. -/
def Arrives (nv : nghttp2_nv) (field : Bytes × Bytes) : Prop :=
  field.1 = nv.readBack.1 ∧ (nv.value_lives = true → field.2 = nv.readBack.2)

/-- **A request on the wire.** The server gets the fields that arrive, DATA frames if a body was
submitted, with the bytes that nghttp2 read of it, and no trailers. -/
structure RequestOnWire (submitted : Http2Client.State) (s : Http2Client.Submission)
    (schedule : List (Http2Client.Pull submitted)) (fields : List (Bytes × Bytes))
    (request : Request) : Prop where
  fields : request.head.fields = fields
  data : request.data ≠ [] ↔ (Http2Client.provider submitted s.stream_id).isSome
  body : ∀ ptr, Http2Client.provider submitted s.stream_id = some ptr →
    Http2Client.drain ptr schedule = some request.body
  trailers : request.trailers = none

/-- The callbacks of header fields of a request. -/
def fieldCallbacks (stream_id : StreamId) (flags : UInt8) (fields : List (Bytes × Bytes)) :
    List Callback :=
  fields.map fun field => .on_header ⟨.HEADERS, flags, stream_id, .REQUEST⟩ field.1 field.2

/-- **What the session hears of a stream**, for what nghttp2 makes of its header block. It
takes the block, and the stream carries the request; or it resets the stream, and there are
the fields it had reported by then, some first ones of the block, and the close. -/
inductive Heard (accepts : List (Bytes × Bytes) → Bool) (run : List Callback)
    (stream_id : StreamId) (fields : List (Bytes × Bytes)) : Option Request → Prop
  | taken {request : Request} (haccepts : accepts fields = true)
      (hcarries : CarriesOn run stream_id request) :
      Heard accepts run stream_id fields (some request)
  | refused {flags : UInt8} {reported : List (Bytes × Bytes)} {closing : List Callback}
      (haccepts : accepts fields = false) (hreported : reported <+: fields)
      (hclosing : closing = [] ∨ closing = [.on_stream_close stream_id])
      (hrun : (run.filter fun c => c.stream = some stream_id)
        = fieldCallbacks stream_id flags reported ++ closing) :
      Heard accepts run stream_id fields none

/-- **A response on the wire**: the fields of the headers submitted, in one block, and the
bytes that nghttp2 read of the body. -/
structure ResponseOnWire (submission : Submission) (schedule : List Session.Pull)
    (response : Http2Client.StreamResponse) : Prop where
  fields : List.Forall₂ Arrives submission.headers response.final.fields
  informational : response.informational = []
  body : Session.produced submission schedule = some response.body

/-- The fields of one name are what arrives of the headers of that name. -/
theorem filter_of_arrives {headers : List nghttp2_nv} {fields : List (Bytes × Bytes)}
    (h : List.Forall₂ Arrives headers fields) (name : Bytes) :
    List.Forall₂ Arrives (headers.filter fun nv => nv.readBack.1 = name)
      (fields.filter fun field => field.1 = name) := by
  induction h with
  | nil => exact .nil
  | @cons nv field headers fields harrives _ ih =>
      by_cases hname : nv.readBack.1 = name
      · rw [List.filter_cons_of_pos (by simpa using hname),
          List.filter_cons_of_pos (by simpa [harrives.1] using hname)]
        exact .cons harrives ih
      · rw [List.filter_cons_of_neg (by simpa using hname),
          List.filter_cons_of_neg (by simpa [harrives.1] using hname)]
        exact ih

/-- If there is one header of a name, and its string is still there, the one field of that name
is what was read of it. -/
theorem filter_eq_singleton {headers : List nghttp2_nv} {fields : List (Bytes × Bytes)}
    (h : List.Forall₂ Arrives headers fields) {name : Bytes} {nv : nghttp2_nv}
    (hone : (headers.filter fun nv => nv.readBack.1 = name) = [nv])
    (hlives : nv.value_lives = true) :
    (fields.filter fun field => field.1 = name) = [nv.readBack] := by
  have hfiltered := filter_of_arrives h name
  rw [hone] at hfiltered
  obtain ⟨field, rest, harrives, hrest, hfields⟩ := List.forall₂_cons_left_iff.mp hfiltered
  rw [List.forall₂_nil_left_iff] at hrest
  rw [hfields, hrest, Prod.ext harrives.1 (harrives.2 hlives)]

/-- What is cut to its length in sixteen bits is whole when its length fits them. -/
theorem take_uint16_eq_iff (s : Bytes) : s.take (uint16 s.length) = s ↔ s.length < 2 ^ 16 := by
  rw [List.take_eq_self_iff, uint16]
  refine ⟨fun h => lt_of_le_of_lt h (Nat.mod_lt _ (by norm_num)), fun h => ?_⟩
  rw [Nat.mod_eq_of_lt h]

/-! ## What a client submits -/

section Submitting

open Http2Client (Asked Connect State)

/-- What a pending operation of the client is for: the caller, and what it asked. -/
structure Errand where
  callback : ℕ
  method : Bytes
  path : Bytes
  body : Bytes

def errands (st : State) : List Errand :=
  (st.connecting.map fun op => ⟨op.callback, op.method, op.path, op.body⟩)
    ++ st.resolving.map fun op => ⟨op.callback, op.method, op.path, op.body⟩

/-- A connect is on the errand of its call. -/
theorem errand_of_connect {st : State} {k : ℕ} {op : Connect}
    (hop : st.connecting[k]? = some op) :
    (⟨op.callback, op.method, op.path, op.body⟩ : Errand) ∈ errands st :=
  List.mem_append_left _ (List.mem_map.mpr ⟨op, List.mem_of_getElem? hop, rfl⟩)

/-- The errand is what its caller asked. -/
def Errand.AsAsked (errand : Errand) (asked : List Asked) : Prop :=
  ∃ r, asked[errand.callback]? = some r ∧ r.method = errand.method ∧ r.path = errand.path
    ∧ r.body = errand.body

variable {st st' : State} {e : Http2Client.Event}

/-- A step takes on the errand of a new call, if any. -/
theorem errands_of_step (hstep : Http2Client.step st e = some st') :
    (st'.asked = st.asked ∧ errands st' ⊆ errands st)
      ∨ ∃ r : Asked, st'.asked = st.asked ++ [r]
          ∧ errands st' ⊆ errands st ++ [⟨st.asked.length, r.method, r.path, r.body⟩] := by
  cases e with
  | send_request host port method path body =>
      obtain rfl := Option.some.inj hstep
      have herrands : errands (st.send_request host port method path body)
          = errands st ++ [⟨st.asked.length, method, path, body⟩] := by
        simp [errands, State.send_request]
      exact .inr ⟨⟨host, port, method, path, body⟩, rfl, herrands ▸ List.Subset.refl _⟩
  | resolve k ec =>
      obtain ⟨op, hop, -, hst⟩ := Http2Client.step_resolve_eq_some hstep
      have hleft : errands { st with resolving := st.resolving.eraseIdx k } ⊆ errands st :=
        List.append_subset.mpr ⟨List.subset_append_left _ _,
          List.subset_append_of_subset_right _ (List.map_subset _ List.eraseIdx_subset)⟩
      cases ec with
      | some message =>
          obtain rfl := Option.some.inj hst
          exact .inl ⟨rfl, hleft⟩
      | none =>
          obtain ⟨socket, -, rfl⟩ := State.resolved_eq_some hst
          refine .inl ⟨rfl, fun errand herrand => ?_⟩
          rw [errands, List.map_append, List.map_singleton, List.append_assoc, List.mem_append,
            List.mem_append, List.mem_singleton] at herrand
          rcases herrand with hconnecting | rfl | hresolving
          · exact List.mem_append_left _ hconnecting
          · -- the connect goes on with the errand of the resolve
            exact List.mem_append_right _
              (List.mem_map.mpr ⟨op, List.mem_of_getElem? hop, rfl⟩)
          · exact hleft (List.mem_append_right _ hresolving)
  | connect k ec accepted =>
      obtain ⟨op, hop, -, hst⟩ := Http2Client.step_connect_eq_some hstep
      have hleft : errands { st with connecting := st.connecting.eraseIdx k } ⊆ errands st :=
        List.append_subset.mpr ⟨List.subset_append_of_subset_left _
          (List.map_subset _ List.eraseIdx_subset), List.subset_append_right _ _⟩
      cases ec with
      | some message =>
          obtain rfl := Option.some.inj hst
          exact .inl ⟨rfl, hleft⟩
      | none =>
          obtain ⟨socket, client, submitted, -, -, rfl⟩ := State.connected_eq_some hst
          exact .inl ⟨rfl, hleft⟩
  | body_read stream_id length =>
      obtain ⟨socket, session, ptr, -, -, -, rfl⟩ := Http2Client.step_body_read_eq_some hstep
      exact .inl ⟨rfl, List.Subset.refl _⟩
  | read k ok =>
      obtain ⟨socket, -, -, -, rfl⟩ := Http2Client.step_read_eq_some hstep
      exact .inl ⟨rfl, List.Subset.refl _⟩
  | recv c =>
      obtain ⟨socket, session, -, -, -, hst⟩ := Http2Client.step_recv_eq_some hstep
      obtain ⟨client, invoked, -, rfl⟩ := State.recv_eq_some hst
      exact .inl ⟨rfl, List.Subset.refl _⟩
  | read_done ok =>
      obtain ⟨socket, -, rfl⟩ := Http2Client.step_read_done_eq_some hstep
      exact .inl ⟨rfl, List.Subset.refl _⟩

/-- **The client goes on with what it was asked**, to the connect of each request. -/
theorem errands_of_run {events : List Http2Client.Event}
    (hrun : Machine.exec Http2Client.step {} events = some st) :
    ∀ errand ∈ errands st, errand.AsAsked st.asked := by
  refine Machine.exec_invariant (fun st => ∀ errand ∈ errands st, errand.AsAsked st.asked)
    (fun st e st' h hstep errand herrand => ?_) (by simp [errands]) hrun
  rcases errands_of_step hstep with ⟨hasked, hsubset⟩ | ⟨r, hasked, hsubset⟩
  · rw [hasked]
    exact h errand (hsubset herrand)
  · rw [hasked]
    rcases List.mem_append.mp (hsubset herrand) with hold | hnew
    · obtain ⟨r', hr', hsame⟩ := h errand hold
      exact ⟨r', Record.getElem?_append_of_some hr' _, hsame⟩
    · obtain rfl := List.mem_singleton.mp hnew
      exact ⟨r, List.getElem?_concat_length, rfl, rfl, rfl⟩

/-- What the submission of a request leaves: its headers, the entry that waits for its
response, and of its body, if it has one, a provider. -/
structure SubmittedFor (st st' : State) (op : Connect) (s : Http2Client.Submission) : Prop where
  submissions : st'.submissions = st.submissions ++ [s]
  asked : st'.asked = st.asked
  callback : s.callback = op.callback
  stream_id : s.stream_id = 1
  headers : s.headers = Http2Client.requestHeaders st.client.current_host_
    st.client.current_port_ op.method op.path op.body
  provider : Http2Client.provider st' s.stream_id
    = if op.body = [] then none else some ⟨st'.client.request_body_storage_.generation⟩
  stored : op.body ≠ [] → st'.client.request_body_storage_.value = op.body
  waits : st.client.streams_.lookup 1 = none →
    st'.client.streams_.lookup s.stream_id = some { callback := some op.callback }

theorem exists_submittedFor {k : ℕ} {op : Connect} (hop : st.connecting[k]? = some op)
    (hstep : Http2Client.step st (.connect k none true) = some st') :
    ∃ s, SubmittedFor st st' op s := by
  obtain ⟨op', hop', -, hst⟩ := Http2Client.step_connect_eq_some hstep
  obtain rfl := Option.some.inj (hop.symm.trans hop')
  obtain ⟨socket, client, submitted, -, hsend, rfl⟩ := State.connected_eq_some hst
  -- the session is new with its connection, so its first stream is 1
  have hfirst : ∀ data_prd, (({} : nghttp2_session).submit_request data_prd).2 = 1 := fun _ => rfl
  by_cases hbody : op.body = []
  · rw [hbody] at hsend
    simp only [Http2Client.send_http2_request, Http2Client.provide_nil,
      Http2Client.setup_nghttp2_client] at hsend
    obtain ⟨rfl, rfl⟩ := Prod.mk.inj hsend
    refine ⟨⟨op.callback, socket, 1, _⟩, rfl, rfl, rfl, rfl, ?_, ?_, fun h => absurd hbody h,
      fun h => ?_⟩
    · rw [hbody]
    · rw [if_pos hbody]
      rfl
    · refine (Finmap.lookup_insert _).trans ?_
      rw [hfirst, h]
      rfl
  · have hprovide := Http2Client.provide_of_ne_nil st.client.setup_nghttp2_client hbody
    rw [Http2Client.setup_nghttp2_client] at hprovide
    simp only [Http2Client.send_http2_request, Http2Client.setup_nghttp2_client, hprovide] at hsend
    obtain ⟨rfl, rfl⟩ := Prod.mk.inj hsend
    refine ⟨⟨op.callback, socket, 1, _⟩, rfl, rfl, rfl, rfl, rfl, ?_, fun _ => rfl, fun h => ?_⟩
    · rw [if_neg hbody]
      rfl
    · refine (Finmap.lookup_insert _).trans ?_
      rw [hfirst, h]
      rfl

theorem submittedFor_of_submissions {k : ℕ} {op : Connect} {s : Http2Client.Submission}
    (hop : st.connecting[k]? = some op)
    (hstep : Http2Client.step st (.connect k none true) = some st')
    (hsubmissions : st'.submissions = st.submissions ++ [s]) : SubmittedFor st st' op s := by
  obtain ⟨s', hsubmitted⟩ := exists_submittedFor hop hstep
  obtain rfl := List.singleton_inj.mp
    (List.append_cancel_left (hsubmissions.symm.trans hsubmitted.submissions))
  exact hsubmitted

end Submitting

/-! ## Requests -/

section Requests

variable {host method path body : Bytes} {port : ℤ} {fields : List (Bytes × Bytes)}

/-- Of the headers of a request one is the method, and one the path. -/
theorem filter_requestHeaders (host : Bytes) (port : ℤ) (method path body : Bytes) :
    ((Http2Client.requestHeaders host port method path body).filter fun nv =>
        nv.readBack.1 = bytes ":method") = [make_nv_ls (bytes ":method") method]
      ∧ ((Http2Client.requestHeaders host port method path body).filter fun nv =>
        nv.readBack.1 = bytes ":path") = [make_nv_ls (bytes ":path") path] := by
  rw [Http2Client.requestHeaders]
  -- the names are literals, so the filter evaluates whatever the values are
  split_ifs <;> exact ⟨rfl, rfl⟩

/-- A header is read back as its name and its value cut to its length. -/
theorem readBack_of_name {name : Bytes} (hname : name.length < 2 ^ 16) (value : Bytes) :
    (make_nv_ls name value).readBack = (name, value.take (uint16 value.length)) := by
  rw [nghttp2_nv.readBack, make_nv_ls, uint16, Nat.mod_eq_of_lt hname, List.take_length]

/-- The server gets the method and the path cut to their lengths. -/
theorem method_path_of_fields {request : Request}
    (h : List.Forall₂ Arrives (Http2Client.requestHeaders host port method path body)
      request.head.fields) :
    request.method = method.take (uint16 method.length)
      ∧ request.path = path.take (uint16 path.length) := by
  obtain ⟨hmethod, hpath⟩ := filter_requestHeaders host port method path body
  -- of what arrives, too, one field is the method and one the path
  have honeMethod := filter_eq_singleton h hmethod rfl
  have honePath := filter_eq_singleton h hpath rfl
  rw [request.one_method, readBack_of_name (by decide)] at honeMethod
  rw [request.one_path, readBack_of_name (by decide)] at honePath
  simp only [List.cons.injEq, Prod.mk.injEq, and_true, true_and] at honeMethod honePath
  exact ⟨honeMethod, honePath⟩

variable {run : List Callback} {stream_id : StreamId} {request : Request}

/-- A request without trailers is dispatched once, and whole, exactly when its last frame comes
in one chunk. -/
theorem dispatches_eq_singleton_iff (hrun : CarriesOn run stream_id request)
    (htrailers : request.trailers = none) (d : Dispatch) :
    Session.dispatches run stream_id = [d]
      ↔ request.EndsInOneChunk ∧ d = ⟨request.method, request.path, request.body, stream_id⟩ := by
  constructor
  · intro hone
    have hends := Session.endsInOneChunk_of_dispatches hrun htrailers hone
    rw [(Session.assembled_of_endsInOneChunk hrun hends).1, List.singleton_inj] at hone
    exact ⟨hends, hone.symm⟩
  · rintro ⟨hends, rfl⟩
    exact (Session.assembled_of_endsInOneChunk hrun hends).1

/-- Header fields and a close dispatch nothing. -/
theorem dispatches_of_fieldCallbacks {flags : UInt8} {reported : List (Bytes × Bytes)}
    {closing : List Callback} (hclosing : closing = [] ∨ closing = [.on_stream_close stream_id])
    (hrun : (run.filter fun c => c.stream = some stream_id)
      = fieldCallbacks stream_id flags reported ++ closing) :
    Session.dispatches run stream_id = [] := by
  rw [Session.dispatches_eq, hrun, Session.foldl_silent]
  intro c hc entry
  rcases List.mem_append.mp hc with hfield | hclose
  · obtain ⟨field, -, rfl⟩ := List.mem_map.mp hfield
    rfl
  · rcases hclosing with rfl | rfl
    · exact absurd hclose List.not_mem_nil
    · obtain rfl := List.mem_singleton.mp hclose
      rfl

theorem Heard.exists_request {accepts : List (Bytes × Bytes) → Bool}
    {fields : List (Bytes × Bytes)} {request : Option Request}
    (h : Heard accepts run stream_id fields request) (haccepts : accepts fields = true) :
    ∃ r, request = some r ∧ CarriesOn run stream_id r := by
  cases h with
  | taken _ hcarries => exact ⟨_, rfl, hcarries⟩
  | refused hrefused _ _ _ =>
      rw [haccepts] at hrefused
      cases hrefused

theorem Heard.dispatches_of_refused {accepts : List (Bytes × Bytes) → Bool}
    {fields : List (Bytes × Bytes)} {request : Option Request}
    (h : Heard accepts run stream_id fields request) (hrefused : accepts fields = false) :
    Session.dispatches run stream_id = [] := by
  cases h with
  | taken haccepts _ =>
      rw [hrefused] at haccepts
      cases haccepts
  | refused _ _ hclosing hrun => exact dispatches_of_fieldCallbacks hclosing hrun

end Requests

/-- One request on its way: the calls with which the client's nghttp2 fetches its body, the
fields that arrive of its headers, and the run of the session at the server, with the request
that its stream carries there if nghttp2 takes the header block. -/
structure Wire (accepts : List (Bytes × Bytes) → Bool) (submitted : Http2Client.State)
    (s : Http2Client.Submission) where
  first : Http2Client.Pull submitted
  rest : List (Http2Client.Pull submitted)
  fields : List (Bytes × Bytes)
  arrives : List.Forall₂ Arrives s.headers fields
  request : Option Request
  on_wire : ∀ r ∈ request, RequestOnWire submitted s (first :: rest) fields r
  run : List Callback
  heard : Heard accepts run s.stream_id fields request

namespace Wire

variable {accepts : List (Bytes × Bytes) → Bool} {st st' : Http2Client.State}
  {op : Http2Client.Connect} {s : Http2Client.Submission}

/-- **What lets a request through whole.** -/
def Whole (wire : Wire accepts st' s) (asked : Http2Client.Asked) : Prop :=
  accepts wire.fields = true ∧ asked.method.length < 2 ^ 16 ∧ asked.path.length < 2 ^ 16
    ∧ asked.body.length ≤ wire.first.length.toNat ∧ ∀ r ∈ wire.request, r.EndsInOneChunk

/-- What of the body gets to the server: what the first buffer holds of it. -/
theorem body_eq (hsubmitted : SubmittedFor st st' op s) (wire : Wire accepts st' s)
    {request : Request} (hrequest : request ∈ wire.request) :
    request.body = op.body.take wire.first.length.toNat := by
  have hwire := wire.on_wire request hrequest
  have hprovider := hsubmitted.provider
  by_cases hbody : op.body = []
  · -- without a body there is no provider, and so no DATA frame
    rw [if_pos hbody] at hprovider
    have hdata : request.data = [] := by
      by_contra hne
      have hsome := hwire.data.mp hne
      rw [hprovider] at hsome
      exact absurd hsome (by simp)
    rw [Request.body, hdata, hbody, List.take_nil]
    rfl
  · rw [if_neg hbody] at hprovider
    have hdrain := hwire.body _ hprovider
    rw [Http2Client.drain_eq_take rfl (hsubmitted.stored hbody) hbody] at hdrain
    exact (Option.some.inj hdrain).symm

/-- Of a request submitted the server dispatches what was asked exactly when it is let through
whole. -/
theorem dispatches_iff {events : List Http2Client.Event} {k : ℕ} {asked : Http2Client.Asked}
    (hrun : Machine.exec Http2Client.step {} events = some st)
    (hop : st.connecting[k]? = some op) (hasked : st.asked[op.callback]? = some asked)
    (hsubmitted : SubmittedFor st st' op s) (wire : Wire accepts st' s) :
    Session.dispatches wire.run s.stream_id
        = [⟨asked.method, asked.path, asked.body, s.stream_id⟩]
      ↔ wire.Whole asked := by
  rcases haccepts : accepts wire.fields with _ | _
  · -- a header block that is refused
    rw [wire.heard.dispatches_of_refused haccepts, Whole, haccepts]
    simp
  obtain ⟨request, hrequest, hcarries⟩ := wire.heard.exists_request haccepts
  have hwire := wire.on_wire request hrequest
  obtain ⟨asked', hasked', hmethod, hpath, hbody⟩ := errands_of_run hrun _ (errand_of_connect hop)
  obtain rfl := Option.some.inj (hasked.symm.trans hasked')
  dsimp only at hmethod hpath hbody
  have hfields := wire.arrives
  rw [hsubmitted.headers, ← hwire.fields] at hfields
  obtain ⟨hmethod', hpath'⟩ := method_path_of_fields hfields
  -- each part of the request is what was asked when it has not been cut
  have hmethodIff : asked.method = request.method ↔ asked.method.length < 2 ^ 16 := by
    rw [hmethod', ← hmethod, eq_comm, take_uint16_eq_iff]
  have hpathIff : asked.path = request.path ↔ asked.path.length < 2 ^ 16 := by
    rw [hpath', ← hpath, eq_comm, take_uint16_eq_iff]
  have hbodyIff : asked.body = request.body ↔ asked.body.length ≤ wire.first.length.toNat := by
    rw [wire.body_eq hsubmitted hrequest, ← hbody, eq_comm, List.take_eq_self_iff]
  have hends : (∀ r ∈ wire.request, r.EndsInOneChunk) ↔ request.EndsInOneChunk := by
    rw [hrequest]
    simp
  rw [dispatches_eq_singleton_iff hcarries hwire.trailers, Dispatch.mk.injEq, hmethodIff,
    hpathIff, hbodyIff, Whole, hends, haccepts]
  tauto

end Wire

/-! ### Requests on the wire -/

/-- A request without a body. -/
def headRequest (fields : List (Bytes × Bytes)) (method path : Bytes)
    (one_method : (fields.filter fun field => field.1 = bytes ":method")
      = [(bytes ":method", method)])
    (one_path : (fields.filter fun field => field.1 = bytes ":path") = [(bytes ":path", path)]) :
    Request where
  method := method
  path := path
  head := ⟨0x05, fields⟩
  data := []
  trailers := none
  one_method := one_method
  one_path := one_path
  chunks_nonempty := by simp
  end_stream := ⟨[], 0x05, rfl, by decide, by simp⟩

section Exists

variable {accepts : List (Bytes × Bytes) → Bool} {st st' : Http2Client.State}
  {op : Http2Client.Connect} {s : Http2Client.Submission}

/-- **A request without a body gets to the server** if nghttp2 there takes its fields, as they
were read by the client's. -/
theorem exists_wire (hsubmitted : SubmittedFor st st' op s) (hbody : op.body = [])
    (haccepts : accepts (s.headers.map nghttp2_nv.readBack) = true)
    (first : Http2Client.Pull st') :
    ∃ wire : Wire accepts st' s, wire.first = first ∧ accepts wire.fields = true
      ∧ (∀ r ∈ wire.request, r.EndsInOneChunk)
      ∧ wire.run = Request.headersCallbacks s.stream_id .REQUEST
          ⟨0x05, s.headers.map nghttp2_nv.readBack⟩ := by
  have harrives : List.Forall₂ Arrives s.headers (s.headers.map nghttp2_nv.readBack) := by
    rw [List.forall₂_map_right_iff]
    exact List.forall₂_same.mpr fun nv _ => ⟨rfl, fun _ => rfl⟩
  obtain ⟨hmethod, hpath⟩ := filter_requestHeaders st.client.current_host_
    st.client.current_port_ op.method op.path op.body
  rw [← hsubmitted.headers] at hmethod hpath
  have hprovider := hsubmitted.provider
  rw [if_pos hbody] at hprovider
  let request := headRequest _ _ _ (filter_eq_singleton harrives hmethod rfl)
    (filter_eq_singleton harrives hpath rfl)
  have hwire : RequestOnWire st' s [first] (s.headers.map nghttp2_nv.readBack) request := by
    refine ⟨rfl, ?_, fun ptr hptr => ?_, rfl⟩
    · rw [hprovider]
      simp [request, headRequest]
    · rw [hprovider] at hptr
      cases hptr
  have hcarries : CarriesOn (request.callbacks s.stream_id) s.stream_id request :=
    (Session.carries_alone request s.stream_id).on (if_pos rfl)
  refine ⟨⟨first, [], _, harrives, some request, ?_, _, .taken haccepts hcarries⟩, rfl, haccepts,
    ?_, ?_⟩
  · rintro r ⟨⟩
    exact hwire
  · rintro r ⟨⟩
    exact ⟨rfl, by simp [request, headRequest]⟩
  · simp [request, headRequest, Request.callbacks]

/-- **Any request is reset** whose fields, as they arrive, nghttp2 at the server refuses. -/
theorem exists_refused_wire {fields reported : List (Bytes × Bytes)}
    (harrives : List.Forall₂ Arrives s.headers fields) (hrefused : accepts fields = false)
    (hreported : reported <+: fields) (first : Http2Client.Pull st') :
    ∃ wire : Wire accepts st' s, wire.fields = fields
      ∧ wire.run = fieldCallbacks s.stream_id 0x04 reported
          ++ [.on_stream_close s.stream_id] := by
  have hown : ∀ c ∈ fieldCallbacks s.stream_id 0x04 reported ++ [.on_stream_close s.stream_id],
      c.stream = some s.stream_id := by
    intro c hc
    rcases List.mem_append.mp hc with hfield | hclose
    · obtain ⟨field, -, rfl⟩ := List.mem_map.mp hfield
      rfl
    · obtain rfl := List.mem_singleton.mp hclose
      rfl
  exact ⟨⟨first, [], fields, harrives, none, by simp, _, .refused hrefused hreported (.inr rfl)
    (List.filter_eq_self.mpr fun c hc => decide_eq_true (hown c hc))⟩, rfl, rfl⟩

end Exists

/-! ### When a request gets to the server -/

/-- **When a request gets to the server.** Of any request that the client submits, at the end
of any run, the server dispatches exactly what was asked, once, when its nghttp2 takes the
fields that arrive, the method and path are shorter than `2^16` bytes, the body fits the first
buffer, and the last frame is delivered in one chunk; and otherwise not. The rest of what goes
on at either end does not matter. -/
theorem request_arrives_iff (accepts : List (Bytes × Bytes) → Bool)
    (events : List Http2Client.Event) (st st' : Http2Client.State)
    (k : ℕ) (op : Http2Client.Connect)
    (hrun : Machine.exec Http2Client.step {} events = some st)
    (hop : st.connecting[k]? = some op)
    (hstep : Http2Client.step st (.connect k none true) = some st') :
    ∃ s asked, st'.submissions = st.submissions ++ [s] ∧ s.callback = op.callback
      ∧ st'.asked[s.callback]? = some asked
      ∧ ∀ wire : Wire accepts st' s,
          Session.dispatches wire.run s.stream_id
              = [⟨asked.method, asked.path, asked.body, s.stream_id⟩]
            ↔ wire.Whole asked := by
  obtain ⟨s, hsubmitted⟩ := exists_submittedFor hop hstep
  obtain ⟨asked, hasked, -⟩ := errands_of_run hrun _ (errand_of_connect hop)
  refine ⟨s, asked, hsubmitted.submissions, hsubmitted.callback, ?_, fun wire => ?_⟩
  · rw [hsubmitted.callback, hsubmitted.asked]
    exact hasked
  · exact wire.dispatches_iff hrun hop hasked hsubmitted

/-- The bytes that nghttp2 allows in the value of a field: no control characters but the tab. -/
def validValue (value : Bytes) : Bool := value.all fun b => b = 0x09 || (0x20 ≤ b && b ≠ 0x7f)

/-- A header block of such values. -/
def validValues (fields : List (Bytes × Bytes)) : Bool :=
  fields.all fun field => validValue field.2

/-- The client, up to the connect of a request. -/
def asking (asked : Http2Client.Asked) : List Http2Client.Event :=
  [.send_request asked.host asked.port asked.method asked.path asked.body, .resolve 0 none]

theorem exists_asking (asked : Http2Client.Asked) :
    ∃ st st' op, Machine.exec Http2Client.step {} (asking asked) = some st
      ∧ st.connecting[0]? = some op ∧ op.callback = 0 ∧ op.body = asked.body ∧ st.asked = [asked]
      ∧ st.submissions = [] ∧ st.client.streams_.lookup 1 = none
      ∧ Http2Client.step st (.connect 0 none true) = some st' :=
  ⟨_, _, _, rfl, rfl, rfl, rfl, rfl, rfl, rfl, rfl⟩

/-- A request for a page. -/
def askedIndex : Http2Client.Asked := ⟨bytes "proxy", 8080, bytes "GET", bytes "/index", []⟩

/-- The header block the server gets of that request. -/
def blockIndex : HeaderBlock where
  flags := 0x05
  fields := [(bytes ":method", bytes "GET"), (bytes ":path", bytes "/index"),
    (bytes ":scheme", bytes "http"), (bytes ":authority", bytes "proxy:8080")]

theorem exists_asking_index :
    ∃ st st' op, Machine.exec Http2Client.step {} (asking askedIndex) = some st
      ∧ st.connecting[0]? = some op ∧ op.callback = 0 ∧ op.body = [] ∧ st.asked = [askedIndex]
      ∧ st.submissions = [] ∧ st.client.streams_.lookup 1 = none
      ∧ (Http2Client.requestHeaders st.client.current_host_ st.client.current_port_ op.method
          op.path op.body).map nghttp2_nv.readBack = blockIndex.fields
      ∧ Http2Client.step st (.connect 0 none true) = some st' :=
  ⟨_, _, _, rfl, rfl, rfl, rfl, rfl, rfl, rfl, rfl, rfl⟩

/-- A request for a page gets there, as it has no body. -/
theorem request_arrives_iff_index :
    ∃ (st' : Http2Client.State) (s : Http2Client.Submission) (wire : Wire validValues st' s),
      st'.submissions = [s]
        ∧ Session.dispatches wire.run s.stream_id
          = [⟨bytes "GET", bytes "/index", [], s.stream_id⟩] := by
  obtain ⟨st, st', op, hrun, hop, hcallback, hbody, hasked, hnone, -, hfields, hstep⟩ :=
    exists_asking_index
  obtain ⟨s, asked, hsubmissions, hsame, hasked', hiff⟩ :=
    request_arrives_iff validValues (asking askedIndex) st st' 0 op hrun hop hstep
  have hsubmitted := submittedFor_of_submissions hop hstep hsubmissions
  rw [hsubmitted.asked, hasked, hsame, hcallback] at hasked'
  obtain rfl := Option.some.inj hasked'
  have haccepts : validValues (s.headers.map nghttp2_nv.readBack) = true := by
    rw [hsubmitted.headers, hfields]
    decide
  obtain ⟨wire, -, htaken, hends, -⟩ :=
    exists_wire hsubmitted hbody haccepts (.atOnce st' 16384 (by decide))
  refine ⟨st', s, wire, ?_,
    (hiff wire).mpr ⟨htaken, by decide, by decide, Nat.zero_le _, hends⟩⟩
  rw [hsubmissions, hnone, List.nil_append]

/-! ## Responses -/

/-- One response on its way back: the calls with which the server's nghttp2 fetches its body,
the response that gets to the client, and the callbacks of the session there. -/
structure WireBack (callback : ℕ) (stream_id : StreamId) (response : HttpResponse) where
  first : Session.Pull
  rest : List Session.Pull
  received : Http2Client.StreamResponse
  on_wire : ResponseOnWire (Session.send_response stream_id response) (first :: rest) received
  streams : StreamId → Option (ℕ × Http2Client.StreamResponse)
  run : List ClientCallback
  receives : Http2Client.Receives streams run
  carried : streams stream_id = some (callback, received)

/-- **What lets a response through whole.** -/
def WireBack.Whole {callback : ℕ} {stream_id : StreamId} {response : HttpResponse}
    (back : WireBack callback stream_id response) : Prop :=
  response.body = [] ∨ Session.FitsFirstPull response back.first

section Responses

variable {client : Http2Client ℕ} {callback : ℕ} {stream_id : StreamId} {response : HttpResponse}

/-- Of the headers of a response one is the status. -/
theorem filter_responseHeaders (stream_id : StreamId) (response : HttpResponse) :
    ((Session.send_response stream_id response).headers.filter fun nv =>
        nv.readBack.1 = bytes ":status")
      = [make_nv_ls (bytes ":status") (toDecimal response.status_code)] := by
  rw [Session.send_response]
  split_ifs <;> rfl

/-- The status that arrives is the one sent. -/
theorem WireBack.status_eq (hstatus : response.status_code.natAbs < 2 ^ 64)
    (back : WireBack callback stream_id response) :
    (back.received.final.status : ℤ) = response.status_code := by
  -- the one status field is the text of the number, which is read back
  have hone := filter_eq_singleton back.on_wire.fields
    (filter_responseHeaders stream_id response) rfl
  have hlength : (toDecimal response.status_code).length < 2 ^ 16 := by
    have := length_toDecimal_le hstatus
    omega
  rw [back.received.final.one_status, readBack_make_nv_ls (by decide) hlength] at hone
  simp only [List.cons.injEq, Prod.mk.injEq, and_true, true_and] at hone
  refine toDecimal_injective ?_
  rw [← hone, toDecimal_of_nonneg (Int.natCast_nonneg _), Int.natAbs_natCast]

/-- The body that arrives is the one sent exactly when it arrives whole. -/
theorem WireBack.body_eq_iff (back : WireBack callback stream_id response) :
    back.received.body = response.body ↔ back.Whole := by
  have hproduced := back.on_wire.body
  by_cases hbody : response.body = []
  · have hnone : Session.produced (Session.send_response stream_id response)
        (back.first :: back.rest) = some [] := by
      rw [Session.send_response, if_pos hbody]
      rfl
    rw [hnone] at hproduced
    exact iff_of_true (hbody ▸ (Option.some.inj hproduced).symm) (.inl hbody)
  · rw [Whole, or_iff_right hbody,
      ← Session.produced_eq_body_iff stream_id response hbody back.first back.rest, hproduced,
      Option.some.injEq]

/-- Of a response sent the caller is told the status and the body, once, exactly when it is let
through whole, whatever else arrives on the session. -/
theorem WireBack.told_iff (hstatus : response.status_code.natAbs < 2 ^ 64)
    (hwaits : client.streams_.lookup stream_id = some { callback := some callback })
    (back : WireBack callback stream_id response) :
    ∃ st, Machine.exec Http2Client.recv (client, []) back.run = some st
      ∧ ((st.2.filter fun d => d.stream_id = stream_id)
            = [⟨stream_id, callback, ⟨response.status_code, response.body⟩, []⟩]
          ↔ back.Whole) := by
  have hsteps : ∀ c ∈ back.run, ∀ st, ∃ st', Http2Client.recv st c = some st' :=
    fun c hc => Http2Client.exists_recv fun _ _ => back.receives.parses hc
  obtain ⟨st, hrun⟩ := Machine.exists_exec_eq_some hsteps (client, [])
  refine ⟨st, hrun, ?_⟩
  -- the stream is looked at alone, from the entry that waits to the close
  have hview := Http2Client.view_of_run hrun stream_id
  rw [back.receives stream_id, back.carried, Http2Client.view, Http2Client.view,
    hwaits] at hview
  have hlog := congrArg Prod.snd (hview.trans (back.received.foldl_deliver stream_id callback))
  dsimp only at hlog
  rw [hlog, ← back.body_eq_iff, Http2Client.StreamResponse.taken, back.on_wire.informational,
    back.status_eq hstatus]
  simp

end Responses

/-! ## A tunnel's request -/

section Tunnels

open ForwardingClient (ServerRequest)
open ProxyRequestHandler (requested)

variable {config : TunnelConfig} {request : RegistrationRequest}

/-- What a tunnel prints of its configuration is what the library prints of the request. -/
theorem registration_data_of_request (h : ForwardingClient.request config = some request) :
    ForwardingClient.register_with_server.registration_data config
        = some (ProxyClient.register_backend.registration_data request)
      ∧ ForwardingClient.unregister_from_server.unregistration_data config
        = some (ProxyClient.unregister_backend.unregistration_data request.backend_id) := by
  simp only [ForwardingClient.request, bind, Option.bind_eq_some_iff] at h
  obtain ⟨backend_id, hid, host, hhost, path_pattern, hpattern, h⟩ := h
  obtain rfl := Option.some.inj h
  simp only [ForwardingClient.register_with_server.registration_data,
    ForwardingClient.unregister_from_server.unregistration_data, hid, hhost, hpattern, bind,
    Option.bind]
  exact ⟨rfl, rfl⟩

/-- The call on the routing table that a tunnel's request is for. -/
def wanted (request : RegistrationRequest) : ForwardingClient.ServerAction → RegistryCall
  | .register => .registering (Registration.ruleOf request)
  | .unregister => .unregister_backend (bytes request.backend_id)

/-- The value that is printed for a tunnel's request. -/
def printed (request : RegistrationRequest) : ForwardingClient.ServerAction → Json
  | .register => ProxyClient.register_backend.registration_data request
  | .unregister => ProxyClient.unregister_backend.unregistration_data request.backend_id

/-- What is wanted is what the server takes the request for. -/
theorem requested_of_tunnel {json : JsonLibrary} {r : ServerRequest}
    (hrequest : ForwardingClient.request r.config = some request)
    (hjson : json.Undoes (printed request r.action)) :
    requested json r.action.method (r.body json) = some (wanted request r.action) := by
  obtain ⟨hregister, hunregister⟩ := registration_data_of_request hrequest
  obtain ⟨action, config, port⟩ := r
  cases action with
  | register =>
      refine Registration.requested_registrationBody (.proxy_client ?_) hjson
      rw [ServerRequest.body, ForwardingClient.ServerAction.data, hregister]
      rfl
  | unregister =>
      refine Registration.requested_unregistrationBody (.proxy_client ?_) hjson
      rw [ServerRequest.body, ForwardingClient.ServerAction.data, hunregister]
      rfl

/-- What the server answers a tunnel's request. -/
def answer (json : JsonLibrary) (r : ServerRequest) : HttpResponse :=
  (ProxyRequestHandler.registrationAnswer json r.action.method (r.body json)).2

theorem status_code_answer {json : JsonLibrary} {r : ServerRequest}
    (hrequest : ForwardingClient.request r.config = some request)
    (hjson : json.Undoes (printed request r.action)) : (answer json r).status_code = 200 := by
  rw [answer, ProxyRequestHandler.registrationAnswer_status,
    ProxyRequestHandler.registrationAnswer_fst, requested_of_tunnel hrequest hjson,
    Option.isSome_some]

/-- What the server does with a tunnel's request. -/
theorem exec_request_handler_of_tunnel {S : Type} {json : JsonLibrary} (verbs : List Bytes)
    (enumerate : Enumeration) {r : ServerRequest}
    (hrequest : ForwardingClient.request r.config = some request)
    (hjson : json.Undoes (printed request r.action)) (stream_id : StreamId) (w : World S)
    (sender : S) :
    HandlerM.exec (Main.request_handler json verbs enumerate (.of r.action.method)
        (.of (bytes "/proxy/register")) (.of (r.body json)) stream_id sender) w
      = (.ok (), (w.call (wanted request r.action)).reply sender stream_id (answer json r)) := by
  have hmethod : r.action.method = bytes "POST" ∨ r.action.method = bytes "DELETE" := by
    cases r.action with
    | register => exact .inl rfl
    | unregister => exact .inr rfl
  rw [Main.exec_request_handler_of_registration json verbs enumerate _ stream_id sender w hmethod,
    ProxyRequestHandler.exec_handle_registration_request_eq, StringView.chars_of,
    StringView.chars_of, ProxyRequestHandler.registrationAnswer_fst,
    requested_of_tunnel hrequest hjson]
  rfl

/-- The callbacks of the client's session when its stream is reset: of the stream itself, the
close. The caller is told of a response it has not got, and of no error. -/
theorem told_of_reset {client : Http2Client ℕ} {callback : ℕ} {stream_id : StreamId}
    (hwaits : client.streams_.lookup stream_id = some { callback := some callback })
    {code : UInt32} {run : List ClientCallback} {told : Http2Client ℕ × List Http2Client.Delivery}
    (hrun : Machine.exec Http2Client.recv (client, []) run = some told)
    (hreset : (run.filter fun c => c.stream = stream_id ∧ c.isFrame = false)
      = [.on_stream_close stream_id code]) :
    (told.2.filter fun d => d.stream_id = stream_id) = [⟨stream_id, callback, {}, []⟩] := by
  have hview := Http2Client.view_of_run hrun stream_id
  rw [hreset, Http2Client.view, Http2Client.view, hwaits] at hview
  exact congrArg Prod.snd hview

/-- **A tunnel's request over HTTP/2**, from the call to the answer. Of a request the tunnel
client has asked its HTTP/2 client for, submitted there on a stream that nothing waits on:

* let through whole, the server makes one dispatch; its handler makes the one call on the
  routing table that the tunnel wanted, whatever the table, and answers 200; and the caller is
  told just that, once, exactly when the answer is let through whole;
* if nghttp2 at the server refuses its header block, nothing is dispatched, and when the stream
  is closed the caller is told, once, of status 0 and an empty body, as if that were an answer. -/
theorem tunnel_request_served {S : Type} (accepts : List (Bytes × Bytes) → Bool)
    (json : JsonLibrary) (verbs : List Bytes) (enumerate : Enumeration) (r : ServerRequest)
    (request : RegistrationRequest)
    (hrequest : ForwardingClient.request r.config = some request)
    (hjson : json.Undoes (printed request r.action))
    (events : List Http2Client.Event) (st st' : Http2Client.State) (k : ℕ)
    (op : Http2Client.Connect) (hrun : Machine.exec Http2Client.step {} events = some st)
    (hop : st.connecting[k]? = some op)
    (hasked : st.asked[op.callback]? = some (r.asked json))
    (hfree : st.client.streams_.lookup 1 = none)
    (hstep : Http2Client.step st (.connect k none true) = some st') :
    ∃ s, st'.submissions = st.submissions ++ [s]
      ∧ ∀ wire : Wire accepts st' s,
        (wire.Whole (r.asked json) →
          (∃ d, Session.dispatches wire.run s.stream_id = [d]
            ∧ ∀ (w : World S) (sender : S),
              HandlerM.exec (Main.request_handler json verbs enumerate (.of d.method) (.of d.path)
                  (.of d.body) d.stream_id sender) w
                = (.ok (), (w.call (wanted request r.action)).reply sender s.stream_id
                    (answer json r)))
          ∧ ∀ back : WireBack op.callback s.stream_id (answer json r),
              ∃ told, Machine.exec Http2Client.recv (st'.client, []) back.run = some told
                ∧ ((told.2.filter fun d => d.stream_id = s.stream_id)
                    = [⟨s.stream_id, op.callback, ⟨200, (answer json r).body⟩, []⟩]
                  ↔ back.Whole))
        ∧ (accepts wire.fields = false →
          Session.dispatches wire.run s.stream_id = []
          ∧ ∀ (code : UInt32) (run : List ClientCallback)
              (told : Http2Client ℕ × List Http2Client.Delivery),
              Machine.exec Http2Client.recv (st'.client, []) run = some told →
              (run.filter fun c => c.stream = s.stream_id ∧ c.isFrame = false)
                = [.on_stream_close s.stream_id code] →
              (told.2.filter fun d => d.stream_id = s.stream_id)
                = [⟨s.stream_id, op.callback, {}, []⟩]) := by
  obtain ⟨s, hsubmitted⟩ := exists_submittedFor hop hstep
  have hstatus := status_code_answer hrequest hjson
  have hlt : (answer json r).status_code.natAbs < 2 ^ 64 := by
    rw [hstatus]
    decide
  refine ⟨s, hsubmitted.submissions, fun wire => ⟨fun hwhole => ⟨⟨_, (wire.dispatches_iff hrun hop
    hasked hsubmitted).mpr hwhole, fun w sender => ?_⟩, fun back => ?_⟩, fun hrefused =>
    ⟨wire.heard.dispatches_of_refused hrefused, fun code run told htold hreset => ?_⟩⟩⟩
  · exact exec_request_handler_of_tunnel verbs enumerate hrequest hjson s.stream_id w sender
  · have htold := back.told_iff hlt (hsubmitted.waits hfree)
    rwa [hstatus] at htold
  · exact told_of_reset (hsubmitted.waits hfree) htold hreset

/-- The unregistration of a tunnel whose id needs escaping. -/
def unregistering : ServerRequest := ⟨.unregister, Registration.quotedTunnel, 8080⟩

/-- What that tunnel asks for, as a request of the library. -/
def unregisteringRequest : RegistrationRequest := ⟨"a\"b", "localhost", 9999, "/"⟩

theorem request_quotedTunnel :
    ForwardingClient.request Registration.quotedTunnel = some unregisteringRequest := by
  simp only [ForwardingClient.request, Registration.quotedTunnel, utf8_bytes, bind, Option.bind]
  rfl

/-- What arrives of headers when the memory of a string that is gone has been used again. -/
def overwritten (junk : Bytes) (headers : List nghttp2_nv) : List (Bytes × Bytes) :=
  headers.map fun nv => if nv.value_lives then nv.readBack else (nv.readBack.1, junk)

theorem arrives_overwritten (junk : Bytes) (headers : List nghttp2_nv) :
    List.Forall₂ Arrives headers (overwritten junk headers) := by
  rw [overwritten, List.forall₂_map_right_iff]
  refine List.forall₂_same.mpr fun nv _ => ⟨?_, fun hlives => ?_⟩
  · split_ifs <;> rfl
  · rw [if_pos hlives]

/-- A request with a body is refused when its content type arrives as control characters. -/
theorem validValues_overwritten {junk : Bytes} (hjunk : validValue junk = false) (host : Bytes)
    (port : ℤ) (method path : Bytes) {body : Bytes} (hbody : body ≠ []) :
    validValues (overwritten junk (Http2Client.requestHeaders host port method path body))
      = false := by
  rw [validValues, List.all_eq_false]
  refine ⟨(bytes "content-type", junk), List.mem_map.mpr
    ⟨make_nv_ls_temporary (bytes "content-type") (bytes "application/json"), ?_, rfl⟩,
    by simpa using hjunk⟩
  rw [Http2Client.requestHeaders, if_pos hbody]
  simp

/-- The unregistration is refused, its content type overwritten by zeros, and the tunnel client
is told of a response with status 0. -/
theorem tunnel_request_served_unregistering :
    ∃ (st' : Http2Client.State) (s : Http2Client.Submission) (wire : Wire validValues st' s)
      (told : Http2Client ℕ × List Http2Client.Delivery),
      st'.submissions = [s]
        ∧ wire.fields = overwritten (List.replicate 16 0) s.headers
        ∧ wire.run = fieldCallbacks s.stream_id 0x04 (wire.fields.take 5)
          ++ [.on_stream_close s.stream_id]
        ∧ Session.dispatches wire.run s.stream_id = []
        ∧ Machine.exec Http2Client.recv (st'.client, []) [.on_stream_close s.stream_id 1]
          = some told
        ∧ (told.2.filter fun d => d.stream_id = s.stream_id) = [⟨s.stream_id, 0, {}, []⟩] := by
  obtain ⟨st, st', op, hrun, hop, hcallback, hbody, hasked, hnone, hfree, hstep⟩ :=
    exists_asking (unregistering.asked Registration.quotedJson)
  have hasked' : st.asked[op.callback]? = some (unregistering.asked Registration.quotedJson) := by
    rw [hcallback, hasked]
    rfl
  obtain ⟨s, hsubmissions, hserved⟩ := tunnel_request_served (S := Unit) validValues
    Registration.quotedJson documentedVerbs anyOrder unregistering unregisteringRequest
    request_quotedTunnel Registration.quotedJson_undoes_unregistration _ st st' 0 op hrun hop
    hasked' hfree hstep
  have hsubmitted := submittedFor_of_submissions hop hstep hsubmissions
  -- the body is not empty, so there is a content type to be overwritten
  have hne : op.body ≠ [] := by
    have htext : unregistering.body Registration.quotedJson = Registration.quotedIdText := by
      rw [ServerRequest.body, unregistering, ForwardingClient.ServerAction.data,
        (registration_data_of_request request_quotedTunnel).2]
      rfl
    rw [hbody]
    change unregistering.body Registration.quotedJson ≠ []
    rw [htext]
    decide
  have hrefused : validValues (overwritten (List.replicate 16 0) s.headers) = false := by
    rw [hsubmitted.headers]
    exact validValues_overwritten (by decide) _ _ _ _ hne
  obtain ⟨wire, hfields, hwire⟩ := exists_refused_wire
    (arrives_overwritten (List.replicate 16 0) s.headers) hrefused (List.take_prefix 5 _)
    (.atOnce st' 16384 (by decide))
  obtain ⟨hdispatches, htold⟩ := (hserved wire).2 (hfields ▸ hrefused)
  -- the close does not throw
  obtain ⟨told, hrecv⟩ : ∃ told, Machine.exec Http2Client.recv (st'.client, [])
      [.on_stream_close s.stream_id 1] = some told := ⟨_, rfl⟩
  refine ⟨st', s, wire, told, ?_, hfields, hfields ▸ hwire, hdispatches, hrecv, ?_⟩
  · rw [hsubmissions, hnone, List.nil_append]
  · rw [← hcallback]
    refine htold 1 _ told hrecv ?_
    simp [ClientCallback.stream, ClientCallback.isFrame]

end Tunnels

end Http2Exchange

end Http2Server
