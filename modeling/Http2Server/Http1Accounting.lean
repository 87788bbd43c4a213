/-
The books of the HTTP/1.1 proxy: which requests the manager's table holds, and how often
each session writes to its client.

Two invariants, kept apart because they rest on different things. `Tracked` holds in
every run: each session has a request of its own, numbered by a counter that wraps, and
its record agrees with the operation it waits for (`Disciplined`). `Accounts` ties the
table to the sessions: it holds exactly the requests that are neither completed nor
expired. That needs every id given out to be free (`FreshId`); a counter that wraps into
the id of a session still running would break it, and cannot within 2^64 sessions.

`accounted` is the result: fewer than 2^64 sessions, in any interleaving, are accounted
for.
-/
import Http2Server.Http1Session
import Http2Server.Lib.Pool

set_option autoImplicit false

open ByteString UnorderedMap

namespace Http2Server

/-! ## One session -/

/-- The record of a session agrees with the operation it waits for: nothing is written
before the request is read, one response from then on, and none when it never is. -/
def Disciplined (session : Http1SessionObject) : Prop :=
  match session.pending with
  | some .read_request => session.received = none ∧ session.client_writes = []
  | some (.client_write response) =>
      session.received.isSome ∧ session.client_writes = [response]
  | some _ => session.received.isSome ∧ session.client_writes = []
  | none =>
      (session.received.isSome ∧ session.client_writes.length = 1)
        ∨ (session.received = none ∧ session.client_writes = [])

namespace Disciplined

variable {session : Http1SessionObject} {request : ActiveRequest} {stage : Http1Stage}
  {completion : Http1Completion} {handled : Handled}

/-- Before the response write starts, nothing has been written, and once the read has
completed the request is on record. -/
theorem before_write (h : Disciplined session) (hpending : session.pending = some stage)
    (hwrite : ∀ written, stage ≠ .client_write written)
    (hread : stage = .read_request → ∃ message, completion = .received_request message) :
    (session.record completion).received.isSome ∧ session.client_writes = [] := by
  rw [Disciplined, hpending] at h
  cases stage with
  | read_request =>
      obtain ⟨message, rfl⟩ := hread rfl
      refine ⟨?_, h.2⟩
      simp [Http1SessionObject.record, hpending]
  | client_write response => exact absurd rfl (hwrite response)
  | resolve rule => exact ⟨by simpa [Http1SessionObject.record, hpending] using h.1, h.2⟩
  | connect endpoint rule => exact ⟨by simpa [Http1SessionObject.record, hpending] using h.1, h.2⟩
  | backend_write => exact ⟨by simpa [Http1SessionObject.record, hpending] using h.1, h.2⟩
  | backend_read => exact ⟨by simpa [Http1SessionObject.record, hpending] using h.1, h.2⟩

/-- **A completion keeps a session disciplined.** -/
theorem progress (h : Disciplined session) (hpending : session.pending = some stage)
    (hprogress : Progress session request stage completion handled) :
    Disciplined handled.session := by
  cases hprogress with
  | ended hclient hread hsession _ _ =>
      rw [hsession]
      rw [Disciplined, hpending] at h
      cases stage with
      | read_request =>
          -- the read failed, so there is nothing to answer
          refine Or.inr ⟨?_, ?_⟩
          · cases completion with
            | failed message =>
                simpa [Http1SessionObject.finish, Http1SessionObject.record, hpending] using h.1
            | _ => simp [Http1Completion.fails] at hread
          · rw [Http1SessionObject.finish_client_writes, Http1SessionObject.record_client_writes]
            exact h.2
      | client_write response =>
          refine Or.inl ⟨?_, ?_⟩
          · cases completion <;>
              simpa [Http1SessionObject.finish, Http1SessionObject.record, hpending] using h.1
          · rw [Http1SessionObject.finish_client_writes, Http1SessionObject.record_client_writes,
              h.2]
            rfl
      | _ => exact absurd hclient id
  | responded response hwrite hread _ hsession _ _ =>
      obtain ⟨hreceived, hwrites⟩ := h.before_write hpending hwrite hread
      rw [hsession]
      refine ⟨hreceived, ?_⟩
      rw [Http1SessionObject.async_write_client_writes, Http1SessionObject.record_client_writes,
        hwrites, List.nil_append]
  | moved next hwrite hread _ hnext _ hsession _ _ =>
      obtain ⟨hreceived, hwrites⟩ := h.before_write hpending hwrite hread
      have hafter : (handled.session.received.isSome = true)
          ∧ handled.session.client_writes = [] := by
        rw [hsession, Http1SessionObject.await_client_writes,
          Http1SessionObject.record_client_writes]
        exact ⟨hreceived, hwrites⟩
      have hnow : handled.session.pending = some next := by
        rw [hsession, Http1SessionObject.await_pending]
      rw [Disciplined, hnow]
      cases next with
      | read_request => exact absurd trivial hnext
      | client_write response => exact absurd trivial hnext
      | resolve rule => exact hafter
      | connect endpoint rule => exact hafter
      | backend_write => exact hafter
      | backend_read => exact hafter

/-- What the discipline says of the responses a session has started to write. -/
theorem writes (h : Disciplined session) :
    session.client_writes.length ≤ 1
      ∧ (session.received = none → session.client_writes = [])
      ∧ (session.pending = none → session.received.isSome → session.client_writes.length = 1) := by
  unfold Disciplined at h
  split at h
  · rename_i hpending
    refine ⟨by simp [h.2], fun _ => h.2, fun hended => ?_⟩
    rw [hpending] at hended
    exact absurd hended (by simp)
  · rename_i response hpending
    refine ⟨by simp [h.2], fun hnone => ?_, fun hended => ?_⟩
    · rw [hnone] at h
      exact absurd h.1 (by simp)
    · rw [hpending] at hended
      exact absurd hended (by simp)
  · rename_i hpending
    refine ⟨by simp [h.2], fun _ => h.2, fun hended => ?_⟩
    rw [hpending] at hended
    exact absurd hended (by simp)
  · rcases h with ⟨hreceived, hone⟩ | ⟨hnone, hwrites⟩
    · refine ⟨by omega, fun hnone => ?_, fun _ _ => hone⟩
      rw [hnone] at hreceived
      exact absurd hreceived (by simp)
    · refine ⟨by simp [hwrites], fun _ => hwrites, fun _ hsome => ?_⟩
      rw [hnone] at hsome
      exact absurd hsome (by simp)

end Disciplined

/-- A session ends exactly when its handler completes its request. -/
theorem Progress.pending_eq_none_iff {session : Http1SessionObject} {request : ActiveRequest}
    {stage : Http1Stage} {completion : Http1Completion} {handled : Handled}
    (h : Progress session request stage completion handled) :
    handled.session.pending = none ↔ handled.completes = true := by
  cases h with
  | ended _ _ hsession _ hcompletes => simp [hsession, hcompletes]
  | responded response _ _ _ hsession _ hcompletes => simp [hsession, hcompletes]
  | moved next _ _ _ _ _ hsession _ hcompletes => simp [hsession, hcompletes]

namespace Http1Proxy

variable {json : JsonLibrary} {st st' : Http1Proxy}

/-! ## What a step does to the ids -/

/-- The request of a new session has the next id. -/
theorem requestId_accept_self (st : Http1Proxy) (now : ℤ) :
    (st.accept now).manager.requestId st.manager.requests.length
      = some st.manager.next_request_id_ :=
  (ActiveRequestManager.requestId_update _ (f := fun request => request.set_state .Parsing)
    (fun _ _ => rfl) _).trans
    (st.manager.requestId_create_request_self now)

/-- A new session leaves the ids of the other requests. -/
theorem requestId_accept_of_ne (st : Http1Proxy) (now : ℤ) {ptr : RequestPtr}
    (h : ptr ≠ st.manager.requests.length) :
    (st.accept now).manager.requestId ptr = st.manager.requestId ptr :=
  (ActiveRequestManager.requestId_update _ (f := fun request => request.set_state .Parsing)
    (fun _ _ => rfl) _).trans
    (st.manager.requestId_create_request_of_ne now h)

/-- A session's handler changes no id. -/
theorem requestId_store {k : ℕ} {handled : Handled} {world : World Unit} {request : ActiveRequest}
    (hrequest : st.manager.requests[handled.session.active_request_]? = some request)
    (hid : handled.request.request_id_ = request.request_id_) (ptr : RequestPtr) :
    (st.store k handled world).manager.requestId ptr = st.manager.requestId ptr := by
  have hupdate : (st.manager.update handled.session.active_request_
      fun _ => handled.request).requestId ptr = st.manager.requestId ptr := by
    refine ActiveRequestManager.requestId_update _ (fun old hold => ?_) ptr
    rw [hrequest] at hold
    rw [hid, Option.some.inj hold]
  rw [store]
  split_ifs
  · rw [ActiveRequestManager.requestId_complete_request, hupdate]
  · exact hupdate

theorem length_store (k : ℕ) (handled : Handled) (world : World Unit) :
    (st.store k handled world).manager.requests.length = st.manager.requests.length := by
  rw [store]
  split_ifs
  · rw [ActiveRequestManager.length_complete_request, ActiveRequestManager.length_update]
  · exact ActiveRequestManager.length_update _ _ _

theorem next_store (k : ℕ) (handled : Handled) (world : World Unit) :
    (st.store k handled world).manager.next_request_id_ = st.manager.next_request_id_ := by
  rw [store]
  split_ifs
  · rw [ActiveRequestManager.next_complete_request, ActiveRequestManager.update_next_request_id]
  · rfl

theorem mem_completed_store {k : ℕ} {handled : Handled} {world : World Unit} {ptr : RequestPtr} :
    ptr ∈ (st.store k handled world).completed
      ↔ ptr ∈ st.completed
        ∨ (handled.completes = true ∧ ptr = handled.session.active_request_) := by
  rw [store]
  split_ifs with hcompletes
  · simp [hcompletes]
  · simp [hcompletes]

/-! ## What holds in every run -/

/-- Each session has a request of its own, numbered by the counter, and is disciplined; it
has ended exactly when its request is completed. -/
structure Tracked (st : Http1Proxy) : Prop where
  length : st.sessions.length = st.manager.requests.length
  own : ∀ (k : ℕ) (session : Http1SessionObject), st.sessions[k]? = some session →
    session.active_request_ = k
  disciplined : ∀ session ∈ st.sessions, Disciplined session
  ended_iff : ∀ (k : ℕ) (session : Http1SessionObject), st.sessions[k]? = some session →
    (session.pending = none ↔ k ∈ st.completed)
  completed_lt : ∀ ptr ∈ st.completed, ptr < st.manager.requests.length
  expired_lt : ∀ ptr ∈ st.expired, ptr < st.manager.requests.length
  id : ∀ ptr id, st.manager.requestId ptr = some id → id = UInt64.ofNat (ptr + 1)
  next : st.manager.next_request_id_ = UInt64.ofNat (st.manager.requests.length + 1)

theorem tracked_start (registry : BackendRegistry) : Tracked (start registry) where
  length := rfl
  own := by simp [start]
  disciplined := by simp [start]
  ended_iff := by simp [start]
  completed_lt := by simp [start]
  expired_lt := by simp [start]
  id := by simp [start, ActiveRequestManager.requestId]
  next := rfl

theorem length_accept (st : Http1Proxy) (now : ℤ) :
    (st.accept now).manager.requests.length = st.manager.requests.length + 1 := by
  simp [accept, ActiveRequestManager.create_request]

theorem Tracked.accept (h : Tracked st) (now : ℤ) : Tracked (st.accept now) := by
  have hlen := length_accept st now
  refine ⟨?_, fun k session hsession => ?_, ?_, fun k session hsession => ?_, ?_, ?_,
    fun ptr id hid => ?_, ?_⟩
  · rw [hlen, ← h.length]
    exact List.length_append ..
  · rcases Record.getElem?_concat_cases hsession with hold | ⟨rfl, rfl⟩
    · exact h.own k session hold
    · exact h.length.symm
  · exact Record.forall_mem_concat h.disciplined ⟨rfl, rfl⟩
  · rcases Record.getElem?_concat_cases hsession with hold | ⟨rfl, rfl⟩
    · exact h.ended_iff k session hold
    · -- the new session runs, and its place is new
      refine iff_of_false (by simp) fun hcompleted => ?_
      have hlt := h.completed_lt _ hcompleted
      rw [← h.length] at hlt
      exact absurd hlt (lt_irrefl _)
  · exact fun ptr hptr => lt_of_lt_of_eq (Nat.lt_succ_of_lt (h.completed_lt ptr hptr)) hlen.symm
  · exact fun ptr hptr => lt_of_lt_of_eq (Nat.lt_succ_of_lt (h.expired_lt ptr hptr)) hlen.symm
  · by_cases hnew : ptr = st.manager.requests.length
    · rw [hnew, requestId_accept_self, Option.some.injEq] at hid
      rw [← hid, h.next, hnew]
    · rw [requestId_accept_of_ne _ _ hnew] at hid
      exact h.id ptr id hid
  · rw [hlen]
    calc (st.accept now).manager.next_request_id_
        = st.manager.next_request_id_ + 1 := rfl
      _ = UInt64.ofNat (st.manager.requests.length + 1) + UInt64.ofNat 1 := by rw [h.next]; rfl
      _ = UInt64.ofNat (st.manager.requests.length + 1 + 1) := by rw [← UInt64.ofNat_add]

theorem Tracked.complete {k : ℕ} {completion : Http1Completion} {enumerate : Enumeration}
    (h : Tracked st) (hstep : step json st (.complete k completion enumerate) = some st') :
    Tracked st' := by
  obtain ⟨session, request, handled, world, hsession, hrequest, hcomplete, rfl⟩ :=
    step_complete_eq_some hstep
  obtain ⟨hptr, hid⟩ := Http1ProxySession.complete_ids hcomplete
  have hk : handled.session.active_request_ = k := hptr.trans (h.own k session hsession)
  obtain ⟨stage, hpending⟩ := Http1ProxySession.exists_pending hcomplete
  have hprogress := Http1ProxySession.complete_cases hpending hcomplete
  have hlt : k < st.sessions.length := (List.getElem?_eq_some_iff.mp hsession).1
  have hlen : (st.store k handled world).manager.requests.length = st.manager.requests.length :=
    length_store k handled world
  rw [← hptr] at hrequest
  refine ⟨?_, fun j s hs => ?_, fun s hs => ?_, fun j s hs => ?_, fun ptr hmem => ?_, ?_,
    fun ptr id hptrid => ?_, ?_⟩
  · rw [hlen, ← h.length]
    exact List.length_set ..
  · rcases Record.getElem?_set_cases hs with ⟨rfl, rfl⟩ | ⟨-, hs⟩
    · exact hk
    · exact h.own j s hs
  · rcases List.mem_or_eq_of_mem_set hs with hs | rfl
    · exact h.disciplined s hs
    · exact (h.disciplined session (List.mem_of_getElem? hsession)).progress hpending hprogress
  · rw [mem_completed_store, hk]
    rcases Record.getElem?_set_cases hs with ⟨rfl, rfl⟩ | ⟨hj, hs⟩
    · -- it was running until now
      have hrunning : j ∉ st.completed := by
        rw [← h.ended_iff j session hsession, hpending]
        simp
      rw [hprogress.pending_eq_none_iff]
      simp [hrunning]
    · rw [h.ended_iff j s hs]
      simp [hj]
  · rw [hlen]
    rcases mem_completed_store.mp hmem with hold | ⟨-, rfl⟩
    · exact h.completed_lt ptr hold
    · rw [hk, ← h.length]
      exact hlt
  · rw [hlen]
    exact h.expired_lt
  · rw [requestId_store hrequest hid] at hptrid
    exact h.id ptr id hptrid
  · rw [hlen, next_store, h.next]

theorem Tracked.cleanup (h : Tracked st) (now : ℤ) (order : Order st.manager.active_requests_) :
    Tracked (st.cleanup now order) := by
  have hclean := st.manager.cleanup_expired_requests_spec order now
  have hlen : (st.cleanup now order).manager.requests.length = st.manager.requests.length :=
    hclean.length
  refine ⟨h.length.trans hlen.symm, h.own, h.disciplined, h.ended_iff, ?_, ?_,
    fun ptr id hid => h.id ptr id ((hclean.requestId ptr).symm.trans hid), ?_⟩
  · rw [hlen]
    exact h.completed_lt
  · intro ptr hptr
    rw [hlen]
    rcases List.mem_append.mp hptr with hold | hwarned
    · exact h.expired_lt ptr hold
    · obtain ⟨-, -, request, hrequest, -⟩ := (hclean.warned ptr).mp hwarned
      exact (List.getElem?_eq_some_iff.mp hrequest).1
  · rw [hlen, ← h.next]
    exact hclean.next

/-- **Every step keeps track.** -/
theorem tracked_step (st : Http1Proxy) (e : Event) (st' : Http1Proxy) (h : Tracked st)
    (hstep : step json st e = some st') : Tracked st' := by
  cases e with
  | accept now => exact Option.some.inj hstep ▸ h.accept now
  | complete k completion enumerate => exact h.complete hstep
  | registry call =>
      obtain rfl := Option.some.inj hstep
      exact ⟨h.length, h.own, h.disciplined, h.ended_iff, h.completed_lt, h.expired_lt, h.id,
        h.next⟩
  | cleanup now order => exact Option.some.inj hstep ▸ h.cleanup now _

/-! ## The table -/

/-- Running sessions have requests of distinct ids, and the table holds exactly the
requests that are neither completed nor expired. -/
structure Accounts (st : Http1Proxy) : Prop where
  distinct : ∀ i j id, st.manager.requestId i = some id → st.manager.requestId j = some id →
    i ∉ st.completed → j ∉ st.completed → i = j
  table : ∀ id ptr, st.manager.active_requests_.lookup id = some ptr
    ↔ st.manager.requestId ptr = some id ∧ ptr ∉ st.completed ∧ ptr ∉ st.expired

/-- **The id is free.** Where the step creates a request, no session still running has a
request of the id it is given. -/
def FreshId (st : Http1Proxy) : Event → Prop
  | .accept _ => ∀ ptr, st.manager.requestId ptr = some st.manager.next_request_id_ →
      ptr ∈ st.completed
  | _ => True

theorem accounts_start (registry : BackendRegistry) : Accounts (start registry) where
  distinct := by simp [start, ActiveRequestManager.requestId]
  table := by simp [start, ActiveRequestManager.requestId]

theorem Accounts.accept (h : Accounts st) (htracked : Tracked st) (now : ℤ)
    (hfresh : FreshId st (.accept now)) : Accounts (st.accept now) := by
  -- a request after the step is an earlier one with its id, or the new one with the next
  have hcases : ∀ ptr id, (st.accept now).manager.requestId ptr = some id →
      (ptr = st.manager.requests.length ∧ id = st.manager.next_request_id_)
        ∨ (ptr ≠ st.manager.requests.length ∧ st.manager.requestId ptr = some id) := by
    intro ptr id hid
    by_cases hnew : ptr = st.manager.requests.length
    · rw [hnew, requestId_accept_self, Option.some.injEq] at hid
      exact Or.inl ⟨hnew, hid.symm⟩
    · rw [requestId_accept_of_ne _ _ hnew] at hid
      exact Or.inr ⟨hnew, hid⟩
  have hnew : st.manager.requests.length ∉ st.completed ∧ st.manager.requests.length ∉ st.expired :=
    ⟨fun hmem => absurd (htracked.completed_lt _ hmem) (lt_irrefl _),
      fun hmem => absurd (htracked.expired_lt _ hmem) (lt_irrefl _)⟩
  refine ⟨fun i j id hi hj hrunning hrunning' => ?_, fun id ptr => ?_⟩
  · rcases hcases i id hi with ⟨rfl, rfl⟩ | ⟨-, hi⟩ <;>
      rcases hcases j _ hj with ⟨rfl, hid⟩ | ⟨-, hj⟩
    · rfl
    · exact absurd (hfresh j hj) hrunning'
    · exact absurd (hfresh i (hid ▸ hi)) hrunning
    · exact h.distinct i j id hi hj hrunning hrunning'
  · by_cases hid : id = st.manager.next_request_id_
    · subst hid
      have hlookup : (st.accept now).manager.active_requests_.lookup st.manager.next_request_id_
          = some st.manager.requests.length := Finmap.lookup_insert _
      rw [hlookup, Option.some.injEq]
      constructor
      · rintro rfl
        exact ⟨requestId_accept_self st now, hnew⟩
      · rintro ⟨hptr, hrunning, -⟩
        rcases hcases ptr _ hptr with ⟨rfl, -⟩ | ⟨-, hptr⟩
        · rfl
        · exact absurd (hfresh ptr hptr) hrunning
    · have hlookup : (st.accept now).manager.active_requests_.lookup id
          = st.manager.active_requests_.lookup id := Finmap.lookup_insert_of_ne _ hid
      rw [hlookup, h.table]
      refine and_congr_left fun _ => ?_
      by_cases hptr : ptr = st.manager.requests.length
      · -- the new request has another id
        rw [hptr, requestId_accept_self]
        refine iff_of_false (fun hold => ?_) fun heq => hid (Option.some.inj heq).symm
        have hlt := ActiveRequestManager.requestId_isSome_iff.mp (Option.isSome_of_eq_some hold)
        exact absurd hlt (lt_irrefl _)
      · rw [requestId_accept_of_ne _ _ hptr]

/-- What the handler of a session does to the table: with its end its own id leaves it. -/
theorem lookup_store (k : ℕ) (handled : Handled) (world : World Unit) (id : UInt64) :
    (st.store k handled world).manager.active_requests_.lookup id
      = if handled.completes = true ∧ id = handled.request.request_id_ then none
        else st.manager.active_requests_.lookup id := by
  rw [store]
  by_cases hcompletes : handled.completes = true
  · by_cases hid : id = handled.request.request_id_
    · subst hid
      simp [hcompletes]
    · simp [hcompletes, hid, ActiveRequestManager.lookup_complete_request_of_ne _ hid]
  · simp [hcompletes]

theorem Accounts.complete {k : ℕ} {completion : Http1Completion} {enumerate : Enumeration}
    (h : Accounts st) (htracked : Tracked st)
    (hstep : step json st (.complete k completion enumerate) = some st') : Accounts st' := by
  obtain ⟨session, request, handled, world, hsession, hrequest, hcomplete, rfl⟩ :=
    step_complete_eq_some hstep
  obtain ⟨hptr, hid⟩ := Http1ProxySession.complete_ids hcomplete
  obtain ⟨stage, hpending⟩ := Http1ProxySession.exists_pending hcomplete
  have hown := htracked.own k session hsession
  have hrunning : k ∉ st.completed := by
    rw [← htracked.ended_iff k session hsession, hpending]
    simp
  have hk : st.manager.requestId k = some handled.request.request_id_ :=
    ActiveRequestManager.requestId_eq_some_iff.mpr ⟨request, hown ▸ hrequest, hid.symm⟩
  rw [← hptr] at hrequest
  rw [← hptr] at hown
  have hids : ∀ ptr, (st.store k handled world).manager.requestId ptr = st.manager.requestId ptr :=
    requestId_store hrequest hid
  have hcompleted : ∀ ptr, ptr ∉ (st.store k handled world).completed →
      ptr ∉ st.completed ∧ (handled.completes = true → ptr ≠ k) := by
    intro ptr hptr
    rw [mem_completed_store, hown, not_or, not_and] at hptr
    exact hptr
  refine ⟨fun i j id hi hj hi' hj' => ?_, fun id ptr => ?_⟩
  · rw [hids] at hi hj
    exact h.distinct i j id hi hj (hcompleted i hi').1 (hcompleted j hj').1
  · rw [lookup_store, hids, mem_completed_store, hown]
    split_ifs with hgone
    · -- the id that left was the session's own, and no other running session has it
      obtain ⟨hcompletes, rfl⟩ := hgone
      refine iff_of_false (by simp) ?_
      rintro ⟨hother, hnot, -⟩
      rw [not_or] at hnot
      exact hnot.2 ⟨hcompletes, h.distinct ptr k _ hother hk hnot.1 hrunning⟩
    · rw [h.table]
      refine and_congr_right fun hother => and_congr_left fun _ => ?_
      rw [not_or, iff_self_and]
      rintro - ⟨hcompletes, rfl⟩
      exact hgone ⟨hcompletes, Option.some.inj (hother.symm.trans hk)⟩

theorem Accounts.cleanup (h : Accounts st) (now : ℤ) (order : Order st.manager.active_requests_) :
    Accounts (st.cleanup now order) := by
  have hclean := st.manager.cleanup_expired_requests_spec order now
  have hids : ∀ ptr, (st.cleanup now order).manager.requestId ptr = st.manager.requestId ptr :=
    hclean.requestId
  have hexpired : ∀ ptr, ptr ∈ (st.cleanup now order).expired ↔ ptr ∈ st.expired
      ∨ ∃ id, st.manager.active_requests_.lookup id = some ptr ∧ st.manager.HasExpired now ptr := by
    intro ptr
    rw [← hclean.warned]
    exact List.mem_append
  refine ⟨fun i j id hi hj => ?_, fun id ptr => ?_⟩
  · rw [hids] at hi hj
    exact h.distinct i j id hi hj
  · rw [hids, hexpired]
    refine (hclean.lookup_iff id ptr).trans ?_
    rw [h.table]
    constructor
    · rintro ⟨⟨hid, hcompleted, hold⟩, hnot⟩
      refine ⟨hid, hcompleted, ?_⟩
      rintro (hmem | ⟨-, -, hlate⟩)
      · exact hold hmem
      · exact hnot hlate
    · rintro ⟨hid, hcompleted, hnot⟩
      rw [not_or] at hnot
      refine ⟨⟨hid, hcompleted, hnot.1⟩, fun hlate => hnot.2 ⟨id, ?_, hlate⟩⟩
      exact (h.table id ptr).mpr ⟨hid, hcompleted, hnot.1⟩

/-- **Every step keeps the accounts**, if the ids it gives out are free. -/
theorem accounts_step (st : Http1Proxy) (e : Event) (st' : Http1Proxy) (h : Accounts st)
    (htracked : Tracked st) (hfresh : FreshId st e) (hstep : step json st e = some st') :
    Accounts st' := by
  cases e with
  | accept now => exact Option.some.inj hstep ▸ h.accept htracked now hfresh
  | complete k completion enumerate => exact h.complete htracked hstep
  | registry call =>
      obtain rfl := Option.some.inj hstep
      exact ⟨h.distinct, h.table⟩
  | cleanup now order => exact Option.some.inj hstep ▸ h.cleanup now _

/-! ## Fewer than 2^64 sessions -/

/-- No step forgets a session. -/
theorem length_le_of_step {e : Event} (hstep : step json st e = some st') :
    st.sessions.length ≤ st'.sessions.length := by
  cases e with
  | accept now =>
      obtain rfl := Option.some.inj hstep
      simp [accept]
  | complete k completion enumerate =>
      obtain ⟨session, request, handled, world, -, -, -, rfl⟩ := step_complete_eq_some hstep
      simp [store]
  | registry call => exact Option.some.inj hstep ▸ le_refl _
  | cleanup now order => exact Option.some.inj hstep ▸ le_refl _

/-- The ids of fewer than 2^64 requests are those of the counter, and differ. -/
theorem Tracked.ids_distinct (h : Tracked st) (hcount : st.sessions.length < 2 ^ 64)
    {i j : ℕ} {id : UInt64} (hi : st.manager.requestId i = some id)
    (hj : st.manager.requestId j = some id) : i = j := by
  have hi' : i < st.sessions.length :=
    h.length ▸ ActiveRequestManager.requestId_isSome_iff.mp (Option.isSome_of_eq_some hi)
  have hj' : j < st.sessions.length :=
    h.length ▸ ActiveRequestManager.requestId_isSome_iff.mp (Option.isSome_of_eq_some hj)
  have hsame := congrArg UInt64.toNat ((h.id i id hi).symm.trans (h.id j id hj))
  rw [UInt64.toNat_ofNat', UInt64.toNat_ofNat', Nat.mod_eq_of_lt (by omega),
    Nat.mod_eq_of_lt (by omega)] at hsame
  omega

/-- A step that leaves fewer than 2^64 sessions gives out a free id. -/
theorem Tracked.freshId (h : Tracked st) {e : Event} (hstep : step json st e = some st')
    (hcount : st'.sessions.length < 2 ^ 64) : FreshId st e := by
  cases e with
  | accept now =>
      obtain rfl := Option.some.inj hstep
      intro ptr hptr
      -- after the step the new request and the other would share an id
      have hlt := ActiveRequestManager.requestId_isSome_iff.mp (Option.isSome_of_eq_some hptr)
      rw [← requestId_accept_of_ne st now hlt.ne] at hptr
      exact absurd ((h.accept now).ids_distinct hcount hptr (requestId_accept_self st now)) hlt.ne
  | complete k completion enumerate => trivial
  | registry call => trivial
  | cleanup now order => trivial

/-- **The sessions are accounted for.** Every request has an id of its own, and every
session a request of its own; the table holds exactly the requests neither completed nor
expired, none of a session that has ended, and no session's handler takes another's
request out; a session whose request was read gets to answer it, and has started one
response write by the time it ends, and a session whose request was not read has started
none. -/
structure Accounted (json : JsonLibrary) (st : Http1Proxy) : Prop where
  distinct : ∀ i j id, st.manager.requestId i = some id → st.manager.requestId j = some id → i = j
  own : ∀ (i j : ℕ) (session other : Http1SessionObject), st.sessions[i]? = some session →
    st.sessions[j]? = some other → session.active_request_ = other.active_request_ → i = j
  table : ∀ id ptr, st.manager.active_requests_.lookup id = some ptr
    ↔ st.manager.requestId ptr = some id ∧ ptr ∉ st.completed ∧ ptr ∉ st.expired
  ended : ∀ session ∈ st.sessions, session.pending = none →
    ∀ id, st.manager.active_requests_.lookup id ≠ some session.active_request_
  others : ∀ (k : ℕ) (session : Http1SessionObject), st.sessions[k]? = some session →
    ∀ completion enumerate st', step json st (.complete k completion enumerate) = some st' →
      ∀ id ptr, ptr ≠ session.active_request_ →
        st.manager.active_requests_.lookup id = some ptr →
        st'.manager.active_requests_.lookup id = some ptr
  handled : ∀ (k : ℕ) (session : Http1SessionObject), st.sessions[k]? = some session →
    session.pending = some .read_request → ∀ message enumerate,
      ∃ st', step json st (.complete k (.received_request message) enumerate) = some st'
  writes : ∀ session ∈ st.sessions, session.client_writes.length ≤ 1
    ∧ (session.received = none → session.client_writes = [])
    ∧ (session.pending = none → session.received.isSome → session.client_writes.length = 1)

/-- A step of one session leaves the others' requests in the table. -/
theorem Accounts.others (h : Accounts st) (htracked : Tracked st) {k : ℕ}
    {session : Http1SessionObject} (hsession : st.sessions[k]? = some session)
    {completion : Http1Completion} {enumerate : Enumeration}
    (hstep : step json st (.complete k completion enumerate) = some st') {id : UInt64}
    {ptr : RequestPtr} (hptr : ptr ≠ session.active_request_)
    (hlookup : st.manager.active_requests_.lookup id = some ptr) :
    st'.manager.active_requests_.lookup id = some ptr := by
  have hids := ((h.complete htracked hstep).table id ptr)
  obtain ⟨session', request, handled, world, hsession', hrequest, hcomplete, rfl⟩ :=
    step_complete_eq_some hstep
  obtain rfl := Option.some.inj (hsession.symm.trans hsession')
  obtain ⟨hown, hid⟩ := Http1ProxySession.complete_ids hcomplete
  obtain ⟨hptrid, hcompleted, hexpired⟩ := (h.table id ptr).mp hlookup
  refine hids.mpr ⟨?_, ?_, hexpired⟩
  · rw [requestId_store (hown ▸ hrequest) hid]
    exact hptrid
  · rw [mem_completed_store, hown, not_or, not_and]
    exact ⟨hcompleted, fun _ => hptr⟩

theorem accounted_of_accounts (h : Accounts st) (htracked : Tracked st)
    (hcount : st.sessions.length < 2 ^ 64) : Accounted json st where
  distinct := fun _ _ _ hi hj => htracked.ids_distinct hcount hi hj
  own := by
    intro i j session other hi hj hsame
    rw [htracked.own i session hi, htracked.own j other hj] at hsame
    exact hsame
  table := h.table
  ended := by
    intro session hsession hended id hlookup
    obtain ⟨k, hk⟩ := List.getElem?_of_mem hsession
    rw [htracked.own k session hk] at hlookup
    exact ((h.table id k).mp hlookup).2.1 ((htracked.ended_iff k session hk).mp hended)
  others := fun _ _ hsession _ _ _ hstep _ _ hptr hlookup =>
    h.others htracked hsession hstep hptr hlookup
  handled := by
    intro k session hsession hpending message enumerate
    have hlt := (List.getElem?_eq_some_iff.mp hsession).1
    rw [htracked.length, ← htracked.own k session hsession] at hlt
    obtain ⟨handled, world, hcomplete⟩ := Http1ProxySession.exists_complete_received json enumerate
      (st.manager.requests[session.active_request_]) st.world hpending message
    refine ⟨st.store k handled world, ?_⟩
    simp only [step, hsession, List.getElem?_eq_getElem hlt, hcomplete, bind, Option.bind_some]
  writes := fun session hsession => (htracked.disciplined session hsession).writes

/-- **Every session is accounted for.** After any run of any number of sessions, fewer than
2^64 in all, however their completions, failures included, are interleaved with changes
of the routing table and with the cleanup. -/
theorem accounted (json : JsonLibrary) (registry : BackendRegistry) (events : List Event)
    (st : Http1Proxy) (hrun : Machine.exec (step json) (start registry) events = some st)
    (hcount : st.sessions.length < 2 ^ 64) : Accounted json st := by
  have hinv : Tracked st ∧ (st.sessions.length < 2 ^ 64 → Accounts st) := by
    refine Machine.exec_invariant
      (fun st => Tracked st ∧ (st.sessions.length < 2 ^ 64 → Accounts st)) ?_
      ⟨tracked_start registry, fun _ => accounts_start registry⟩ hrun
    rintro st e st' ⟨htracked, haccounts⟩ hstep
    refine ⟨tracked_step st e st' htracked hstep, fun hcount => ?_⟩
    have hbefore := lt_of_le_of_lt (length_le_of_step hstep) hcount
    exact accounts_step st e st' (haccounts hbefore) htracked (htracked.freshId hstep hcount) hstep
  exact accounted_of_accounts (hinv.2 hcount) hinv.1 hcount

/-- Two sessions: the body of one is no JSON, and it is answered; the other is never
read. -/
def twoSessions (enumerate : Enumeration) : List Event :=
  [.accept 0, .accept 1,
    .complete 0 (.received_request ⟨bytes "POST", bytes "/proxy/register", bytes "x"⟩) enumerate,
    .complete 1 (.failed (bytes "End of file")) enumerate,
    .complete 0 .written enumerate]

theorem accounted_twoSessions :
    ∃ (json : JsonLibrary) (enumerate : Enumeration) (st : Http1Proxy),
      Machine.exec (step json) (start BackendRegistry.empty) (twoSessions enumerate) = some st
        ∧ st.sessions.map (fun session => session.client_writes.length) = [1, 0]
        ∧ Accounted json st := by
  have hcount : (Machine.exec (step ⟨fun _ => none, fun _ => []⟩) (start BackendRegistry.empty)
      (twoSessions anyOrder)).map (fun st => st.sessions.length) = some 2 := rfl
  obtain ⟨st, hrun, hlength⟩ := Option.map_eq_some_iff.mp hcount
  have hwrites : (Machine.exec (step ⟨fun _ => none, fun _ => []⟩) (start BackendRegistry.empty)
      (twoSessions anyOrder)).map
        (fun st => st.sessions.map fun session => session.client_writes.length)
      = some [1, 0] := rfl
  rw [hrun] at hwrites
  refine ⟨⟨fun _ => none, fun _ => []⟩, anyOrder, st, hrun, Option.some.inj hwrites, ?_⟩
  refine accounted _ BackendRegistry.empty (twoSessions anyOrder) st hrun ?_
  rw [hlength]
  decide

end Http1Proxy

end Http2Server
