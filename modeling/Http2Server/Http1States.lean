/-
What state a request of the HTTP/1.1 proxy is left in.

`Completed` and `Failed` are meant to be final, and `Failed` to be what a lost client or
an expiry leaves. The code sets states without looking at the one that is there:
`complete_request` turns the `Failed` its caller has just set into `Completed`
(`lost_client_completed`), and a session whose request has expired goes on as if it had
not, taking it back to `Forwarding` and on to `Completed`.

`Staged` says which state a request has, from what its session waits for and whether it
has expired; it holds along every run whose completions avoid those two ways out
(`Undisturbed`), and `final_and_truthful` reads the result off it. That nothing less
would do is `undisturbed_of_final_and_truthful`: a completion that is not `Undisturbed`
breaks the one or the other at once.
-/
import Http2Server.Http1Accounting

set_option autoImplicit false

open ByteString UnorderedMap

namespace Http2Server

/-- No session waits in a terminal state. -/
theorem Http1Stage.not_terminal (stage : Http1Stage) : ¬ stage.state.Terminal := by
  cases stage <;> exact of_decide_eq_false rfl

/-- Losing the client ends a session. -/
theorem Progress.pending_eq_none_of_lost {session : Http1SessionObject} {request : ActiveRequest}
    {stage : Http1Stage} {completion : Http1Completion} {handled : Handled}
    (h : Progress session request stage completion handled) (hclient : stage.FacesClient)
    (hfails : completion.fails = true) : handled.session.pending = none := by
  cases h with
  | ended _ _ hsession _ _ => rw [hsession, Http1SessionObject.finish_pending]
  | responded response hwrite hread _ _ _ _ =>
      cases stage with
      | read_request =>
          obtain ⟨message, rfl⟩ := hread rfl
          exact absurd hfails (by simp [Http1Completion.fails])
      | client_write written => exact absurd rfl (hwrite written)
      | _ => exact absurd hclient id
  | moved next _ _ hsucceeds _ _ _ _ _ => exact absurd (hsucceeds.symm.trans hfails) (by simp)

namespace Http1Proxy

variable {json : JsonLibrary} {st st' : Http1Proxy}

/-! ## The state of a request -/

/-- The state of the request behind a pointer. -/
def requestState (st : Http1Proxy) (ptr : ℕ) : Option RequestState :=
  (st.manager.requests[ptr]?).map fun request => request.state_

/-- What has ended stays as it has ended. -/
def Final (st st' : Http1Proxy) : Prop :=
  ∀ ptr state, st.requestState ptr = some state → state.Terminal →
    st'.requestState ptr = some state

/-- A session that has lost its client, or whose request has expired, ends with the
request `Failed`. -/
def Truthful (st : Http1Proxy) : Prop :=
  ∀ session ∈ st.sessions, session.pending = none →
    session.client_failed = true ∨ session.active_request_ ∈ st.expired →
    st.requestState session.active_request_ = some .Failed

/-- **The completion sets no state it should not.** For a request that has not expired, it
is not a failed read from the client or write to it, which ends in `complete_request`; for
one that has, it is either that or the success of a stage that sets no state. -/
def Undisturbed (st : Http1Proxy) : Event → Prop
  | .complete k completion _ =>
      ∀ session ∈ st.sessions[k]?, ∀ stage ∈ session.pending,
        if session.active_request_ ∈ st.expired then
          (stage.FacesClient ∧ completion.fails = true)
            ∨ (stage.Silent ∧ completion.fails = false)
        else ¬ (stage.FacesClient ∧ completion.fails = true)
  | _ => True

theorem Final.refl (st : Http1Proxy) : Final st st := fun _ _ h _ => h

theorem requestState_accept_self (st : Http1Proxy) (now : ℤ) :
    (st.accept now).requestState st.manager.requests.length = some .Parsing := by
  simp [requestState, accept, ActiveRequestManager.create_request, ActiveRequestManager.update]

theorem requestState_accept_of_ne (st : Http1Proxy) (now : ℤ) {ptr : ℕ}
    (h : ptr ≠ st.manager.requests.length) :
    (st.accept now).requestState ptr = st.requestState ptr := by
  have hcreated : (st.manager.create_request now).1.requests[ptr]?
      = st.manager.requests[ptr]? := by
    rcases Nat.lt_or_gt_of_ne h with hlt | hgt
    · exact List.getElem?_append_left hlt
    · rw [List.getElem?_eq_none_iff.mpr (Nat.le_of_lt hgt), List.getElem?_eq_none_iff]
      simpa [ActiveRequestManager.create_request, Nat.succ_le_iff] using hgt
  have hparsing : (st.accept now).manager.requests[ptr]?
      = (st.manager.create_request now).1.requests[ptr]? :=
    ActiveRequestManager.getElem?_update_of_ne _ _ (Ne.symm h)
  rw [requestState, hparsing, hcreated, requestState]

/-- A handler leaves the state of every request but its own and the one of its id in the table. -/
theorem requestState_store_of_ne {k : ℕ} {handled : Handled} {world : World Unit} {ptr : ℕ}
    (hptr : handled.session.active_request_ ≠ ptr)
    (hother : st.manager.active_requests_.lookup handled.request.request_id_ ≠ some ptr) :
    (st.store k handled world).requestState ptr = st.requestState ptr := by
  have hupdate : (st.manager.update handled.session.active_request_
      fun _ => handled.request).requests[ptr]? = st.manager.requests[ptr]? :=
    ActiveRequestManager.getElem?_update_of_ne _ _ hptr
  rw [requestState, store]
  dsimp only
  split_ifs
  · rw [ActiveRequestManager.complete_request, ActiveRequestManager.update_active_requests]
    split
    · rename_i found hfound
      rw [ActiveRequestManager.getElem?_update_of_ne, hupdate, requestState]
      rintro rfl
      exact hother hfound
    · rw [hupdate, requestState]
  · rw [hupdate, requestState]

/-- A handler that completes its request, still in the table, leaves it `Completed`, whatever
it has set before. -/
theorem requestState_store_of_active {k : ℕ} {handled : Handled} {world : World Unit}
    {request : ActiveRequest}
    (hrequest : st.manager.requests[handled.session.active_request_]? = some request)
    (hcompletes : handled.completes = true)
    (hactive : st.manager.active_requests_.lookup handled.request.request_id_
      = some handled.session.active_request_) :
    (st.store k handled world).requestState handled.session.active_request_
      = some .Completed := by
  have hactive' : (st.manager.update handled.session.active_request_
      fun _ => handled.request).active_requests_.lookup handled.request.request_id_
        = some handled.session.active_request_ := hactive
  rw [requestState, store]
  dsimp only
  rw [if_pos hcompletes, ActiveRequestManager.complete_request_of_active hactive']
  dsimp only
  rw [ActiveRequestManager.getElem?_update_self, ActiveRequestManager.getElem?_update_self,
    hrequest]
  rfl

/-- A handler whose request is not in the table to be completed leaves it what it has set. -/
theorem requestState_store_self {k : ℕ} {handled : Handled} {world : World Unit}
    {request : ActiveRequest}
    (hrequest : st.manager.requests[handled.session.active_request_]? = some request)
    (hgone : handled.completes = true →
      st.manager.active_requests_.lookup handled.request.request_id_ = none) :
    (st.store k handled world).requestState handled.session.active_request_
      = some handled.request.state_ := by
  have hupdate : ((st.manager.update handled.session.active_request_
      fun _ => handled.request).requests[handled.session.active_request_]?).map
        (fun request => request.state_) = some handled.request.state_ := by
    rw [ActiveRequestManager.getElem?_update_self, hrequest]
    rfl
  rw [requestState, store]
  dsimp only
  split_ifs with hcompletes
  · have hgone' : (st.manager.update handled.session.active_request_
        fun _ => handled.request).active_requests_.lookup handled.request.request_id_ = none :=
      hgone hcompletes
    rw [ActiveRequestManager.complete_request_of_gone hgone']
    exact hupdate
  · exact hupdate

/-! ## One completion -/

/-- What a completion of the `k`-th session does, as far as states are concerned. -/
structure Completing (st st' : Http1Proxy) (k : ℕ) (completion : Http1Completion)
    (session : Http1SessionObject) (stage : Http1Stage) (request : ActiveRequest)
    (handled : Handled) : Prop where
  is_running : st.sessions[k]? = some session
  waits : session.pending = some stage
  own : session.active_request_ = k
  keeps : handled.session.active_request_ = k
  is_request : st.manager.requests[k]? = some request
  progress : Progress session request stage completion handled
  sessions : st'.sessions = st.sessions.set k handled.session
  expired : st'.expired = st.expired
  others : ∀ ptr, ptr ≠ k → st'.requestState ptr = st.requestState ptr
  self : st'.requestState k = some
    (if handled.completes = true ∧ k ∉ st.expired then .Completed else handled.request.state_)

/-- **A completion sets the state of its own request**, and `complete_request` sets it once
more, if the request is still in the table. -/
theorem exists_completing (h : Accounts st) (htracked : Tracked st) {k : ℕ}
    {completion : Http1Completion} {enumerate : Enumeration}
    (hstep : step json st (.complete k completion enumerate) = some st') :
    ∃ session stage request handled, Completing st st' k completion session stage request handled
      := by
  obtain ⟨session, request, handled, world, hsession, hrequest, hcomplete, rfl⟩ :=
    step_complete_eq_some hstep
  obtain ⟨hptr, hid⟩ := Http1ProxySession.complete_ids hcomplete
  obtain ⟨stage, hpending⟩ := Http1ProxySession.exists_pending hcomplete
  have hown := htracked.own k session hsession
  have hself : handled.session.active_request_ = k := hptr.trans hown
  have hrunning : k ∉ st.completed := by
    rw [← htracked.ended_iff k session hsession, hpending]
    simp
  have hrequestId : st.manager.requestId k = some handled.request.request_id_ :=
    ActiveRequestManager.requestId_eq_some_iff.mpr ⟨request, hown ▸ hrequest, hid.symm⟩
  -- of the running sessions only this one has its id, so only its request can be in the table
  have hlookup : ∀ ptr, st.manager.active_requests_.lookup handled.request.request_id_ = some ptr
      ↔ ptr = k ∧ k ∉ st.expired := by
    intro ptr
    rw [h.table]
    constructor
    · rintro ⟨hother, hcompleted, hexpired⟩
      obtain rfl := h.distinct ptr k _ hother hrequestId hcompleted hrunning
      exact ⟨rfl, hexpired⟩
    · rintro ⟨rfl, hexpired⟩
      exact ⟨hrequestId, hrunning, hexpired⟩
  refine ⟨session, stage, request, handled, hsession, hpending, hown, hself, hown ▸ hrequest,
    Http1ProxySession.complete_cases hpending hcomplete, rfl, rfl, fun ptr hne => ?_, ?_⟩
  · refine requestState_store_of_ne (hself ▸ Ne.symm hne) fun hfound => ?_
    exact hne ((hlookup ptr).mp hfound).1
  · rw [← hptr] at hrequest
    split_ifs with hcase
    · rw [← hself]
      refine requestState_store_of_active hrequest hcase.1 ?_
      exact (hlookup _).mpr ⟨hself, hcase.2⟩
    · rw [← hself]
      refine requestState_store_self hrequest fun hcompletes => ?_
      rw [Option.eq_none_iff_forall_ne_some]
      intro ptr hfound
      exact hcase ⟨hcompletes, ((hlookup ptr).mp hfound).2⟩

/-! ## Which state a request has -/

/-- A request is in the state of the operation its session waits for, `Completed` when
the session has ended, and `Failed` once it has expired. -/
structure Staged (st : Http1Proxy) : Prop where
  client : ∀ session ∈ st.sessions, session.pending.isSome → session.client_failed = false
  running : ∀ (k : ℕ) (session : Http1SessionObject) (stage : Http1Stage),
    st.sessions[k]? = some session → session.pending = some stage → k ∉ st.expired →
    st.requestState k = some stage.state
  ended : ∀ (k : ℕ) (session : Http1SessionObject), st.sessions[k]? = some session →
    session.pending = none → k ∉ st.expired →
    st.requestState k = some .Completed ∧ session.client_failed = false
  expired : ∀ ptr ∈ st.expired, st.requestState ptr = some .Failed

theorem staged_start (registry : BackendRegistry) : Staged (start registry) where
  client := by simp [start]
  running := by simp [start]
  ended := by simp [start]
  expired := by simp [start]

theorem Staged.accept (h : Staged st) (htracked : Tracked st) (now : ℤ) :
    Staged (st.accept now) := by
  have hold : ∀ ptr, ptr < st.manager.requests.length →
      (st.accept now).requestState ptr = st.requestState ptr :=
    fun ptr hlt => requestState_accept_of_ne st now hlt.ne
  have hlt : ∀ (k : ℕ) (session : Http1SessionObject), st.sessions[k]? = some session →
      k < st.manager.requests.length :=
    fun k session hsession => htracked.length ▸ (List.getElem?_eq_some_iff.mp hsession).1
  refine ⟨Record.forall_mem_concat h.client fun _ => rfl,
    fun k session stage hsession hpending hexpired => ?_,
    fun k session hsession hpending hexpired => ?_, fun ptr hptr => ?_⟩
  · rcases Record.getElem?_concat_cases hsession with hsession | ⟨rfl, rfl⟩
    · rw [hold k (hlt k session hsession)]
      exact h.running k session stage hsession hpending hexpired
    · obtain rfl := Option.some.inj hpending
      rw [htracked.length]
      exact requestState_accept_self st now
  · rcases Record.getElem?_concat_cases hsession with hsession | ⟨-, rfl⟩
    · rw [hold k (hlt k session hsession)]
      exact h.ended k session hsession hpending hexpired
    · simp at hpending
  · rw [hold ptr (htracked.expired_lt ptr hptr)]
    exact h.expired ptr hptr

/-- An undisturbed completion, in the terms of what it does. -/
theorem Completing.undisturbed_iff {k : ℕ} {completion : Http1Completion}
    {enumerate : Enumeration} {session : Http1SessionObject} {stage : Http1Stage}
    {request : ActiveRequest} {handled : Handled}
    (h : Completing st st' k completion session stage request handled) :
    Undisturbed st (.complete k completion enumerate)
      ↔ if k ∈ st.expired then
          (stage.FacesClient ∧ completion.fails = true)
            ∨ (stage.Silent ∧ completion.fails = false)
        else ¬ (stage.FacesClient ∧ completion.fails = true) := by
  simp [Undisturbed, h.is_running, h.waits, h.own]

/-- The state an undisturbed completion leaves: of an expired request, `Failed`; of
another, that of the operation started, or `Completed`. -/
theorem Staged.requestState_complete (h : Staged st) {k : ℕ} {completion : Http1Completion}
    {enumerate : Enumeration} {session : Http1SessionObject} {stage : Http1Stage}
    {request : ActiveRequest} {handled : Handled}
    (hcompleting : Completing st st' k completion session stage request handled)
    (hundisturbed : Undisturbed st (.complete k completion enumerate)) :
    st'.requestState k = some (if k ∈ st.expired then .Failed else
      match handled.session.pending with
      | some next => next.state
      | none => .Completed) := by
  have hstate : st.requestState k = some request.state_ := by
    rw [requestState, hcompleting.is_request]
    rfl
  rw [hcompleting.undisturbed_iff] at hundisturbed
  rw [hcompleting.self]
  by_cases hexpired : k ∈ st.expired
  · rw [if_pos hexpired] at hundisturbed
    rw [if_pos hexpired, if_neg fun hcase => hcase.2 hexpired]
    have hfailed : request.state_ = .Failed :=
      Option.some.inj (hstate.symm.trans (h.expired k hexpired))
    cases hcompleting.progress with
    | ended hclient hread hsession hset hcompletes =>
        rcases hundisturbed with ⟨-, hfails⟩ | ⟨hsilent, -⟩
        · rw [hset, if_pos hfails]
        · cases stage <;> first | exact absurd hclient id | exact absurd hsilent id
    | responded response hwrite hread hsilent hsession hset hcompletes =>
        rcases hundisturbed with ⟨hclient, hfails⟩ | ⟨hsilent', hfails⟩
        · have hended := hcompleting.progress.pending_eq_none_of_lost hclient hfails
          exact absurd (hsession ▸ hended) (by simp)
        · exact absurd ((hsilent hsilent').symm.trans hfails) (by simp)
    | moved next hwrite hread hfails hnext hkept hsession hset hcompletes =>
        rcases hundisturbed with ⟨-, hfails'⟩ | ⟨hsilent, -⟩
        · exact absurd (hfails.symm.trans hfails') (by simp)
        · rw [hset, if_pos hsilent, hfailed]
  · rw [if_neg hexpired]
    cases hcompleting.progress with
    | ended hclient hread hsession hset hcompletes =>
        rw [if_pos ⟨hcompletes, hexpired⟩, hsession]
        rfl
    | responded response hwrite hread hsilent hsession hset hcompletes =>
        rw [if_neg fun hcase => absurd (hcompletes.symm.trans hcase.1) (by simp), hset, hsession]
        rfl
    | moved next hwrite hread hfails hnext hkept hsession hset hcompletes =>
        have hwaits : handled.session.pending = some next := hsession ▸ rfl
        rw [if_neg fun hcase => absurd (hcompletes.symm.trans hcase.1) (by simp), hset, hwaits]
        split_ifs with hsilent
        · -- the state is that of the stage before, which is the same
          have hrunning := h.running k session stage hcompleting.is_running hcompleting.waits
            hexpired
          rw [← hstate, hrunning]
          exact congrArg some (hkept hsilent).symm
        · rfl

/-- A session that has ended undisturbed, its request not expired, kept its client. -/
theorem Staged.client_complete (h : Staged st) {k : ℕ} {completion : Http1Completion}
    {enumerate : Enumeration} {session : Http1SessionObject} {stage : Http1Stage}
    {request : ActiveRequest} {handled : Handled}
    (hcompleting : Completing st st' k completion session stage request handled)
    (hundisturbed : Undisturbed st (.complete k completion enumerate))
    (hkeeps : handled.session.pending.isSome ∨ k ∉ st.expired) :
    handled.session.client_failed = false := by
  have hbefore : session.client_failed = false :=
    h.client session (List.mem_of_getElem? hcompleting.is_running) (by simp [hcompleting.waits])
  have hrecord := Http1SessionObject.record_client_failed hcompleting.waits completion
  rw [hbefore] at hrecord
  rw [hcompleting.undisturbed_iff] at hundisturbed
  have hrecorded : handled.session.client_failed = (session.record completion).client_failed := by
    cases hcompleting.progress with
    | ended _ _ hsession _ _ => rw [hsession]; rfl
    | responded _ _ _ _ hsession _ _ => rw [hsession]; rfl
    | moved _ _ _ _ _ _ hsession _ _ => rw [hsession]; rfl
  rw [hrecorded, ← Bool.not_eq_true, hrecord]
  rintro (hfalse | ⟨hclient, hfails⟩)
  · exact absurd hfalse (by simp)
  · rcases hkeeps with hwaits | hexpired
    · rw [hcompleting.progress.pending_eq_none_of_lost hclient hfails] at hwaits
      exact absurd hwaits (by simp)
    · rw [if_neg hexpired] at hundisturbed
      exact hundisturbed ⟨hclient, hfails⟩

/-- **An undisturbed completion keeps the states.** -/
theorem Staged.complete (h : Staged st) {k : ℕ} {completion : Http1Completion}
    {enumerate : Enumeration} {session : Http1SessionObject} {stage : Http1Stage}
    {request : ActiveRequest} {handled : Handled}
    (hcompleting : Completing st st' k completion session stage request handled)
    (hundisturbed : Undisturbed st (.complete k completion enumerate)) : Staged st' := by
  have hstate := h.requestState_complete hcompleting hundisturbed
  refine ⟨fun s hs hwaits => ?_, fun j s next hs hwaits hexpired => ?_,
    fun j s hs hended hexpired => ?_, fun ptr hptr => ?_⟩
  · rw [hcompleting.sessions] at hs
    rcases List.mem_or_eq_of_mem_set hs with hs | rfl
    · exact h.client s hs hwaits
    · exact h.client_complete hcompleting hundisturbed (Or.inl hwaits)
  · rw [hcompleting.expired] at hexpired
    rw [hcompleting.sessions] at hs
    rcases Record.getElem?_set_cases hs with ⟨rfl, rfl⟩ | ⟨hj, hs⟩
    · rw [hstate, if_neg hexpired, hwaits]
    · rw [hcompleting.others j hj]
      exact h.running j s next hs hwaits hexpired
  · rw [hcompleting.expired] at hexpired
    rw [hcompleting.sessions] at hs
    rcases Record.getElem?_set_cases hs with ⟨rfl, rfl⟩ | ⟨hj, hs⟩
    · refine ⟨?_, h.client_complete hcompleting hundisturbed (Or.inr hexpired)⟩
      rw [hstate, if_neg hexpired, hended]
    · rw [hcompleting.others j hj]
      exact h.ended j s hs hended hexpired
  · rw [hcompleting.expired] at hptr
    by_cases hself : ptr = k
    · subst hself
      rw [hstate, if_pos hptr]
    · rw [hcompleting.others ptr hself]
      exact h.expired ptr hptr

/-- A handler that leaves a request undisturbed keeps the states that have ended. -/
theorem Staged.final_complete (h : Staged st) {k : ℕ} {completion : Http1Completion}
    {enumerate : Enumeration} {session : Http1SessionObject} {stage : Http1Stage}
    {request : ActiveRequest} {handled : Handled}
    (hcompleting : Completing st st' k completion session stage request handled)
    (hundisturbed : Undisturbed st (.complete k completion enumerate)) : Final st st' := by
  intro ptr state hstate hterminal
  by_cases hself : ptr = k
  · subst hself
    by_cases hexpired : ptr ∈ st.expired
    · rw [h.requestState_complete hcompleting hundisturbed, if_pos hexpired, ← hstate]
      exact (h.expired ptr hexpired).symm
    · rw [h.running ptr session stage hcompleting.is_running hcompleting.waits hexpired] at hstate
      exact absurd (Option.some.inj hstate ▸ hterminal) stage.not_terminal
  · rw [hcompleting.others ptr hself]
    exact hstate

/-! ## A run -/

/-- The cleanup fails the requests it warns of. -/
theorem requestState_cleanup_of_warned {now : ℤ} {order : Order st.manager.active_requests_}
    {ptr : ℕ} (h : ptr ∈ (st.manager.cleanup_expired_requests order now).2) :
    (st.cleanup now order).requestState ptr = some .Failed := by
  have hclean := st.manager.cleanup_expired_requests_spec order now
  obtain ⟨id, hid, request, hrequest, hlate⟩ := (hclean.warned ptr).mp h
  have hfailed := hclean.failed id ptr hid ⟨request, hrequest, hlate⟩
  rw [requestState, cleanup, hfailed, hrequest]
  rfl

/-- The cleanup leaves the requests it does not warn of. -/
theorem requestState_cleanup_of_not_warned {now : ℤ} {order : Order st.manager.active_requests_}
    {ptr : ℕ} (h : ptr ∉ (st.manager.cleanup_expired_requests order now).2) :
    (st.cleanup now order).requestState ptr = st.requestState ptr := by
  have hclean := st.manager.cleanup_expired_requests_spec order now
  have hsame := hclean.same ptr fun id hid hlate => h ((hclean.warned ptr).mpr ⟨id, hid, hlate⟩)
  rw [requestState, cleanup, hsame, requestState]

theorem Staged.cleanup (h : Staged st) (now : ℤ) (order : Order st.manager.active_requests_) :
    Staged (st.cleanup now order) := by
  have hexpired : ∀ ptr, ptr ∉ (st.cleanup now order).expired →
      ptr ∉ st.expired ∧ (st.cleanup now order).requestState ptr = st.requestState ptr := by
    intro ptr hptr
    obtain ⟨hold, hnew⟩ := not_or.mp (mt List.mem_append.mpr hptr)
    exact ⟨hold, requestState_cleanup_of_not_warned hnew⟩
  refine ⟨h.client, fun k session stage hsession hpending hk => ?_,
    fun k session hsession hpending hk => ?_, fun ptr hptr => ?_⟩
  · obtain ⟨hold, hsame⟩ := hexpired k hk
    rw [hsame]
    exact h.running k session stage hsession hpending hold
  · obtain ⟨hold, hsame⟩ := hexpired k hk
    rw [hsame]
    exact h.ended k session hsession hpending hold
  · by_cases hwarned : ptr ∈ (st.manager.cleanup_expired_requests order now).2
    · exact requestState_cleanup_of_warned hwarned
    · rw [requestState_cleanup_of_not_warned hwarned]
      exact h.expired ptr ((List.mem_append.mp hptr).resolve_right hwarned)

/-- The cleanup finds only requests of sessions that still run, in no terminal state. -/
theorem Staged.final_cleanup (h : Staged st) (haccounts : Accounts st) (htracked : Tracked st)
    (now : ℤ) (order : Order st.manager.active_requests_) : Final st (st.cleanup now order) := by
  intro ptr state hstate hterminal
  by_cases hwarned : ptr ∈ (st.manager.cleanup_expired_requests order now).2
  · obtain ⟨id, hid, -⟩ :=
      ((st.manager.cleanup_expired_requests_spec order now).warned ptr).mp hwarned
    obtain ⟨hrequestId, hcompleted, hexpired⟩ := (haccounts.table id ptr).mp hid
    have hlt := ActiveRequestManager.requestId_isSome_iff.mp (Option.isSome_of_eq_some hrequestId)
    rw [← htracked.length] at hlt
    have hsession := List.getElem?_eq_getElem hlt
    rcases hpending : (st.sessions[ptr]).pending with _ | stage
    · exact absurd ((htracked.ended_iff ptr _ hsession).mp hpending) hcompleted
    · rw [h.running ptr _ stage hsession hpending hexpired] at hstate
      exact absurd (Option.some.inj hstate ▸ hterminal) stage.not_terminal
  · rw [requestState_cleanup_of_not_warned hwarned]
    exact hstate

theorem final_accept (st : Http1Proxy) (now : ℤ) : Final st (st.accept now) := by
  intro ptr state hstate hterminal
  rw [requestState_accept_of_ne st now, hstate]
  rintro rfl
  rw [requestState, List.getElem?_eq_none_iff.mpr (le_refl _)] at hstate
  exact absurd hstate (by simp)

/-- **Every undisturbed step keeps the states, and leaves what has ended.** -/
theorem staged_step (st : Http1Proxy) (e : Event) (st' : Http1Proxy) (h : Staged st)
    (haccounts : Accounts st) (htracked : Tracked st) (hundisturbed : Undisturbed st e)
    (hstep : step json st e = some st') : Staged st' ∧ Final st st' := by
  cases e with
  | accept now =>
      obtain rfl := Option.some.inj hstep
      exact ⟨h.accept htracked now, final_accept st now⟩
  | complete k completion enumerate =>
      obtain ⟨session, stage, request, handled, hcompleting⟩ :=
        exists_completing haccounts htracked hstep
      exact ⟨h.complete hcompleting hundisturbed, h.final_complete hcompleting hundisturbed⟩
  | registry call =>
      obtain rfl := Option.some.inj hstep
      exact ⟨⟨h.client, h.running, h.ended, h.expired⟩, fun _ _ hstate _ => hstate⟩
  | cleanup now order =>
      obtain rfl := Option.some.inj hstep
      exact ⟨h.cleanup now _, h.final_cleanup haccounts htracked now _⟩

/-- States that follow the sessions are truthful. -/
theorem Staged.truthful (h : Staged st) (htracked : Tracked st) : Truthful st := by
  intro session hsession hended hlost
  obtain ⟨k, hk⟩ := List.getElem?_of_mem hsession
  rw [htracked.own k session hk] at hlost ⊢
  by_cases hexpired : k ∈ st.expired
  · exact h.expired k hexpired
  · have hkept := (h.ended k session hk hended hexpired).2
    rcases hlost with hfailed | hexpired'
    · exact absurd (hkept.symm.trans hfailed) (by simp)
    · exact absurd hexpired' hexpired

/-- **Nothing less would do.** A completion that leaves what has ended, and a truthful
proxy, is undisturbed. -/
theorem undisturbed_of_final_and_truthful (h : Staged st) (haccounts : Accounts st)
    (htracked : Tracked st) {k : ℕ} {completion : Http1Completion} {enumerate : Enumeration}
    (hstep : step json st (.complete k completion enumerate) = some st') (hfinal : Final st st')
    (htruthful : Truthful st') : Undisturbed st (.complete k completion enumerate) := by
  obtain ⟨session, stage, request, handled, hcompleting⟩ :=
    exists_completing haccounts htracked hstep
  rw [hcompleting.undisturbed_iff]
  have hself := hcompleting.self
  split_ifs with hexpired
  · rw [if_neg fun hcase => hcase.2 hexpired,
      hfinal k .Failed (h.expired k hexpired) (Or.inr rfl)] at hself
    cases hcompleting.progress with
    | ended hclient hread hsession hset hcompletes =>
        rw [hset] at hself
        split_ifs at hself with hfails
        · exact Or.inl ⟨hclient, hfails⟩
        · exact absurd hself (by simp)
    | responded response hwrite hread hsilent hsession hset hcompletes =>
        rw [hset] at hself
        exact absurd hself (by simp)
    | moved next hwrite hread hfails hnext hkept hsession hset hcompletes =>
        rw [hset] at hself
        split_ifs at hself with hsilent
        · exact Or.inr ⟨hsilent, hfails⟩
        · exact absurd (Or.inr (Option.some.inj hself).symm) next.not_terminal
  · rintro ⟨hclient, hfails⟩
    have hended := hcompleting.progress.pending_eq_none_of_lost hclient hfails
    have hlt : k < st.sessions.length := (List.getElem?_eq_some_iff.mp hcompleting.is_running).1
    have hmem : handled.session ∈ st'.sessions := by
      rw [hcompleting.sessions]
      exact List.mem_of_getElem? (List.getElem?_set_self hlt)
    have hlost : handled.session.client_failed = true := by
      cases hcompleting.progress with
      | ended _ _ hsession _ _ =>
          rw [hsession]
          exact (Http1SessionObject.record_client_failed hcompleting.waits completion).mpr
            (Or.inr ⟨hclient, hfails⟩)
      | responded _ _ _ _ hsession _ _ => exact absurd (hsession ▸ hended) (by simp)
      | moved _ _ _ _ _ _ hsession _ _ => exact absurd (hsession ▸ hended) (by simp)
    have hfailed := htruthful _ hmem hended (Or.inl hlost)
    rw [hcompleting.keeps, hself,
      if_pos ⟨hcompleting.progress.pending_eq_none_iff.mp hended, hexpired⟩] at hfailed
    exact absurd hfailed (by simp)

/-- **Terminal states are final and truthful** in every run whose completions are
undisturbed, and whose ids are free when they are given out: what a request has ended in
anywhere in the run it keeps, and a session that has lost its client, or whose request
has expired, ends with it `Failed`. -/
theorem final_and_truthful (json : JsonLibrary) (registry : BackendRegistry)
    (events more : List Event) (st st' : Http1Proxy)
    (hrun : Machine.exec (step json) (start registry) events = some st)
    (hmore : Machine.exec (step json) st more = some st')
    (hmeet : Machine.StepsMeet (step json) (fun st e => FreshId st e ∧ Undisturbed st e)
      (start registry) (events ++ more)) : Final st st' ∧ Truthful st' := by
  obtain ⟨hmeet, hmeet'⟩ := Machine.StepsMeet.of_append hmeet hrun
  have hinv : Tracked st ∧ Accounts st ∧ Staged st := by
    refine Machine.exec_invariant_of_stepsMeet
      (fun st => Tracked st ∧ Accounts st ∧ Staged st) ?_
      ⟨tracked_start registry, accounts_start registry, staged_start registry⟩ hmeet hrun
    rintro st e st' ⟨htracked, haccounts, h⟩ ⟨hfresh, hundisturbed⟩ hstep
    exact ⟨tracked_step st e st' htracked hstep,
      accounts_step st e st' haccounts htracked hfresh hstep,
      (staged_step st e st' h haccounts htracked hundisturbed hstep).1⟩
  have hinv' : Final st st' ∧ Tracked st' ∧ Accounts st' ∧ Staged st' := by
    refine Machine.exec_invariant_of_stepsMeet
      (fun later => Final st later ∧ Tracked later ∧ Accounts later ∧ Staged later) ?_
      ⟨Final.refl st, hinv⟩ hmeet' hmore
    rintro st₁ e st₂ ⟨hfinal, htracked, haccounts, h⟩ ⟨hfresh, hundisturbed⟩ hstep
    obtain ⟨h', hfinal'⟩ := staged_step st₁ e st₂ h haccounts htracked hundisturbed hstep
    exact ⟨fun ptr state hstate hterminal =>
        hfinal' ptr state (hfinal ptr state hstate hterminal) hterminal,
      tracked_step st₁ e st₂ htracked hstep,
      accounts_step st₁ e st₂ haccounts htracked hfresh hstep, h'⟩
  exact ⟨hinv'.1, hinv'.2.2.2.truthful hinv'.2.1⟩

/-- A client that says nothing for 31 seconds: its request expires, its read fails when the
socket is closed, and `Failed` it stays. -/
theorem final_and_truthful_silentClient :
    ∃ (json : JsonLibrary) (st st' : Http1Proxy),
      Machine.exec (step json) (start BackendRegistry.empty)
          [.accept 0, .cleanup (31 * 10 ^ 9) anyOrder] = some st
        ∧ Machine.exec (step json) st [.complete 0 (.failed (bytes "Operation canceled")) anyOrder]
            = some st'
        ∧ st.requestState 0 = some .Failed ∧ Final st st' ∧ Truthful st' := by
  let json : JsonLibrary := ⟨fun _ => none, fun _ => []⟩
  let accepted : Http1Proxy := (start BackendRegistry.empty).accept 0
  let expired : Http1Proxy := accepted.cleanup (31 * 10 ^ 9) (anyOrder _)
  let session : Http1SessionObject := ⟨0, some .read_request, none, [], false⟩
  have hwarned : 0 ∈ (accepted.manager.cleanup_expired_requests (anyOrder _) (31 * 10 ^ 9)).2 := by
    rw [(accepted.manager.cleanup_expired_requests_spec _ _).warned]
    exact ⟨1, Finmap.lookup_insert _, _, rfl, by decide⟩
  have hfailed : expired.requestState 0 = some .Failed := requestState_cleanup_of_warned hwarned
  have hexpired : 0 ∈ expired.expired := List.mem_append_right _ hwarned
  have hsession : expired.sessions[0]? = some session := rfl
  obtain ⟨request, hrequest, -⟩ := Option.map_eq_some_iff.mp hfailed
  have hown : expired.manager.requests[session.active_request_]? = some request := hrequest
  have hstep : step json expired (.complete 0 (.failed (bytes "Operation canceled")) anyOrder)
      = some (expired.store 0 (Http1ProxySession.read_failed
          (session.record (.failed (bytes "Operation canceled"))) request) expired.world) := by
    simp only [step, hsession, hown, bind, Option.bind_some]
    rfl
  have hmore := Machine.exec_snoc (Machine.exec_nil (step json) expired) hstep
  refine ⟨json, expired, _, rfl, hmore, hfailed, final_and_truthful json BackendRegistry.empty
    [.accept 0, .cleanup (31 * 10 ^ 9) anyOrder] _ expired _ rfl hmore ?_⟩
  have hfresh : FreshId (start BackendRegistry.empty) (.accept 0) := by
    simp [FreshId, start, ActiveRequestManager.requestId]
  have haccept : step json (start BackendRegistry.empty) (.accept 0) = some accepted := rfl
  have hcleanup : step json accepted (.cleanup (31 * 10 ^ 9) anyOrder) = some expired := rfl
  refine .cons ⟨hfresh, trivial⟩ haccept (.cons ⟨trivial, trivial⟩ hcleanup
    ⟨⟨trivial, ?_⟩, fun _ _ => trivial⟩)
  -- the request has expired, and what completes is a failed read from the client
  intro found hfound stage hstage
  obtain rfl := Option.some.inj (hsession.symm.trans hfound)
  obtain rfl := Option.some.inj hstage
  rw [if_pos hexpired]
  exact Or.inl ⟨trivial, rfl⟩

/-- **`Failed` does not last**: a client that closes its connection before it has sent a
request leaves a request that is `Completed`. -/
theorem lost_client_completed :
    ¬ ∀ (json : JsonLibrary) (registry : BackendRegistry) (events more : List Event)
        (st st' : Http1Proxy), Machine.exec (step json) (start registry) events = some st →
        Machine.exec (step json) st more = some st' → Final st st' ∧ Truthful st' := by
  intro h
  have hrun : (Machine.exec (step ⟨fun _ => none, fun _ => []⟩) (start BackendRegistry.empty)
      [.accept 0, .complete 0 (.failed (bytes "End of file")) anyOrder]).map
        (fun st => (st.sessions, st.requestState 0))
      = some ([⟨0, none, none, [], true⟩], some .Completed) := rfl
  obtain ⟨st, hexec, hst⟩ := Option.map_eq_some_iff.mp hrun
  obtain ⟨hsessions, hcompleted⟩ := Prod.mk.inj hst
  have htruthful := (h _ _ _ [] st st hexec rfl).2
  have hfailed := htruthful ⟨0, none, none, [], true⟩ (by simp [hsessions]) rfl (Or.inl rfl)
  exact absurd (hcompleted.symm.trans hfailed) (by simp)

end Http1Proxy

end Http2Server
