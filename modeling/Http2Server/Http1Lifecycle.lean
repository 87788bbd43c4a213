/-
The life of a request of the HTTP/1.1 proxy that the cleanup leaves alone, and how many
requests the manager counts as active (`transport/active_request.{hpp,cpp}`).

`final_and_truthful` says when a run leaves each request in a state that tells what became
of it. Here no completion is excluded. As long as a request has not expired its state is
that of the operation its session waits for, or `Completed` when it waits for none, a lost
client included; so it only ever moves on in the order of the enumeration, and never reaches
`Failed`. `get_active_count` counts the sessions that still wait and whose requests have not
expired: what is counted out is a session that has ended or one the cleanup has given up.
And every session ends, after six completions at most, so no request stays in the table for
good.
-/
import Http2Server.Http1States
import Http2Server.Http1Serving

set_option autoImplicit false

open ByteString UnorderedMap

namespace Http2Server

/-- `static_cast<int>(state)`. -/
def RequestState.toInt : RequestState → ℤ
  | .Created => 0
  | .Parsing => 1
  | .Forwarding => 2
  | .WaitingBackend => 3
  | .SendingResponse => 4
  | .Completed => 5
  | .Failed => 6

/-- The state that goes with a session. -/
def Http1SessionObject.state (session : Http1SessionObject) : RequestState :=
  match session.pending with
  | some stage => stage.state
  | none => .Completed

namespace ActiveRequestManager

/-- `get_active_count`. -/
def get_active_count (manager : ActiveRequestManager) : ℕ := manager.active_requests_.keys.card

end ActiveRequestManager

/-! ## One session -/

/-- How many completions are left at most, with this operation outstanding. -/
def Http1Stage.toGo : Http1Stage → ℕ
  | .read_request => 6
  | .resolve _ => 5
  | .connect _ _ => 4
  | .backend_write => 3
  | .backend_read => 2
  | .client_write _ => 1

/-- How many are left to a session. -/
def Http1SessionObject.toGo (session : Http1SessionObject) : ℕ :=
  match session.pending with
  | some stage => stage.toGo
  | none => 0

/-- A stage with fewer operations to go has no earlier state. -/
theorem Http1Stage.toInt_state_le {stage next : Http1Stage} (h : next.toGo < stage.toGo) :
    stage.state.toInt ≤ next.state.toInt := by
  cases stage <;> cases next <;> simp_all [toGo, state, RequestState.toInt]

/-- A session with fewer operations to go than a stage has no earlier state. -/
theorem Http1SessionObject.toInt_state_le {stage : Http1Stage} {session : Http1SessionObject}
    (h : session.toGo < stage.toGo) : stage.state.toInt ≤ session.state.toInt := by
  rw [toGo] at h
  rw [state]
  cases hpending : session.pending with
  | none => cases stage <;> simp [Http1Stage.state, RequestState.toInt]
  | some next =>
      rw [hpending] at h
      exact Http1Stage.toInt_state_le h

namespace Http1ProxySession

variable {json : JsonLibrary} {enumerate : Enumeration} {session : Http1SessionObject}
  {request : ActiveRequest} {completion : Http1Completion} {w w' : World Unit}
  {handled : Handled} {stage : Http1Stage}

/-- An operation that does not face the client is on the way to some backend. -/
theorem exists_towards (h : ¬ stage.FacesClient) :
    ∃ rule before, Towards rule before stage := by
  cases stage with
  | read_request => exact absurd trivial h
  | resolve rule => exact ⟨rule, [], .resolve⟩
  | connect endpoint rule => exact ⟨rule, _, .connect ⟨endpoint, []⟩⟩
  | backend_write => exact ⟨⟨[], [], 0, []⟩, _, .write ⟨⟨[], 0⟩, []⟩⟩
  | backend_read => exact ⟨⟨[], [], 0, []⟩, _, .read ⟨⟨[], 0⟩, []⟩⟩
  | client_write response => exact absurd trivial h

theorem toGo_lt_of_towards {rule : ForwardingRule} {before : List Http1Completion}
    {next : Http1Stage} (h : Towards rule before stage)
    (hnext : Towards rule (before ++ [completion]) next) : next.toGo < stage.toGo := by
  cases h <;> cases hnext <;> simp [Http1Stage.toGo]

/-- A completion leaves fewer operations to go. -/
theorem toGo_lt (hpending : session.pending = some stage)
    (h : complete json enumerate session request completion w = some (handled, w')) :
    handled.session.toGo < stage.toGo := by
  by_cases hface : stage.FacesClient
  · cases stage with
    | read_request =>
        -- it ends, answers, or resolves the backend's name
        rcases complete_read_request hpending h with ⟨message, rfl, rfl⟩ | ⟨message, rfl, rfl⟩
        · exact (by decide : (0 : ℕ) < 6)
        · cases decision json enumerate w.registry message with
          | send_response status_code body => exact (by decide : (1 : ℕ) < 6)
          | forward rule => exact (by decide : (5 : ℕ) < 6)
    | client_write response =>
        obtain ⟨hsession, -, -⟩ := complete_client_write hpending h
        rw [hsession]
        exact (by decide : (0 : ℕ) < 1)
    | _ => exact absurd hface id
  · obtain ⟨rule, before, htowards⟩ := exists_towards hface
    rcases complete_towards htowards hpending h with
      ⟨next, hnext, hsession, -, -⟩ | ⟨response, -, hsession, -, -⟩
    · rw [hsession]
      exact toGo_lt_of_towards htowards hnext
    · rw [hsession]
      cases htowards <;> simp [Http1SessionObject.toGo, Http1Stage.toGo]

/-- **A handler moves its session on.** -/
theorem toInt_state_le (hpending : session.pending = some stage)
    (h : complete json enumerate session request completion w = some (handled, w')) :
    stage.state.toInt ≤ handled.session.state.toInt :=
  Http1SessionObject.toInt_state_le (toGo_lt hpending h)

end Http1ProxySession

namespace Http1Proxy

variable {json : JsonLibrary} {st st' : Http1Proxy}

/-! ## Requests that have not expired -/

/-- Each request is in the state that goes with its session. -/
structure Follows (st : Http1Proxy) : Prop where
  tracked : Tracked st
  accounts : Accounts st
  state : ∀ (k : ℕ) (session : Http1SessionObject), st.sessions[k]? = some session →
    k ∉ st.expired → st.requestState k = some session.state

/-- No request that has not expired has moved back between two moments. -/
def Advances (st st' : Http1Proxy) : Prop :=
  ∀ ptr state state', st.requestState ptr = some state → st'.requestState ptr = some state' →
    ptr ∉ st'.expired → state.toInt ≤ state'.toInt

theorem follows_start (registry : BackendRegistry) : Follows (start registry) where
  tracked := tracked_start registry
  accounts := accounts_start registry
  state := by simp [start]

/-- What has expired stays so. -/
theorem expired_subset_of_step {e : Event} (hstep : step json st e = some st') :
    st.expired ⊆ st'.expired := by
  cases e with
  | accept now => exact Option.some.inj hstep ▸ List.Subset.refl _
  | complete k completion enumerate =>
      obtain ⟨session, request, handled, world, -, -, -, rfl⟩ := step_complete_eq_some hstep
      exact List.Subset.refl _
  | registry call => exact Option.some.inj hstep ▸ List.Subset.refl _
  | cleanup now order => exact Option.some.inj hstep ▸ List.subset_append_left _ _

theorem Follows.accept (h : Follows st) (now : ℤ) (haccounts : Accounts (st.accept now)) :
    Follows (st.accept now) := by
  refine ⟨h.tracked.accept now, haccounts, fun k session hsession hexpired => ?_⟩
  rcases Record.getElem?_concat_cases hsession with hsession | ⟨rfl, rfl⟩
  · have hlt : k < st.manager.requests.length :=
      h.tracked.length ▸ (List.getElem?_eq_some_iff.mp hsession).1
    rw [requestState_accept_of_ne st now hlt.ne]
    exact h.state k session hsession hexpired
  · rw [h.tracked.length]
    exact requestState_accept_self st now

/-- The state a completion leaves, of a request that has not expired. -/
theorem Follows.requestState_complete (h : Follows st) {k : ℕ} {completion : Http1Completion}
    {session : Http1SessionObject} {stage : Http1Stage} {request : ActiveRequest}
    {handled : Handled}
    (hcompleting : Completing st st' k completion session stage request handled)
    (hexpired : k ∉ st.expired) : st'.requestState k = some handled.session.state := by
  rw [hcompleting.self, Http1SessionObject.state]
  cases hcompleting.progress with
  | ended hclient hread hsession hset hcompletes =>
      rw [if_pos ⟨hcompletes, hexpired⟩, hsession]
      rfl
  | responded response hwrite hread hsilent hsession hset hcompletes =>
      rw [if_neg fun hcase => absurd (hcompletes.symm.trans hcase.1) (by simp), hset, hsession]
      rfl
  | moved next hwrite hread hfails hnext hkept hsession hset hcompletes =>
      have hwaits : handled.session.pending = some next := hsession ▸ rfl
      rw [if_neg fun hcase => absurd (hcompletes.symm.trans hcase.1) (by simp), hset, hwaits]
      split_ifs with hsilent
      · -- no state is set, and the one there was is that of the next stage too
        have hbefore := h.state k session hcompleting.is_running hexpired
        rw [requestState, hcompleting.is_request, Http1SessionObject.state, hcompleting.waits]
          at hbefore
        exact hbefore.trans (congrArg some (hkept hsilent).symm)
      · rfl

theorem Follows.complete (h : Follows st) {k : ℕ} {completion : Http1Completion}
    {enumerate : Enumeration} (haccounts : Accounts st')
    (hstep : step json st (.complete k completion enumerate) = some st') :
    Follows st' ∧ Advances st st' := by
  obtain ⟨session, stage, request, handled, hcompleting⟩ :=
    exists_completing h.accounts h.tracked hstep
  have hself := fun hexpired => h.requestState_complete hcompleting hexpired
  refine ⟨⟨h.tracked.complete hstep, haccounts, fun j s hs hexpired => ?_⟩,
    fun ptr state state' hstate hstate' hexpired => ?_⟩
  · rw [hcompleting.expired] at hexpired
    rw [hcompleting.sessions] at hs
    rcases Record.getElem?_set_cases hs with ⟨rfl, rfl⟩ | ⟨hj, hs⟩
    · exact hself hexpired
    · rw [hcompleting.others j hj]
      exact h.state j s hs hexpired
  · rw [hcompleting.expired] at hexpired
    by_cases hptr : ptr = k
    · subst hptr
      rw [h.state ptr session hcompleting.is_running hexpired, Http1SessionObject.state,
        hcompleting.waits] at hstate
      rw [hself hexpired] at hstate'
      obtain ⟨session', request', handled', world, hsession, -, hcomplete, rfl⟩ :=
        step_complete_eq_some hstep
      obtain rfl := Option.some.inj (hcompleting.is_running.symm.trans hsession)
      -- both inversions are of the one step, so they tell of one session
      have hsame : handled'.session = handled.session := by
        have hlt := (List.getElem?_eq_some_iff.mp hsession).1
        have hset := congrArg (fun sessions => sessions[ptr]?) hcompleting.sessions
        rw [List.getElem?_set_self hlt] at hset
        exact Option.some.inj ((List.getElem?_set_self hlt).symm.trans hset)
      rw [← Option.some.inj hstate, ← Option.some.inj hstate', ← hsame]
      exact Http1ProxySession.toInt_state_le hcompleting.waits hcomplete
    · rw [hcompleting.others ptr hptr, hstate] at hstate'
      rw [Option.some.inj hstate']

theorem Follows.cleanup (h : Follows st) (now : ℤ) (order : Order st.manager.active_requests_) :
    Follows (st.cleanup now order) ∧ Advances st (st.cleanup now order) := by
  -- a request that has not expired now had not before, and is as it was
  have hsame : ∀ ptr, ptr ∉ (st.cleanup now order).expired →
      ptr ∉ st.expired ∧ (st.cleanup now order).requestState ptr = st.requestState ptr := by
    intro ptr hptr
    obtain ⟨hold, hnew⟩ := not_or.mp (mt List.mem_append.mpr hptr)
    exact ⟨hold, requestState_cleanup_of_not_warned hnew⟩
  refine ⟨⟨h.tracked.cleanup now order, h.accounts.cleanup now order,
    fun k session hsession hexpired => ?_⟩, fun ptr state state' hstate hstate' hexpired => ?_⟩
  · obtain ⟨hold, hstate⟩ := hsame k hexpired
    rw [hstate]
    exact h.state k session hsession hold
  · rw [(hsame ptr hexpired).2, hstate] at hstate'
    rw [Option.some.inj hstate']

theorem advances_refl (st : Http1Proxy) : Advances st st := by
  intro ptr state state' hstate hstate' _
  rw [Option.some.inj (hstate.symm.trans hstate')]

/-- **Every step follows and advances**, if the ids it gives out are free. -/
theorem follows_step {e : Event} (h : Follows st) (hfresh : FreshId st e)
    (hstep : step json st e = some st') : Follows st' ∧ Advances st st' := by
  have haccounts := accounts_step st e st' h.accounts h.tracked hfresh hstep
  cases e with
  | accept now =>
      obtain rfl := Option.some.inj hstep
      refine ⟨h.accept now haccounts, fun ptr state state' hstate hstate' _ => ?_⟩
      -- a request with a state was there before the new one
      have hlt : ptr < st.manager.requests.length := by
        by_contra hge
        rw [requestState, List.getElem?_eq_none_iff.mpr (not_lt.mp hge)] at hstate
        cases hstate
      rw [requestState_accept_of_ne st now hlt.ne, hstate] at hstate'
      rw [Option.some.inj hstate']
  | complete k completion enumerate => exact h.complete haccounts hstep
  | registry call =>
      obtain rfl := Option.some.inj hstep
      exact ⟨⟨⟨h.tracked.length, h.tracked.own, h.tracked.disciplined, h.tracked.ended_iff,
        h.tracked.completed_lt, h.tracked.expired_lt, h.tracked.id, h.tracked.next⟩, haccounts,
        h.state⟩, advances_refl st⟩
  | cleanup now order => exact Option.some.inj hstep ▸ h.cleanup now _

/-- The state of a request on record can be told. -/
theorem requestState_isSome (h : Tracked st) {ptr : ℕ} :
    (st.requestState ptr).isSome ↔ ptr < st.sessions.length := by
  rw [requestState, Option.isSome_map, h.length]
  simp

/-- What has advanced twice has advanced. -/
theorem Advances.trans {st₀ : Http1Proxy} (h : Advances st₀ st) (h' : Advances st st')
    (hexists : ∀ ptr, (st₀.requestState ptr).isSome → (st.requestState ptr).isSome)
    (hexpired : st.expired ⊆ st'.expired) : Advances st₀ st' := by
  intro ptr state state' hstate hstate' hptr
  obtain ⟨between, hbetween⟩ :=
    Option.isSome_iff_exists.mp (hexists ptr (Option.isSome_of_eq_some hstate))
  calc state.toInt
      ≤ between.toInt := h ptr state between hstate hbetween fun hmem => hptr (hexpired hmem)
    _ ≤ state'.toInt := h' ptr between state' hbetween hstate' hptr

/-- **A run follows and advances**, from any state that does, within 2^64 sessions. -/
theorem follows_exec {st₀ : Http1Proxy} {events : List Event} (h₀ : Follows st₀)
    (hrun : Machine.exec (step json) st₀ events = some st) (hcount : st.sessions.length < 2 ^ 64) :
    Follows st ∧ Advances st₀ st := by
  have hinv : Tracked st ∧ st₀.sessions.length ≤ st.sessions.length
      ∧ (st.sessions.length < 2 ^ 64 → Follows st ∧ Advances st₀ st) := by
    refine Machine.exec_invariant (fun st => Tracked st
      ∧ st₀.sessions.length ≤ st.sessions.length
      ∧ (st.sessions.length < 2 ^ 64 → Follows st ∧ Advances st₀ st)) ?_
      ⟨h₀.tracked, le_refl _, fun _ => ⟨h₀, advances_refl st₀⟩⟩ hrun
    rintro st e st' ⟨htracked, hgrown, h⟩ hstep
    have hgrows := length_le_of_step hstep
    refine ⟨tracked_step st e st' htracked hstep, hgrown.trans hgrows, fun hcount => ?_⟩
    obtain ⟨hfollows, hadvances⟩ := h (lt_of_le_of_lt hgrows hcount)
    obtain ⟨hfollows', hadvances'⟩ :=
      follows_step hfollows (htracked.freshId hstep hcount) hstep
    refine ⟨hfollows', hadvances.trans hadvances' (fun ptr hptr => ?_)
      (expired_subset_of_step hstep)⟩
    rw [requestState_isSome h₀.tracked] at hptr
    rw [requestState_isSome htracked]
    exact lt_of_lt_of_le hptr hgrown
  exact hinv.2.2 hcount

/-- **A request that has not expired only moves on.** At the end of any run of fewer than
2^64 sessions it is in the state of the operation its session waits for, or `Completed`; and
since any earlier moment of the run it has gone on from state to state in their order. One that
was on record as expired then still is: it is the record that stays, while its session may set
the state of the object again. -/
theorem requests_advance (json : JsonLibrary) (registry : BackendRegistry)
    (events more : List Event) (st st' : Http1Proxy)
    (hrun : Machine.exec (step json) (start registry) events = some st)
    (hmore : Machine.exec (step json) st more = some st')
    (hcount : st'.sessions.length < 2 ^ 64) :
    (∀ (k : ℕ) (session : Http1SessionObject), st'.sessions[k]? = some session →
        k ∉ st'.expired → st'.requestState k = some session.state)
      ∧ Advances st st' ∧ st.expired ⊆ st'.expired := by
  have hexpired : st.expired ⊆ st'.expired :=
    Machine.exec_invariant (fun later => st.expired ⊆ later.expired)
      (fun _ _ _ hsubset hstep => List.Subset.trans hsubset (expired_subset_of_step hstep))
      (List.Subset.refl _) hmore
  have hgrown : st.sessions.length ≤ st'.sessions.length :=
    Machine.exec_invariant (fun later => st.sessions.length ≤ later.sessions.length)
      (fun _ _ _ hle hstep => hle.trans (length_le_of_step hstep)) (le_refl _) hmore
  obtain ⟨hfollows, -⟩ :=
    follows_exec (follows_start registry) hrun (lt_of_le_of_lt hgrown hcount)
  obtain ⟨hfollows', hadvances⟩ := follows_exec hfollows hmore hcount
  exact ⟨hfollows'.state, hadvances, hexpired⟩

/-- The first session of `twoSessions`, before and after its answer is written. -/
theorem requests_advance_twoSessions :
    ∃ (json : JsonLibrary) (enumerate : Enumeration) (st st' : Http1Proxy),
      Machine.exec (step json) (start .empty) ((twoSessions enumerate).take 4) = some st
        ∧ Machine.exec (step json) st ((twoSessions enumerate).drop 4) = some st'
        ∧ st.requestState 0 = some .SendingResponse ∧ st'.requestState 0 = some .Completed
        ∧ Advances st st' := by
  let json : JsonLibrary := ⟨fun _ => none, fun _ => []⟩
  have hstate : (Machine.exec (step json) (start .empty) ((twoSessions anyOrder).take 4)).bind
      (fun st => (Machine.exec (step json) st ((twoSessions anyOrder).drop 4)).map fun st' =>
        (st.requestState 0, st'.requestState 0, st'.sessions.length))
      = some (some .SendingResponse, some .Completed, 2) := rfl
  obtain ⟨st, hrun, hmap⟩ := Option.bind_eq_some_iff.mp hstate
  obtain ⟨st', hmore, hst⟩ := Option.map_eq_some_iff.mp hmap
  obtain ⟨hbefore, hrest⟩ := Prod.mk.inj hst
  obtain ⟨hafter, hlength⟩ := Prod.mk.inj hrest
  refine ⟨json, anyOrder, st, st', hrun, hmore, hbefore, hafter, ?_⟩
  exact (requests_advance json .empty _ _ st st' hrun hmore (by rw [hlength]; decide)).2.1

/-! ## How many are active -/

/-- The places of the running sessions whose requests have not expired. -/
def counted (st : Http1Proxy) (k : ℕ) : Bool := k ∉ st.completed ∧ k ∉ st.expired

/-- The ids in the table are theirs. -/
theorem Follows.keys_eq (h : Follows st) :
    st.manager.active_requests_.keys
      = ((Finset.range st.sessions.length).filter fun k => st.counted k).image
        fun k => UInt64.ofNat (k + 1) := by
  ext id
  rw [Finmap.mem_keys, ← Finmap.lookup_isSome, Option.isSome_iff_exists, Finset.mem_image]
  constructor
  · rintro ⟨ptr, hptr⟩
    obtain ⟨hid, hrunning⟩ := (h.accounts.table id ptr).mp hptr
    have hlt := ActiveRequestManager.requestId_isSome_iff.mp (Option.isSome_of_eq_some hid)
    rw [← h.tracked.length] at hlt
    refine ⟨ptr, Finset.mem_filter.mpr ⟨Finset.mem_range.mpr hlt, ?_⟩,
      (h.tracked.id ptr id hid).symm⟩
    simpa [counted] using hrunning
  · rintro ⟨k, hk, rfl⟩
    obtain ⟨hlt, hrunning⟩ := Finset.mem_filter.mp hk
    rw [Finset.mem_range, h.tracked.length, ← ActiveRequestManager.requestId_isSome_iff,
      Option.isSome_iff_exists] at hlt
    obtain ⟨id, hid⟩ := hlt
    refine ⟨k, (h.accounts.table _ k).mpr ⟨?_, by simpa [counted] using hrunning⟩⟩
    rw [hid, h.tracked.id k id hid]

/-- The ids of fewer than 2^64 of them differ. -/
theorem injOn_id {n : ℕ} (hcount : n < 2 ^ 64) (p : ℕ → Prop) [DecidablePred p] :
    Set.InjOn (fun k => UInt64.ofNat (k + 1)) ((Finset.range n).filter p) := by
  intro i hi j hj hsame
  have hi' := Finset.mem_range.mp (Finset.mem_filter.mp hi).1
  have hj' := Finset.mem_range.mp (Finset.mem_filter.mp hj).1
  have hnat := congrArg UInt64.toNat hsame
  rw [UInt64.toNat_ofNat', UInt64.toNat_ofNat', Nat.mod_eq_of_lt (by omega),
    Nat.mod_eq_of_lt (by omega)] at hnat
  omega

/-- The table counts the sessions that wait and have not expired. -/
theorem Follows.active_count (h : Follows st) (hcount : st.sessions.length < 2 ^ 64) :
    st.manager.get_active_count = (st.sessions.filter fun session =>
      session.pending.isSome ∧ session.active_request_ ∉ st.expired).length := by
  have hrange : ((Finset.range st.sessions.length).filter fun k => st.counted k).card
      = ((List.range st.sessions.length).filter st.counted).length := by
    rw [Finset.card_def, Finset.filter_val, Finset.range_val, Multiset.range, Multiset.filter_coe,
      Multiset.coe_card]
    simp only [Bool.decide_eq_true]
  rw [ActiveRequestManager.get_active_count, h.keys_eq,
    Finset.card_image_of_injOn (injOn_id hcount _), hrange]
  refine Record.length_filter_range st.sessions st.counted _ fun k session hsession => ?_
  have hended := h.tracked.ended_iff k session hsession
  rw [h.tracked.own k session hsession]
  rcases hpending : session.pending with _ | stage
  · simp [counted, hended.mp hpending]
  · have hrunning : k ∉ st.completed := fun hmem => by
      rw [hended.mpr hmem] at hpending
      cases hpending
    simp [counted, hrunning]

/-- **`get_active_count` counts the sessions that still wait**, less those whose requests
have expired, after any run of fewer than 2^64 sessions. -/
theorem get_active_count_eq (json : JsonLibrary) (registry : BackendRegistry)
    (events : List Event) (st : Http1Proxy)
    (hrun : Machine.exec (step json) (start registry) events = some st)
    (hcount : st.sessions.length < 2 ^ 64) :
    st.manager.get_active_count = (st.sessions.filter fun session =>
      session.pending.isSome ∧ session.active_request_ ∉ st.expired).length :=
  (follows_exec (follows_start registry) hrun hcount).1.active_count hcount

/-- Of the two sessions of `twoSessions` none is left. -/
theorem get_active_count_eq_twoSessions :
    ∃ (json : JsonLibrary) (enumerate : Enumeration) (st : Http1Proxy),
      Machine.exec (step json) (start .empty) (twoSessions enumerate) = some st
        ∧ st.sessions.length = 2 ∧ st.manager.get_active_count = 0 := by
  let json : JsonLibrary := ⟨fun _ => none, fun _ => []⟩
  have hsessions : (Machine.exec (step json) (start .empty) (twoSessions anyOrder)).map
      (fun st => st.sessions.map fun session => session.pending) = some [none, none] := rfl
  obtain ⟨st, hrun, hst⟩ := Option.map_eq_some_iff.mp hsessions
  have hlength : st.sessions.length = 2 := by
    rw [← List.length_map (f := fun session => session.pending), hst]
    rfl
  refine ⟨json, anyOrder, st, hrun, hlength, ?_⟩
  rw [get_active_count_eq json .empty _ st hrun (by rw [hlength]; decide), List.length_eq_zero_iff,
    List.filter_eq_nil_iff]
  intro session hsession
  have hmem := List.mem_map_of_mem (f := fun session => session.pending) hsession
  rw [hst] at hmem
  have hended : session.pending = none := by simpa using hmem
  simp [hended]

/-! ## How long a session lasts -/

/-- What a session has heard of and what is left to it come to no more than six. -/
def Bounded (st : Http1Proxy) (log : List Heard) : Prop :=
  ∀ (k : ℕ) (session : Http1SessionObject), st.sessions[k]? = some session →
    (Pool.owned Heard.session log k).length + session.toGo ≤ 6

theorem bounded_step (st : Http1Proxy) (log : List Heard) (e : Event) (st' : Http1Proxy)
    (h : Serves json st log ∧ Bounded st log) (hstep : step json st e = some st') :
    Serves json st' (log ++ heard st e) ∧ Bounded st' (log ++ heard st e) := by
  refine ⟨serves_step st log e st' h.1 hstep, fun k session hsession => ?_⟩
  cases e with
  | accept now =>
      obtain rfl := Option.some.inj hstep
      rw [Pool.owned_append, List.length_append]
      rcases Record.getElem?_concat_cases hsession with hold | ⟨rfl, rfl⟩
      · exact h.2 k session hold
      · rw [Pool.owned_eq_nil fun e he => (h.1.heard_lt e he).ne]
        exact le_refl 6
  | complete j completion enumerate =>
      obtain ⟨before, request, handled, world, hbefore, -, hcomplete, rfl⟩ :=
        step_complete_eq_some hstep
      obtain ⟨stage, hpending⟩ := Http1ProxySession.exists_pending hcomplete
      rcases Record.getElem?_set_cases hsession with ⟨rfl, rfl⟩ | ⟨hne, hold⟩
      · -- it has heard of one more, and has one less to hear of
        have hfewer := Http1ProxySession.toGo_lt hpending hcomplete
        have hbound := h.2 k before hbefore
        rw [Http1SessionObject.toGo, hpending] at hbound
        have howned : Pool.owned Heard.session
            (log ++ heard st (.complete k completion enumerate)) k
            = Pool.owned Heard.session log k
              ++ [⟨k, completion, st.world.registry, enumerate⟩] := Pool.owned_concat_self rfl
        rw [howned, List.length_append, List.length_singleton]
        dsimp only at hbound
        omega
      · rw [heard, Pool.owned_concat_of_ne (Ne.symm hne)]
        exact h.2 k session hold
  | registry call =>
      obtain rfl := Option.some.inj hstep
      rw [Pool.owned_append, List.length_append]
      exact h.2 k session hsession
  | cleanup now order =>
      obtain rfl := Option.some.inj hstep
      rw [Pool.owned_append, List.length_append]
      exact h.2 k session hsession

/-- A session that waits for something can hear of its failure. -/
theorem exists_step_of_pending (json : JsonLibrary) (htracked : Tracked st) {k : ℕ}
    {session : Http1SessionObject} {stage : Http1Stage} (hsession : st.sessions[k]? = some session)
    (hpending : session.pending = some stage) (enumerate : Enumeration) :
    ∃ st', step json st (.complete k (.failed []) enumerate) = some st' := by
  have hlt := (List.getElem?_eq_some_iff.mp hsession).1
  rw [htracked.length, ← htracked.own k session hsession] at hlt
  obtain ⟨handled, hcomplete⟩ := Http1ProxySession.exists_complete_failed json enumerate
    (st.manager.requests[session.active_request_]) st.world hpending []
  refine ⟨st.store k handled st.world, ?_⟩
  simp only [step, hsession, List.getElem?_eq_getElem hlt, hcomplete, bind, Option.bind_some]

/-- **Every session ends.** In any run of fewer than 2^64 sessions each has heard of at most
six completions; and when no operation of any is left to complete, each has ended, and no
request is counted as active. -/
theorem every_session_ends (json : JsonLibrary) (registry : BackendRegistry)
    (events : List Event) (st : Http1Proxy)
    (hrun : Machine.exec (step json) (start registry) events = some st)
    (hcount : st.sessions.length < 2 ^ 64) :
    (∀ k < st.sessions.length, (Pool.owned Heard.session
        (Machine.outputs (step json) heard (start registry) events) k).length ≤ 6)
      ∧ ((∀ k completion enumerate, step json st (.complete k completion enumerate) = none) →
        (∀ session ∈ st.sessions, session.pending = none) ∧ st.manager.get_active_count = 0) := by
  obtain ⟨hserves, hbounded⟩ := Machine.exec_invariant_log
    (fun st log => Serves json st log ∧ Bounded st log) bounded_step
    ⟨serves_start registry, by simp [Bounded, start]⟩ hrun
  refine ⟨fun k hk => ?_, fun hnone => ?_⟩
  · have hbound := hbounded k _ (List.getElem?_eq_getElem hk)
    omega
  · have hended : ∀ session ∈ st.sessions, session.pending = none := by
      intro session hmem
      -- what a session waits for can always fail
      obtain ⟨k, hsession⟩ := List.getElem?_of_mem hmem
      by_contra hpending
      obtain ⟨stage, hstage⟩ := Option.ne_none_iff_exists'.mp hpending
      obtain ⟨st', hstep⟩ :=
        exists_step_of_pending json hserves.tracked hsession hstage anyOrder
      rw [hnone] at hstep
      cases hstep
    refine ⟨hended, ?_⟩
    rw [(follows_exec (follows_start registry) hrun hcount).1.active_count hcount,
      List.length_eq_zero_iff, List.filter_eq_nil_iff]
    intro session hmem
    simp [hended session hmem]

/-- The two sessions of `twoSessions` have heard of three completions. -/
theorem every_session_ends_twoSessions :
    ∃ (json : JsonLibrary) (enumerate : Enumeration) (st : Http1Proxy),
      Machine.exec (step json) (start .empty) (twoSessions enumerate) = some st
        ∧ ∀ k < 2, (Pool.owned Heard.session
          (Machine.outputs (step json) heard (start .empty) (twoSessions enumerate)) k).length
          ≤ 6 := by
  let json : JsonLibrary := ⟨fun _ => none, fun _ => []⟩
  have hlength : (Machine.exec (step json) (start .empty) (twoSessions anyOrder)).map
      (fun st => st.sessions.length) = some 2 := rfl
  obtain ⟨st, hrun, hst⟩ := Option.map_eq_some_iff.mp hlength
  refine ⟨json, anyOrder, st, hrun, fun k hk => ?_⟩
  exact (every_session_ends json .empty _ st hrun (by rw [hst]; decide)).1 k (hst ▸ hk)

end Http1Proxy

end Http2Server
