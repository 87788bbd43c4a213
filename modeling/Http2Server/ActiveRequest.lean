/-
`ActiveRequest` and `ActiveRequestManager` (`transport/active_request.{hpp,cpp}`): the
requests the HTTP/1.1 proxy is working on.

A session holds its request by `shared_ptr`, and the manager's table holds it by id
until it is completed or has expired. The objects are kept here in the order they were
made, for good, so that what became of one can still be said after its session has
ended. The clock is read by the caller: an event that needs the time brings it along.

`complete_request` and `cleanup_expired_requests` write a state into an object without
looking at the one it has; what the loop of the latter leaves is said once, free of the
order in which the table enumerates its entries (`cleanup_expired_requests_spec`).
-/
import Http2Server.Http1Proxy
import Http2Server.Lib.Pool

set_option autoImplicit false

open ByteString UnorderedMap

namespace Http2Server

/-- `enum class RequestState`. -/
inductive RequestState
  | Created
  | Parsing
  | Forwarding
  | WaitingBackend
  | SendingResponse
  | Completed
  | Failed
  deriving DecidableEq, Repr

/-- The states a request ends in. -/
def RequestState.Terminal (state : RequestState) : Prop := state = .Completed ∨ state = .Failed

instance (state : RequestState) : Decidable state.Terminal :=
  inferInstanceAs (Decidable (state = .Completed ∨ state = .Failed))

/-- `std::shared_ptr<ActiveRequest>`. -/
abbrev RequestPtr := ℕ

/-- `class ActiveRequest`, less its sockets and its read buffer. -/
structure ActiveRequest where
  request_id_ : UInt64
  state_ : RequestState := .Created
  /-- A `steady_clock` time point, in nanoseconds. -/
  start_time_ : ℤ
  request_ : Option Http1Request := none
  response_ : Option HttpMessage := none
  deriving DecidableEq

namespace ActiveRequest

def set_state (request : ActiveRequest) (state : RequestState) : ActiveRequest :=
  { request with state_ := state }

def set_request (request : ActiveRequest) (message : Http1Request) : ActiveRequest :=
  { request with request_ := some message }

def set_response (request : ActiveRequest) (message : HttpMessage) : ActiveRequest :=
  { request with response_ := some message }

section Fields

variable (request : ActiveRequest) (state : RequestState) (received : Http1Request)
  (message : HttpMessage)

@[simp] theorem set_state_id : (request.set_state state).request_id_ = request.request_id_ := rfl
@[simp] theorem set_state_state : (request.set_state state).state_ = state := rfl
@[simp] theorem set_state_start : (request.set_state state).start_time_ = request.start_time_ := rfl
@[simp] theorem set_request_id :
    (request.set_request received).request_id_ = request.request_id_ := rfl
@[simp] theorem set_request_state : (request.set_request received).state_ = request.state_ := rfl
@[simp] theorem set_response_id :
    (request.set_response message).request_id_ = request.request_id_ := rfl
@[simp] theorem set_response_state : (request.set_response message).state_ = request.state_ := rfl

end Fields

/-- `std::chrono::seconds(30)`. -/
def timeout : ℤ := 30 * 10 ^ 9

/-- `now - start_time > timeout`. -/
def Expired (request : ActiveRequest) (now : ℤ) : Prop := now - request.start_time_ > timeout

instance (request : ActiveRequest) (now : ℤ) : Decidable (request.Expired now) :=
  inferInstanceAs (Decidable (_ > _))

end ActiveRequest

/-- `class ActiveRequestManager`, with the objects it has made. -/
structure ActiveRequestManager where
  requests : List ActiveRequest := []
  active_requests_ : UnorderedMap UInt64 RequestPtr := ∅
  next_request_id_ : UInt64 := 1

namespace ActiveRequestManager

/-- The object behind a pointer, changed in place. -/
def update (manager : ActiveRequestManager) (ptr : RequestPtr)
    (f : ActiveRequest → ActiveRequest) : ActiveRequestManager :=
  { manager with requests := manager.requests.modify ptr f }

/-- `create_request`, with `generate_request_id`: the counter wraps. -/
def create_request (manager : ActiveRequestManager) (now : ℤ) :
    ActiveRequestManager × RequestPtr :=
  let id := manager.next_request_id_
  let request : RequestPtr := manager.requests.length
  ({ requests := manager.requests ++ [{ request_id_ := id, start_time_ := now }]
     active_requests_ := manager.active_requests_.insert id request
     next_request_id_ := id + 1 }, request)

/-- `complete_request`: whatever the state was, it is `Completed` now. -/
def complete_request (manager : ActiveRequestManager) (request_id : UInt64) :
    ActiveRequestManager :=
  match manager.active_requests_.lookup request_id with
  | some ptr =>
      { manager.update ptr (fun request => request.set_state .Completed) with
        active_requests_ := manager.active_requests_.erase request_id }
  | none => manager

/-- The body of the loop of `cleanup_expired_requests`, for one entry; beside the
manager, the requests warned of so far. -/
def cleanupEntry (now : ℤ) (st : ActiveRequestManager × List RequestPtr)
    (entry : Σ _ : UInt64, RequestPtr) : ActiveRequestManager × List RequestPtr :=
  match st.1.requests[entry.2]? with
  | some request =>
      if request.Expired now then
        ({ st.1.update entry.2 (fun request => request.set_state .Failed) with
            active_requests_ := st.1.active_requests_.erase entry.1 }, st.2 ++ [entry.2])
      else st
  | none => st

/-- `cleanup_expired_requests`, over the table in the given order, with the requests it
warns of. -/
def cleanup_expired_requests (manager : ActiveRequestManager)
    (order : Order manager.active_requests_) (now : ℤ) :
    ActiveRequestManager × List RequestPtr :=
  order.visited.entries.foldl (cleanupEntry now) (manager, [])

/-! ## One call on the manager -/

section Update

variable (manager : ActiveRequestManager) (f : ActiveRequest → ActiveRequest)

@[simp] theorem update_active_requests (ptr : RequestPtr) :
    (manager.update ptr f).active_requests_ = manager.active_requests_ := rfl
@[simp] theorem update_next_request_id (ptr : RequestPtr) :
    (manager.update ptr f).next_request_id_ = manager.next_request_id_ := rfl
@[simp] theorem length_update (ptr : RequestPtr) :
    (manager.update ptr f).requests.length = manager.requests.length :=
  List.length_modify ..

theorem getElem?_update_self (ptr : RequestPtr) :
    (manager.update ptr f).requests[ptr]? = (manager.requests[ptr]?).map f :=
  List.getElem?_modify_eq ..

theorem getElem?_update_of_ne {ptr other : RequestPtr} (h : ptr ≠ other) :
    (manager.update ptr f).requests[other]? = manager.requests[other]? :=
  List.getElem?_modify_ne _ _ h

end Update

/-- A request that is completed leaves the table and is `Completed`. -/
theorem complete_request_of_active {manager : ActiveRequestManager} {request_id : UInt64}
    {ptr : RequestPtr} (h : manager.active_requests_.lookup request_id = some ptr) :
    manager.complete_request request_id
      = { manager.update ptr (fun request => request.set_state .Completed) with
          active_requests_ := manager.active_requests_.erase request_id } := by
  rw [complete_request, h]

/-- An id that is not in the table completes nothing. -/
theorem complete_request_of_gone {manager : ActiveRequestManager} {request_id : UInt64}
    (h : manager.active_requests_.lookup request_id = none) :
    manager.complete_request request_id = manager := by
  rw [complete_request, h]

@[simp] theorem length_complete_request (manager : ActiveRequestManager) (request_id : UInt64) :
    (manager.complete_request request_id).requests.length = manager.requests.length := by
  rw [complete_request]
  split
  · exact length_update _ _ _
  · rfl

@[simp] theorem next_complete_request (manager : ActiveRequestManager) (request_id : UInt64) :
    (manager.complete_request request_id).next_request_id_ = manager.next_request_id_ := by
  rw [complete_request]
  split <;> rfl

/-- Completing one id removes no other. -/
theorem lookup_complete_request_of_ne (manager : ActiveRequestManager) {request_id id : UInt64}
    (h : id ≠ request_id) :
    (manager.complete_request request_id).active_requests_.lookup id
      = manager.active_requests_.lookup id := by
  rw [complete_request]
  split
  · exact Finmap.lookup_erase_ne h
  · rfl

@[simp] theorem lookup_complete_request_self (manager : ActiveRequestManager)
    (request_id : UInt64) :
    (manager.complete_request request_id).active_requests_.lookup request_id = none := by
  rw [complete_request]
  split
  · exact Finmap.lookup_erase _ _
  · assumption

/-! ## Ids -/

/-- The id of the request behind a pointer. No call on the manager changes it. -/
def requestId (manager : ActiveRequestManager) (ptr : RequestPtr) : Option UInt64 :=
  (manager.requests[ptr]?).map fun request => request.request_id_

theorem requestId_eq_some_iff {manager : ActiveRequestManager} {ptr : RequestPtr} {id : UInt64} :
    manager.requestId ptr = some id
      ↔ ∃ request, manager.requests[ptr]? = some request ∧ request.request_id_ = id :=
  Option.map_eq_some_iff

theorem requestId_isSome_iff {manager : ActiveRequestManager} {ptr : ℕ} :
    (manager.requestId ptr).isSome ↔ ptr < manager.requests.length := by
  rw [requestId, Option.isSome_map]
  simp

theorem requestId_update (manager : ActiveRequestManager) {ptr : RequestPtr}
    {f : ActiveRequest → ActiveRequest} (hf : ∀ request, manager.requests[ptr]? = some request →
      (f request).request_id_ = request.request_id_) (other : RequestPtr) :
    (manager.update ptr f).requestId other = manager.requestId other := by
  by_cases h : ptr = other
  · subst h
    rw [requestId, getElem?_update_self, requestId, Option.map_map]
    rcases hrequest : manager.requests[ptr]? with _ | request
    · rfl
    · exact congrArg some (hf request hrequest)
  · rw [requestId, getElem?_update_of_ne _ _ h, requestId]

@[simp] theorem requestId_complete_request (manager : ActiveRequestManager) (request_id : UInt64)
    (ptr : RequestPtr) :
    (manager.complete_request request_id).requestId ptr = manager.requestId ptr := by
  rw [complete_request]
  split
  · exact requestId_update manager (f := fun request => request.set_state .Completed)
      (fun _ _ => rfl) ptr
  · rfl

/-- A new request has the next id. -/
theorem requestId_create_request_self (manager : ActiveRequestManager) (now : ℤ) :
    (manager.create_request now).1.requestId manager.requests.length
      = some manager.next_request_id_ := by
  simp [requestId, create_request]

/-- Creating a request leaves the ids of the others. -/
theorem requestId_create_request_of_ne (manager : ActiveRequestManager) (now : ℤ)
    {ptr : RequestPtr} (h : ptr ≠ manager.requests.length) :
    (manager.create_request now).1.requestId ptr = manager.requestId ptr := by
  simp only [requestId, create_request]
  rcases Nat.lt_or_gt_of_ne h with hlt | hgt
  · rw [List.getElem?_append_left hlt]
  · rw [List.getElem?_eq_none_iff.mpr (Nat.le_of_lt hgt), List.getElem?_eq_none_iff.mpr (by
      rw [List.length_append, List.length_singleton]; exact hgt)]

/-! ## The cleanup loop -/

/-- The request behind a pointer has expired. -/
def HasExpired (manager : ActiveRequestManager) (now : ℤ) (ptr : RequestPtr) : Prop :=
  ∃ request, manager.requests[ptr]? = some request ∧ request.Expired now

/-- What a walk over some entries leaves: the expired ones are gone from the table and
`Failed`, the others are as they were. -/
structure Cleaned (manager : ActiveRequestManager) (now : ℤ)
    (entries : List (Σ _ : UInt64, RequestPtr)) (result : ActiveRequestManager × List RequestPtr) :
    Prop where
  next : result.1.next_request_id_ = manager.next_request_id_
  length : result.1.requests.length = manager.requests.length
  gone : ∀ e ∈ entries, manager.HasExpired now e.2 →
    result.1.active_requests_.lookup e.1 = none
  kept : ∀ id, (∀ e ∈ entries, e.1 = id → ¬ manager.HasExpired now e.2) →
    result.1.active_requests_.lookup id = manager.active_requests_.lookup id
  failed : ∀ e ∈ entries, manager.HasExpired now e.2 →
    result.1.requests[e.2]? = (manager.requests[e.2]?).map fun request =>
      request.set_state .Failed
  same : ∀ ptr, (∀ e ∈ entries, e.2 = ptr → ¬ manager.HasExpired now ptr) →
    result.1.requests[ptr]? = manager.requests[ptr]?
  warned : ∀ ptr, ptr ∈ result.2 ↔ ∃ e ∈ entries, e.2 = ptr ∧ manager.HasExpired now ptr

variable {manager : ActiveRequestManager} {now : ℤ}
  {entries : List (Σ _ : UInt64, RequestPtr)} {result : ActiveRequestManager × List RequestPtr}

/-- The walk does not change when a request was made, so what it finds expired had
expired before it. -/
theorem Cleaned.hasExpired_iff (h : Cleaned manager now entries result) (ptr : RequestPtr) :
    result.1.HasExpired now ptr ↔ manager.HasExpired now ptr := by
  by_cases hhit : ∃ e ∈ entries, e.2 = ptr ∧ manager.HasExpired now ptr
  · obtain ⟨e, he, rfl, hexpired⟩ := hhit
    refine iff_of_true ?_ hexpired
    obtain ⟨request, hrequest, hlate⟩ := hexpired
    exact ⟨request.set_state .Failed,
      by rw [h.failed e he ⟨request, hrequest, hlate⟩, hrequest, Option.map_some], hlate⟩
  · have hsame : result.1.requests[ptr]? = manager.requests[ptr]? :=
      h.same ptr fun e he heq hexpired => hhit ⟨e, he, heq, hexpired⟩
    rw [HasExpired, HasExpired, hsame]

/-- An entry whose request has expired leaves the table, and the request is `Failed`. -/
theorem Cleaned.concat_of_expired (h : Cleaned manager now entries result)
    {entry : Σ _ : UInt64, RequestPtr} (hexpired : manager.HasExpired now entry.2) :
    Cleaned manager now (entries ++ [entry]) (cleanupEntry now result entry) := by
  have hmem : ∀ e, e ∈ entries ++ [entry] ↔ e ∈ entries ∨ e = entry := by simp
  obtain ⟨request, hrequest, hlate⟩ := (h.hasExpired_iff entry.2).mpr hexpired
  rw [cleanupEntry, hrequest]
  dsimp only
  rw [if_pos hlate]
  refine ⟨h.next, (length_update _ _ _).trans h.length, fun e he he' => ?_, fun id hid => ?_,
    fun e he he' => ?_, fun ptr hptr => ?_, fun ptr => ?_⟩
  · by_cases hsame : e.1 = entry.1
    · rw [hsame]
      exact Finmap.lookup_erase _ _
    · rcases (hmem e).mp he with he | rfl
      · exact (Finmap.lookup_erase_ne hsame).trans (h.gone e he he')
      · exact absurd rfl hsame
  · have hne : id ≠ entry.1 := fun heq => hid entry (by simp) heq.symm hexpired
    exact (Finmap.lookup_erase_ne hne).trans
      (h.kept id fun e he => hid e (List.mem_append_left _ he))
  · by_cases hptr : entry.2 = e.2
    · -- the entry just cleaned: failing a request twice is failing it
      rw [← hptr]
      refine (getElem?_update_self _ _ _).trans ?_
      by_cases hhit : ∃ e ∈ entries, e.2 = entry.2
      · obtain ⟨e', he', heq⟩ := hhit
        rw [← heq, h.failed e' he' (heq ▸ hexpired), Option.map_map]
        rfl
      · rw [h.same entry.2 fun e he heq => absurd ⟨e, he, heq⟩ hhit]
    · rcases (hmem e).mp he with he | rfl
      · exact (getElem?_update_of_ne _ _ hptr).trans (h.failed e he he')
      · exact absurd rfl hptr
  · have hne : entry.2 ≠ ptr := fun heq => hptr entry (by simp) heq (heq ▸ hexpired)
    exact (getElem?_update_of_ne _ _ hne).trans
      (h.same ptr fun e he => hptr e (List.mem_append_left _ he))
  · rw [List.mem_append, List.mem_singleton, h.warned]
    constructor
    · rintro (⟨e, he, heq, he'⟩ | rfl)
      · exact ⟨e, List.mem_append_left _ he, heq, he'⟩
      · exact ⟨entry, by simp, rfl, hexpired⟩
    · rintro ⟨e, he, heq, he'⟩
      rcases (hmem e).mp he with he | rfl
      · exact Or.inl ⟨e, he, heq, he'⟩
      · exact Or.inr heq.symm

/-- An entry whose request has not expired changes nothing. -/
theorem Cleaned.concat_of_not_expired (h : Cleaned manager now entries result)
    {entry : Σ _ : UInt64, RequestPtr} (hexpired : ¬ manager.HasExpired now entry.2) :
    Cleaned manager now (entries ++ [entry]) (cleanupEntry now result entry) := by
  have hskip : cleanupEntry now result entry = result := by
    rw [cleanupEntry]
    split
    · rename_i request hrequest
      rw [if_neg fun hlate => hexpired ((h.hasExpired_iff _).mp ⟨request, hrequest, hlate⟩)]
    · rfl
  -- so an entry that counts is one of those before it
  have hold : ∀ e ∈ entries ++ [entry], manager.HasExpired now e.2 → e ∈ entries := by
    intro e he he'
    rcases List.mem_append.mp he with he | he
    · exact he
    · exact absurd (List.mem_singleton.mp he ▸ he') hexpired
  rw [hskip]
  refine ⟨h.next, h.length, fun e he he' => h.gone e (hold e he he') he',
    fun id hid => h.kept id fun e he => hid e (List.mem_append_left _ he),
    fun e he he' => h.failed e (hold e he he') he',
    fun ptr hptr => h.same ptr fun e he => hptr e (List.mem_append_left _ he), fun ptr => ?_⟩
  rw [h.warned]
  constructor
  · rintro ⟨e, he, heq, he'⟩
    exact ⟨e, List.mem_append_left _ he, heq, he'⟩
  · rintro ⟨e, he, rfl, he'⟩
    exact ⟨e, hold e he he', rfl, he'⟩

theorem cleaned_foldl (manager : ActiveRequestManager) (now : ℤ)
    (entries : List (Σ _ : UInt64, RequestPtr)) :
    Cleaned manager now entries (entries.foldl (cleanupEntry now) (manager, [])) := by
  induction entries using List.reverseRecOn with
  | nil => exact ⟨rfl, rfl, by simp, fun _ _ => rfl, by simp, fun _ _ => rfl, by simp⟩
  | append_singleton entries entry ih =>
      rw [List.foldl_append, List.foldl_cons, List.foldl_nil]
      by_cases hexpired : manager.HasExpired now entry.2
      · exact ih.concat_of_expired hexpired
      · exact ih.concat_of_not_expired hexpired

/-- **What the cleanup does**, whatever the order of the table: the requests in it that
have expired leave it, are `Failed`, and are warned of; nothing else changes. -/
structure CleanedUp (manager : ActiveRequestManager) (now : ℤ)
    (result : ActiveRequestManager × List RequestPtr) : Prop where
  next : result.1.next_request_id_ = manager.next_request_id_
  length : result.1.requests.length = manager.requests.length
  lookup_iff : ∀ id ptr, result.1.active_requests_.lookup id = some ptr
    ↔ manager.active_requests_.lookup id = some ptr ∧ ¬ manager.HasExpired now ptr
  failed : ∀ id ptr, manager.active_requests_.lookup id = some ptr →
    manager.HasExpired now ptr → result.1.requests[ptr]?
      = (manager.requests[ptr]?).map fun request => request.set_state .Failed
  same : ∀ ptr, (∀ id, manager.active_requests_.lookup id = some ptr →
    ¬ manager.HasExpired now ptr) → result.1.requests[ptr]? = manager.requests[ptr]?
  warned : ∀ ptr, ptr ∈ result.2
    ↔ ∃ id, manager.active_requests_.lookup id = some ptr ∧ manager.HasExpired now ptr

/-- The cleanup changes no id. -/
theorem CleanedUp.requestId (h : CleanedUp manager now result) (ptr : RequestPtr) :
    result.1.requestId ptr = manager.requestId ptr := by
  by_cases hhit : ∃ id, manager.active_requests_.lookup id = some ptr ∧ manager.HasExpired now ptr
  · obtain ⟨id, hid, hexpired⟩ := hhit
    rw [ActiveRequestManager.requestId, h.failed id ptr hid hexpired, Option.map_map]
    rfl
  · rw [ActiveRequestManager.requestId, h.same ptr fun id hid hexpired => hhit ⟨id, hid, hexpired⟩]
    rfl

theorem cleanup_expired_requests_spec (manager : ActiveRequestManager)
    (order : Order manager.active_requests_) (now : ℤ) :
    CleanedUp manager now (manager.cleanup_expired_requests order now) := by
  have h := cleaned_foldl manager now order.visited.entries
  have hmem := order.mem_visited_iff
  refine ⟨h.next, h.length, fun id ptr => ?_, fun id ptr hid hexpired => ?_,
    fun ptr hptr => ?_, fun ptr => ?_⟩
  · by_cases hgone : ∃ e ∈ order.visited.entries, e.1 = id ∧ manager.HasExpired now e.2
    · obtain ⟨⟨_, other⟩, he, rfl, hexpired⟩ := hgone
      have hother : manager.active_requests_.lookup _ = some other := (hmem _ _).mp he
      rw [cleanup_expired_requests, h.gone _ he hexpired, hother]
      refine iff_of_false (by simp) ?_
      rintro ⟨hptr, hnot⟩
      exact hnot (Option.some.inj hptr ▸ hexpired)
    · have hkept := h.kept id fun e he heq hexpired => hgone ⟨e, he, heq, hexpired⟩
      rw [cleanup_expired_requests, hkept]
      refine ⟨fun hid => ⟨hid, fun hexpired => ?_⟩, fun hid => hid.1⟩
      exact hgone ⟨⟨id, ptr⟩, (hmem _ _).mpr hid, rfl, hexpired⟩
  · exact h.failed ⟨id, ptr⟩ ((hmem _ _).mpr hid) hexpired
  · refine h.same ptr fun e he heq => ?_
    obtain ⟨id, other⟩ := e
    obtain rfl : other = ptr := heq
    exact hptr id ((hmem _ _).mp he)
  · rw [cleanup_expired_requests, h.warned]
    constructor
    · rintro ⟨⟨id, other⟩, he, rfl, hexpired⟩
      exact ⟨id, (hmem _ _).mp he, hexpired⟩
    · rintro ⟨id, hid, hexpired⟩
      exact ⟨⟨id, ptr⟩, (hmem _ _).mpr hid, rfl, hexpired⟩

end ActiveRequestManager

end Http2Server
