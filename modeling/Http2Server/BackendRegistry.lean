/-
`BackendRegistry` (`transport/proxy_handler.{hpp,cpp}`): the routing table.

The bottom layer is the class as the source has it: an `unordered_map` from
backend ids to rules, `register_backend` and `unregister_backend` on it, and
`find_backend`, which walks the map in whatever order it enumerates and returns
the first rule whose pattern `find` locates at position `0`.

Over it stands what the table is for. A *history* is the sequence of calls the
mutex let through, whoever made them; a rule is *live* in a history when it was
registered and no later call named its id. The two layers meet in
`lookup_after_iff`: the map after a history holds exactly the live rules.

Two results follow. `find_backend_sound_complete` is what a lookup promises under
every history and every enumeration order. `find_backend_order_free_iff` is what
it does not: with the registered mapping fixed, the answer is independent of the
enumeration order only for the paths that at most one registered rule's pattern matches.
-/
import Http2Server.Common
import Http2Server.Lib.UnorderedMap

set_option autoImplicit false

open ByteString UnorderedMap

namespace Http2Server

/-- `struct ForwardingRule`. -/
structure ForwardingRule where
  backend_id : Bytes
  target_host : Bytes
  target_port : ℤ
  path_pattern : Bytes
  deriving DecidableEq, Repr

/-- `class BackendRegistry`, as the mutex leaves it between two calls. -/
structure BackendRegistry where
  backends_ : UnorderedMap Bytes ForwardingRule
  deriving DecidableEq

namespace BackendRegistry

/-- The registry of a fresh process. -/
def empty : BackendRegistry := ⟨∅⟩

def register_backend (registry : BackendRegistry) (backend_id host : Bytes) (port : ℤ)
    (path_pattern : Bytes) : BackendRegistry :=
  ⟨registry.backends_.insert backend_id ⟨backend_id, host, port, path_pattern⟩⟩

def unregister_backend (registry : BackendRegistry) (backend_id : Bytes) : BackendRegistry :=
  match registry.backends_.lookup backend_id with
  | some _ => ⟨registry.backends_.erase backend_id⟩
  | none => registry

/-- `path.find(rule->path_pattern) == 0`, over the map in the given order. -/
def find_backend (registry : BackendRegistry) (order : Order registry.backends_) (path : Bytes) :
    Option ForwardingRule :=
  firstMatch order fun rule => find path rule.path_pattern == some 0

/-! ## One call on the map -/

@[simp] theorem lookup_register_backend_self (registry : BackendRegistry)
    (backend_id host : Bytes) (port : ℤ) (path_pattern : Bytes) :
    (registry.register_backend backend_id host port path_pattern).backends_.lookup backend_id
      = some ⟨backend_id, host, port, path_pattern⟩ :=
  Finmap.lookup_insert _

theorem lookup_register_backend_of_ne (registry : BackendRegistry) {backend_id id : Bytes}
    (host : Bytes) (port : ℤ) (path_pattern : Bytes) (h : id ≠ backend_id) :
    (registry.register_backend backend_id host port path_pattern).backends_.lookup id
      = registry.backends_.lookup id :=
  Finmap.lookup_insert_of_ne _ h

/-- The branch of `unregister_backend` on a missing id changes nothing that
erasing would. -/
theorem backends_unregister_backend (registry : BackendRegistry) (backend_id : Bytes) :
    (registry.unregister_backend backend_id).backends_ = registry.backends_.erase backend_id := by
  rw [unregister_backend]
  rcases hfound : registry.backends_.lookup backend_id with _ | rule
  · apply Finmap.ext_lookup
    intro id
    by_cases hid : id = backend_id
    · rw [hid, hfound, Finmap.lookup_erase]
    · rw [Finmap.lookup_erase_ne hid]
  · rfl

@[simp] theorem lookup_unregister_backend_self (registry : BackendRegistry)
    (backend_id : Bytes) :
    (registry.unregister_backend backend_id).backends_.lookup backend_id = none := by
  rw [backends_unregister_backend, Finmap.lookup_erase]

theorem lookup_unregister_backend_of_ne (registry : BackendRegistry) {backend_id id : Bytes}
    (h : id ≠ backend_id) :
    (registry.unregister_backend backend_id).backends_.lookup id
      = registry.backends_.lookup id := by
  rw [backends_unregister_backend, Finmap.lookup_erase_ne h]

/-! ## One lookup -/

/-- A rule is a candidate for a path when its pattern is an initial segment of
the path. -/
def Matches (rule : ForwardingRule) (path : Bytes) : Prop := rule.path_pattern <+: path

instance (rule : ForwardingRule) (path : Bytes) : Decidable (Matches rule path) :=
  inferInstanceAs (Decidable (rule.path_pattern <+: path))

theorem find_test_iff (rule : ForwardingRule) (path : Bytes) :
    (find path rule.path_pattern == some 0) = true ↔ Matches rule path := by
  rw [beq_iff_eq, find_eq_zero_iff, Matches]

theorem find_backend_eq_none_iff (registry : BackendRegistry) (order : Order registry.backends_)
    (path : Bytes) :
    registry.find_backend order path = none
      ↔ ∀ id rule, registry.backends_.lookup id = some rule → ¬ Matches rule path := by
  rw [find_backend, firstMatch_eq_none_iff]
  simp only [← find_test_iff, Bool.not_eq_true]

theorem find_backend_eq_some (registry : BackendRegistry) (order : Order registry.backends_)
    {path : Bytes} {rule : ForwardingRule} (h : registry.find_backend order path = some rule) :
    ∃ id, registry.backends_.lookup id = some rule ∧ Matches rule path := by
  obtain ⟨id, hid, htest⟩ := firstMatch_eq_some order _ h
  exact ⟨id, hid, (find_test_iff rule path).mp htest⟩

/-! ### The client's default pattern

A backend registered with the pattern `/` is a candidate for every path. -/

def catchAllRule : ForwardingRule := ⟨bytes "root", bytes "localhost", 9999, bytes "/"⟩

/-- A table with one such backend. -/
def catchAll : BackendRegistry :=
  empty.register_backend (bytes "root") (bytes "localhost") 9999 (bytes "/")

theorem find_backend_catchAll (order : Order catchAll.backends_) {path : Bytes}
    (h : bytes "/" <+: path) : catchAll.find_backend order path = some catchAllRule := by
  have hself : catchAll.backends_.lookup (bytes "root") = some catchAllRule :=
    lookup_register_backend_self _ _ _ _ _
  rcases hfound : catchAll.find_backend order path with _ | rule
  · exact absurd h ((find_backend_eq_none_iff _ _ _).mp hfound _ _ hself)
  · obtain ⟨id, hid, -⟩ := find_backend_eq_some _ _ hfound
    by_cases hroot : id = bytes "root"
    · rw [← hid, hroot, hself]
    · rw [catchAll, lookup_register_backend_of_ne _ _ _ _ hroot, empty, Finmap.lookup_empty] at hid
      exact absurd hid (by simp)

end BackendRegistry

/-! ## Histories -/

/-- One call on the registry that the mutex let through. -/
inductive RegistryCall
  | register_backend (backend_id host : Bytes) (port : ℤ) (path_pattern : Bytes)
  | unregister_backend (backend_id : Bytes)
  deriving DecidableEq, Repr

namespace RegistryCall

/-- The id a call names. -/
def backend_id : RegistryCall → Bytes
  | register_backend backend_id _ _ _ => backend_id
  | unregister_backend backend_id => backend_id

/-- The call that registers a given rule. -/
def registering (rule : ForwardingRule) : RegistryCall :=
  register_backend rule.backend_id rule.target_host rule.target_port rule.path_pattern

/-- What a call does to the registry. -/
def apply (registry : BackendRegistry) : RegistryCall → BackendRegistry
  | register_backend backend_id host port path_pattern =>
      registry.register_backend backend_id host port path_pattern
  | unregister_backend backend_id => registry.unregister_backend backend_id

end RegistryCall

namespace BackendRegistry

/-- The registry after a history, from a fresh process. The calls of different
threads reach the map one at a time, so every interleaving of any number of
callers is one such list. -/
def after (history : List RegistryCall) : BackendRegistry :=
  history.foldl RegistryCall.apply empty

theorem after_append_singleton (history : List RegistryCall) (call : RegistryCall) :
    after (history ++ [call]) = call.apply (after history) := by
  rw [after, after, List.foldl_append, List.foldl_cons, List.foldl_nil]

/-- **Live rules.** The rule was registered at some point, and no call made since
names its id: it is the most recent registration of the id, not unregistered. -/
def Live (history : List RegistryCall) (rule : ForwardingRule) : Prop :=
  ∃ before later, history = before ++ RegistryCall.registering rule :: later
    ∧ ∀ call ∈ later, call.backend_id ≠ rule.backend_id

/-- How one more call changes what is live. -/
theorem live_append_singleton_iff (history : List RegistryCall) (call : RegistryCall)
    (rule : ForwardingRule) :
    Live (history ++ [call]) rule
      ↔ call = RegistryCall.registering rule
        ∨ (call.backend_id ≠ rule.backend_id ∧ Live history rule) := by
  constructor
  · rintro ⟨before, later, heq, hlater⟩
    rcases List.eq_nil_or_concat later with rfl | ⟨later', last, rfl⟩
    · obtain ⟨-, hlast⟩ := List.append_inj' heq rfl
      exact Or.inl (List.head_eq_of_cons_eq hlast)
    · rw [List.concat_eq_append, ← List.cons_append, ← List.append_assoc] at heq
      obtain ⟨hinit, hlast⟩ := List.append_inj' heq rfl
      obtain rfl := List.head_eq_of_cons_eq hlast
      exact Or.inr ⟨hlater call (by simp),
        before, later', hinit, fun c hc => hlater c (by simp [hc])⟩
  · rintro (rfl | ⟨hne, before, later, rfl, hlater⟩)
    · exact ⟨history, [], rfl, by simp⟩
    · refine ⟨before, later ++ [call], by simp, fun c hc => ?_⟩
      rcases List.mem_append.mp hc with hc | hc
      · exact hlater c hc
      · rw [List.mem_singleton.mp hc]
        exact hne

/-- How one more call changes what is stored: in the same way. -/
theorem lookup_apply_iff (registry : BackendRegistry) (call : RegistryCall) (id : Bytes)
    (rule : ForwardingRule) :
    (call.apply registry).backends_.lookup id = some rule
      ↔ (call = RegistryCall.registering rule ∧ rule.backend_id = id)
        ∨ (call.backend_id ≠ id ∧ registry.backends_.lookup id = some rule) := by
  by_cases hid : call.backend_id = id
  · -- the call decides, whatever was stored before
    subst hid
    cases call with
    | register_backend backend_id host port path_pattern =>
        rw [RegistryCall.apply, RegistryCall.backend_id, lookup_register_backend_self,
          Option.some.injEq]
        constructor
        · rintro rfl
          exact Or.inl ⟨rfl, rfl⟩
        · rintro (⟨hcall, -⟩ | ⟨hne, -⟩)
          · obtain ⟨rfl, rfl, rfl, rfl⟩ := RegistryCall.register_backend.inj hcall
            rfl
          · exact absurd rfl hne
    | unregister_backend backend_id =>
        rw [RegistryCall.apply, RegistryCall.backend_id, lookup_unregister_backend_self]
        simp [RegistryCall.registering]
  · -- the call names another id, and a rule it registers is stored under that
    have hother : ¬ (call = RegistryCall.registering rule ∧ rule.backend_id = id) := by
      rintro ⟨rfl, hrule⟩
      exact hid hrule
    have hsame : (call.apply registry).backends_.lookup id = registry.backends_.lookup id := by
      cases call with
      | register_backend backend_id host port path_pattern =>
          exact lookup_register_backend_of_ne _ _ _ _ (Ne.symm hid)
      | unregister_backend backend_id => exact lookup_unregister_backend_of_ne _ (Ne.symm hid)
    rw [hsame, or_iff_right hother, and_iff_right hid]

/-- **The map holds the live rules**, each under its own id. -/
theorem lookup_after_iff (history : List RegistryCall) (id : Bytes) (rule : ForwardingRule) :
    (after history).backends_.lookup id = some rule
      ↔ rule.backend_id = id ∧ Live history rule := by
  induction history using List.reverseRecOn with
  | nil =>
      constructor
      · intro h
        rw [after, List.foldl_nil, empty, Finmap.lookup_empty] at h
        exact absurd h (by simp)
      · rintro ⟨-, before, later, heq, -⟩
        exact absurd heq (by simp)
  | append_singleton history call ih =>
      rw [after_append_singleton, lookup_apply_iff, live_append_singleton_iff, ih]
      constructor
      · rintro (⟨hcall, rfl⟩ | ⟨hne, rfl, hlive⟩)
        · exact ⟨rfl, Or.inl hcall⟩
        · exact ⟨rfl, Or.inr ⟨hne, hlive⟩⟩
      · rintro ⟨rfl, hcall | ⟨hne, hlive⟩⟩
        · exact Or.inl ⟨hcall, rfl⟩
        · exact Or.inr ⟨hne, rfl, hlive⟩

/-- A rule is stored under its own id. -/
theorem backend_id_of_lookup_after {history : List RegistryCall} {id : Bytes}
    {rule : ForwardingRule} (h : (after history).backends_.lookup id = some rule) :
    rule.backend_id = id :=
  ((lookup_after_iff history id rule).mp h).1

/-! ## Routing over every history -/

/-- **Routing is sound and complete.** After any history and under any
enumeration order, a lookup fails exactly when no live rule's pattern is an
initial segment of the path, and what it returns is a live rule whose pattern
is. -/
theorem find_backend_sound_complete (history : List RegistryCall)
    (order : Order (after history).backends_) (path : Bytes) :
    ((after history).find_backend order path = none
        ↔ ∀ rule, Live history rule → ¬ rule.path_pattern <+: path)
      ∧ ∀ rule, (after history).find_backend order path = some rule →
          rule.path_pattern <+: path ∧ Live history rule := by
  constructor
  · rw [find_backend_eq_none_iff]
    constructor
    · intro h rule hlive
      exact h rule.backend_id rule ((lookup_after_iff _ _ _).mpr ⟨rfl, hlive⟩)
    · intro h id rule hfound
      exact h rule ((lookup_after_iff _ _ _).mp hfound).2
  · intro rule hfind
    obtain ⟨id, hfound, hmatch⟩ := find_backend_eq_some _ _ hfind
    exact ⟨hmatch, ((lookup_after_iff _ _ _).mp hfound).2⟩

/-- At most one registered rule is a candidate for the path. -/
def Unambiguous (registry : BackendRegistry) (path : Bytes) : Prop :=
  ∀ id rule id' rule', registry.backends_.lookup id = some rule → Matches rule path →
    registry.backends_.lookup id' = some rule' → Matches rule' path → id = id'

/-- **When routing depends on what is registered and nothing else.** Two
histories that leave the same mapping route a path alike under all enumeration
orders exactly when at most one registered rule's pattern matches it; in every
case they agree on whether there is a backend at all. -/
theorem find_backend_order_free_iff (history history' : List RegistryCall) (path : Bytes)
    (hsame : (after history).backends_ = (after history').backends_) :
    ((∀ (order : Order (after history).backends_) (order' : Order (after history').backends_),
        (after history).find_backend order path = (after history').find_backend order' path)
      ↔ Unambiguous (after history) path)
      ∧ ∀ (order : Order (after history).backends_) (order' : Order (after history').backends_),
          (after history).find_backend order path = none
            ↔ (after history').find_backend order' path = none := by
  have hreg : after history = after history' := by
    rcases hx : after history with ⟨m⟩
    rcases hy : after history' with ⟨m'⟩
    rw [hx, hy] at hsame
    exact congrArg BackendRegistry.mk hsame
  rw [← hreg]
  refine ⟨?_, fun order order' => by rw [find_backend_eq_none_iff, find_backend_eq_none_iff]⟩
  simp only [find_backend]
  rw [firstMatch_order_free_iff]
  simp only [find_test_iff]
  constructor
  · intro h id rule id' rule' hid hmatch hid' hmatch'
    have hrule := h id rule id' rule' hid hmatch hid' hmatch'
    rw [← backend_id_of_lookup_after hid, ← backend_id_of_lookup_after hid', hrule]
  · intro h id rule id' rule' hid hmatch hid' hmatch'
    have hids := h id rule id' rule' hid hmatch hid' hmatch'
    rw [hids, hid', Option.some.injEq] at hid
    exact hid.symm

/-- The catch-all backend and the `/api/` backend, in the one order and in the
other. The client's default pattern is the catch-all, so the overlap is the
common case. -/
def rootThenApi : List RegistryCall :=
  [.register_backend (bytes "root") (bytes "localhost") 9999 (bytes "/"),
    .register_backend (bytes "api") (bytes "localhost") 3000 (bytes "/api/")]

def apiThenRoot : List RegistryCall := rootThenApi.reverse

theorem backends_rootThenApi :
    (after rootThenApi).backends_ = (after apiThenRoot).backends_ := by
  have hids : bytes "root" ≠ bytes "api" := by decide
  exact Finmap.insert_insert_of_ne ∅ hids

/-- The same two registrations, made in a different order, leave the same
mapping and route `/api/users` to different backends when the map enumerates
them differently. -/
theorem find_backend_depends_on_order :
    (after rootThenApi).backends_ = (after apiThenRoot).backends_
      ∧ ∃ (order : Order (after rootThenApi).backends_)
          (order' : Order (after apiThenRoot).backends_),
          (after rootThenApi).find_backend order (bytes "/api/users")
            ≠ (after apiThenRoot).find_backend order' (bytes "/api/users") := by
  refine ⟨backends_rootThenApi,
    ⟨(AList.insert (bytes "api") ⟨bytes "api", bytes "localhost", 3000, bytes "/api/"⟩ <|
      AList.insert (bytes "root") ⟨bytes "root", bytes "localhost", 9999, bytes "/"⟩ ∅), rfl⟩,
    ⟨(AList.insert (bytes "root") ⟨bytes "root", bytes "localhost", 9999, bytes "/"⟩ <|
      AList.insert (bytes "api") ⟨bytes "api", bytes "localhost", 3000, bytes "/api/"⟩ ∅), rfl⟩, ?_⟩
  decide

/-- The two histories route `/index`, which only the catch-all matches, alike. -/
theorem find_backend_order_free_iff_rootThenApi :
    Unambiguous (after rootThenApi) (bytes "/index")
      ∧ ∀ (order : Order (after rootThenApi).backends_)
          (order' : Order (after apiThenRoot).backends_),
          (after rootThenApi).find_backend order (bytes "/index")
            = (after apiThenRoot).find_backend order' (bytes "/index") := by
  have honly : ∀ id rule, (after rootThenApi).backends_.lookup id = some rule →
      Matches rule (bytes "/index") → id = bytes "root" := by
    intro id rule hid hmatch
    by_contra hroot
    by_cases hapi : id = bytes "api"
    · have hrule : (after rootThenApi).backends_.lookup (bytes "api")
          = some ⟨bytes "api", bytes "localhost", 3000, bytes "/api/"⟩ := Finmap.lookup_insert _
      rw [hapi, hrule] at hid
      obtain rfl := Option.some.inj hid
      exact absurd hmatch (by decide)
    · have hnone : (after rootThenApi).backends_.lookup id = none :=
        (Finmap.lookup_insert_of_ne _ hapi).trans
          ((Finmap.lookup_insert_of_ne _ hroot).trans (Finmap.lookup_empty id))
      rw [hnone] at hid
      exact absurd hid (by simp)
  have hunambiguous : Unambiguous (after rootThenApi) (bytes "/index") :=
    fun id rule id' rule' hid hmatch hid' hmatch' =>
      (honly id rule hid hmatch).trans (honly id' rule' hid' hmatch').symm
  exact ⟨hunambiguous, (find_backend_order_free_iff rootThenApi apiThenRoot (bytes "/index")
    backends_rootThenApi).1.mpr hunambiguous⟩

end BackendRegistry

end Http2Server
