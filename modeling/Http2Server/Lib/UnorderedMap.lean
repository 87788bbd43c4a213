/-
A hash map as a program sees it: a finite map whose iteration order is not part
of its value.

The map itself is Mathlib's `Finmap`, extensional in `lookup`. What is added is
the order a range-for visits it in (`Order`) and the search that returns the
first entry passing a test (`firstMatch`). The result of the file is
`firstMatch_order_free_iff`: such a search is a function of the map, and not of
the order, exactly when at most one entry passes the test.
-/
import Mathlib.Data.Finmap

set_option autoImplicit false

/-- A finite map with an unspecified iteration order. -/
abbrev UnorderedMap (κ ν : Type*) := Finmap fun _ : κ => ν

namespace UnorderedMap

variable {κ ν : Type*}

/-- One order in which the map may be visited: a list of its entries, each key
once. Well-formedness is in the type, so an order that misses an entry, repeats
one or invents one cannot be given. -/
structure Order (m : UnorderedMap κ ν) where
  visited : AList fun _ : κ => ν
  enumerates : visited.toFinmap = m

/-- Every map can be visited in some order. -/
theorem Order.exists_order (m : UnorderedMap κ ν) : Nonempty (Order m) :=
  Finmap.induction_on m fun l => ⟨⟨l, rfl⟩⟩

/-- Some order; which one is left open. -/
noncomputable def anyOrder (m : UnorderedMap κ ν) : Order m :=
  Classical.choice (Order.exists_order m)

variable [DecidableEq κ] {m : UnorderedMap κ ν}

/-- The entries visited are the entries of the map. -/
theorem Order.mem_visited_iff (o : Order m) (k : κ) (v : ν) :
    (⟨k, v⟩ : Σ _ : κ, ν) ∈ o.visited.entries ↔ m.lookup k = some v := by
  obtain ⟨visited, rfl⟩ := o
  rw [← AList.mem_lookup_iff, Finmap.lookup_toFinmap]
  rfl

/-! ## The first entry that passes a test -/

/-- `for (const auto& [k, v] : m) if (p(v)) return v;` -/
def firstMatch (o : Order m) (p : ν → Bool) : Option ν :=
  (o.visited.entries.find? fun e => p e.2).map fun e => e.2

/-- The search fails exactly when no entry of the map passes. -/
theorem firstMatch_eq_none_iff (o : Order m) (p : ν → Bool) :
    firstMatch o p = none ↔ ∀ k v, m.lookup k = some v → p v = false := by
  rw [firstMatch, Option.map_eq_none_iff, List.find?_eq_none]
  constructor
  · intro h k v hkv
    have hmem := (o.mem_visited_iff k v).mpr hkv
    simpa using h _ hmem
  · rintro h ⟨k, v⟩ hmem
    rw [h k v ((o.mem_visited_iff k v).mp hmem)]
    simp

/-- What the search returns is in the map and passes. -/
theorem firstMatch_eq_some (o : Order m) (p : ν → Bool) {v : ν}
    (h : firstMatch o p = some v) : ∃ k, m.lookup k = some v ∧ p v = true := by
  rw [firstMatch, Option.map_eq_some_iff] at h
  obtain ⟨⟨k, w⟩, hfind, rfl⟩ := h
  exact ⟨k, (o.mem_visited_iff k w).mp (List.mem_of_find?_eq_some hfind),
    by simpa using List.find?_some hfind⟩

/-- A map without keys is empty. -/
theorem eq_empty_of_notMem (h : ∀ k, k ∉ m) : m = ∅ :=
  Finmap.ext_lookup fun k => by rw [Finmap.lookup_eq_none.mpr (h k), Finmap.lookup_empty]

/-- Storing what is stored already changes nothing. -/
theorem insert_of_lookup {k : κ} {v : ν} (h : m.lookup k = some v) : m.insert k v = m := by
  apply Finmap.ext_lookup
  intro k'
  by_cases hk : k' = k
  · rw [hk, Finmap.lookup_insert, h]
  · rw [Finmap.lookup_insert_of_ne _ hk]

/-- A value under a key that is there adds no key. -/
theorem mem_insert_of_lookup {k k' : κ} {v : ν} (h : m.lookup k = some v) (v' : ν) :
    k' ∈ m.insert k v' ↔ k' ∈ m := by
  rw [Finmap.mem_insert]
  exact or_iff_right_of_imp fun hk => hk ▸ Finmap.mem_of_lookup_eq_some h

/-- Removing an entry that was added restores the map. -/
theorem erase_insert_of_lookup_eq_none {k : κ} (h : m.lookup k = none) (v : ν) :
    (m.insert k v).erase k = m := by
  apply Finmap.ext_lookup
  intro k'
  by_cases hk : k' = k
  · rw [hk, Finmap.lookup_erase, h]
  · rw [Finmap.lookup_erase_ne hk, Finmap.lookup_insert_of_ne _ hk]

/-- Any entry that passes is the answer under some order: the one that visits it
first. -/
theorem exists_order_firstMatch (p : ν → Bool) {k : κ} {v : ν}
    (hkv : m.lookup k = some v) (hp : p v = true) :
    ∃ o : Order m, firstMatch o p = some v := by
  obtain ⟨o⟩ := Order.exists_order m
  have hsame : (o.visited.insert k v).toFinmap = m := by
    rw [← Finmap.insert_toFinmap, o.enumerates, insert_of_lookup hkv]
  refine ⟨⟨o.visited.insert k v, hsame⟩, ?_⟩
  rw [firstMatch, AList.entries_insert, List.find?_cons_of_pos (by simpa using hp)]
  rfl

/-- **A first-match search depends on the map alone exactly when at most one
value in it passes the test.** -/
theorem firstMatch_order_free_iff (p : ν → Bool) :
    (∀ o o' : Order m, firstMatch o p = firstMatch o' p)
      ↔ ∀ k v k' v', m.lookup k = some v → p v = true → m.lookup k' = some v' →
          p v' = true → v = v' := by
  constructor
  · intro h k v k' v' hkv hp hkv' hp'
    obtain ⟨o, ho⟩ := exists_order_firstMatch p hkv hp
    obtain ⟨o', ho'⟩ := exists_order_firstMatch p hkv' hp'
    have hoo' := h o o'
    rw [ho, ho'] at hoo'
    exact Option.some.inj hoo'
  · intro h o o'
    rcases hfound : firstMatch o p with _ | v
    · rw [eq_comm, firstMatch_eq_none_iff]
      exact (firstMatch_eq_none_iff o p).mp hfound
    · obtain ⟨k, hkv, hp⟩ := firstMatch_eq_some o p hfound
      rcases hfound' : firstMatch o' p with _ | v'
      · rw [(firstMatch_eq_none_iff o' p).mp hfound' k v hkv] at hp
        exact absurd hp (by simp)
      · obtain ⟨k', hkv', hp'⟩ := firstMatch_eq_some o' p hfound'
        rw [h k v k' v' hkv hp hkv' hp']

end UnorderedMap
