/-
A pool of outstanding work: a list from which any element may be taken next, and
to which new ones are added at the end.

Each element has an owner. `owned` is the part of the pool that belongs to one
owner; the lemmas say how it changes when an element is taken or added, which is
all a proof needs that follows one owner through an arbitrary interleaving with
the others.

Beside the pool, a machine keeps records of what has happened, which only grow:
whoever has a place in one keeps it, and only its own entry changes with it.
-/
import Mathlib.Data.List.Induction
import Mathlib.Data.List.Perm.Basic

set_option autoImplicit false

namespace Pool

variable {α β : Type*} [DecidableEq β] (owner : α → β)

/-- The elements that belong to `b`. -/
def owned (pool : List α) (b : β) : List α := pool.filter fun x => owner x = b

variable {owner} {pool : List α} {b : β}

theorem owned_append (more : List α) :
    owned owner (pool ++ more) b = owned owner pool b ++ owned owner more b := by
  rw [owned, owned, owned, List.filter_append]

theorem mem_owned {x : α} : x ∈ owned owner pool b ↔ x ∈ pool ∧ owner x = b := by
  simp [owned]

/-- An owner nobody in the pool has owns nothing. -/
theorem owned_eq_nil (h : ∀ x ∈ pool, owner x ≠ b) : owned owner pool b = [] := by
  rw [owned, List.filter_eq_nil_iff]
  simpa using h

/-- An owner everybody in the pool has owns it all. -/
theorem owned_eq_self (h : ∀ x ∈ pool, owner x = b) : owned owner pool b = pool := by
  rw [owned, List.filter_eq_self]
  simpa using h

/-- One more element goes to its owner. -/
theorem owned_concat_self {x : α} (h : owner x = b) :
    owned owner (pool ++ [x]) b = owned owner pool b ++ [x] := by
  rw [owned_append, owned_eq_self (List.forall_mem_singleton.mpr h)]

/-- One more element goes to nobody but its owner. -/
theorem owned_concat_of_ne {x : α} (h : owner x ≠ b) :
    owned owner (pool ++ [x]) b = owned owner pool b := by
  rw [owned_append, owned_eq_nil (List.forall_mem_singleton.mpr h), List.append_nil]

/-- An element taken, and what is left, are the pool. -/
theorem perm_cons_eraseIdx {k : ℕ} {x : α} (hk : pool[k]? = some x) :
    pool.Perm (x :: pool.eraseIdx k) := by
  obtain ⟨hlt, rfl⟩ := List.getElem?_eq_some_iff.mp hk
  exact (List.getElem_cons_eraseIdx_perm hlt).symm

/-- Taking an element does not change what the other owners have. -/
theorem owned_eraseIdx_of_ne {k : ℕ} {x : α} (hk : pool[k]? = some x) (h : owner x ≠ b) :
    owned owner (pool.eraseIdx k) b = owned owner pool b := by
  induction pool generalizing k with
  | nil => rfl
  | cons y pool ih =>
      cases k with
      | zero =>
          obtain rfl : y = x := by simpa using hk
          simp [owned, h]
      | succ k =>
          have hrest := ih (k := k) (by simpa using hk)
          simp only [owned] at hrest
          simp only [owned, List.eraseIdx_cons_succ, List.filter_cons, hrest]

/-- Taking an element takes one element from its owner's part. -/
theorem length_owned_eraseIdx {k : ℕ} {x : α} (hk : pool[k]? = some x) :
    (owned owner (pool.eraseIdx k) (owner x)).length + 1
      = (owned owner pool (owner x)).length := by
  induction pool generalizing k with
  | nil => simp at hk
  | cons y pool ih =>
      cases k with
      | zero =>
          obtain rfl : y = x := by simpa using hk
          simp [owned]
      | succ k =>
          have hrest := ih (k := k) (by simpa using hk)
          simp only [owned] at hrest
          simp only [owned, List.eraseIdx_cons_succ, List.filter_cons]
          by_cases hy : owner y = owner x
          · simp only [hy, decide_true, if_true, List.length_cons]
            omega
          · simpa only [hy, decide_false, if_false, Bool.false_eq_true] using hrest

/-- Taking the only element an owner has leaves it nothing. -/
theorem owned_eraseIdx_of_single {k : ℕ} {x y : α} (hk : pool[k]? = some x)
    (hsingle : owned owner pool (owner x) = [y]) :
    y = x ∧ owned owner (pool.eraseIdx k) (owner x) = [] := by
  have hmem : x ∈ owned owner pool (owner x) := mem_owned.mpr ⟨List.mem_of_getElem? hk, rfl⟩
  have hlen : (owned owner (pool.eraseIdx k) (owner x)).length + 1
      = (owned owner pool (owner x)).length := length_owned_eraseIdx hk
  rw [hsingle] at hmem hlen
  refine ⟨(List.mem_singleton.mp hmem).symm, List.eq_nil_of_length_eq_zero ?_⟩
  rw [List.length_singleton] at hlen
  omega

variable (owner) in
/-- An owner of something has something last. -/
theorem exists_getLast?_owned {x : α} (hx : x ∈ pool) :
    ∃ y, (owned owner pool (owner x)).getLast? = some y :=
  Option.isSome_iff_exists.mp
    (List.getLast?_isSome.mpr (List.ne_nil_of_mem (mem_owned.mpr ⟨hx, rfl⟩)))

/-! ### Orders that keep each owner's

Work that goes through a queue of each owner is taken in some order in which every owner's
part is as it was put in. What is taken last is then the last of some owner's, and may be of
any. -/

/-- The second list has each owner's part of the first, in its order. -/
def Interleaves (owner : α → β) (pool taken : List α) : Prop :=
  ∀ b, owned owner taken b = owned owner pool b

variable {taken : List α} {x : α}

theorem Interleaves.mem_iff (h : Interleaves owner pool taken) : x ∈ taken ↔ x ∈ pool := by
  have hmine : ∀ list : List α, x ∈ list ↔ x ∈ owned owner list (owner x) := fun list => by
    rw [mem_owned, and_iff_left rfl]
  rw [hmine taken, hmine pool, h]

/-- Where everybody has a queue of their own, every order will do. -/
theorem interleaves_id_iff [DecidableEq α] {pool taken : List α} :
    Interleaves id pool taken ↔ taken.Perm pool := by
  have hcount : ∀ list : List α, ∀ x, owned id list x = List.replicate (list.count x) x :=
    fun list x => List.filter_eq x
  rw [Interleaves, List.perm_iff_count]
  refine forall_congr' fun x => ?_
  rw [hcount, hcount, List.replicate_inj, and_iff_left (Or.inr rfl)]

/-- What is taken last was the last of its owner's. -/
theorem Interleaves.getLast?_owned (h : Interleaves owner pool taken)
    (hlast : taken.getLast? = some x) : (owned owner pool (owner x)).getLast? = some x := by
  obtain ⟨before, rfl⟩ := List.getLast?_eq_some_iff.mp hlast
  rw [← h, owned_concat_self rfl, List.getLast?_concat]

/-- The last of any owner's may be taken last. -/
theorem exists_interleaves_getLast? (hlast : (owned owner pool b).getLast? = some x) :
    ∃ taken, Interleaves owner pool taken ∧ taken.getLast? = some x := by
  refine ⟨(pool.filter fun y => owner y ≠ b) ++ owned owner pool b, fun c => ?_, ?_⟩
  · rw [owned_append]
    by_cases hc : c = b
    · subst hc
      rw [owned_eq_nil (by simp), List.nil_append]
      exact owned_eq_self fun y hy => (mem_owned.mp hy).2
    · have hnone : owned owner (owned owner pool b) c = [] :=
        owned_eq_nil fun y hy h => hc ((mem_owned.mp hy).2 ▸ h.symm)
      rw [hnone, List.append_nil, owned, owned, List.filter_filter]
      refine List.filter_congr fun y _ => ?_
      by_cases hy : owner y = c <;> simp [hy, hc]
  · rw [List.getLast?_append, hlast, Option.some_or]

/-- **The last one taken**: it has a property in every such order exactly when the last of
every owner's has. -/
theorem forall_interleaves_getLast?_iff {P : α → Prop} :
    (∀ taken, Interleaves owner pool taken → ∀ x, taken.getLast? = some x → P x)
      ↔ ∀ b x, (owned owner pool b).getLast? = some x → P x := by
  constructor
  · intro h b x hlast
    obtain ⟨taken, htaken, hlast'⟩ := exists_interleaves_getLast? hlast
    exact h taken htaken x hlast'
  · exact fun h taken htaken x hlast => h _ x (htaken.getLast?_owned hlast)

end Pool

/-! ## Records that only grow -/

namespace Record

variable {α : Type*} {entries : List α} {n : ℕ} {a b : α}

/-- What comes of at most one entry is at most one. -/
theorem filterMap_toList {β : Type*} (f : α → Option β) (entry : Option α) :
    entry.toList.filterMap f = (entry.bind f).toList := by
  cases entry with
  | none => rfl
  | some a =>
      rw [Option.toList_some, List.filterMap_cons, List.filterMap_nil, Option.bind_some]
      cases f a <;> rfl

/-- What is on record stays on record, in its place. -/
theorem getElem?_append_of_some (h : entries[n]? = some a) (more : List α) :
    (entries ++ more)[n]? = some a := by
  rw [List.getElem?_append_left (List.getElem?_eq_some_iff.mp h).1, h]

/-- What holds of every entry holds after one more that it holds of. -/
theorem forall_mem_concat {P : α → Prop} (h : ∀ a ∈ entries, P a) (hb : P b) :
    ∀ a ∈ entries ++ [b], P a :=
  List.forall_mem_append.mpr ⟨h, List.forall_mem_singleton.mpr hb⟩

/-- After one more entry, an entry is an earlier one, or the new one in the last
place. -/
theorem getElem?_concat_cases (h : (entries ++ [b])[n]? = some a) :
    entries[n]? = some a ∨ (n = entries.length ∧ a = b) := by
  rw [List.getElem?_append] at h
  split_ifs at h with hn
  · exact Or.inl h
  · have hlt := (List.getElem?_eq_some_iff.mp h).1
    rw [List.length_singleton] at hlt
    obtain rfl : n = entries.length := by omega
    exact Or.inr ⟨rfl, by simpa [eq_comm] using h⟩

/-- After one entry has been replaced, an entry is the new one in that place, or an
earlier one in another. -/
theorem getElem?_set_cases {k : ℕ} (h : (entries.set k b)[n]? = some a) :
    (n = k ∧ a = b) ∨ (n ≠ k ∧ entries[n]? = some a) := by
  by_cases hn : n = k
  · subst hn
    have hlt : n < entries.length := by
      simpa using (List.getElem?_eq_some_iff.mp h).1
    rw [List.getElem?_set_self hlt] at h
    exact Or.inl ⟨rfl, (Option.some.inj h).symm⟩
  · rw [List.getElem?_set_ne (Ne.symm hn)] at h
    exact Or.inr ⟨hn, h⟩

/-- The entries that pass a test, counted by their places. -/
theorem length_filter_range (entries : List α) (p : ℕ → Bool) (q : α → Bool)
    (h : ∀ i a, entries[i]? = some a → p i = q a) :
    ((List.range entries.length).filter p).length = (entries.filter q).length := by
  induction entries using List.reverseRecOn with
  | nil => rfl
  | append_singleton entries a ih =>
      have hlast : p entries.length = q a := h _ _ List.getElem?_concat_length
      rw [List.length_append, List.length_singleton, List.range_succ, List.filter_append,
        List.filter_append, List.length_append, List.length_append,
        ih fun i b hb => h i b (getElem?_append_of_some hb _)]
      congr 1
      rw [List.filter_singleton, List.filter_singleton, hlast]
      cases q a <;> rfl

/-- The `n`-th entry is an `on`, and no `off` comes after it. -/
def Stands (on off : α → Prop) (entries : List α) (n : ℕ) : Prop :=
  (∃ a, entries[n]? = some a ∧ on a) ∧ ∀ m b, n < m → entries[m]? = some b → ¬ off b

variable {on off : α → Prop}

theorem not_stands_nil : ¬ Stands on off [] n := by
  rintro ⟨⟨a, ha, -⟩, -⟩
  exact absurd ha (by simp)

/-- What stands is an entry. -/
theorem Stands.exists_mem (h : Stands on off entries n) : ∃ a ∈ entries, on a := by
  obtain ⟨⟨a, ha, hon⟩, -⟩ := h
  exact ⟨a, List.mem_of_getElem? ha, hon⟩

/-- Where nothing is taken back, everything stands. -/
theorem exists_stands_iff_of_kept (hkept : ∀ b ∈ entries, ¬ off b) :
    (∃ n, Stands on off entries n) ↔ ∃ a ∈ entries, on a := by
  refine ⟨fun ⟨_, h⟩ => h.exists_mem, fun ⟨a, ha, hon⟩ => ?_⟩
  obtain ⟨n, hn⟩ := List.getElem?_of_mem ha
  exact ⟨n, ⟨a, hn, hon⟩, fun m b _ hb => hkept b (List.mem_of_getElem? hb)⟩

/-- After one more entry, what stands is that entry, or what stood and it does not take
back. -/
theorem stands_concat_iff :
    Stands on off (entries ++ [b]) n
      ↔ (n = entries.length ∧ on b) ∨ (Stands on off entries n ∧ ¬ off b) := by
  constructor
  · rintro ⟨⟨a, ha, hon⟩, hlater⟩
    rcases getElem?_concat_cases ha with ha | ⟨rfl, rfl⟩
    · have hn := (List.getElem?_eq_some_iff.mp ha).1
      exact Or.inr ⟨⟨⟨a, ha, hon⟩, fun m c hm hc => hlater m c hm (getElem?_append_of_some hc _)⟩,
        hlater _ b hn List.getElem?_concat_length⟩
    · exact Or.inl ⟨rfl, hon⟩
  · rintro (⟨rfl, hon⟩ | ⟨⟨⟨a, ha, hon⟩, hlater⟩, hoff⟩)
    · refine ⟨⟨b, List.getElem?_concat_length, hon⟩, fun m c hm hc => ?_⟩
      have hlt := (List.getElem?_eq_some_iff.mp hc).1
      rw [List.length_append, List.length_singleton] at hlt
      omega
    · refine ⟨⟨a, getElem?_append_of_some ha _, hon⟩, fun m c hm hc => ?_⟩
      rcases getElem?_concat_cases hc with hc | ⟨-, rfl⟩
      · exact hlater m c hm hc
      · exact hoff

/-- After more entries, something stands if something of them does, or something stood
that none of them takes back. -/
theorem exists_stands_append_iff (more : List α) :
    (∃ n, Stands on off (entries ++ more) n)
      ↔ (∃ n, Stands on off more n) ∨ ((∃ n, Stands on off entries n) ∧ ∀ b ∈ more, ¬ off b) := by
  induction more using List.reverseRecOn with
  | nil => simp [not_stands_nil]
  | append_singleton more b ih =>
      simp only [← List.append_assoc, stands_concat_iff, exists_or, exists_eq_left,
        exists_and_right, ih, List.forall_mem_append, List.forall_mem_singleton, or_assoc,
        or_and_right, and_assoc]

/-! ### The last entry of a kind -/

variable {p q : α → Prop}

/-- An entry of the kind is the last one, or there is one after it. -/
theorem exists_stands_of_getElem? (ha : entries[n]? = some a) (hp : p a) :
    ∃ m, n ≤ m ∧ Stands p p entries m := by
  induction entries using List.reverseRecOn with
  | nil => exact absurd ha (by simp)
  | append_singleton entries b ih =>
      by_cases hb : p b
      · refine ⟨entries.length, ?_, stands_concat_iff.mpr (Or.inl ⟨rfl, hb⟩)⟩
        have hn := (List.getElem?_eq_some_iff.mp ha).1
        rw [List.length_append, List.length_singleton] at hn
        omega
      · rcases getElem?_concat_cases ha with ha | ⟨-, rfl⟩
        · obtain ⟨m, hm, hlast⟩ := ih ha
          exact ⟨m, hm, stands_concat_iff.mpr (Or.inr ⟨hlast, hb⟩)⟩
        · exact absurd hp hb

theorem exists_last_iff : (∃ n, Stands p p entries n) ↔ ∃ a ∈ entries, p a := by
  refine ⟨fun ⟨_, h⟩ => h.exists_mem, fun ⟨a, ha, hp⟩ => ?_⟩
  obtain ⟨n, hn⟩ := List.getElem?_of_mem ha
  obtain ⟨m, -, hlast⟩ := exists_stands_of_getElem? hn hp
  exact ⟨m, hlast⟩

/-- The last entry of one kind is also that of another when every entry is of both kinds or
of neither, or is followed by one of both. -/
theorem Stands.of_alike (h : ∀ (n : ℕ) a, entries[n]? = some a →
      (p a ↔ q a) ∨ ∃ (m : ℕ) (b : α), n < m ∧ entries[m]? = some b ∧ p b ∧ q b)
    (hp : Stands p p entries n) : Stands q q entries n := by
  obtain ⟨⟨a, ha, hpa⟩, hlater⟩ := hp
  constructor
  · refine ⟨a, ha, ?_⟩
    rcases h n a ha with hiff | ⟨m, b, hm, hb, hpb, -⟩
    · exact hiff.mp hpa
    · exact absurd hpb (hlater m b hm hb)
  · intro m b hm hb hqb
    rcases h m b hb with hiff | ⟨m', b', hm', hb', hpb', -⟩
    · exact hlater m b hm hb (hiff.mpr hqb)
    · exact hlater m' b' (Nat.lt_trans hm hm') hb' hpb'

/-- **When two kinds have the same last entry.** -/
theorem stands_iff_stands_iff :
    (∀ n, Stands p p entries n ↔ Stands q q entries n)
      ↔ ∀ (n : ℕ) a, entries[n]? = some a →
          (p a ↔ q a) ∨ ∃ (m : ℕ) (b : α), n < m ∧ entries[m]? = some b ∧ p b ∧ q b := by
  constructor
  · intro h n a ha
    by_cases hboth : ∃ (m : ℕ) (b : α), n < m ∧ entries[m]? = some b ∧ p b ∧ q b
    · exact Or.inr hboth
    -- an entry of one kind is followed by the last of that kind, which is of both
    have hsame : ∀ m, n ≤ m → (∃ b, entries[m]? = some b ∧ p b ∧ q b) → p a ∧ q a := by
      rintro m hm ⟨b, hb, hpq⟩
      rcases Nat.lt_or_eq_of_le hm with hlt | rfl
      · exact absurd ⟨m, b, hlt, hb, hpq⟩ hboth
      · exact Option.some.inj (ha.symm.trans hb) ▸ hpq
    have hlast : ∀ m, Stands p p entries m → ∃ b, entries[m]? = some b ∧ p b ∧ q b := by
      intro m hstands
      obtain ⟨⟨b', hb', hqb⟩, -⟩ := (h m).mp hstands
      obtain ⟨⟨b, hb, hpb⟩, -⟩ := hstands
      exact ⟨b, hb, hpb, Option.some.inj (hb.symm.trans hb') ▸ hqb⟩
    refine Or.inl ⟨fun hpa => ?_, fun hqa => ?_⟩
    · obtain ⟨m, hm, hstands⟩ := exists_stands_of_getElem? ha hpa
      exact (hsame m hm (hlast m hstands)).2
    · obtain ⟨m, hm, hstands⟩ := exists_stands_of_getElem? ha hqa
      exact (hsame m hm (hlast m ((h m).mpr hstands))).1
  · intro h n
    refine ⟨Stands.of_alike h, Stands.of_alike fun m a ha => ?_⟩
    exact (h m a ha).imp Iff.symm fun ⟨m', b, hm', hb, hpb, hqb⟩ => ⟨m', b, hm', hb, hqb, hpb⟩

end Record
