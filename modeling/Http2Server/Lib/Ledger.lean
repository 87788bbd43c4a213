/-
A ledger: a pool of outstanding work and a log of work done, with one account per
owner.

Owners are numbered in the order they come. What is outstanding for an owner and what
has been done for it is its account, and an account is a relation between the two that
the ledger is generic in. Two things happen to a ledger: an owner is enrolled, with its
first entries (`enroll`), and one outstanding element is taken and followed by others of
the same owner (`take`). In both the other accounts only need to be carried over.

`length_filter_add` is what makes a ledger a proof that nothing is lost or done twice:
where every account has one entry in all, any group of owners has as many entries as
owners.
-/
import Http2Server.Lib.Pool
import Mathlib.Algebra.BigOperators.Group.Finset.Piecewise

set_option autoImplicit false

namespace Pool

variable {α β : Type*}

/-- Everybody's account is in order, and nothing belongs to nobody. -/
structure Ledger (owner : α → ℕ) (author : β → ℕ) (Account : ℕ → List α → List β → Prop)
    (n : ℕ) (pool : List α) (log : List β) : Prop where
  account : ∀ i < n, Account i (owned owner pool i) (owned author log i)
  pool_lt : ∀ x ∈ pool, owner x < n
  log_lt : ∀ y ∈ log, author y < n

variable {owner : α → ℕ} {author : β → ℕ} {Account Account' : ℕ → List α → List β → Prop}
  {n : ℕ} {pool more : List α} {log entries : List β}

theorem ledger_nil : Ledger owner author Account 0 [] [] where
  account := by simp
  pool_lt := by simp
  log_lt := by simp

/-- **A new owner**, with its first entries. -/
theorem Ledger.enroll (h : Ledger owner author Account n pool log)
    (hmore : ∀ x ∈ more, owner x = n) (hentries : ∀ y ∈ entries, author y = n)
    (hframe : ∀ i < n, ∀ xs ys, Account i xs ys → Account' i xs ys)
    (hnew : Account' n more entries) :
    Ledger owner author Account' (n + 1) (pool ++ more) (log ++ entries) := by
  refine ⟨fun i hi => ?_, ?_, ?_⟩
  · rw [owned_append, owned_append]
    rcases Nat.lt_succ_iff_lt_or_eq.mp hi with hi | rfl
    · -- an earlier owner: nothing new is its own
      have hpool : owned owner more i = [] := owned_eq_nil fun x hx => by
        rw [hmore x hx]
        exact hi.ne'
      have hlog : owned author entries i = [] := owned_eq_nil fun y hy => by
        rw [hentries y hy]
        exact hi.ne'
      rw [hpool, hlog, List.append_nil, List.append_nil]
      exact hframe i hi _ _ (h.account i hi)
    · rw [owned_eq_nil fun x hx => (h.pool_lt x hx).ne, owned_eq_nil fun y hy => (h.log_lt y hy).ne,
        owned_eq_self hmore, owned_eq_self hentries]
      exact hnew
  · refine List.forall_mem_append.mpr ⟨fun x hx => ?_, fun x hx => ?_⟩
    · exact Nat.lt_succ_of_lt (h.pool_lt x hx)
    · rw [hmore x hx]
      exact Nat.lt_succ_self n
  · refine List.forall_mem_append.mpr ⟨fun y hy => ?_, fun y hy => ?_⟩
    · exact Nat.lt_succ_of_lt (h.log_lt y hy)
    · rw [hentries y hy]
      exact Nat.lt_succ_self n

/-- **One element is taken**, and followed by others of its owner. It was the only one its
owner had. -/
theorem Ledger.take (h : Ledger owner author Account n pool log) {k : ℕ} {x : α}
    (hk : pool[k]? = some x) (hmore : ∀ x' ∈ more, owner x' = owner x)
    (hentries : ∀ y ∈ entries, author y = owner x)
    (hframe : ∀ i < n, i ≠ owner x → ∀ xs ys, Account i xs ys → Account' i xs ys)
    (hself : ∀ xs ys, x ∈ xs → Account (owner x) xs ys →
      xs = [x] ∧ Account' (owner x) more (ys ++ entries)) :
    Ledger owner author Account' n (pool.eraseIdx k ++ more) (log ++ entries) := by
  have hmem : x ∈ pool := List.mem_of_getElem? hk
  refine ⟨fun i hi => ?_, ?_, ?_⟩
  · rw [owned_append, owned_append]
    by_cases hi' : i = owner x
    · subst hi'
      obtain ⟨hsingle, haccount⟩ :=
        hself _ _ (mem_owned.mpr ⟨hmem, rfl⟩) (h.account (owner x) hi)
      rw [(owned_eraseIdx_of_single hk hsingle).2, owned_eq_self hmore, owned_eq_self hentries]
      exact haccount
    · have hpool : owned owner more i = [] := owned_eq_nil fun x' hx' => by
        rw [hmore x' hx']
        exact Ne.symm hi'
      have hlog : owned author entries i = [] := owned_eq_nil fun y hy => by
        rw [hentries y hy]
        exact Ne.symm hi'
      rw [owned_eraseIdx_of_ne hk (Ne.symm hi'), hpool, hlog, List.append_nil, List.append_nil]
      exact hframe i hi hi' _ _ (h.account i hi)
  · refine List.forall_mem_append.mpr ⟨fun x' hx' => ?_, fun x' hx' => ?_⟩
    · exact h.pool_lt x' (List.mem_of_mem_eraseIdx hx')
    · rw [hmore x' hx']
      exact h.pool_lt x hmem
  · refine List.forall_mem_append.mpr ⟨h.log_lt, fun y hy => ?_⟩
    rw [hentries y hy]
    exact h.pool_lt x hmem

/-! ## Counting -/

/-- The elements of a group of owners, counted owner by owner. -/
theorem length_filter_owner (p : ℕ → Bool) (h : ∀ x ∈ pool, owner x < n) :
    (pool.filter fun x => p (owner x)).length
      = ∑ i ∈ Finset.range n, if p i = true then (owned owner pool i).length else 0 := by
  induction pool with
  | nil => simp [owned]
  | cons x pool ih =>
      rw [List.forall_mem_cons] at h
      have howned : ∀ i, (owned owner (x :: pool) i).length
          = (owned owner pool i).length + if owner x = i then 1 else 0 := by
        intro i
        by_cases hi : owner x = i
        · simp [owned, hi]
        · simp [owned, hi]
      have hsplit : ∀ i, (if p i = true then (owned owner (x :: pool) i).length else 0)
          = (if p i = true then (owned owner pool i).length else 0)
            + if owner x = i then (if p i = true then 1 else 0) else 0 := by
        intro i
        rw [howned]
        split_ifs <;> rfl
      rw [Finset.sum_congr rfl fun i _ => hsplit i, Finset.sum_add_distrib, ← ih h.2,
        Finset.sum_ite_eq, if_pos (Finset.mem_range.mpr h.1)]
      cases hp : p (owner x) with
      | true => simp [hp]
      | false => simp [hp]

/-- **Nothing is lost and nothing doubled.** When every account has one entry, outstanding or
done, the entries of any group of owners are as many as its members. -/
theorem Ledger.length_filter_add (h : Ledger owner author Account n pool log)
    (hone : ∀ i < n, ∀ xs ys, Account i xs ys → xs.length + ys.length = 1) (p : ℕ → Bool) :
    (pool.filter fun x => p (owner x)).length + (log.filter fun y => p (author y)).length
      = ((List.range n).filter p).length := by
  rw [length_filter_owner p h.pool_lt, length_filter_owner p h.log_lt, ← Finset.sum_add_distrib]
  have hentry : ∀ i ∈ Finset.range n,
      ((if p i = true then (owned owner pool i).length else 0)
        + if p i = true then (owned author log i).length else 0)
      = if p i = true then 1 else 0 := by
    intro i hi
    split_ifs
    · exact hone i (Finset.mem_range.mp hi) _ _ (h.account i (Finset.mem_range.mp hi))
    · rfl
  rw [Finset.sum_congr rfl hentry, ← Finset.card_filter]
  have hrange : (Finset.range n).filter (fun i => p i = true)
      = ((List.range n).filter p).toFinset := by
    ext i
    simp
  rw [hrange, List.toFinset_card_of_nodup (List.nodup_range.filter _)]

end Pool
