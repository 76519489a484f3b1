import Mathlib.Algebra.Order.Floor.Div
import Mathlib.Data.List.Sort

/-!
# Order statistics

The `k`-th smallest element of a list (`nthSmallest`) is at most `b` exactly when at least `k`
elements are. Counts that are kept by buckets add up to the counts of the elements.
-/

namespace Lib

variable {α : Type}

/-- The `k`-th smallest element of a list, counted from one. -/
def nthSmallest [LinearOrder α] (xs : List α) (k : Nat) : Option α :=
  (xs.insertionSort (· ≤ ·))[k - 1]?

theorem le_iff_lt_countP_of_sorted [LinearOrder α] {xs : List α} (hs : xs.Pairwise (· ≤ ·))
    {i : Nat} {a : α} (ha : xs[i]? = some a) (b : α) : a ≤ b ↔ i < xs.countP (· ≤ b) := by
  induction xs generalizing i with
  | nil => simp at ha
  | cons x xs ih =>
    obtain ⟨hx, hxs⟩ := List.pairwise_cons.mp hs
    have hcount : ¬ x ≤ b → xs.countP (· ≤ b) = 0 := by
      intro hxb
      rw [List.countP_eq_zero]
      intro y hy
      simpa using (not_le.mp hxb).trans_le (hx y hy)
    cases i with
    | zero =>
      obtain rfl : x = a := by simpa using ha
      by_cases hxb : x ≤ b
      · simp [hxb]
      · simp [hxb, hcount hxb]
    | succ i =>
      rw [List.getElem?_cons_succ] at ha
      by_cases hxb : x ≤ b
      · rw [ih hxs ha, List.countP_cons_of_pos (by simpa using hxb)]
        omega
      · have hab : ¬ a ≤ b := fun h => hxb ((hx a (List.mem_of_getElem? ha)).trans h)
        rw [List.countP_cons_of_neg (by simpa using hxb), hcount hxb]
        simp [hab]

/-- The `k`-th smallest element is at most `b` when at least `k` elements are. -/
theorem nthSmallest_le_iff [LinearOrder α] {xs : List α} {k : Nat} (hk : 0 < k) {a : α}
    (ha : nthSmallest xs k = some a) (b : α) : a ≤ b ↔ k ≤ xs.countP (· ≤ b) := by
  have hsorted : (xs.insertionSort (· ≤ ·)).Pairwise (· ≤ ·) := List.pairwise_insertionSort _ xs
  rw [le_iff_lt_countP_of_sorted hsorted ha b, (List.perm_insertionSort _ xs).countP_eq]
  omega

theorem exists_nthSmallest [LinearOrder α] {xs : List α} {k : Nat} (hk : 0 < k)
    (hlen : k ≤ xs.length) : ∃ a, nthSmallest xs k = some a := by
  have hlt : k - 1 < (xs.insertionSort (· ≤ ·)).length := by
    rw [List.length_insertionSort]
    omega
  exact ⟨_, List.getElem?_eq_getElem hlt⟩

theorem max?_eq_some_of_mem [LinearOrder α] {xs : List α} {x : α} (hx : x ∈ xs) :
    ∃ m, xs.max? = some m ∧ m ∈ xs ∧ ∀ y ∈ xs, y ≤ m := by
  obtain ⟨m, hm⟩ := Option.isSome_iff_exists.mp
    (List.isSome_max?_of_ne_nil (List.ne_nil_of_mem hx))
  exact ⟨m, hm, List.max?_eq_some_iff.mp hm⟩

theorem countP_lt_succ (bucket : α → Nat) (xs : List α) (n : Nat) :
    xs.countP (bucket · < n + 1) = xs.countP (bucket · < n) + xs.countP (bucket · = n) := by
  induction xs with
  | nil => simp
  | cons x xs ih =>
    simp only [List.countP_cons, ih, decide_eq_true_eq]
    rcases lt_trichotomy (bucket x) n with h | h | h
    · rw [if_pos (by omega), if_pos h, if_neg (by omega)]
      omega
    · rw [if_pos (by omega), if_neg (by omega), if_pos h]
      omega
    · rw [if_neg (by omega), if_neg (by omega), if_neg (by omega)]
      omega

/-- The first counts of the buckets add up to the elements of the first buckets. -/
theorem sum_take_of_countP {xs : List α} {bucket : α → Nat} {counts : List Nat}
    (hcounts : ∀ i, counts.getD i 0 = xs.countP (bucket · = i)) (n : Nat) :
    (counts.take n).sum = xs.countP (bucket · < n) := by
  induction n with
  | zero => simp
  | succ n ih =>
    have htake : (counts.take (n + 1)).sum = (counts.take n).sum + counts.getD n 0 := by
      rw [List.take_add_one, List.sum_append]
      cases h : counts[n]? <;> simp [List.getD_eq_getElem?_getD, h]
    rw [htake, ih, hcounts n, countP_lt_succ]

end Lib
