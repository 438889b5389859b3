import Mathlib.Algebra.Order.Floor.Div
import Mathlib.Data.List.Basic
import Mathlib.Tactic.Common

/-!
# Nearest-rank percentiles

The `p`-th percentile of `n` values by the nearest-rank method is the value in place
`⌈p * n / 100⌉` of the sorted list. It is told by counting alone: `p` percent of the values are at
most it, and less than that are below it.
-/

namespace NearestRank

/-- The nearest rank of the `p`-th percentile of `n` values, counted from one. -/
def rank (p n : Nat) : Nat := (p * n) ⌈/⌉ 100

lemma rank_eq (p n : Nat) : rank p n = (p * n + 99) / 100 := by
  unfold rank
  rw [Nat.ceilDiv_eq_add_pred_div]
  omega

lemma mul_le_rank (p n : Nat) : p * n ≤ 100 * rank p n := by
  rw [rank_eq]
  omega

lemma rank_lt_mul {p n : Nat} (h : 0 < p * n) : 100 * (rank p n - 1) < p * n := by
  rw [rank_eq]
  omega

lemma rank_le {p : Nat} (hp : p ≤ 100) (n : Nat) : rank p n ≤ n := by
  have h : p * n ≤ 100 * n := Nat.mul_le_mul_right n hp
  rw [rank_eq]
  omega

variable {α : Type*}

/-- The value at the nearest rank of a sorted list. -/
def nearest (p : Nat) (sorted : List α) : Option α := sorted[rank p sorted.length - 1]?

lemma nearest_eq_none {p : Nat} (hp : p ≤ 100) {sorted : List α} :
    nearest p sorted = none ↔ sorted = [] := by
  have hle := rank_le hp sorted.length
  unfold nearest
  rw [List.getElem?_eq_none_iff, ← List.length_eq_zero_iff]
  omega

variable [LE α] [LT α] [DecidableLE α] [DecidableLT α]

/-- The `p`-th percentile, told by counting. -/
structure IsPercentile (p : Nat) (xs : List α) (v : α) : Prop where
  mem : v ∈ xs
  le : p * xs.length ≤ 100 * xs.countP (fun x => x ≤ v)
  lt : 100 * xs.countP (fun x => x < v) < p * xs.length

lemma IsPercentile.perm {p : Nat} {xs ys : List α} {v : α} (h : IsPercentile p xs v)
    (hperm : xs.Perm ys) : IsPercentile p ys v where
  mem := hperm.mem_iff.mp h.mem
  le := by
    rw [← hperm.length_eq, ← hperm.countP_eq]
    exact h.le
  lt := by
    rw [← hperm.length_eq, ← hperm.countP_eq]
    exact h.lt

variable [Std.IsLinearOrder α] [Std.LawfulOrderLT α]

/-- Percentiles are monotone in the percentage. -/
lemma IsPercentile.mono {p q : Nat} {xs : List α} {v w : α} (hpq : p ≤ q)
    (hv : IsPercentile p xs v) (hw : IsPercentile q xs w) : v ≤ w := by
  by_contra hnot
  have hwv : w < v := Std.not_le.mp hnot
  have hcount : xs.countP (fun x => x ≤ w) ≤ xs.countP (fun x => x < v) := by
    refine List.countP_mono_left (fun x _ hx => ?_)
    exact decide_eq_true (Std.lt_of_le_of_lt (of_decide_eq_true hx) hwv)
  have hle : p * xs.length ≤ q * xs.length := Nat.mul_le_mul_right _ hpq
  have hqw := hw.le
  have hpv := hv.lt
  omega

omit [LT α] [DecidableLT α] [Std.LawfulOrderLT α] in
lemma lt_countP_le {xs : List α} (hsorted : xs.Pairwise (· ≤ ·)) {k : Nat} (hk : k < xs.length) :
    k < xs.countP (fun x => x ≤ xs[k]) := by
  have hall : (xs.take (k + 1)).countP (fun x => x ≤ xs[k]) = (xs.take (k + 1)).length := by
    refine List.countP_eq_length.mpr (fun x hx => ?_)
    obtain ⟨i, hi, rfl⟩ := List.mem_take_iff_getElem.mp hx
    refine decide_eq_true ?_
    rcases Nat.lt_or_ge i k with hik | hik
    · exact List.pairwise_iff_getElem.mp hsorted i k _ hk hik
    · have hsame : i = k := by omega
      subst i
      exact Std.le_refl _
  have hle := (List.take_sublist (k + 1) xs).countP_le (p := fun x => decide (x ≤ xs[k]))
  rw [hall, List.length_take] at hle
  omega

omit [DecidableLE α] in
lemma countP_lt_le {xs : List α} (hsorted : xs.Pairwise (· ≤ ·)) {k : Nat} (hk : k < xs.length) :
    xs.countP (fun x => x < xs[k]) ≤ k := by
  have hnone : (xs.drop k).countP (fun x => x < xs[k]) = 0 := by
    refine List.countP_eq_zero.mpr (fun x hx => ?_)
    obtain ⟨i, hi, rfl⟩ := List.mem_drop_iff_getElem.mp hx
    have hle : xs[k] ≤ xs[k + i] := by
      rcases Nat.eq_zero_or_pos i with rfl | hpos
      · simp only [Nat.add_zero]
        exact Std.le_refl _
      · exact List.pairwise_iff_getElem.mp hsorted k (k + i) hk _ (by omega)
    rw [decide_eq_true_eq]
    exact Std.not_lt.mpr hle
  have hsplit : xs.countP (fun x => x < xs[k]) =
      (xs.take k).countP (fun x => x < xs[k]) + (xs.drop k).countP (fun x => x < xs[k]) := by
    rw [← List.countP_append, List.take_append_drop]
  rw [hnone] at hsplit
  have hle := List.countP_le_length (p := fun x => decide (x < xs[k])) (l := xs.take k)
  rw [List.length_take] at hle
  omega

/-- What stands at the nearest rank of a sorted list is the percentile. -/
theorem isPercentile_nearest {p : Nat} (hpos : 0 < p) {sorted : List α}
    (hsorted : sorted.Pairwise (· ≤ ·)) {v : α} (hv : nearest p sorted = some v) :
    IsPercentile p sorted v := by
  obtain ⟨hk, rfl⟩ := List.getElem?_eq_some_iff.mp hv
  have hn : 0 < p * sorted.length := Nat.mul_pos hpos (by omega)
  have hle := lt_countP_le hsorted hk
  have hlt := countP_lt_le hsorted hk
  have hrank := mul_le_rank p sorted.length
  have hrank' := rank_lt_mul hn
  exact ⟨List.getElem_mem hk, by omega, by omega⟩

end NearestRank
