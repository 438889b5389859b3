import IpTools.Library.NearestRank
import IpTools.Proofs.RepeatAccounting
import Mathlib.Algebra.Order.BigOperators.Group.List
import Mathlib.Algebra.Ring.Nat

/-!
# Latency statistics

What each statistic of a list of samples is, for as many samples as a list can hold. The ranks of
the percentiles are computed in `f64`; where they come out exactly, the percentiles are those of the
nearest-rank method.
-/

namespace IpTools

/-- The ranks of the reported percentiles of `n` samples are not disturbed by rounding. -/
structure ExactRanks (n : Nat) : Prop where
  p50 : percentileRank n 50.0 = NearestRank.rank 50 n
  p90 : percentileRank n 90.0 = NearestRank.rank 90 n
  p95 : percentileRank n 95.0 = NearestRank.rank 95 n
  p99 : percentileRank n 99.0 = NearestRank.rank 99 n

/-- A statistic is the `p`-th percentile of the samples. -/
structure Percentile (p : Nat) (xs : List UInt64) (stat : Option UInt64) : Prop where
  nearest : stat = NearestRank.nearest p (xs.mergeSort (fun a b => decide (a ≤ b)))
  counted : ∀ v ∈ stat, NearestRank.IsPercentile p xs v

/-- The clamps of `percentile` do not act on an exact rank. -/
lemma percentile_eq_nearest {sorted : List UInt64} {x : Float} {p : Nat}
    (hx : (0.0 ≤ x && x ≤ 100.0) = true) (hp : p ≤ 100)
    (hrank : percentileRank sorted.length x = NearestRank.rank p sorted.length) :
    percentile sorted x = NearestRank.nearest p sorted := by
  have hle := NearestRank.rank_le hp sorted.length
  unfold percentile
  dsimp only
  by_cases hn : sorted.length = 0
  · rw [if_pos (Or.inl hn)]
    exact ((NearestRank.nearest_eq_none hp).mpr (List.length_eq_zero_iff.mp hn)).symm
  · rw [if_neg (by simp [hn, hx]), hrank, Nat.min_eq_left (by omega)]
    rfl

lemma percentile_spec {xs : List UInt64} {x : Float} {p : Nat}
    (hx : (0.0 ≤ x && x ≤ 100.0) = true) (hpos : 0 < p) (hp : p ≤ 100)
    (hrank : percentileRank xs.length x = NearestRank.rank p xs.length) :
    Percentile p xs (percentile (xs.mergeSort (fun a b => decide (a ≤ b))) x) := by
  have heq : percentile (xs.mergeSort (fun a b => decide (a ≤ b))) x =
      NearestRank.nearest p (xs.mergeSort (fun a b => decide (a ≤ b))) :=
    percentile_eq_nearest hx hp (by rw [List.length_mergeSort, hrank])
  refine ⟨heq, fun v hv => ?_⟩
  rw [heq] at hv
  exact (NearestRank.isPercentile_nearest hpos (pairwise_mergeSort_samples xs) hv).perm
    (List.mergeSort_perm _ _)

lemma Percentile.eq_none_iff {p : Nat} {xs : List UInt64} {stat : Option UInt64} (hp : p ≤ 100)
    (h : Percentile p xs stat) : stat = none ↔ xs = [] := by
  rw [h.nearest, NearestRank.nearest_eq_none hp, ← List.length_eq_zero_iff,
    List.length_mergeSort, List.length_eq_zero_iff]

lemma Percentile.le {p q : Nat} {xs : List UInt64} {a b : Option UInt64} (hpq : p ≤ q)
    (ha : Percentile p xs a) (hb : Percentile q xs b) : ∀ v ∈ a, ∀ w ∈ b, v ≤ w :=
  fun v hv w hw => (ha.counted v hv).mono hpq (hb.counted w hw)

lemma head?_mergeSort_spec {xs : List UInt64} {v : UInt64}
    (h : v ∈ (xs.mergeSort (fun a b => decide (a ≤ b))).head?) :
    v ∈ xs ∧ ∀ x ∈ xs, v ≤ x := by
  have hperm := List.mergeSort_perm xs (fun a b => decide (a ≤ b))
  have hsorted := pairwise_mergeSort_samples xs
  obtain ⟨tail, htail⟩ := List.head?_eq_some_iff.mp h
  rw [htail] at hperm hsorted
  refine ⟨hperm.mem_iff.mp List.mem_cons_self, fun x hx => ?_⟩
  rcases List.mem_cons.mp (hperm.mem_iff.mpr hx) with rfl | hx
  · exact UInt64.le_refl _
  · exact (List.pairwise_cons.mp hsorted).1 x hx

lemma getLast?_mergeSort_spec {xs : List UInt64} {v : UInt64}
    (h : v ∈ (xs.mergeSort (fun a b => decide (a ≤ b))).getLast?) :
    v ∈ xs ∧ ∀ x ∈ xs, x ≤ v := by
  have hperm := List.mergeSort_perm xs (fun a b => decide (a ≤ b))
  have hsorted := pairwise_mergeSort_samples xs
  obtain ⟨init, hinit⟩ := List.getLast?_eq_some_iff.mp h
  rw [hinit] at hperm hsorted
  refine ⟨hperm.mem_iff.mp List.mem_concat_self, fun x hx => ?_⟩
  rcases List.mem_append.mp (hperm.mem_iff.mpr hx) with hx | hx
  · exact (List.pairwise_append.mp hsorted).2.2 x hx v List.mem_cons_self
  · rw [List.mem_singleton.mp hx]
    exact UInt64.le_refl _

/-- Fewer than `2 ^ 64` samples sum to less than `2 ^ 128`, and so does every part of them. -/
lemma sum_take_lt {xs : List UInt64} (h : xs.length < 2 ^ 64) (k : Nat) :
    ((xs.take k).map UInt64.toNat).sum < 2 ^ 128 := by
  have hle : ((xs.take k).map UInt64.toNat).sum ≤
      ((xs.take k).map UInt64.toNat).length • (2 ^ 64 - 1) := by
    refine List.sum_le_card_nsmul _ _ (fun n hn => ?_)
    obtain ⟨x, -, rfl⟩ := List.mem_map.mp hn
    exact Nat.le_pred_of_lt x.toNat_lt
  rw [smul_eq_mul, List.length_map, List.length_take] at hle
  omega

lemma le_mean {xs : List UInt64} {lo : Nat} (hne : xs ≠ []) (hlo : ∀ x ∈ xs, lo ≤ x.toNat) :
    lo ≤ (xs.map UInt64.toNat).sum / xs.length := by
  have hle : (xs.map UInt64.toNat).length • lo ≤ (xs.map UInt64.toNat).sum := by
    refine List.card_nsmul_le_sum _ _ (fun n hn => ?_)
    obtain ⟨x, hx, rfl⟩ := List.mem_map.mp hn
    exact hlo x hx
  rw [smul_eq_mul, List.length_map] at hle
  rw [Nat.le_div_iff_mul_le (List.length_pos_iff.mpr hne), Nat.mul_comm]
  exact hle

lemma mean_le {xs : List UInt64} {hi : Nat} (hhi : ∀ x ∈ xs, x.toNat ≤ hi) :
    (xs.map UInt64.toNat).sum / xs.length ≤ hi := by
  have hle : (xs.map UInt64.toNat).sum ≤ (xs.map UInt64.toNat).length • hi := by
    refine List.sum_le_card_nsmul _ _ (fun n hn => ?_)
    obtain ⟨x, hx, rfl⟩ := List.mem_map.mp hn
    exact hhi x hx
  rw [smul_eq_mul, List.length_map] at hle
  exact Nat.div_le_of_le_mul hle

/-- The cast of the mean to 64 bits loses nothing. -/
lemma meanOf_spec {xs : List UInt64} {v : UInt64} (h : v ∈ meanOf xs) :
    xs ≠ [] ∧ v.toNat = (xs.map UInt64.toNat).sum / xs.length := by
  unfold meanOf at h
  by_cases hn : xs.length = 0
  · rw [if_pos hn] at h
    cases h
  · rw [if_neg hn] at h
    have hlt : (xs.map UInt64.toNat).sum / xs.length < 2 ^ 64 :=
      Nat.lt_of_le_pred (by omega) (mean_le (fun x _ => Nat.le_pred_of_lt x.toNat_lt))
    rw [← Option.some.inj h, UInt64.toNat_ofNat', Nat.mod_eq_of_lt hlt]
    exact ⟨fun hnil => hn (List.length_eq_zero_iff.mpr hnil), rfl⟩

lemma meanOf_eq_none {xs : List UInt64} : meanOf xs = none ↔ xs = [] := by
  unfold meanOf
  by_cases hn : xs.length = 0
  · rw [if_pos hn]
    exact iff_of_true rfl (List.length_eq_zero_iff.mp hn)
  · rw [if_neg hn]
    exact iff_of_false (fun h => by cases h) (fun h => hn (List.length_eq_zero_iff.mpr h))

/-- What a summary says of its samples. -/
structure Describes (s : LatencySummary) (xs : List UInt64) : Prop where
  count : s.count = xs.length
  absent : ∀ stat ∈ [s.min, s.p50, s.p90, s.p95, s.p99, s.max, s.mean, s.jitter],
    stat = none ↔ xs = []
  min : ∀ v ∈ s.min, v ∈ xs ∧ ∀ x ∈ xs, v ≤ x
  p50 : Percentile 50 xs s.p50
  p90 : Percentile 90 xs s.p90
  p95 : Percentile 95 xs s.p95
  p99 : Percentile 99 xs s.p99
  max : ∀ v ∈ s.max, v ∈ xs ∧ ∀ x ∈ xs, x ≤ v
  ordered : [s.min, s.p50, s.p90, s.p95, s.p99, s.max].Pairwise
    (fun a b => ∀ v ∈ a, ∀ w ∈ b, v ≤ w)
  mean : ∀ v ∈ s.mean, v.toNat = (xs.map UInt64.toNat).sum / xs.length
  between : ∀ v ∈ s.mean, (∀ lo ∈ s.min, lo ≤ v) ∧ ∀ hi ∈ s.max, v ≤ hi

lemma mergeSort_eq_nil {xs : List UInt64} :
    xs.mergeSort (fun a b => decide (a ≤ b)) = [] ↔ xs = [] := by
  rw [← List.length_eq_zero_iff, List.length_mergeSort, List.length_eq_zero_iff]

lemma jitterOf_eq_none {xs : List UInt64} : jitterOf xs = none ↔ xs = [] := by
  rw [← Option.not_isSome_iff_eq_none, jitterOf_isSome, decide_eq_true_eq, not_not,
    List.length_eq_zero_iff]

/-- The extremes bound every percentile, and the percentiles are in the order of their ranks. -/
lemma summarize_ordered {xs : List UInt64} {p50 p90 p95 p99 : Option UInt64}
    (h50 : Percentile 50 xs p50) (h90 : Percentile 90 xs p90) (h95 : Percentile 95 xs p95)
    (h99 : Percentile 99 xs p99) :
    [(xs.mergeSort (fun a b => decide (a ≤ b))).head?, p50, p90, p95, p99,
      (xs.mergeSort (fun a b => decide (a ≤ b))).getLast?].Pairwise
      (fun a b => ∀ v ∈ a, ∀ w ∈ b, v ≤ w) := by
  have hmembers : ∀ b ∈ [p50, p90, p95, p99,
      (xs.mergeSort (fun a b => decide (a ≤ b))).getLast?], ∀ w ∈ b, w ∈ xs :=
    List.forall_iff_forall_mem.mp ⟨fun w hw => (h50.counted w hw).mem,
      fun w hw => (h90.counted w hw).mem, fun w hw => (h95.counted w hw).mem,
      fun w hw => (h99.counted w hw).mem, fun w hw => (getLast?_mergeSort_spec hw).1⟩
  have hmax : ∀ {p : Nat} {stat : Option UInt64}, Percentile p xs stat → ∀ v ∈ stat,
      ∀ w ∈ (xs.mergeSort (fun a b => decide (a ≤ b))).getLast?, v ≤ w :=
    fun h v hv w hw => (getLast?_mergeSort_spec hw).2 v (h.counted v hv).mem
  refine List.Pairwise.cons (fun b hb v hv w hw => ?_) ?_
  · exact (head?_mergeSort_spec hv).2 w (hmembers b hb w hw)
  refine List.Pairwise.cons (List.forall_iff_forall_mem.mp ⟨h50.le (by omega) h90,
    h50.le (by omega) h95, h50.le (by omega) h99, hmax h50⟩) ?_
  refine List.Pairwise.cons (List.forall_iff_forall_mem.mp ⟨h90.le (by omega) h95,
    h90.le (by omega) h99, hmax h90⟩) ?_
  refine List.Pairwise.cons (List.forall_iff_forall_mem.mp ⟨h95.le (by omega) h99,
    hmax h95⟩) ?_
  exact List.Pairwise.cons (List.forall_iff_forall_mem.mp (hmax h99))
    (List.pairwise_singleton _ _)

lemma summarize_describes {xs : List UInt64} (hranks : ExactRanks xs.length) :
    Describes (LatencyStats.mk xs).summarize xs := by
  have h50 := percentile_spec (p := 50) rfl (by omega) (by omega) hranks.p50
  have h90 := percentile_spec (p := 90) rfl (by omega) (by omega) hranks.p90
  have h95 := percentile_spec (p := 95) rfl (by omega) (by omega) hranks.p95
  have h99 := percentile_spec (p := 99) rfl (by omega) (by omega) hranks.p99
  constructor
  case count => rfl
  case absent =>
    refine List.forall_iff_forall_mem.mp ⟨?_, ?_, ?_, ?_, ?_, ?_, ?_, ?_⟩
    · exact List.head?_eq_none_iff.trans mergeSort_eq_nil
    · exact h50.eq_none_iff (by omega)
    · exact h90.eq_none_iff (by omega)
    · exact h95.eq_none_iff (by omega)
    · exact h99.eq_none_iff (by omega)
    · exact List.getLast?_eq_none_iff.trans mergeSort_eq_nil
    · exact meanOf_eq_none
    · exact jitterOf_eq_none
  case min => exact fun v hv => head?_mergeSort_spec hv
  case p50 => exact h50
  case p90 => exact h90
  case p95 => exact h95
  case p99 => exact h99
  case max => exact fun v hv => getLast?_mergeSort_spec hv
  case ordered => exact summarize_ordered h50 h90 h95 h99
  case mean => exact fun v hv => (meanOf_spec hv).2
  case between =>
    intro v hv
    obtain ⟨hne, heq⟩ := meanOf_spec hv
    constructor
    · intro lo hlo
      rw [UInt64.le_iff_toNat_le, heq]
      exact le_mean hne (fun x hx => UInt64.le_iff_toNat_le.mp ((head?_mergeSort_spec hlo).2 x hx))
    · intro hi hhi
      rw [UInt64.le_iff_toNat_le, heq]
      exact mean_le (fun x hx => UInt64.le_iff_toNat_le.mp ((getLast?_mergeSort_spec hhi).2 x hx))

/-- The statistics of any samples, in any order. -/
theorem latency_statistics (stats : LatencyStats) (hlength : stats.samples.length < 2 ^ 64)
    (hranks : ExactRanks stats.samples.length) :
    (∀ k, ((stats.samples.take k).map UInt64.toNat).sum < 2 ^ 128) ∧
    Describes stats.summarize stats.samples ∧
    ∀ other : LatencyStats, other.samples.Perm stats.samples →
      SameSummary other.summarize stats.summarize :=
  ⟨sum_take_lt hlength, summarize_describes hranks, fun _ hperm => summarize_perm hperm⟩

theorem latency_statistics_ten :
    Describes (LatencyStats.mk [9, 3, 7, 1, 8, 2, 10, 4, 6, 5]).summarize
      [9, 3, 7, 1, 8, 2, 10, 4, 6, 5] :=
  (latency_statistics ⟨[9, 3, 7, 1, 8, 2, 10, 4, 6, 5]⟩ (by decide)
    ⟨by decide +kernel, by decide +kernel, by decide +kernel, by decide +kernel⟩).2.1

end IpTools
