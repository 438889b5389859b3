import Mathlib.Algebra.Ring.Nat
import Mathlib.Data.List.Perm.Basic

/-!
# Rule engines

An engine concatenates what its rules say about one input; when every rule stays quiet, a
fallback verdict speaks alone. Facts about the engine's output are assembled here from facts
about the single rules.
-/

namespace RuleEngine

variable {ι δ τ : Type*}

/-- What the rules say in turn, or the fallback alone. -/
def run (rules : List (ι → List δ)) (fallback : ι → δ) (x : ι) : List δ :=
  let out := rules.flatMap (fun r => r x)
  if out.isEmpty then [fallback x] else out

variable {rules : List (ι → List δ)} {fallback : ι → δ} {x y : ι}

/-- Every rule is quiet on the input. -/
def Quiet (rules : List (ι → List δ)) (x : ι) : Prop := ∀ r ∈ rules, r x = []

lemma flatMap_eq_nil_iff : rules.flatMap (fun r => r x) = [] ↔ Quiet rules x := by
  rw [List.flatMap_eq_nil_iff]
  rfl

lemma run_of_quiet (h : Quiet rules x) : run rules fallback x = [fallback x] := by
  unfold run
  rw [flatMap_eq_nil_iff.mpr h]
  rfl

lemma run_of_not_quiet (h : ¬Quiet rules x) :
    run rules fallback x = rules.flatMap (fun r => r x) := by
  have hne : rules.flatMap (fun r => r x) ≠ [] := fun he => h (flatMap_eq_nil_iff.mp he)
  unfold run
  simp [List.isEmpty_iff, hne]

theorem run_ne_nil : run rules fallback x ≠ [] := by
  by_cases h : Quiet rules x
  · simp [run_of_quiet h]
  · rw [run_of_not_quiet h]
    exact fun he => h (flatMap_eq_nil_iff.mp he)

/-- A verdict that the fallback is not comes from a rule. -/
theorem exists_mem_run_iff {P : δ → Prop} (hfallback : ¬P (fallback x)) :
    (∃ d ∈ run rules fallback x, P d) ↔ ∃ r ∈ rules, ∃ d ∈ r x, P d := by
  by_cases h : Quiet rules x
  · rw [run_of_quiet h]
    constructor
    · rintro ⟨d, hd, hP⟩
      rw [List.mem_singleton] at hd
      exact absurd (hd ▸ hP) hfallback
    · rintro ⟨r, hr, d, hd, -⟩
      rw [h r hr] at hd
      exact absurd hd List.not_mem_nil
  · rw [run_of_not_quiet h]
    simp only [List.mem_flatMap]
    constructor
    · rintro ⟨d, ⟨r, hr, hd⟩, hP⟩
      exact ⟨r, hr, d, hd, hP⟩
    · rintro ⟨r, hr, d, hd, hP⟩
      exact ⟨d, ⟨r, hr, hd⟩, hP⟩

/-- A verdict that no rule gives occurs exactly when every rule is quiet. -/
theorem exists_fallback_iff {P : δ → Prop} (hfallback : P (fallback x))
    (hrules : ∀ r ∈ rules, ∀ d ∈ r x, ¬P d) :
    (∃ d ∈ run rules fallback x, P d) ↔ Quiet rules x := by
  constructor
  · rintro ⟨d, hd, hP⟩
    by_contra h
    rw [run_of_not_quiet h] at hd
    obtain ⟨r, hr, hd⟩ := List.mem_flatMap.mp hd
    exact hrules r hr d hd hP
  · intro h
    exact ⟨fallback x, by simp [run_of_quiet h], hfallback⟩

/-- A verdict that no rule gives occurs only alone. -/
theorem run_eq_singleton {P : δ → Prop} (hrules : ∀ r ∈ rules, ∀ d ∈ r x, ¬P d) {d : δ}
    (hd : d ∈ run rules fallback x) (hP : P d) : run rules fallback x = [d] := by
  by_cases h : Quiet rules x
  · rw [run_of_quiet h, List.mem_singleton] at hd
    rw [run_of_quiet h, hd]
  · rw [run_of_not_quiet h] at hd
    obtain ⟨r, hr, hd⟩ := List.mem_flatMap.mp hd
    exact absurd hP (hrules r hr d hd)

/-- Verdicts of a kind that the fallback is not are counted rule by rule. -/
theorem countP_run {p : δ → Bool} (hfallback : p (fallback x) = false) :
    (run rules fallback x).countP p = (rules.map (fun r => (r x).countP p)).sum := by
  by_cases h : Quiet rules x
  · have hzero : rules.map (fun r => (r x).countP p) = rules.map (fun _ => 0) :=
      List.map_congr_left (fun r hr => by rw [h r hr, List.countP_nil])
    simp [run_of_quiet h, hfallback, hzero]
  · rw [run_of_not_quiet h, List.countP_flatMap]
    rfl

/-- The engine respects whatever all its rules and its fallback respect, up to order. -/
theorem run_map_perm {f : δ → τ} (hfallback : f (fallback y) = f (fallback x))
    (hrules : ∀ r ∈ rules, ((r y).map f).Perm ((r x).map f)) :
    ((run rules fallback y).map f).Perm ((run rules fallback x).map f) := by
  have hall : ((rules.flatMap (fun r => r y)).map f).Perm
      ((rules.flatMap (fun r => r x)).map f) := by
    simp only [List.map_flatMap]
    exact List.Perm.flatMap_left rules hrules
  have hquiet : Quiet rules y ↔ Quiet rules x := by
    rw [← flatMap_eq_nil_iff, ← flatMap_eq_nil_iff, ← List.map_eq_nil_iff (f := f),
      ← List.map_eq_nil_iff (f := f) (l := rules.flatMap (fun r => r x))]
    exact ⟨fun h => (h ▸ hall).nil_eq.symm, fun h => (h ▸ hall).eq_nil⟩
  by_cases h : Quiet rules x
  · rw [run_of_quiet h, run_of_quiet (hquiet.mpr h), List.map_singleton, List.map_singleton,
      hfallback]
  · rw [run_of_not_quiet h, run_of_not_quiet (fun hy => h (hquiet.mp hy))]
    exact hall

end RuleEngine
