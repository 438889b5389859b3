import Mathlib.Tactic.Linarith
import IpTools.Proofs.Engine

/-!
# Which diagnoses occur together

The rules are counted one by one: a category that one rule alone can raise, and at most once,
occurs at most once in the whole list.
-/

namespace IpTools

variable {now : Clock} {input : DiagnosticInput}

/-- How often a category occurs. -/
def occurrences (c : DiagnosticCategory) (out : List Diagnosis) : Nat :=
  out.countP (fun g => g.category = c)

lemma occurrences_eq_verdict (c : DiagnosticCategory) (out : List Diagnosis) :
    occurrences c out = (out.map Diagnosis.verdict).countP (fun v => v.2.1 = c) := by
  rw [occurrences, List.countP_map]
  rfl

lemma occurrences_eq_zero {c : DiagnosticCategory} {out : List Diagnosis} (h : ¬Raises out c) :
    occurrences c out = 0 := by
  rw [occurrences, List.countP_eq_zero]
  intro g hg hc
  exact h ⟨g, hg, of_decide_eq_true hc⟩

/-- A rule that speaks under one condition speaks at most once. -/
lemma occurrences_le_of_verdict {out : List Diagnosis} {P : Prop} [Decidable P] {v : Verdict}
    (h : out.map Diagnosis.verdict = if P then [v] else []) (c : DiagnosticCategory) :
    occurrences c out ≤ if v.2.1 = c then 1 else 0 := by
  rw [occurrences_eq_verdict, h]
  by_cases hP : P
  · rw [if_pos hP]
    simp [List.countP_singleton]
  · rw [if_neg hP]
    exact Nat.zero_le _

lemma occurrences_dnsRules (input : DiagnosticInput) (c : DiagnosticCategory) :
    occurrences c (dnsRules input).2 ≤ if .dns = c then 1 else 0 := by
  rw [occurrences_eq_verdict, dnsRules_verdict]
  split
  · simp [List.countP_singleton]
  · split
    · simp [List.countP_singleton]
    · exact Nat.zero_le _

lemma occurrences_connectivityRules (input : DiagnosticInput) (c : DiagnosticCategory) :
    occurrences c (connectivityRules input) ≤
      if c = .partialConnectivity ∨ c = .totalConnectivityLoss then 1 else 0 := by
  rw [occurrences_eq_verdict, connectivityRules_verdict]
  split
  · split
    · cases c <;> simp
    · cases c <;> simp
  · exact Nat.zero_le _

lemma occurrences_httpConsistencyRules (input : DiagnosticInput) {c : DiagnosticCategory}
    (hc : .http ≠ c) :
    occurrences c (httpConsistencyRules input) = 0 :=
  occurrences_eq_zero (fun h => hc (httpConsistencyRules_raises.mp h).2)

lemma occurrences_certificateRules (now : Clock) (input : DiagnosticInput)
    {c : DiagnosticCategory} (hc : .certificate ≠ c) :
    occurrences c (certificateLifetimeRules now input) = 0 ∧
      occurrences c (certificateCoverageRules input) = 0 :=
  ⟨occurrences_eq_zero (fun h => hc (certificateLifetimeRules_raises.mp h).2),
    occurrences_eq_zero (fun h => hc (certificateCoverageRules_raises.mp h).2)⟩

lemma occurrences_repeatRules (input : DiagnosticInput) {c : DiagnosticCategory}
    (hc : .intermittent ≠ c) :
    occurrences c (intermittentRules input) = 0 ∧
      occurrences c (httpStatusFlappingRules input) = 0 ∧
      occurrences c (latencyInstabilityRules input) = 0 := by
  refine ⟨occurrences_eq_zero ?_, occurrences_eq_zero ?_, occurrences_eq_zero ?_⟩
  · exact fun h => hc ((reportOnce_raises intermittentDiagnosis_verdict).mp h).2
  · exact fun h => hc ((reportOnce_raises flappingDiagnosis_verdict).mp h).2
  · exact fun h => hc ((reportOnce_raises unstableDiagnosis_verdict).mp h).2

lemma occurrences_diagnose {c : DiagnosticCategory} (hc : .healthy ≠ c) :
    occurrences c (diagnose now input) =
      ((rules now).map (fun r => occurrences c (r input))).sum := by
  rw [diagnose_eq_run]
  exact RuleEngine.countP_run (decide_eq_false hc)

/-- The categories that one rule alone raises, at most once. -/
def singular : List DiagnosticCategory :=
  [.dns, .totalConnectivityLoss, .partialConnectivity, .addressFamily, .tls, .quic,
    .possibleNetworkFiltering]

lemma occurrences_le_one (now : Clock) (input : DiagnosticInput) {c : DiagnosticCategory}
    (hc : c ∈ singular) : occurrences c (diagnose now input) ≤ 1 := by
  have hhealthy : .healthy ≠ c := by
    rintro rfl
    exact absurd hc (by decide)
  have hcert : .certificate ≠ c := by
    rintro rfl
    exact absurd hc (by decide)
  have hhttp : .http ≠ c := by
    rintro rfl
    exact absurd hc (by decide)
  have hint : .intermittent ≠ c := by
    rintro rfl
    exact absurd hc (by decide)
  -- the rules of the other categories
  obtain ⟨hlifetime, hcoverage⟩ := occurrences_certificateRules now input hcert
  obtain ⟨hintermittent, hflapping, hunstable⟩ := occurrences_repeatRules input hint
  have hconsistency := occurrences_httpConsistencyRules input hhttp
  have hlayer := occurrences_le_of_verdict (httpLayerRules_verdict input) c
  have hredirect := occurrences_le_of_verdict (redirectRules_verdict input) c
  have htruncated := occurrences_le_of_verdict (truncatedBodyRules_verdict input) c
  rw [if_neg hhttp] at hlayer hredirect htruncated
  -- the rules that speak at most once
  have hdns := occurrences_dnsRules input c
  have hconnectivity := occurrences_connectivityRules input c
  have hfamily := occurrences_le_of_verdict (familyRules_verdict input) c
  have htls := occurrences_le_of_verdict (tlsLayerRules_verdict input) c
  have hquic := occurrences_le_of_verdict (quicRules_verdict input) c
  have hfiltering := occurrences_le_of_verdict (filteringRules_verdict input (dnsRules input).1) c
  have honce : (if DiagnosticCategory.dns = c then 1 else 0) +
      (if c = .partialConnectivity ∨ c = .totalConnectivityLoss then 1 else 0) +
      (if .addressFamily = c then 1 else 0) + (if .tls = c then 1 else 0) +
      (if .quic = c then 1 else 0) + (if .possibleNetworkFiltering = c then 1 else 0) ≤ 1 := by
    cases c <;> decide
  rw [occurrences_diagnose hhealthy]
  simp only [rules, List.map_cons, List.map_nil, List.sum_cons, List.sum_nil]
  linarith

/-- The list is never empty, a healthy target is reported alone, the singular categories occur at
most once, and total loss excludes what needs some connection. -/
theorem diagnose_co_occurrence (now : Clock) (input : DiagnosticInput) :
    diagnose now input ≠ [] ∧
      (∀ g ∈ diagnose now input, g.category = .healthy → diagnose now input = [g]) ∧
      (∀ c ∈ singular, occurrences c (diagnose now input) ≤ 1) ∧
      (Raises (diagnose now input) .totalConnectivityLoss →
        ¬Raises (diagnose now input) .partialConnectivity ∧
          ¬Raises (diagnose now input) .addressFamily ∧ ¬Raises (diagnose now input) .tls) := by
  refine ⟨?_, ?_, fun c hc => occurrences_le_one now input hc, ?_⟩
  · rw [diagnose_eq_run]
    exact RuleEngine.run_ne_nil
  · intro g hg hc
    rw [diagnose_eq_run] at hg ⊢
    exact RuleEngine.run_eq_singleton (fun r hr d hd => rules_not_healthy hr hd) hg hc
  · intro htotal
    cases htotal.indicates with
    | totalLoss hpath hreached =>
      refine ⟨fun h => ?_, fun h => ?_, fun h => ?_⟩
      · cases h.indicates with
        | partialLoss _ hr => exact hreached hr
      · cases h.indicates with
        | familySplit hs => exact hreached hs.reached
        | familyUnroutable hl => exact hl.2.2 hpath
      · cases h.indicates with
        | handshake hf =>
          obtain ⟨t, -, -, o, ho, -, hs⟩ := hf
          exact hreached ⟨o, ho, hs⟩

end IpTools
