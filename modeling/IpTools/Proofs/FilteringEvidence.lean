import IpTools.Diagnostics.Filtering
import IpTools.Proofs.TcpEvidence

/-!
# What the filtering analysis counts
-/

namespace IpTools

/-- The signals of an input, in the order of the clauses. -/
def signals (input : DiagnosticInput) (dnsDisagreement : Bool) : List Bool :=
  [dnsDisagreement, hasAddressSpecific input, hasReset input, hasTlsFail input, hasQuicOnly input,
    hasRepeatFail input]

def signalCount (input : DiagnosticInput) (dnsDisagreement : Bool) : Nat :=
  (signals input dnsDisagreement).count true

lemma SignalTally.check_signals (t : SignalTally) (holds : Bool) (detail : String) :
    (t.check holds detail).signals = t.signals + [holds].count true := by
  cases holds <;> rfl

lemma filteringSignals_signals (input : DiagnosticInput) (dnsDisagreement : Bool) :
    (filteringSignals input dnsDisagreement).signals = signalCount input dnsDisagreement := by
  unfold filteringSignals signalCount signals
  simp only [SignalTally.check_signals, List.count_cons, List.count_nil]
  omega

theorem filteringRules_verdict (input : DiagnosticInput) (dnsDisagreement : Bool) :
    (filteringRules input dnsDisagreement).map Diagnosis.verdict =
      if 2 ≤ signalCount input dnsDisagreement then
        [(.low, .possibleNetworkFiltering,
          if 4 ≤ signalCount input dnsDisagreement then .medium else .low)]
      else [] := by
  unfold filteringRules
  rw [← filteringSignals_signals]
  dsimp only
  split <;> rfl

/-- The analysis depends on the input through its signals and the name of the target alone. -/
theorem filteringRules_congr {x y : DiagnosticInput} {d : Bool} (hostname : y.hostname = x.hostname)
    (h : signals y d = signals x d) : filteringRules y d = filteringRules x d := by
  simp only [signals, List.cons.injEq, and_true, true_and] at h
  obtain ⟨haddress, hreset, htls, hquic, hrepeat⟩ := h
  have hsignals : filteringSignals y d = filteringSignals x d := by
    unfold filteringSignals
    rw [haddress, hreset, htls, hquic, hrepeat]
  unfold filteringRules
  rw [hsignals, hostname]

end IpTools
