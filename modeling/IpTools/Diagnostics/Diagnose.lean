import IpTools.Diagnostics.Dns
import IpTools.Diagnostics.Filtering
import IpTools.Diagnostics.Repeat
import IpTools.Diagnostics.Tls

/-!
# The diagnostic engine
-/

namespace IpTools

/-- The single diagnosis of an input on which every rule stays quiet. -/
def healthyDiagnosis (input : DiagnosticInput) : Diagnosis where
  severity := .info
  category := .healthy
  confidence := .high
  summary := s!"No significant connectivity anomaly observed for {input.hostname}"
  evidence := [⟨"Every observed protocol layer succeeded or showed only expected behavior."⟩]
  possibleCauses := []

/-- Evaluate all rules against the observations, the clock reading `now` throughout. -/
def diagnose (now : Clock) (input : DiagnosticInput) : List Diagnosis :=
  let (dnsSignal, dnsOut) := dnsRules input
  let out := dnsOut ++
    connectivityRules input ++
    familyRules input ++
    tlsLayerRules input ++
    certificateLifetimeRules now input ++
    certificateCoverageRules input ++
    httpLayerRules input ++
    redirectRules input ++
    httpConsistencyRules input ++
    truncatedBodyRules input ++
    quicRules input ++
    intermittentRules input ++
    httpStatusFlappingRules input ++
    latencyInstabilityRules input ++
    filteringRules input dnsSignal
  if out.isEmpty then [healthyDiagnosis input] else out

end IpTools
