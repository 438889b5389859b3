import IpTools.Diagnostics.Http

/-!
# Repeated-probe diagnostic rules

Intermittent connectivity, HTTP status flapping and latency instability. The three rules run the
same loop, each with its own guard and its own list of destinations already reported.
-/

namespace IpTools

/-- Report each destination once, at the first probe that meets the guard. -/
def reportOnce (guard : ProbeResult → Bool) (diagnosis : ProbeResult → Diagnosis) :
    List SocketAddr → List ProbeResult → List Diagnosis
  | _, [] => []
  | reported, p :: probes =>
    if guard p && !reported.contains p.destination then
      diagnosis p :: reportOnce guard diagnosis (reported ++ [p.destination]) probes
    else reportOnce guard diagnosis reported probes

/-- Summarize the classified failure counts of a probe result. -/
def failureSummaryOpt (p : ProbeResult) : String :=
  if p.failureCounts.isEmpty then "no classified failures"
  else ", ".intercalate (p.failureCounts.map (fun f => s!"{f.kind}: {f.count}"))

def isIntermittent (p : ProbeResult) : Bool :=
  p.attempts > 1 && p.failures > 0 && p.successes > 0

def intermittentDiagnosis (p : ProbeResult) : Diagnosis where
  severity := .medium
  category := .intermittent
  confidence := .high
  summary :=
    let rate := formatTenths (p.successRate * 100.0)
    s!"Intermittent connectivity to {p.destination} ({rate}% success)"
  evidence := [⟨s!"{p.successes}/{p.attempts} success"⟩, ⟨failureSummaryOpt p⟩]
  possibleCauses := ["packet loss / unstable path", "congested transit", "flapping routing",
    "intermittent filtering"]

/-- Intermittent connectivity from repeated-probe results. -/
def intermittentRules (input : DiagnosticInput) : List Diagnosis :=
  reportOnce isIntermittent intermittentDiagnosis [] input.probes

/-- Both success and non-success response classes among the observed statuses. -/
def mixedStatus (p : ProbeResult) : Bool :=
  p.statusCounts.any (fun s => content s.status) && p.statusCounts.any (fun s => !content s.status)

def isFlapping (p : ProbeResult) : Bool :=
  !(p.attempts < 2 || p.statusCounts.isEmpty) && !(p.failures > 0) && mixedStatus p

def flappingDiagnosis (p : ProbeResult) : Diagnosis where
  severity := .low
  category := .intermittent
  confidence := .high
  summary :=
    let rate := formatTenths (p.successRate * 100.0)
    s!"HTTP status flapping for {p.destination} ({rate}% transport success)"
  evidence :=
    let distribution := ", ".intercalate
      (p.statusCounts.map (fun s => s!"{s.status.toNat}x{s.count}"))
    [⟨s!"status distribution across {p.attempts} attempts: {distribution}"⟩,
      ⟨"transport succeeded on every classified attempt; the HTTP response class changed"⟩]
  possibleCauses := ["flapping / degraded backend returning intermittent 5xx",
    "A/B or partial deployment across origins", "capacity limits / rate-limiting cycling"]

/-- HTTP status flapping on a repeat probe. -/
def httpStatusFlappingRules (input : DiagnosticInput) : List Diagnosis :=
  reportOnce isFlapping flappingDiagnosis [] input.probes

/-- A tail at least three times the median, which counts as at least 1 ms. The `u64` product
wraps around outside debug builds. -/
def slowTail (latency : LatencySummary) : Bool :=
  match latency.p50, latency.p95 with
  | some p50, some p95 => !(p95 < 3 * max p50 1)
  | _, _ => false

def isUnstable (p : ProbeResult) : Bool :=
  !(p.attempts < 3 || p.failures > 0 || p.latency.count < 3) && slowTail p.latency

def unstableDiagnosis (p : ProbeResult) : Diagnosis :=
  let p50 := (p.latency.p50.getD 0).toNat
  let p95 := (p.latency.p95.getD 0).toNat
  { severity := .low
    category := .intermittent
    confidence := .high
    summary := s!"Latency instability for {p.destination} (p95 {p95} ms vs p50 {p50} ms)"
    evidence := [⟨s!"latency across {p.latency.count} attempts: p50 {p50} ms, p95 {p95} ms"⟩,
      ⟨"transport and HTTP status were stable; only the latency tail is long"⟩]
    possibleCauses := ["degraded backend under load (slow tail)",
      "capacity limits / rate-limit throttling", "congested or flapping network path"] }

/-- Latency instability on a repeat probe. -/
def latencyInstabilityRules (input : DiagnosticInput) : List Diagnosis :=
  reportOnce isUnstable unstableDiagnosis [] input.probes

end IpTools
