import IpTools.Diagnostics.Connectivity

/-!
# Conservative network-filtering analysis

Fires only when several independent signals agree, and never with high confidence.
-/

namespace IpTools

/-- The signals counted so far and the evidence gathered for them. -/
structure SignalTally where
  signals : Nat
  evidence : List Evidence

/-- One clause of the analysis. -/
def SignalTally.check (t : SignalTally) (holds : Bool) (detail : String) : SignalTally :=
  if holds then ⟨t.signals + 1, t.evidence ++ [⟨detail⟩]⟩ else t

/-- A failure on the path, as against a missing local route. -/
def TcpObservation.pathFailure (o : TcpObservation) : Bool :=
  o.failure.any (fun e => !e.kind.isLocalUnreachability)

def hasAddressSpecific (input : DiagnosticInput) : Bool :=
  input.tcp.any TcpObservation.pathFailure && input.tcp.any (fun o => o.success)

def hasReset (input : DiagnosticInput) : Bool :=
  input.tcp.any (fun o => o.failure.any (fun e => e.kind = .connectionReset))

/-- A TLS failure only counts when TCP actually connected on that address. -/
def hasTlsFail (input : DiagnosticInput) : Bool :=
  input.tls.any (fun o =>
    !o.success && input.tcp.any (fun t => t.destination = o.destination && t.success))

/-- Every HTTP/3 row failed while a row of another protocol succeeded. -/
def hasQuicOnly (input : DiagnosticInput) : Bool :=
  input.http.any (fun h => h.protocol = some "HTTP/3" && h.failure.isSome) &&
    !input.http.any (fun h => h.protocol = some "HTTP/3" && h.failure.isNone) &&
    input.http.any (fun h => h.protocol ≠ some "HTTP/3" && h.failure.isNone)

/-- Both successes and failures on an address whose single-shot failure is not yet a signal. -/
def hasRepeatFail (input : DiagnosticInput) : Bool :=
  let specificFailing := (input.tcp.filter TcpObservation.pathFailure).map (fun o => o.destination)
  input.probes.any (fun p =>
    p.successes > 0 && p.failures > 0 && !specificFailing.contains p.destination)

/-- The independent filtering signals, in the order of the clauses. -/
def filteringSignals (input : DiagnosticInput) (dnsDisagreement : Bool) : SignalTally :=
  ((((((SignalTally.mk 0 []).check
    dnsDisagreement "resolvers returned different address sets").check
    (hasAddressSpecific input)
    "address-specific reachability (some IPs fail, others pass)").check
    (hasReset input) "TCP resets observed").check
    (hasTlsFail input) "TLS handshake failures observed").check
    (hasQuicOnly input) "protocol-selective failure (QUIC only)").check
    (hasRepeatFail input) "failures reproducible across repeated attempts"

/-- Evaluate independent filtering signals; raise a low/medium confidence diagnosis when several
align. -/
def filteringRules (input : DiagnosticInput) (dnsDisagreement : Bool) : List Diagnosis :=
  let t := filteringSignals input dnsDisagreement
  if t.signals ≥ 2 then
    [{ severity := .low
       category := .possibleNetworkFiltering
       confidence := if t.signals ≥ 4 then .medium else .low
       summary := s!"Multiple independent signals are consistent with possible network filtering towards {input.hostname}"
       evidence := t.evidence
       possibleCauses := ["destination/cdn failure", "routing asymmetry", "packet loss / congestion",
         "local or ISP firewall / proxy", "IPv6 misconfiguration",
         "TLS/HTTP protocol incompatibility", "network filtering or censorship (not proven)"] }]
  else []

end IpTools
