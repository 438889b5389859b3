import IpTools.Model.Certificate
import IpTools.Model.Diagnosis

/-!
# TLS and certificate diagnostic rules
-/

namespace IpTools

/-- TLS handshake failures on addresses where TCP connected. -/
def tlsLayerRules (input : DiagnosticInput) : List Diagnosis :=
  let failing := (input.tls.filter (fun t =>
    !t.success && input.tcp.any (fun o => o.destination = t.destination && o.success))).map
      (fun t => toString t.destination)
  if !failing.isEmpty then
    let joined := ", ".intercalate failing
    [{ severity := .medium
       category := .tls
       confidence := .medium
       summary := s!"TLS handshake fails where TCP connects ({joined})"
       evidence := [⟨"TCP established, TLS handshake did not"⟩]
       possibleCauses := ["server TLS configuration / disabled TLS", "certificate validation failure",
         "SNI/ALPN mismatch", "middlebox interfering with TLS"] }]
  else []

/-- The causes already reported, as the rendered summaries they are keyed by, and the diagnoses
raised so far. -/
structure LifetimeState where
  reported : List (String × String)
  out : List Diagnosis

/-- The `push` closure of the rule, for an observation with this server name. -/
def LifetimeState.push (st : LifetimeState) (sni : String) (diagnosis : Diagnosis) :
    LifetimeState :=
  if (sni, diagnosis.summary) ∈ st.reported then st
  else ⟨st.reported ++ [(sni, diagnosis.summary)], st.out ++ [diagnosis]⟩

def notYetValidDiagnosis (sni subject notBefore : String) (days : Int) : Diagnosis where
  severity := .medium
  category := .certificate
  confidence := .medium
  summary :=
    s!"Certificate for {sni} is not yet valid (starts in {days} day(s), subject {subject})"
  evidence := [⟨s!"peer certificate notBefore is in the future: {notBefore}"⟩]
  possibleCauses := ["certificate issued with a future notBefore (misissuance)",
    "server or client clock skew", "certificate deployed before its validity window began"]

def expiredDiagnosis (sni subject notAfter : String) (days : Int) : Diagnosis where
  severity := .medium
  category := .certificate
  confidence := .high
  summary :=
    let ago := if days = 0 then "today" else s!"{-days} day(s) ago"
    s!"Certificate for {sni} expired {ago} (subject {subject})"
  evidence := [⟨s!"peer certificate notAfter is in the past: {notAfter}"⟩]
  possibleCauses := ["certificate not renewed before its notAfter",
    "operator is serving a stale/revoked deployment"]

def expiringDiagnosis (sni subject notAfter : String) (days : Int) : Diagnosis :=
  let due := if days = 0 then "today" else s!"in {days} day(s)"
  { severity := .low
    category := .certificate
    confidence := .medium
    summary := s!"Certificate for {sni} expires {due} (subject {subject})"
    evidence := [⟨s!"peer certificate notAfter is {due}: {notAfter}"⟩]
    possibleCauses := ["certificate approaching its renewal date"] }

/-- The loop body for one TLS observation. -/
def LifetimeState.step (now : Clock) (st : LifetimeState) (t : TlsObservation) : LifetimeState :=
  match t.certificate with
  | none => st
  | some cert =>
    let st :=
      match cert.notBeforeUtc with
      | none => st
      | some notBefore =>
        match daysUntilFromRfc3339 now notBefore with
        | none => st
        | some days =>
          if days > 0 then
            st.push t.sni (notYetValidDiagnosis t.sni cert.subject notBefore days)
          else st
    match cert.notAfterUtc with
    | none => st
    | some notAfter =>
      match daysUntilFromRfc3339 now notAfter with
      | none => st
      | some days =>
        -- day 0 spans the whole expiry day, so its instant decides
        if days < 0 ∨ days = 0 ∧ rfc3339IsInPast now notAfter then
          st.push t.sni (expiredDiagnosis t.sni cert.subject notAfter days)
        else if days ≤ renderCertExpiryWindowDays then
          st.push t.sni (expiringDiagnosis t.sni cert.subject notAfter days)
        else st

/-- Automated certificate-lifetime diagnosis: not yet valid, expired, or expiring soon. -/
def certificateLifetimeRules (now : Clock) (input : DiagnosticInput) : List Diagnosis :=
  (input.tls.foldl (LifetimeState.step now) ⟨[], []⟩).out

/-- The summaries already reported and the diagnoses raised so far. -/
structure CoverageState where
  reported : List String
  out : List Diagnosis

def CoverageState.push (st : CoverageState) (diagnosis : Diagnosis) : CoverageState :=
  if diagnosis.summary ∈ st.reported then st
  else ⟨st.reported ++ [diagnosis.summary], st.out ++ [diagnosis]⟩

def noSansDiagnosis (sni subject : String) : Diagnosis where
  severity := .medium
  category := .certificate
  confidence := .medium
  summary := s!"Certificate for {sni} has no Subject Alternative Names (subject {subject})"
  evidence := [⟨"the served certificate lists no SANs to match the presented hostname"⟩]
  possibleCauses := ["mis-issued certificate without SANs (needs SANs for modern validation)",
    "server is presenting the wrong leaf certificate"]

def notCoveredDiagnosis (sni subject : String) (sans : List String) : Diagnosis where
  severity := .medium
  category := .certificate
  confidence := .medium
  summary :=
    s!"Certificate for {sni} does not cover the presented hostname (subject {subject})"
  evidence :=
    let joined := ", ".intercalate sans
    [⟨s!"SANs {joined} do not match presented SNI {sni}"⟩]
  possibleCauses := ["wrong-host or shared-host certificate presented",
    "wildcard/exact SAN mismatch for the requested hostname",
    "connection is to an IP that the certificate does not cover"]

/-- The loop body for one TLS observation. -/
def CoverageState.step (st : CoverageState) (t : TlsObservation) : CoverageState :=
  match t.certificate with
  | none => st
  | some cert =>
    if cert.sans.isEmpty then st.push (noSansDiagnosis t.sni cert.subject)
    else if !certCoversHostname t.sni cert.sans then
      st.push (notCoveredDiagnosis t.sni cert.subject cert.sans)
    else st

/-- Automated certificate hostname-coverage diagnosis. -/
def certificateCoverageRules (input : DiagnosticInput) : List Diagnosis :=
  (input.tls.foldl CoverageState.step ⟨[], []⟩).out

end IpTools
