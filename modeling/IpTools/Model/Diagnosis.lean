import IpTools.Model.Observation

/-!
# Diagnoses

The input and the output of the diagnostic engine.
-/

namespace IpTools

/-- How severe a diagnosis is. -/
inductive Severity where
  | info
  | low
  | medium
  | high
deriving DecidableEq, Repr

/-- How strongly observations support a diagnosis. -/
inductive Confidence where
  | unknown
  | low
  | medium
  | high
deriving DecidableEq, Repr

/-- A high-level category a diagnosis belongs to. -/
inductive DiagnosticCategory where
  | healthy
  | dns
  | addressFamily
  | partialConnectivity
  | totalConnectivityLoss
  | intermittent
  | tcp
  | tls
  | certificate
  | http
  | quic
  | possibleNetworkFiltering
  | unknown
deriving DecidableEq, Repr

/-- A single corroborating observation referenced by a diagnosis. -/
structure Evidence where
  detail : String
deriving DecidableEq, Repr

/-- A single, deterministic diagnostic conclusion. -/
structure Diagnosis where
  severity : Severity
  category : DiagnosticCategory
  confidence : Confidence
  summary : String
  evidence : List Evidence
  possibleCauses : List String
deriving DecidableEq, Repr

/-- The observations collected by the probe layer for one target. -/
structure DiagnosticInput where
  hostname : String
  dns : List DnsObservation
  tcp : List TcpObservation
  tls : List TlsObservation
  http : List HttpObservation
  probes : List ProbeResult
deriving Repr

end IpTools
