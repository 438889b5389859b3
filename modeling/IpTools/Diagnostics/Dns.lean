import IpTools.Model.Diagnosis

/-!
# DNS-resolution diagnostic rules
-/

namespace IpTools
open Std

/-- Only forward A/AAAA observations speak to whether the hostname resolved. -/
def DnsObservation.isForward (obs : DnsObservation) : Bool :=
  obs.recordType = .a || obs.recordType = .aaaa

/-- The accumulators of the loop over the DNS observations. -/
structure DnsTally where
  anySuccess : Bool
  anyFailure : Bool
  failed : List DnsObservation
  perResolver : ExtTreeMap String (ExtTreeSet IpAddr)

def DnsTally.empty : DnsTally := ⟨false, false, [], ∅⟩

/-- One pass of the loop body. -/
def DnsTally.add (t : DnsTally) (obs : DnsObservation) : DnsTally :=
  if !obs.isForward then t
  else if obs.error.isSome then { t with anyFailure := true, failed := t.failed ++ [obs] }
  else if obs.records.isEmpty then { t with anySuccess := true }
  else
    { t with
      anySuccess := true
      perResolver := t.perResolver.alter obs.resolver.debug (fun set =>
        some ((set.getD ∅).insertMany (obs.records.filterMap DnsRecord.address))) }

/-- The distinct combined address sets, in the order of the resolvers. -/
def distinctSets (perResolver : ExtTreeMap String (ExtTreeSet IpAddr)) :
    List (ExtTreeSet IpAddr) :=
  (perResolver.toList.map Prod.snd).foldl
    (fun distinct set => if set ∈ distinct then distinct else distinct ++ [set]) []

def unresolvedDiagnosis (hostname : String) (failed : List DnsObservation) : Diagnosis :=
  let ids := failed.map (fun f => (f.error.map ProbeError.message).getD "")
  { severity := .high
    category := .dns
    confidence := .high
    summary := s!"DNS resolution failed for {hostname} from every resolver"
    evidence := [⟨"no A/AAAA records returned"⟩, ⟨"; ".intercalate ids⟩]
    possibleCauses := ["resolver outage", "upstream network problem",
      "domain does not exist or has no records", "local DNS configuration / filtering"] }

def disagreementDiagnosis (hostname : String) (distinct : Nat) : Diagnosis where
  severity := .low
  category := .dns
  confidence := .low
  summary := s!"Resolvers disagree on {hostname}'s addresses"
  evidence := [⟨s!"{distinct} distinct address sets returned"⟩]
  possibleCauses := ["GeoDNS", "CDN / load-balanced DNS", "EDNS Client Subnet (ECS)",
    "caching or normal resolver differences", "DNS manipulation (unproven)"]

/-- Whether resolver disagreement was observed, and the diagnoses raised. -/
def dnsRules (input : DiagnosticInput) : Bool × List Diagnosis :=
  let t := input.dns.foldl DnsTally.add .empty
  let distinct := distinctSets t.perResolver
  let disagreement := decide (distinct.length > 1)
  if t.anyFailure && !t.anySuccess then
    (disagreement, [unresolvedDiagnosis input.hostname t.failed])
  else if disagreement then
    (disagreement, [disagreementDiagnosis input.hostname distinct.length])
  else (disagreement, [])

end IpTools
