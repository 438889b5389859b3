import IpTools.Model.Diagnosis

/-!
# TCP connectivity diagnostic rules

Total loss, partial reachability, and address-family asymmetries.
-/

namespace IpTools

/-- The host's own no-route verdict, reported before any packet is sent. -/
def FailureKind.isLocalUnreachability (kind : FailureKind) : Bool :=
  kind = .networkUnreachable || kind = .hostUnreachable

/-- Whether every failing observation failed with the host's own no-route verdict. -/
def allLocalUnreachability (bad : List TcpObservation) : Bool :=
  bad.all (fun o => o.failure.any (fun f => f.kind.isLocalUnreachability))

/-- One more failure of this kind, kept in the order of first occurrence. -/
def countKind (kind : FailureKind) : List (FailureKind × Nat) → List (FailureKind × Nat)
  | [] => [(kind, 1)]
  | (k, n) :: rest => if k = kind then (k, n + 1) :: rest else (k, n) :: countKind kind rest

/-- Summarize the distinct failure kinds across the given observations. -/
def failureSummary (bad : List TcpObservation) : String :=
  let counts := bad.foldl (fun counts obs =>
    match obs.failure with
    | some f => countKind f.kind counts
    | none => counts) []
  ", ".intercalate (counts.map (fun c => s!"{c.1}: {c.2}"))

/-- Total or partial TCP connectivity loss. -/
def connectivityRules (input : DiagnosticInput) : List Diagnosis :=
  if input.tcp.isEmpty then []
  else
    let ok := input.tcp.filter (fun o => o.success)
    let bad := input.tcp.filter (fun o => !o.success)
    if ok.isEmpty && !bad.isEmpty then
      -- a missing route of the host itself is left to the address-family rule
      if allLocalUnreachability bad then []
      else
        [{ severity := .high
           category := .totalConnectivityLoss
           confidence := if bad.length > 1 then .high else .medium
           summary := s!"No address of {input.hostname} accepts TCP connections"
           evidence := [⟨s!"{bad.length} addresses probed, {bad.length} failed"⟩,
             ⟨failureSummary bad⟩]
           possibleCauses := ["destination server down", "firewall / ACL blocking", "wrong port",
             "routing failure", "local egress restriction"] }]
    else if !ok.isEmpty && !bad.isEmpty then
      if allLocalUnreachability bad then []
      else
        let failing := ", ".intercalate (bad.map (fun o => toString o.destination))
        let passing := ", ".intercalate (ok.map (fun o => toString o.destination))
        [{ severity := .medium
           category := .partialConnectivity
           confidence := if bad.length > 1 then .high else .medium
           summary := s!"Only some addresses of {input.hostname} are reachable"
           evidence := [⟨s!"reachable: {passing}"⟩, ⟨s!"unreachable: {failing}"⟩]
           possibleCauses := ["CDN / load balancer node failure", "destination-specific filtering",
             "routing asymmetry between addresses", "packet loss on a subset of paths"] }]
    else []

/-- Whether any address of the family answered, `none` when the family was not probed. -/
def familyResult (tcp : List TcpObservation) (ipv4 : Bool) : Option Bool :=
  let group := tcp.filter (fun o => o.destination.isIpv4 == ipv4)
  if group.isEmpty then none else some (group.any (fun o => o.success))

/-- The verdict that one family works and the other does not. -/
def familyAsymmetry (v4 v6 : Option Bool) : List Diagnosis :=
  match v4, v6 with
  | some v4Ok, some v6Ok =>
    if v4Ok != v6Ok then
      let failing := if v4Ok then "IPv6" else "IPv4"
      [{ severity := .low
         category := .addressFamily
         confidence := .medium
         summary := s!"{failing} connectivity fails while the other family works"
         evidence := [⟨if v4Ok then "IPv4: reachable" else "IPv4: unreachable"⟩,
           ⟨if v6Ok then "IPv6: reachable" else "IPv6: unreachable"⟩]
         possibleCauses := ["broken or missing IPv6", "destination has no working IPv6",
           "firewall / ISP IPv6 filtering", "routing problem for one family"] }]
    else []
  | _, _ => []

/-- The only family probed and its result. -/
def singleFamily (v4 v6 : Option Bool) : Option (Bool × Bool) :=
  match v4, v6 with
  | some ok, none => some (true, ok)
  | none, some ok => some (false, ok)
  | _, _ => none

/-- The note that the only family probed has no route at all. -/
def singleFamilyNote (input : DiagnosticInput) (v4 v6 : Option Bool) : List Diagnosis :=
  match singleFamily v4 v6 with
  | some (ipv4, ok) =>
    if !ok then
      let bad := input.tcp.filter (fun o => o.destination.isIpv4 == ipv4 && !o.success)
      if allLocalUnreachability bad then
        let fam := if ipv4 then "IPv4" else "IPv6"
        [{ severity := .low
           category := .addressFamily
           confidence := .medium
           summary :=
             s!"{fam} connectivity is locally unreachable (no route) for {input.hostname}"
           evidence := [⟨s!"{fam}: every address locally unreachable (network/host unreachable)"⟩]
           possibleCauses := [s!"no {fam} route / global address on the probing host",
             s!"{fam} disabled on the destination or its network",
             s!"firewall or policy blocking {fam} traffic locally"] }]
      else []
    else []
  | none => []

/-- IPv4 vs IPv6 asymmetry, plus the single-family local-unreachability note. -/
def familyRules (input : DiagnosticInput) : List Diagnosis :=
  if input.tcp.isEmpty then []
  else
    let v4 := familyResult input.tcp true
    let v6 := familyResult input.tcp false
    familyAsymmetry v4 v6 ++ singleFamilyNote input v4 v6

end IpTools
