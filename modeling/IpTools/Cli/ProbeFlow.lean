import IpTools.Library.RunningDedup
import IpTools.Model.Observation
import IpTools.Wire.Target

/-!
# The probe flow

The pipeline shared by the per-address probe commands: every target is resolved, every pair of a
target and an address is probed, and the results are grouped by target again. The two concurrent
maps give their results in the order of completion; the stages around them are here.
-/

namespace IpTools

inductive ExitCode where
  | success
  | failure
deriving DecidableEq, Repr

/-- The resolvers that are configured, by what they answer. -/
structure Resolvers where
  /-- The system resolver and the custom servers. -/
  resolve : List Char → DnsRecordType → List DnsObservation
  dohEndpoints : List String
  dohQuery : String → List Char → DnsRecordType → DnsObservation
  dotEndpoints : List String
  dotQuery : String → List Char → DnsRecordType → DnsObservation

/-- The observations of one record type, in the order they are made. -/
def Resolvers.lookups (resolvers : Resolvers) (host : List Char) (rt : DnsRecordType) :
    List DnsObservation :=
  resolvers.resolve host rt ++
    resolvers.dohEndpoints.map (fun endpoint => resolvers.dohQuery endpoint host rt) ++
    resolvers.dotEndpoints.map (fun endpoint => resolvers.dotQuery endpoint host rt)

/-- The addresses that an observation without an error adds. -/
def answeredAddresses (obs : DnsObservation) : List IpAddr :=
  if obs.error.isNone then obs.records.filterMap DnsRecord.address else []

/-- Keep the first of each address: `retain` with a `HashSet`. -/
def retainFirst (addrs : List IpAddr) : List IpAddr := RunningDedup.firsts id [] addrs

def resolveForTcpServers (resolvers : Resolvers) (host : List Char) :
    Except String (List IpAddr) :=
  let host := trimEndMatches ']' (trimStartMatches '[' host)
  match parseIpAddr host with
  | some ip => .ok [ip]
  | none =>
    let addrs := [DnsRecordType.a, .aaaa].flatMap
      (fun rt => (resolvers.lookups host rt).flatMap answeredAddresses)
    if addrs.isEmpty then
      let host := String.ofList host
      .error s!"hostname {host} did not resolve to any address via the configured resolvers"
    else .ok (retainFirst addrs)

structure FamilyFlags where
  ipv4Only : Bool
  ipv6Only : Bool
deriving DecidableEq, Repr

def FamilyFlags.keeps (flags : FamilyFlags) (ip : IpAddr) : Bool :=
  if flags.ipv4Only then ip.isIpv4 else if flags.ipv6Only then !ip.isIpv4 else true

/-- The host and the destinations of a target, or `none` where nothing is left to probe. -/
def resolveTarget (resolvers : Resolvers) (flags : FamilyFlags) (target : Target) :
    Option (List Char × List SocketAddr) :=
  match resolveForTcpServers resolvers target.host with
  | .error _ => none
  | .ok addrs =>
    let destinations := (addrs.filter flags.keeps).map (fun ip => SocketAddr.new ip target.port)
    if destinations.isEmpty && (flags.ipv4Only || flags.ipv6Only) then none
    else some (target.host, destinations)

/-- The result of resolving a target, with the place of the target. -/
abbrev ResolvedTarget := Nat × Option (List Char × List SocketAddr)

/-- The items of the first map: the targets with their places. -/
def resolveItems (targets : List Target) : List (Nat × Target) :=
  targets.zipIdx.map (fun t => (t.2, t.1))

def resolveTask (resolvers : Resolvers) (flags : FamilyFlags) (item : Nat × Target) :
    ResolvedTarget := (item.1, resolveTarget resolvers flags item.2)

/-- One host and destination to probe, with the place of its target. -/
structure ProbeItem where
  idx : Nat
  host : List Char
  dest : SocketAddr
deriving DecidableEq, Repr

def sortByIdx {α : Type} (items : List (Nat × α)) : List (Nat × α) :=
  items.mergeSort (fun a b => decide (a.1 ≤ b.1))

/-- The items of the second map. -/
def probeItems (resolved : List ResolvedTarget) : List ProbeItem :=
  resolved.flatMap (fun r =>
    match r.2 with
    | some (host, dests) => dests.map (fun d => ⟨r.1, host, d⟩)
    | none => [])

/-- Probe one item, presenting `sni` instead of the host where it is given. -/
def probeTask {O : Type} (probe : List Char → SocketAddr → O) (sni : Option (List Char))
    (item : ProbeItem) : ProbeItem × O := (item, probe (sni.getD item.host) item.dest)

def pushResult {O : Type} (perTarget : List (Option (List O))) (item : ProbeItem × O) :
    List (Option (List O)) :=
  perTarget.modify item.1.idx (fun results => some (results.getD [] ++ [item.2]))

def groupResults {O : Type} (targetCount : Nat) (probed : List (ProbeItem × O)) :
    List (Option (List O)) :=
  probed.foldl pushResult (List.replicate targetCount none)

def sortByAddr {O : Type} (sortKey : O → SocketAddr) (results : List O) : List O :=
  results.mergeSort (fun a b => (compare (sortKey a) (sortKey b)).isLE)

def collectTargets {O : Type} (sortKey : O → SocketAddr) :
    List (Option (List O)) → List ResolvedTarget → List (Nat × Option (List Char × List O))
  | _, [] => []
  | perTarget, (idx, some (host, _)) :: resolved =>
    let results := (perTarget[idx]?.join).getD []
    (idx, some (host, sortByAddr sortKey results)) ::
      collectTargets sortKey (perTarget.set idx none) resolved
  | perTarget, (idx, none) :: resolved => (idx, none) :: collectTargets sortKey perTarget resolved

/-- What the flow renders: the results of the resolved targets and the count of the others. -/
structure FlowResult (O : Type) where
  perTarget : List (List Char × List O)
  unresolved : Nat
deriving DecidableEq

/-- The results of the targets from those of the two maps. -/
def regroup {O : Type} (sortKey : O → SocketAddr) (targetCount : Nat)
    (resolved : List ResolvedTarget) (probed : List (ProbeItem × O)) : FlowResult O :=
  let indexed := sortByIdx (collectTargets sortKey (groupResults targetCount probed) resolved)
  { perTarget := indexed.filterMap Prod.snd
    unresolved := indexed.countP (fun t => t.2.isNone) }

/-- What the report of a run is checked for. -/
structure FlowChecks (O : Type) where
  expect : Option (O → Option String)
  strict : Bool
  failed : O → Bool

/-- The exit code of a run that comes to its report, given whether the report was written. -/
def FlowResult.exitCode {O : Type} (r : FlowResult O) (checks : FlowChecks O) (written : Bool) :
    ExitCode :=
  let results := r.perTarget.flatMap Prod.snd
  if !written then .failure
  else if 0 < r.unresolved then .failure
  else if checks.expect.any (fun check => results.any (fun o => (check o).isSome)) then .failure
  else if checks.strict && 0 < results.countP checks.failed then .failure
  else .success

end IpTools
