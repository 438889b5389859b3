import IpTools.Cli.Concurrency
import IpTools.Cli.ProbeFlow
import IpTools.Library.StableSort
import IpTools.Probes.Repeat

/-!
# The observations of a diagnosed target

One target is resolved to its addresses, and each layer is probed over all of them by a concurrent
map. What the maps give is sorted back into the order of the addresses.
-/

namespace IpTools

open StableSort

variable [DebugTables]

inductive FamilyScope where
  | v4
  | v6
  | both
deriving DecidableEq, Repr

def FamilyScope.keeps (scope : FamilyScope) (ip : IpAddr) : Bool :=
  match scope with
  | .both => true
  | .v4 => ip.isIpv4
  | .v6 => !ip.isIpv4

/-- The addresses of a target; a literal is used directly. -/
def diagnoseAddresses (resolvers : Resolvers) (target : Target) : List IpAddr :=
  match parseIpAddr (trimEndMatches ']' (trimStartMatches '[' target.host)) with
  | some ip => [ip]
  | none => retainFirst ([DnsRecordType.a, .aaaa].flatMap
      (fun rt => (resolvers.lookups target.host rt).flatMap answeredAddresses))

/-- The destinations of a target in canonical order, or `none` where there is none. -/
def diagnoseDestinations (resolvers : Resolvers) (family : FamilyScope) (target : Target) :
    Option (List SocketAddr) :=
  let addresses := (diagnoseAddresses resolvers target).filter family.keeps
  if addresses.isEmpty then none
  else some ((sortByKey id addresses).map (fun ip => SocketAddr.new ip target.port))

/-- What the probes of a target are given and what the network does with them. -/
structure DiagnoseProbes where
  concurrency : Nat
  presented : String
  plain : Bool
  count : Nat
  timeout : Duration
  connect : SocketAddr → Connect
  handshake : SocketAddr → TlsTransport × Duration
  reconnect : SocketAddr → Nat → Connect
  request : SocketAddr → Nat → HttpObservation
  order : SocketAddr → HashOrder

def DiagnoseProbes.tcpTask (probes : DiagnoseProbes) (d : SocketAddr) : TcpObservation :=
  tcpProbe d probes.timeout (probes.connect d)

def DiagnoseProbes.tlsTask (probes : DiagnoseProbes) (d : SocketAddr) : TlsObservation :=
  tlsProbe d probes.presented probes.timeout (probes.handshake d).1 (probes.handshake d).2

/-- The transport and the status of one destination over the attempts. -/
def DiagnoseProbes.repeatTask (probes : DiagnoseProbes) (d : SocketAddr) : List ProbeResult :=
  [tcpRepeat (probes.order d) d probes.count probes.timeout (probes.reconnect d),
    httpRepeat (probes.order d) d probes.count (probes.request d)]

/-- The lists that the engine reads for the layers probed here. -/
structure DiagnoseLists where
  tcp : List TcpObservation
  tls : List TlsObservation
  probes : List ProbeResult

/-- What `diagnose_one` can collect over some destinations. -/
inductive DiagnoseOne (probes : DiagnoseProbes) (destinations : List SocketAddr) :
    DiagnoseLists → Prop
  | collected {tcp : List TcpObservation} {tls : List TlsObservation}
      {groups : List (List ProbeResult)}
      (htcp : ParallelMapped probes.tcpTask probes.concurrency destinations tcp)
      -- under `--plain` there is no handshake to observe
      (htls : if probes.plain then tls = []
        else ParallelMapped probes.tlsTask probes.concurrency destinations tls)
      (hprobes : ParallelMapped probes.repeatTask probes.concurrency destinations groups) :
      DiagnoseOne probes destinations
        { tcp := sortByKey TcpObservation.destination tcp
          tls := sortByKey TlsObservation.destination tls
          probes := sortByKey ProbeResult.destination groups.flatten }

end IpTools
