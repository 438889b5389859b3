import IpTools.Cli.DiagnoseOne
import IpTools.Cli.ReverseZone
import IpTools.Diagnostics.Diagnose
import IpTools.Probes.Http3

/-!
# Runs of the diagnose command

A sweep over targets: each is resolved, probed layer by layer and put to the engine, all of them
concurrently. The reports are sorted back into the order of the targets.
-/

namespace IpTools

open StableSort

variable [DebugTables]

/-- What the command is called with. -/
structure DiagnoseArgs where
  concurrency : Nat
  family : FamilyScope
  sni : Option String
  method : String
  path : String
  headers : List (String × String)
  body : Option (List UInt8)
  maxBodyBytes : UInt64
  count : Nat
  timeout : Duration
  plain : Bool
  reverse : Bool
  strict : Bool

/-- What one target meets: the resolvers, the clock, and for each destination the connections and
the exchanges of its probes. -/
structure DiagnoseNetwork where
  resolvers : Resolvers
  now : Clock
  connect : SocketAddr → Connect
  handshake : SocketAddr → TlsTransport × Duration
  http1 : SocketAddr → TlsTransport × HttpTransport
  http2 : SocketAddr → TlsTransport × Http2Transport
  http3 : SocketAddr → Http3Transport
  reconnect : SocketAddr → Nat → Connect
  request : SocketAddr → Nat → TlsTransport × HttpTransport
  order : SocketAddr → HashOrder

/-- The address that a target gives itself, in brackets or not. -/
def Target.literal (target : Target) : Option IpAddr :=
  parseIpAddr (trimEndMatches ']' (trimStartMatches '[' target.host))

/-- The addresses that are probed, in canonical order. -/
def diagnosePool (resolvers : Resolvers) (family : FamilyScope) (target : Target) : List IpAddr :=
  sortByKey id ((diagnoseAddresses resolvers target).filter family.keeps)

/-- The lookups of both address types, whichever family is probed. -/
def forwardRows (resolvers : Resolvers) (target : Target) : List DnsObservation :=
  match target.literal with
  | some _ => []
  | none => [DnsRecordType.a, .aaaa].flatMap (resolvers.lookups target.host)

/-- The pointer lookups under `--reverse`, labelled with the address that each is of. -/
def reverseRows (resolvers : Resolvers) (target : Target) (addresses : List IpAddr) :
    List DnsObservation :=
  let reverseAddresses := match target.literal with
    | some ip => [ip]
    | none => addresses
  reverseAddresses.flatMap (fun ip =>
    (resolvers.lookups (reverseZone ip).toList .ptr).map (fun o =>
      { o with hostname := toString ip }))

/-- The name presented to a target. -/
def DiagnoseArgs.presented (args : DiagnoseArgs) (target : Target) : String :=
  args.sni.getD (String.ofList target.host)

def DiagnoseArgs.httpProbe (args : DiagnoseArgs) (presented : String) (max : UInt64)
    (d : SocketAddr) : HttpProbe :=
  { destination := d, host := presented, method := args.method, path := args.path,
    headers := args.headers, body := args.body, timeout := args.timeout, maxBodyBytes := max,
    output := false }

/-- One HTTP/1.1 request, in cleartext under `--plain`. -/
def DiagnoseArgs.http1 (args : DiagnoseArgs) (probe : HttpProbe)
    (transport : TlsTransport × HttpTransport) : HttpObservation :=
  if args.plain then httpProbePlain probe transport.1.connect transport.2
  else IpTools.httpProbe probe transport.1 transport.2

/-- The three HTTP probes of one destination. -/
def DiagnoseArgs.http1Task (args : DiagnoseArgs) (net : DiagnoseNetwork) (presented : String)
    (d : SocketAddr) : HttpObservation :=
  args.http1 (args.httpProbe presented args.maxBodyBytes d) (net.http1 d)

def DiagnoseArgs.http2Task (args : DiagnoseArgs) (net : DiagnoseNetwork) (presented : String)
    (d : SocketAddr) : HttpObservation :=
  http2Probe (args.httpProbe presented args.maxBodyBytes d) (net.http2 d).1 (net.http2 d).2

def DiagnoseArgs.http3Task (args : DiagnoseArgs) (net : DiagnoseNetwork) (presented : String)
    (d : SocketAddr) : HttpObservation :=
  http3Probe (args.httpProbe presented args.maxBodyBytes d) (net.http3 d)

/-- What `collect_http_probes` can give over some destinations. The probes that need TLS run under
`--plain` as well, and are dropped. -/
inductive CollectHttpProbes (args : DiagnoseArgs) (net : DiagnoseNetwork) (presented : String)
    (destinations : List SocketAddr) : List HttpObservation → Prop
  | collected {http1 http2 http3 : List HttpObservation}
      (h1 : ParallelMapped (args.http1Task net presented) args.concurrency destinations http1)
      (h2 : ParallelMapped (args.http2Task net presented) args.concurrency destinations http2)
      (h3 : ParallelMapped (args.http3Task net presented) args.concurrency destinations http3) :
      CollectHttpProbes args net presented destinations
        (sortByKey HttpObservation.destination http1 ++
          if args.plain then []
          else sortByKey HttpObservation.destination http2 ++
            sortByKey HttpObservation.destination http3)

/-- The other layers. The repeated requests read bodies to the default cap. -/
def DiagnoseArgs.probes (args : DiagnoseArgs) (net : DiagnoseNetwork) (presented : String) :
    DiagnoseProbes where
  concurrency := args.concurrency
  presented := presented
  plain := args.plain
  count := args.count
  timeout := args.timeout
  connect := net.connect
  handshake := net.handshake
  reconnect := net.reconnect
  request d i := args.http1 (args.httpProbe presented IpTools.maxBodyBytes d) (net.request d i)
  order := net.order

structure DiagnoseReport where
  target : String
  diagnoses : List Diagnosis
  dns : List DnsObservation
  tcp : List TcpObservation
  tls : List TlsObservation
  http : List HttpObservation
  probes : List ProbeResult

def DiagnoseReport.input (report : DiagnoseReport) : DiagnosticInput where
  hostname := report.target
  dns := report.dns
  tcp := report.tcp
  tls := report.tls
  http := report.http
  probes := report.probes

/-- The report over what the probes collected. -/
def DiagnoseReport.of (now : Clock) (input : DiagnosticInput) : DiagnoseReport where
  target := input.hostname
  diagnoses := diagnose now input
  dns := input.dns
  tcp := input.tcp
  tls := input.tls
  http := input.http
  probes := input.probes

def DiagnoseArgs.dnsRows (args : DiagnoseArgs) (net : DiagnoseNetwork) (target : Target) :
    List DnsObservation :=
  forwardRows net.resolvers target ++
    if args.reverse then
      reverseRows net.resolvers target (diagnosePool net.resolvers args.family target)
    else []

/-- What `diagnose_one` can return for a target, `none` where there is no address to probe. -/
inductive DiagnoseTarget (args : DiagnoseArgs) (net : DiagnoseNetwork) (target : Target) :
    Option DiagnoseReport → Prop
  | unresolved (h : diagnoseDestinations net.resolvers args.family target = none) :
      DiagnoseTarget args net target none
  | report {destinations : List SocketAddr} {lists : DiagnoseLists} {http : List HttpObservation}
      (h : diagnoseDestinations net.resolvers args.family target = some destinations)
      (hlists : DiagnoseOne (args.probes net (args.presented target)) destinations lists)
      (hhttp : CollectHttpProbes args net (args.presented target) destinations http) :
      DiagnoseTarget args net target (some (.of net.now
        { hostname := String.ofList target.host
          dns := args.dnsRows net target
          tcp := lists.tcp
          tls := lists.tls
          http := http
          probes := lists.probes }))

/-- What a sweep has for its output. -/
structure DiagnoseSweep where
  reports : List DiagnoseReport
  unresolved : Nat

/-- The reports in the order of the targets. -/
def sweepReports (indexed : List (Nat × Option DiagnoseReport)) : DiagnoseSweep :=
  let indexed := sortByIdx indexed
  { reports := indexed.filterMap Prod.snd
    unresolved := indexed.countP (fun r => r.2.isNone) }

/-- What a sweep over some targets can come to. Each target meets a network of its own, and is
diagnosed in a task of its own. -/
inductive RunDiagnose (args : DiagnoseArgs) (net : Nat → DiagnoseNetwork) (targets : List Target) :
    DiagnoseSweep → Prop
  | swept {report : Nat × Target → Option DiagnoseReport}
      {indexed : List (Nat × Option DiagnoseReport)}
      (hreport : ∀ item ∈ resolveItems targets,
        DiagnoseTarget args (net item.1) item.2 (report item))
      (hindexed : ParallelMapped (fun item => (item.1, report item)) args.concurrency
        (resolveItems targets) indexed) :
      RunDiagnose args net targets (sweepReports indexed)

/-- The diagnoses that `--strict` counts. -/
def DiagnoseSweep.anomalies (sweep : DiagnoseSweep) : Nat :=
  (sweep.reports.flatMap DiagnoseReport.diagnoses).countP (fun d => d.category ≠ .healthy)

/-- The exit code, given the targets that were asked for and whether the output was written. -/
def DiagnoseSweep.exitCode (args : DiagnoseArgs) (targets : List Target) (written : Bool)
    (sweep : DiagnoseSweep) : ExitCode :=
  if targets.isEmpty then .failure
  else if !written then .failure
  else if 0 < sweep.unresolved then .failure
  else if args.strict && 0 < sweep.anomalies then .failure
  else .success

end IpTools
