import IpTools.Model.Diagnosis
import IpTools.Model.Route
import IpTools.Report.Observations

/-!
# Reports of aggregates

The human reports of repeated probes and queries, of routes and of diagnoses.
-/

namespace IpTools

variable (style : Style)

/-- A number of failures, coloured where there are some. -/
def failuresText (failures : Nat) : String :=
  if failures > 0 then style.fail (toString failures) else toString failures

def formatRate (rate : Float) : String := formatTenths (rate * 100.0) ++ "%"

def dnsRepeatRows (r : DnsRepeatResult) : List String :=
  ["  " ++ r.resolver.label ++ " " ++ toString r.recordType,
    "    attempts: " ++ toString r.attempts,
    "    success:  " ++ toString r.successes ++ " (" ++ formatRate r.successRate ++ ")",
    "    failure:  " ++ failuresText style r.failures] ++
  r.failureCounts.map (fun fc =>
    "      - " ++ style.fail (toString fc.kind ++ ": " ++ toString fc.count)) ++
  rowOf "    ttl: " (r.ttl.map (fun ttl => toString ttl.toNat ++ " s")) ++
  if r.latency.count > 0 then
    ["    latency:",
      "      min:  " ++ msOrDash r.latency.min,
      "      p50:  " ++ msOrDash r.latency.p50,
      "      p90:  " ++ msOrDash r.latency.p90,
      "      p95:  " ++ msOrDash r.latency.p95,
      "      p99:  " ++ msOrDash r.latency.p99,
      "      max:  " ++ msOrDash r.latency.max,
      "      jitter: " ++ msOrDash r.latency.jitter]
  else []

def renderDnsRepeat (host : String) (results : List DnsRepeatResult) : String :=
  unlines (("Repeated DNS " ++ host) :: results.flatMap (dnsRepeatRows style))

def probeRows (r : ProbeResult) : List String :=
  ["  " ++ toString r.destination,
    "    attempts: " ++ toString r.attempts,
    "    success:  " ++ toString r.successes ++ " (" ++ formatRate r.successRate ++ ")",
    "    failure:  " ++ failuresText style r.failures] ++
  (if r.latency.count > 0 then
    ["    latency:",
      "      min:  " ++ fmt r.latency.min ++ " ms",
      "      p50:  " ++ fmt r.latency.p50 ++ " ms",
      "      p90:  " ++ fmt r.latency.p90 ++ " ms",
      "      p95:  " ++ fmt r.latency.p95 ++ " ms",
      "      p99:  " ++ fmt r.latency.p99 ++ " ms",
      "      max:  " ++ fmt r.latency.max ++ " ms",
      "      jitter: " ++ fmt r.latency.jitter ++ " ms"]
  else []) ++
  (if r.ttfb.count > 0 then
    ["    ttfb:",
      "      min:  " ++ fmt r.ttfb.min ++ " ms",
      "      p50:  " ++ fmt r.ttfb.p50 ++ " ms",
      "      p95:  " ++ fmt r.ttfb.p95 ++ " ms",
      "      max:  " ++ fmt r.ttfb.max ++ " ms"]
  else []) ++
  (if !r.failureCounts.isEmpty then
    ["    failures: " ++ ", ".intercalate (r.failureCounts.map (fun f =>
      style.fail (toString f.kind ++ ": " ++ toString f.count)))]
  else []) ++
  if !r.statusCounts.isEmpty then
    ["    status:   " ++ ", ".intercalate (r.statusCounts.map (fun s =>
      paintStatus style s.status (toString s.status.toNat ++ "x" ++ toString s.count)))]
  else []

def renderProbe (results : List ProbeResult) : String :=
  unlines ("Repeated probes" :: results.flatMap (probeRows style))

/-- A host cell: the name with its addresses, or the addresses alone. -/
def hostCell (hostname : Option String) (addrs : String) : String :=
  match hostname.filter (fun n => !n.isEmpty) with
  | some n => n ++ " (" ++ addrs ++ ")"
  | none => addrs

def routeHostCell (hop : RouteHop) : String :=
  hostCell hop.hostname (match hop.addr with
    | some a => toString a
    | none => "")

def routeRepeatHostCell (hop : RouteHopStats) : String :=
  hostCell hop.hostname (", ".intercalate (hop.addrs.map toString))

def routeRow (width : Nat) (hop : RouteHop) : String :=
  if hop.lost || hop.addr.isNone then
    "  " ++ padLeft 2 (toString hop.ttl.toNat) ++ "  " ++ style.fail "*"
  else
    "  " ++ padLeft 2 (toString hop.ttl.toNat) ++ "  " ++ padRight width (routeHostCell hop) ++
      " " ++ msOrDash hop.rttMs

def renderRoute (hops : List RouteHop) : String :=
  let width := columnWidth 40
    ((hops.filter (fun h => !(h.lost || h.addr.isNone))).map routeHostCell)
  unlines ("Traceroute" :: hops.map (routeRow style width))

/-- What a row of a repeated traceroute ends with. -/
def routeRepeatTail (hop : RouteHopStats) : List String :=
  (rowOf "min " (hop.rtt.min.map (fun ms => toString ms.toNat ++ " ms"))) ++
    (rowOf "p50 " (hop.rtt.p50.map (fun ms => toString ms.toNat ++ " ms"))) ++
    (rowOf "max " (hop.rtt.max.map (fun ms => toString ms.toNat ++ " ms"))) ++
    if hop.pathChanged then [style.warn "path changed"] else []

def routeRepeatRow (runs width : Nat) (hop : RouteHopStats) : String :=
  if hop.answered = 0 then
    let pad := String.ofList (List.replicate (width - 1) ' ')
    "  " ++ padLeft 2 (toString hop.ttl.toNat) ++ "  " ++ style.fail "*" ++ pad ++ " 0/" ++
      style.fail (toString runs ++ " (lost)")
  else
    let line := "  " ++ padLeft 2 (toString hop.ttl.toNat) ++ "  " ++
      padRight width (routeRepeatHostCell hop) ++ " " ++ toString hop.answered.toNat ++ "/" ++
      toString runs ++ " answered"
    let tail := routeRepeatTail style hop
    if tail.isEmpty then line else line ++ "  " ++ "  ".intercalate tail

def renderRouteRepeat (route : RouteRepeat) : String :=
  let width := columnWidth 40
    ((route.hops.filter (fun h => h.answered > 0)).map routeRepeatHostCell)
  unlines (("Traceroute (" ++ toString route.runs ++ " runs)") ::
    route.hops.map (routeRepeatRow style route.runs width))

/-- The derived `Debug` texts. -/
def Severity.debug : Severity → String
  | .info => "Info"
  | .low => "Low"
  | .medium => "Medium"
  | .high => "High"

def Confidence.debug : Confidence → String
  | .unknown => "Unknown"
  | .low => "Low"
  | .medium => "Medium"
  | .high => "High"

def DiagnosticCategory.debug : DiagnosticCategory → String
  | .healthy => "Healthy"
  | .dns => "Dns"
  | .addressFamily => "AddressFamily"
  | .partialConnectivity => "PartialConnectivity"
  | .totalConnectivityLoss => "TotalConnectivityLoss"
  | .intermittent => "Intermittent"
  | .tcp => "Tcp"
  | .tls => "Tls"
  | .certificate => "Certificate"
  | .http => "Http"
  | .quic => "Quic"
  | .possibleNetworkFiltering => "PossibleNetworkFiltering"
  | .unknown => "Unknown"

def renderSeverityBadge (severity : Severity) : String :=
  let text := toUppercase severity.debug
  match severity with
  | .high => style.fail text
  | .medium => style.warn text
  | .info => style.info text
  | .low => text

def diagnosisRows (d : Diagnosis) : List String :=
  ["[" ++ renderSeverityBadge style d.severity ++ "] " ++ d.category.debug ++ " (" ++
      d.confidence.debug ++ " confidence)",
    "    " ++ d.summary] ++
  (if !d.evidence.isEmpty then
    "    Evidence:" :: d.evidence.map (fun e => "      - " ++ e.detail)
  else []) ++
  (if !d.possibleCauses.isEmpty then
    "    Possible causes:" :: d.possibleCauses.map (fun c => "      - " ++ c)
  else []) ++ [""]

/-- The verdict line, where there is a diagnosis other than a healthy one. -/
def anomalyRows (diagnoses : List Diagnosis) : List String :=
  let anomalies := diagnoses.filter (fun d => d.category ≠ .healthy)
  if anomalies.length > 0 then
    let counted := ([.high, .medium, .low, .info] : List Severity).map (fun severity =>
      (severity, (anomalies.filter (fun d => d.severity = severity)).length))
    let parts := (counted.filter (fun e => e.2 > 0)).map (fun e =>
      toUppercase (e.1.debug ++ ": " ++ toString e.2))
    let token := "Anomalies: " ++ toString anomalies.length ++ " (" ++ ", ".intercalate parts ++ ")"
    [if diagnoses.any (fun d => d.severity = .high) then style.fail token else style.warn token]
  else []

def renderDiagnoses (diagnoses : List Diagnosis) : String :=
  unlines ("Diagnosis" :: diagnoses.flatMap (diagnosisRows style) ++ anomalyRows style diagnoses)

end IpTools
