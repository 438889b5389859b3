import IpTools.Report.Observations

/-!
# CSV output

The comma-separated output of the HTTP, DNS and probe commands over a list of targets.
-/

namespace IpTools

/-- Quote a value when it has a comma, a quote, a CR or an LF, with embedded quotes doubled. -/
def csvField (value : String) : String :=
  if value.toList.any (fun c => c = ',' || c = '"' || c = '\r' || c = '\n') then
    "\"" ++ String.ofList (value.toList.flatMap (fun c => if c = '"' then ['"', '"'] else [c])) ++
      "\""
  else value

/-- An optional value as an empty field or its value. -/
def opt (v : Option UInt64) : String :=
  match v with
  | some x => toString x.toNat
  | none => ""

def opt64 (v : Option UInt64) : String := opt v

def ttlText (ttl : Option UInt32) : String :=
  match ttl with
  | some t => toString t.toNat
  | none => ""

/-- The text of the `f64` with these bits to a number of decimals: the exact value rounded, a tie
to the even digit. -/
def formatFixedBits (places : Nat) (bits : UInt64) : String :=
  let exponent := bits.toNat / 2 ^ 52 % 2 ^ 11
  let fraction := bits.toNat % 2 ^ 52
  let sign := if bits.toNat / 2 ^ 63 = 1 then "-" else ""
  if exponent = 2047 then if fraction = 0 then sign ++ "inf" else "NaN"
  else
    let mantissa := if exponent = 0 then fraction else fraction + 2 ^ 52
    let scale := if exponent = 0 then 1 else exponent
    -- the value is mantissa * 2 ^ (scale - 1075)
    let numerator := 10 ^ places * mantissa * 2 ^ (scale - 1075)
    let denominator := 2 ^ (1075 - scale)
    let floor := numerator / denominator
    let remainder := numerator % denominator
    let units :=
      if 2 * remainder < denominator ∨ 2 * remainder = denominator ∧ floor % 2 = 0 then floor
      else floor + 1
    sign ++ toString (units / 10 ^ places) ++ "." ++
      String.ofList (zeroPad places ((units % 10 ^ places : Nat) : Int))

-- 0.666..., as two successes of three attempts are written
example : formatFixedBits 4 0x3FE5555555555555 = "0.6667" := by decide +kernel

/-- `{:.4}`. -/
def formatRate4 (rate : Float) : String := formatFixedBits 4 rate.toBits

/-- The diagnostic-relevant headers as `Name: value` pairs. -/
def curatedHeadersCsv (headers : List (String × String)) : String :=
  "; ".intercalate ((headers.filter (fun h => isCurated h.1)).map (fun h => h.1 ++ ": " ++ h.2))

/-- Whether the names of the certificate cover the presented name, where there is one. -/
def coversCsv (tls : Option TlsObservation) : String :=
  match tls.bind TlsObservation.certificate, tls.map TlsObservation.sni with
  | some c, some sni => if certCoversHostname sni c.sans then "yes" else "no"
  | _, _ => ""

def httpCsvRow (host : String) (o : HttpObservation) : String :=
  let tls := o.tls
  let cert := tls.bind TlsObservation.certificate
  csvField host ++ "," ++ csvField (toString o.destination) ++ "," ++
    csvField (o.protocol.getD "") ++ "," ++ csvField (opt (o.status.map UInt16.toUInt64)) ++ "," ++
    csvField (o.location.getD "") ++ "," ++ csvField (opt o.bodyBytes) ++ "," ++
    csvField (opt o.ttfbMs) ++ "," ++ csvField (opt o.latencyMs) ++ "," ++
    csvField ((tls.map TlsObservation.sni).getD "") ++ "," ++
    csvField ((tls.bind TlsObservation.version).getD "") ++ "," ++
    csvField ((tls.bind TlsObservation.cipher).getD "") ++ "," ++
    csvField ((tls.bind TlsObservation.alpn).getD "") ++ "," ++
    csvField ((cert.map CertificateSummary.subject).getD "") ++ "," ++
    csvField ((cert.map CertificateSummary.issuer).getD "") ++ "," ++
    csvField ((cert.bind CertificateSummary.notAfterUtc).getD "") ++ "," ++
    csvField ((cert.map (fun c => ";".intercalate c.sans)).getD "") ++ "," ++
    coversCsv tls ++ "," ++ csvField (curatedHeadersCsv o.headers) ++ "," ++
    csvField (o.bodySnippet.getD "") ++ "," ++
    csvField ((o.failure.map (fun e => toString e.kind)).getD "") ++ "\n"

def httpCsvHeader : String :=
  "host,destination,protocol,status,location,body_bytes,ttfb_ms,latency_ms,sni,version,cipher,alpn," ++
    "subject,issuer,not_after_utc,sans,covers,headers,body_snippet,failure\n"

/-- A header, then one row for each observation of each target. -/
def renderHttpCsv (perTarget : List (String × List HttpObservation)) : String :=
  httpCsvHeader ++ String.join (perTarget.map (fun t => String.join (t.2.map (httpCsvRow t.1))))

/-- The result of one target: whether it uses the repeat view, and the observations or the
aggregated results that go with it. -/
structure TargetDns where
  host : String
  repeated : Bool
  observations : List DnsObservation
  results : List DnsRepeatResult

/-- A row of aggregated results, which keep no records. -/
def dnsRepeatCsvRow (host : String) (r : DnsRepeatResult) : String :=
  csvField host ++ "," ++ csvField r.resolver.label ++ "," ++ csvField (toString r.recordType) ++
    "," ++ toString r.attempts ++ "," ++ formatRate4 r.successRate ++ "," ++
    opt64 r.latency.p50 ++ "," ++ opt64 r.latency.p95 ++ "," ++ opt64 r.latency.max ++ "," ++
    toString r.failures ++ "," ++ ttlText r.ttl ++ "," ++ "\n"

def dnsCsvRow (unprintable : Char → Bool) (host : String) (obs : DnsObservation) : String :=
  csvField host ++ "," ++ csvField obs.resolver.label ++ "," ++
    csvField (toString obs.recordType) ++ "," ++ "1" ++ "," ++
    (if obs.error.isNone then "1.0000" else "0.0000") ++ "," ++ opt64 obs.latencyMs ++ "," ++
    opt64 obs.latencyMs ++ "," ++ opt64 obs.latencyMs ++ "," ++
    (if obs.error.isSome then "1" else "0") ++ "," ++ ttlText obs.ttl ++ "," ++
    csvField (", ".intercalate (obs.records.map (DnsRecord.display unprintable))) ++ "\n"

def dnsCsvHeader : String :=
  "host,resolver,record_type,attempts,success_rate,latency_p50_ms,latency_p95_ms,latency_max_ms," ++
    "failures,ttl,records\n"

def renderDnsCsv (unprintable : Char → Bool) (outputs : List TargetDns) : String :=
  dnsCsvHeader ++ String.join (outputs.map (fun o =>
      if o.repeated then String.join (o.results.map (dnsRepeatCsvRow o.host))
      else String.join (o.observations.map (dnsCsvRow unprintable o.host))))

/-- The statuses with how often each was observed. -/
def statusesText (counts : List StatusCount) : String :=
  ";".intercalate (counts.map (fun s => toString s.status.toNat ++ "x" ++ toString s.count))

def probeCsvRow (host : String) (r : ProbeResult) : String :=
  csvField host ++ "," ++ csvField (toString r.destination) ++ "," ++ toString r.attempts ++ "," ++
    formatRate4 r.successRate ++ "," ++ opt64 r.latency.p50 ++ "," ++ opt64 r.latency.p95 ++ "," ++
    opt64 r.latency.max ++ "," ++ opt64 r.latency.jitter ++ "," ++ opt64 r.ttfb.p50 ++ "," ++
    opt64 r.ttfb.p95 ++ "," ++ opt64 r.ttfb.max ++ "," ++ toString r.failures ++ "," ++
    (if r.statusCounts.isEmpty then "" else csvField (statusesText r.statusCounts)) ++ "\n"

def probeCsvHeader : String :=
  "host,destination,attempts,success_rate,latency_p50_ms,latency_p95_ms,latency_max_ms,jitter_ms," ++
    "ttfb_p50_ms,ttfb_p95_ms,ttfb_max_ms,failures,statuses\n"

def renderProbeCsv (perTarget : List (String × List ProbeResult)) : String :=
  probeCsvHeader ++ String.join (perTarget.map (fun t => String.join (t.2.map (probeCsvRow t.1))))

end IpTools
