import IpTools.Dns.Repeat
import IpTools.Model.Certificate
import IpTools.Model.Display
import IpTools.Report.Style

/-!
# Reports of observations

The human reports of the DNS, TCP, TLS and HTTP commands.
-/

namespace IpTools

/-- Whether the presented name is another one than the literal address of the destination. -/
def presentedNameDiffers (presented : String) (destination : SocketAddr) : Bool :=
  let trimmed := trimEndMatches ']' (trimStartMatches '[' presented.toList)
  match parseIpAddr trimmed with
  | some ip => ip != destination.ip
  | none => !trimmed.isEmpty

def trimBrackets (s : String) : List Char := trimEndMatches ']' (trimStartMatches '[' s.toList)

def allDnsRecordTypes : List DnsRecordType :=
  [.a, .aaaa, .cname, .mx, .txt, .ns, .soa, .caa, .srv, .ptr]

section Dns

variable (unprintable : Char → Bool) (style : Style)

def renderDnsOne (obs : DnsObservation) : String :=
  match obs.error, obs.latencyMs with
  | some err, _ =>
    style.fail (if err.kind = .dns then err.message
      else toString err.kind ++ " (" ++ err.message ++ ")")
  | none, some ms =>
    if obs.records.isEmpty then "no records (" ++ toString ms.toNat ++ " ms)"
    else
      let addrs := obs.records.map (DnsRecord.display unprintable)
      let ttl := match obs.ttl with
        | some t => ", ttl " ++ toString t.toNat ++ "s"
        | none => ""
      ", ".intercalate addrs ++ ttl ++ " (" ++ toString ms.toNat ++ " ms)"
  | none, none => "no records"

/-- The row of an observation, labelled where it is of another name than the section. -/
def dnsRow (host : String) (obs : DnsObservation) : String :=
  let sameAddress := trimBrackets obs.hostname = trimBrackets host
  let label := if !sameAddress && !obs.hostname.isEmpty then obs.hostname ++ " :: " else ""
  "    " ++ padRight 4 (toString obs.recordType) ++ ": " ++ label ++
    renderDnsOne unprintable style obs

/-- The resolvers in the order in which they are first seen. -/
def seenResolvers (observations : List DnsObservation) : List ResolverKind :=
  observations.foldl (fun seen o => if o.resolver ∈ seen then seen else seen ++ [o.resolver]) []

def dnsRows (host : String) (observations : List DnsObservation) : List String :=
  ("DNS " ++ host) :: (seenResolvers observations).flatMap (fun resolver =>
    ("  " ++ resolver.label) :: allDnsRecordTypes.flatMap (fun rt =>
      (observations.filter (fun o => o.resolver = resolver && o.recordType = rt)).map
        (dnsRow unprintable style host)))

def renderDns (host : String) (observations : List DnsObservation) : String :=
  unlines (dnsRows unprintable style host observations)

end Dns

/-- The width of a column: that of its longest cell, in bytes, and no less than it used to be. -/
def columnWidth (least : Nat) (cells : List String) : Nat :=
  max ((cells.map String.utf8ByteSize).foldl max 0) least

def tcpRow (style : Style) (width : Nat) (obs : TcpObservation) : String :=
  let status :=
    if obs.success then style.pass ("PASS      " ++ msOrDash obs.latencyMs)
    else
      let err := match obs.failure with
        | some e => toString e.kind
        | none => "failed"
      style.fail (padRight 10 err)
  "  " ++ padRight width (toString obs.destination) ++ " " ++ status

def renderTcp (style : Style) (observations : List TcpObservation) : String :=
  let width := columnWidth 24 (observations.map (fun o => toString o.destination))
  unlines ("TCP connect" :: observations.map (tcpRow style width))

section Tls

variable (now : Clock) (style : Style)

/-- The remaining lifetime of a certificate, where it calls for action. -/
def renderLifetime (notAfter : Option String) : String :=
  match notAfter.bind (daysUntilFromRfc3339 now) with
  | none => ""
  | some days =>
    let passed := days < 0 ∨ days = 0 ∧ notAfter.any (rfc3339IsInPast now) = true
    if passed then style.fail " (expired)"
    else if days = 0 then style.warn " (expires today)"
    else if days ≤ renderCertExpiryWindowDays then
      style.warn (" (expires in " ++ toString days ++ " day" ++ (if days = 1 then "" else "s") ++ ")")
    else ""

def renderValidity (cert : CertificateSummary) : String :=
  match cert.notAfterUtc, cert.notBeforeUtc with
  | some a, some b =>
    " (valid " ++ String.ofList (trimEndMatches 'Z' b.toList) ++ ".." ++
      String.ofList (trimEndMatches 'Z' a.toList) ++ ")"
  | _, _ => ""

def renderSans (sans : List String) : String :=
  if sans.isEmpty then "" else "; sans: " ++ ", ".intercalate sans

def renderCert (cert : CertificateSummary) : String :=
  cert.subject ++ " issued by " ++ cert.issuer ++ renderValidity cert ++
    renderLifetime now style cert.notAfterUtc ++ renderSans cert.sans

/-- The certificate and whether it covers the presented name. -/
def certRows (sni : String) (certificate : Option CertificateSummary) : List String :=
  match certificate with
  | none => []
  | some cert =>
    let covers := if certCoversHostname sni cert.sans then style.pass "yes" else style.fail "no"
    ["    cert : " ++ renderCert now style cert, "    covers " ++ sni ++ ": " ++ covers]

/-- A row for a value that is there. -/
def rowOf (label : String) (value : Option String) : List String :=
  match value with
  | some v => [label ++ v]
  | none => []

def tlsRows (obs : TlsObservation) : List String :=
  ("  " ++ toString obs.destination) ::
    ((if presentedNameDiffers obs.sni obs.destination then ["    SNI: " ++ obs.sni] else []) ++
    if !obs.success then
      let err := match obs.failure with
        | some e => toString e.kind ++ " (" ++ e.message ++ ")"
        | none => "failed"
      ["    " ++ style.fail err]
    else
      ["    TLS: " ++ obs.version.getD "unknown"] ++ rowOf "    cipher: " obs.cipher ++
        rowOf "    ALPN: " obs.alpn ++ certRows now style obs.sni obs.certificate ++
        ["    latency: " ++ msOrDash obs.latencyMs])

def renderTls (observations : List TlsObservation) : String :=
  unlines ("TLS handshake" :: observations.flatMap (tlsRows now style))

/-- A status, coloured by its class. -/
def paintStatus (status : UInt16) (text : String) : String :=
  if 200 ≤ status ∧ status ≤ 299 then style.pass text
  else if 300 ≤ status ∧ status ≤ 399 then style.warn text
  else if 400 ≤ status ∧ status ≤ 599 then style.fail text
  else text

def renderStatus (status : UInt16) : String := paintStatus style status (toString status.toNat)

/-- `{:02x}`. -/
def hex2 (n : Nat) : List Char :=
  let digits := Nat.toDigits 16 n
  List.replicate (2 - digits.length) '0' ++ digits

def sanitizeChar (c : Char) : List Char :=
  if c = '\x1b' then ['\\', 'x', '1', 'b']
  else if c = '\n' then ['\\', 'n']
  else if c = '\t' then ['\\', 't']
  else if c = '\r' then ['\\', 'r']
  else if c.toNat < 0x20 ∨ c.toNat = 0x7f then '\\' :: 'x' :: hex2 c.toNat
  else [c]

/-- A body snippet with its control characters as visible escapes. -/
def sanitizeSnippet (s : String) : String := String.ofList (s.toList.flatMap sanitizeChar)

/-- The response headers that the report and the CSV output show. -/
def curatedHeaders : List String :=
  ["server", "via", "x-powered-by", "x-served-by", "x-cache", "x-cache-hits", "cf-ray",
    "cf-cache-status", "age", "cache-control", "expires", "etag", "last-modified", "content-type",
    "alt-svc", "set-cookie"]

/-- `str::to_ascii_lowercase`. -/
def toAsciiLowercase (s : String) : String := String.ofList (s.toList.map Char.toLower)

def isCurated (name : String) : Bool := toAsciiLowercase name ∈ curatedHeaders

def failureText (protocol : Option String) (failure : ProbeError) : String :=
  protocol.getD "HTTP/1.1" ++ " " ++ toString failure.kind ++ " (" ++ failure.message ++ ")"

def httpTlsRows (tls : Option TlsObservation) : List String :=
  match tls with
  | none => []
  | some tls =>
    rowOf "    TLS: " tls.version ++ rowOf "    ALPN: " tls.alpn ++
      certRows now style tls.sni tls.certificate

def bodyRows (obs : HttpObservation) : List String :=
  match obs.bodyBytes with
  | some bytes =>
    if obs.bodyCapped then
      ["    " ++ style.warn "body (capped)" ++ ": " ++ toString bytes.toNat ++ " bytes"]
    else ["    body: " ++ toString bytes.toNat ++ " bytes"]
  | none =>
    if obs.status.isSome then ["    " ++ style.warn "body: incomplete (timed out)"] else []

def httpRows (obs : HttpObservation) : List String :=
  ("  " ++ toString obs.destination) ::
    ((if presentedNameDiffers obs.host obs.destination then ["    host: " ++ obs.host] else []) ++
    (if obs.path ≠ "/" then ["    path: " ++ obs.path] else []) ++
    match obs.failure with
    | some failure => ["    " ++ style.fail (failureText obs.protocol failure)]
    | none =>
      let status := match obs.status with
        | some s => renderStatus style s
        | none => "no status"
      ["    " ++ obs.protocol.getD "HTTP/1.1" ++ " " ++ status] ++
        rowOf "    redirect: " obs.location ++ httpTlsRows now style obs.tls ++
        (obs.headers.filter (fun h => isCurated h.1)).map
          (fun h => "    " ++ h.1 ++ ": " ++ h.2) ++
        bodyRows style obs ++
        rowOf "    body content: " (obs.bodySnippet.map sanitizeSnippet) ++
        ["    latency: " ++ msOrDash obs.latencyMs] ++
        rowOf "    ttfb:    " (obs.ttfbMs.map (fun ttfb => toString ttfb.toNat ++ " ms")))

/-- `plain` selects the header only. -/
def renderHttpImpl (plain : Bool) (observations : List HttpObservation) : String :=
  unlines ((if plain then "HTTP" else "HTTPS") :: observations.flatMap (httpRows now style))

def renderHttp (observations : List HttpObservation) : String :=
  renderHttpImpl now style false observations

def renderHttpPlain (observations : List HttpObservation) : String :=
  renderHttpImpl now style true observations

end Tls

end IpTools
