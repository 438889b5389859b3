import IpTools.Model.Address

/-!
# Observations

The normalized vocabulary between the probes and the diagnostic engine: one record type for
each protocol layer, and the aggregated result of a repeated probe.
-/

namespace IpTools

/-- Classification of a network failure into a distinct, observable mode. -/
inductive FailureKind where
  | timeout
  | connectionRefused
  | connectionReset
  | networkUnreachable
  | hostUnreachable
  | dns
  | tlsHandshake
  | certificate
  | protocol
  | http
  | quic
  | other
  | unknown
deriving DecidableEq, Repr

instance : ToString FailureKind where
  toString
    | .timeout => "timeout"
    | .connectionRefused => "connection refused"
    | .connectionReset => "connection reset"
    | .networkUnreachable => "network unreachable"
    | .hostUnreachable => "host unreachable"
    | .dns => "dns"
    | .tlsHandshake => "tls handshake"
    | .certificate => "certificate"
    | .protocol => "protocol"
    | .http => "http"
    | .quic => "quic"
    | .other => "other"
    | .unknown => "unknown"

structure ProbeError where
  kind : FailureKind
  message : String
deriving DecidableEq, Repr

inductive ResolverKind where
  | system
  | custom (addr : SocketAddr)
  | doh (endpoint : String)
  | dot (endpoint : String)
deriving DecidableEq, Repr

/-- `char::escape_debug` as `str` applies it, below U+00A0. -/
def escapeDebug (c : Char) : List Char :=
  if c = '\t' then ['\\', 't']
  else if c = '\r' then ['\\', 'r']
  else if c = '\n' then ['\\', 'n']
  else if c = '\x00' then ['\\', '0']
  else if c = '"' ∨ c = '\\' then ['\\', c]
  else if c.toNat < 0x20 ∨ 0x7f ≤ c.toNat ∧ c.toNat < 0xa0 then
    ['\\', 'u', '\x7b'] ++ Nat.toDigits 16 c.toNat ++ ['\x7d']
  else [c]

/-- The `Debug` text of a string, given the characters from U+00A0 on that it escapes. -/
def textDebug (unprintable : Char → Bool) (s : String) : String :=
  String.ofList ('"' :: s.toList.flatMap (fun c =>
    if 0xa0 ≤ c.toNat && unprintable c then
      ['\\', 'u', '\x7b'] ++ Nat.toDigits 16 c.toNat ++ ['\x7d']
    else escapeDebug c) ++ ['"'])

/-- The characters from U+00A0 on that the `Debug` text of a string escapes, of which the standard
library has tables: what extends a grapheme and what is not printable. -/
class DebugTables where
  unprintable : Char → Bool

/-- Tables under which no character from U+00A0 on is escaped. -/
@[reducible] def DebugTables.none : DebugTables := ⟨fun _ => false⟩

/-- `{:?}` of a string. -/
def strDebug [DebugTables] (s : String) : String := textDebug DebugTables.unprintable s

/-- The derived `Debug` text, which the resolution rule groups answers by. A group is of those with
the same key, so that it does not matter which characters of a key are escaped. -/
def ResolverKind.debug : ResolverKind → String
  | .system => "System"
  | .custom addr => s!"Custom({addr})"
  | .doh endpoint =>
    let key := textDebug (fun _ => false) endpoint
    s!"Doh({key})"
  | .dot endpoint =>
    let key := textDebug (fun _ => false) endpoint
    s!"Dot({key})"

inductive DnsRecordType where
  | a
  | aaaa
  | cname
  | mx
  | txt
  | ns
  | soa
  | caa
  | srv
  | ptr
deriving DecidableEq, Repr

inductive DnsRecord where
  | a (ip : Ipv4Addr)
  | aaaa (ip : Ipv6Addr)
  | cname (name : String)
  | mx (preference : UInt16) (exchange : String)
  | txt (text : String)
  | ns (name : String)
  | soa (fields : String)
  | caa (flags : UInt8) (tag value : String)
  | srv (priority weight port : UInt16) (target : String)
  | ptr (name : String)
deriving DecidableEq, Repr

/-- The resolved address for A/AAAA records. -/
def DnsRecord.address : DnsRecord → Option IpAddr
  | .a ip => some (.v4 ip)
  | .aaaa ip => some (.v6 ip)
  | _ => none

/-- A single DNS query result for one record type via one resolver. -/
structure DnsObservation where
  hostname : String
  resolver : ResolverKind
  recordType : DnsRecordType
  records : List DnsRecord
  ttl : Option UInt32
  latencyMs : Option UInt64
  error : Option ProbeError
deriving DecidableEq, Repr

/-- A single TCP connect attempt to one destination socket address. -/
structure TcpObservation where
  destination : SocketAddr
  success : Bool
  latencyMs : Option UInt64
  failure : Option ProbeError
deriving DecidableEq, Repr

/-- Summary of the peer-end entity certificate presented during the handshake. -/
structure CertificateSummary where
  subject : String
  issuer : String
  notBeforeUtc : Option String
  notAfterUtc : Option String
  sans : List String
deriving DecidableEq, Repr

/-- A single TLS handshake to one destination socket address. -/
structure TlsObservation where
  destination : SocketAddr
  sni : String
  success : Bool
  version : Option String
  cipher : Option String
  alpn : Option String
  certificate : Option CertificateSummary
  latencyMs : Option UInt64
  failure : Option ProbeError
deriving DecidableEq, Repr

/-- A single HTTPS/HTTP request to one destination socket address. -/
structure HttpObservation where
  destination : SocketAddr
  host : String
  method : String
  path : String
  tls : Option TlsObservation
  protocol : Option String
  status : Option UInt16
  location : Option String
  headers : List (String × String)
  bodyBytes : Option UInt64
  bodyCapped : Bool
  bodySnippet : Option String
  latencyMs : Option UInt64
  ttfbMs : Option UInt64
  failure : Option ProbeError
deriving DecidableEq, Repr

/-- The blank start of an observation before any probe step runs. -/
def HttpObservation.base (destination : SocketAddr) (host method path : String) :
    HttpObservation where
  destination := destination
  host := host
  method := method
  path := path
  tls := none
  protocol := none
  status := none
  location := none
  headers := []
  bodyBytes := none
  bodyCapped := false
  bodySnippet := none
  latencyMs := none
  ttfbMs := none
  failure := none

/-- Attach a classified failure mode and context to this observation. -/
def HttpObservation.withFailure (h : HttpObservation) (failure : ProbeError) : HttpObservation :=
  { h with failure := some failure }

/-- A snapshot of a latency distribution over the successful samples, in milliseconds. -/
structure LatencySummary where
  count : Nat
  min : Option UInt64
  p50 : Option UInt64
  p90 : Option UInt64
  p95 : Option UInt64
  p99 : Option UInt64
  max : Option UInt64
  mean : Option UInt64
  jitter : Option UInt64
  samples : List UInt64
deriving DecidableEq, Repr

structure FailureCount where
  kind : FailureKind
  count : Nat
deriving DecidableEq, Repr

structure StatusCount where
  status : UInt16
  count : Nat
deriving DecidableEq, Repr

/-- Aggregated result of repeatedly probing one destination socket address. -/
structure ProbeResult where
  destination : SocketAddr
  attempts : Nat
  successes : Nat
  failures : Nat
  successRate : Float
  latency : LatencySummary
  ttfb : LatencySummary
  failureCounts : List FailureCount
  statusCounts : List StatusCount
deriving Repr

/-- The `{:.1}` text of the `f64` with these bits: the exact value rounded to tenths, a tie to
the even digit. -/
def formatTenthsBits (bits : UInt64) : String :=
  let exponent := bits.toNat / 2 ^ 52 % 2 ^ 11
  let fraction := bits.toNat % 2 ^ 52
  let sign := if bits.toNat / 2 ^ 63 = 1 then "-" else ""
  if exponent = 2047 then if fraction = 0 then sign ++ "inf" else "NaN"
  else
    let mantissa := if exponent = 0 then fraction else fraction + 2 ^ 52
    let scale := if exponent = 0 then 1 else exponent
    -- the value is mantissa * 2 ^ (scale - 1075)
    let numerator := 10 * mantissa * 2 ^ (scale - 1075)
    let denominator := 2 ^ (1075 - scale)
    let floor := numerator / denominator
    let remainder := numerator % denominator
    let tenths :=
      if 2 * remainder < denominator ∨ 2 * remainder = denominator ∧ floor % 2 = 0 then floor
      else floor + 1
    s!"{sign}{tenths / 10}.{tenths % 10}"

def formatTenths (x : Float) : String := formatTenthsBits x.toBits

-- 66.666..., as two successes of three attempts print
example : formatTenthsBits 0x4050AAAAAAAAAAAB = "66.7" := by decide +kernel

end IpTools
