import IpTools.Model.Observation
import IpTools.Wire.Authority

/-!
# TCP and TLS probes

A probe is one connect, or one connect and one handshake, to one destination within a timeout.
What the operating system and the TLS library answer is a parameter.
-/

namespace IpTools

variable [DebugTables]

/-- A length of time in nanoseconds. -/
structure Duration where
  nanos : Nat
deriving DecidableEq, Repr

/-- The digits after the point, without the zeros at the end. -/
def fractionDigits : Nat → Nat → List Char
  | 0, _ => []
  | n + 1, fraction =>
    if fraction = 0 then []
    else Nat.digitChar (fraction / 10 ^ n) :: fractionDigits n (fraction % 10 ^ n)

def fmtDecimal (integer fraction digits : Nat) (unit : String) : String :=
  let point := match fractionDigits digits fraction with
    | [] => ""
    | ds => "." ++ String.ofList ds
  s!"{integer}{point}{unit}"

def Duration.debug (d : Duration) : String :=
  let secs := d.nanos / 1000000000
  let nanos := d.nanos % 1000000000
  if 0 < secs then fmtDecimal secs nanos 9 "s"
  else if 1000000 ≤ nanos then fmtDecimal (nanos / 1000000) (nanos % 1000000) 6 "ms"
  else if 1000 ≤ nanos then fmtDecimal (nanos / 1000) (nanos % 1000) 3 "µs"
  else fmtDecimal nanos 0 0 "ns"

example : Duration.debug ⟨2500000000⟩ = "2.5s" := by decide +kernel

/-- `elapsed().as_millis() as u64`. -/
def Duration.millis (d : Duration) : UInt64 := UInt64.ofNat (d.nanos / 1000000)

/-- What a fallible step comes to within its timeout. -/
inductive Timed (ε α : Type) where
  | ok (value : α)
  | err (e : ε)
  | elapsed

inductive IoErrorKind where
  | connectionRefused
  | connectionReset
  | timedOut
  | other
deriving DecidableEq, Repr

/-- An I/O error: its kind, its operating system code and its text. -/
structure IoError where
  kind : IoErrorKind
  rawOsError : Option Int
  text : String
deriving DecidableEq, Repr

def classifyIoError (e : IoError) : FailureKind :=
  match e.kind with
  | .connectionRefused => .connectionRefused
  | .connectionReset => .connectionReset
  | .timedOut => .timeout
  | .other =>
    match e.rawOsError with
    | some code =>
      if code ∈ [101, 64, 99, 49, 97, 47] then .networkUnreachable
      else if code ∈ [113, 65, 112, 13, 1] then .hostUnreachable
      else if code = 110 then .timeout
      else if code = 104 then .connectionReset
      else if code = 111 then .connectionRefused
      else .other
    | none => .other

/-- A connect attempt: its outcome and the time until it succeeded. -/
structure Connect where
  outcome : Timed IoError Unit
  elapsed : Duration

def tcpProbe (destination : SocketAddr) (timeout : Duration) (connect : Connect) :
    TcpObservation :=
  match connect.outcome with
  | .ok () => ⟨destination, true, some connect.elapsed.millis, none⟩
  | .err e => ⟨destination, false, none, some ⟨classifyIoError e, e.text⟩⟩
  | .elapsed =>
    let message := s!"connect to {destination} timed out after {timeout.debug}"
    ⟨destination, false, none, some ⟨.timeout, message⟩⟩

structure TlsError where
  invalidCertificate : Bool
  text : String
deriving DecidableEq, Repr

structure TlsSession where
  version : Option String
  cipher : Option String
  alpn : Option String
  certificate : Option CertificateSummary
deriving DecidableEq, Repr

structure TlsConnection where
  session : TlsSession
  latencyMs : UInt64
deriving DecidableEq, Repr

/-- What the network and the TLS library do with one connection. -/
structure TlsTransport where
  connect : Timed IoError Unit
  /-- Whether a text that is no address is a name of `ServerName`. -/
  isDnsName : List Char → Bool
  handshake : Timed TlsError TlsSession
  elapsed : Duration

def classifyTlsError (e : TlsError) : FailureKind :=
  if e.invalidCertificate then .certificate else .tlsHandshake

/-- Whether a rustls server name can be built from a host. -/
def hasServerName (isDnsName : List Char → Bool) (host : String) : Bool :=
  let trimmed := wireHost host.toList
  (parseIpAddr trimmed).isSome || isDnsName trimmed

/-- A hint for the handshake with a server that answers in cleartext. -/
def plaintextHint (err sni : String) : Option String :=
  if containsText "received corrupt message".toList err.toList ||
      containsText "invalid content type".toList err.toList then
    some (s!"the server {strDebug sni} answered in cleartext (HTTP?) instead of TLS — " ++
      "this is usually a plaintext port; for an HTTP probe use --plain " ++
      s!"({strDebug sni} probes with the TLS path)")
  else none

def connectTo (destination : SocketAddr) (sni : String) (timeout : Duration)
    (transport : TlsTransport) : Except ProbeError TlsConnection :=
  match transport.connect with
  | .err e => .error ⟨classifyIoError e, s!"tcp connect to {destination} failed: {e.text}"⟩
  | .elapsed =>
    .error ⟨.timeout, s!"tcp connect to {destination} timed out after {timeout.debug}"⟩
  | .ok () =>
    if !hasServerName transport.isDnsName sni then
      .error ⟨.protocol, s!"cannot use {strDebug sni} as a server name"⟩
    else
      match transport.handshake with
      | .ok session => .ok ⟨session, transport.elapsed.millis⟩
      | .err e =>
        let message := s!"tls handshake to {destination} with SNI {sni} failed: {e.text}"
        .error ⟨classifyTlsError e, match plaintextHint e.text sni with
          | some hint => s!"{message} — {hint}"
          | none => message⟩
      | .elapsed =>
        let time := timeout.debug
        .error ⟨.tlsHandshake,
          s!"tls handshake to {destination} with SNI {sni} timed out after {time}"⟩

/-- A handshake observed: `total` is the time of the whole probe. -/
def tlsProbe (destination : SocketAddr) (sni : String) (timeout : Duration)
    (transport : TlsTransport) (total : Duration) : TlsObservation :=
  let sniText := String.ofList (wireHost sni.toList)
  match connectTo destination sni timeout transport with
  | .ok conn =>
    { destination, sni := sniText, success := true, version := conn.session.version,
      cipher := conn.session.cipher, alpn := conn.session.alpn,
      certificate := conn.session.certificate, latencyMs := some total.millis, failure := none }
  | .error failure =>
    { destination, sni := sniText, success := false, version := none, cipher := none,
      alpn := none, certificate := none, latencyMs := none, failure := some failure }

end IpTools
