import IpTools.Probes.Http2

/-!
# HTTP/3 probes

One request over QUIC. The authority is named twice, by the URI and by a `host` header.
-/

namespace IpTools

def HttpProbe.http3Request (probe : HttpProbe) : HttpRequest :=
  { method := probe.method
    uri := probe.httpsUri
    headers :=
      [("host", String.ofList
          (wireAuthority probe.effectiveHost.toList probe.destination.port true)),
        ("user-agent", "ip-tools"), ("accept", "*/*")] ++
      passedHeaders probe.headers probe.body ++ lengthHeader probe.body
    body := probe.body }

/-- What a QUIC handshake negotiates. -/
structure QuicSession where
  alpn : Option String
  certificate : Option CertificateSummary
  latencyMs : UInt64
deriving DecidableEq, Repr

/-- What the QUIC and HTTP/3 libraries and the peer answer. -/
structure Http3Transport where
  clientEndpoint : Except String Unit
  quicClientConfig : Except String Unit
  connect : Except String Unit
  handshake : Timed String QuicSession
  setup : Timed String Unit
  /-- The error of a request that the HTTP library does not build. -/
  rejects : HttpRequest → Option String
  sendRequest : Timed String Unit
  sendData : Timed String Unit
  finish : Timed String Unit
  response : Timed String ResponseHead
  ttfb : Duration
  chunks : List (List UInt8)
  ending : BodyEnd
  elapsed : Duration

def HttpProbe.http3Base (probe : HttpProbe) : HttpObservation :=
  { HttpObservation.base probe.destination probe.host probe.method probe.path with
    protocol := some "HTTP/3" }

/-- A step towards the destination within the timeout. -/
def http3Step {α : Type} (probe : HttpProbe) (step way : String) (outcome : Timed String α) :
    Except ProbeError α :=
  match outcome with
  | .ok value => .ok value
  | .err e => .error ⟨.http, s!"http/3 {step} failed: {e}"⟩
  | .elapsed => .error ⟨.timeout,
      s!"http/3 {step} {way} {probe.destination} timed out after {probe.timeout.debug}"⟩

/-- The ephemeral port that suits the destination. -/
def quicBindAddress (destination : SocketAddr) : String :=
  match destination with
  | .v4 _ => "0.0.0.0:0"
  | .v6 _ => "[::]:0"

def quicHandshake (probe : HttpProbe) (transport : Http3Transport) :
    Except ProbeError QuicSession := do
  transport.clientEndpoint.mapError (fun e =>
    ⟨.other, s!"could not bind QUIC endpoint {quicBindAddress probe.destination}: {e}"⟩)
  transport.quicClientConfig.mapError (fun e => ⟨.other, s!"invalid QUIC config: {e}"⟩)
  transport.connect.mapError (fun e => ⟨.quic, s!"quic connect failed: {e}"⟩)
  match transport.handshake with
  | .ok session => .ok session
  | .err e => .error ⟨.quic, s!"quic handshake failed: {e}"⟩
  | .elapsed => .error ⟨.timeout,
      s!"quic handshake to {probe.destination} timed out after {probe.timeout.debug} " ++
        "(the endpoint may not support HTTP/3, or UDP/443 may be filtered)"⟩

/-- The request is built, sent with its body and finished before the response is awaited. -/
def exchangeHttp3 (probe : HttpProbe) (transport : Http3Transport) :
    Except ProbeError ResponseHead := do
  http3Step probe "setup" "to" transport.setup
  match transport.rejects probe.http3Request with
  | some e => .error ⟨.protocol, s!"could not build request: {e}"⟩
  | none =>
    http3Step probe "request" "to" transport.sendRequest
    if probe.body.isSome then http3Step probe "body send" "to" transport.sendData
    http3Step probe "request finish" "to" transport.finish
    http3Step probe "response" "from" transport.response

def quicTlsSummary (probe : HttpProbe) (session : QuicSession) : TlsObservation :=
  { destination := probe.destination, sni := String.ofList (wireHost probe.host.toList),
    success := true, version := some "TLSv1.3", cipher := none, alpn := session.alpn,
    certificate := session.certificate, latencyMs := some session.latencyMs, failure := none }

def http3Probe (probe : HttpProbe) (transport : Http3Transport) : HttpObservation :=
  let base := probe.http3Base
  let outcome : Except ProbeError (QuicSession × ResponseHead × BodyRead) := do
    let session ← quicHandshake probe transport
    let head ← exchangeHttp3 probe transport
    let read ← readBody "http/3 body" probe.maxBodyBytes transport.ending
      (transport.chunks.map Frame.data) (.start probe.output)
    pure (session, head, read)
  match outcome with
  | .error failure => base.withFailure failure
  | .ok (session, head, read) =>
    { base with
      tls := some (quicTlsSummary probe session)
      status := some head.status
      location := locationHeader head.headers
      headers := collectResponseHeaders head.headers
      bodyBytes := if read.ended then some (UInt64.ofNat read.bytesRead) else none
      bodyCapped := read.capped
      bodySnippet := bodySnippetString read.snippet (read.snippet.length < read.bytesRead)
      latencyMs := some transport.elapsed.millis
      ttfbMs := some transport.ttfb.millis }

end IpTools
