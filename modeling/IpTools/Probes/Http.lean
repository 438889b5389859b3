import IpTools.Library.Utf8
import IpTools.Probes.Connect

/-!
# HTTP/1.1 probes

One request over TLS or in cleartext, and a bounded read of the response body. The HTTP library
and the peer are a parameter: what the handshake, the request and the body read come to.
-/

namespace IpTools

variable [DebugTables]

def maxBodyBytes : UInt64 := 1024 * 1024

def bodySnippetBytes : Nat := 1024

def maxResponseHeaders : Nat := 24

def eqIgnoreAsciiCase (a b : String) : Bool :=
  a.toList.map Char.toLower = b.toList.map Char.toLower

structure HttpRequest where
  method : String
  uri : String
  headers : List (String × String)
  body : Option (List UInt8)
deriving DecidableEq, Repr

/-- The head of a response. A header value is `none` where it is no text. -/
structure ResponseHead where
  status : UInt16
  version : String
  headers : List (String × Option String)
deriving DecidableEq, Repr

inductive Frame where
  | data (bytes : List UInt8)
  | trailers
deriving DecidableEq, Repr

/-- What comes after the last frame within the deadline of the body read. -/
inductive BodyEnd where
  | complete
  | failed (text : String)
  | stalled
deriving DecidableEq, Repr

structure HttpTransport where
  handshake : Timed String Unit
  /-- The error of a request that the HTTP library does not build. -/
  rejects : HttpRequest → Option String
  response : Timed String ResponseHead
  ttfb : Duration
  frames : List Frame
  ending : BodyEnd
  elapsed : Duration

def httpError (step e : String) : ProbeError := ⟨.http, s!"{step} failed: {e}"⟩

/-- The value of the first `host` header, where there is one. -/
def customHost (headers : List (String × String)) : Option String :=
  (headers.find? (fun h => eqIgnoreAsciiCase h.1 "host")).map Prod.snd

/-- The headers of the request: `host` and `content-length` are not stacked on the probe's own. -/
def http1Headers (destination : SocketAddr) (host : String) (tls : Bool)
    (headers : List (String × String)) (body : Option (List UInt8)) : List (String × String) :=
  let hostOverride := customHost headers
  let authority :=
    String.ofList (wireAuthority (hostOverride.getD host).toList destination.port tls)
  [("host", authority), ("user-agent", "ip-tools"), ("accept", "*/*")] ++
    headers.filter (fun h =>
      (hostOverride.isNone || !eqIgnoreAsciiCase h.1 "host") &&
        !(body.isSome && eqIgnoreAsciiCase h.1 "content-length")) ++
    (body.map (fun bytes => ("content-length", toString bytes.length))).toList

/-- The text headers but the location, in their order. -/
def collectResponseHeaders (headers : List (String × Option String)) : List (String × String) :=
  (headers.filterMap (fun h =>
    match h.2 with
    | none => none
    | some value => if eqIgnoreAsciiCase h.1 "location" then none else some (h.1, value))).take
      maxResponseHeaders

/-- The first `location` header, where it is text. -/
def locationHeader (headers : List (String × Option String)) : Option String :=
  (headers.find? (fun h => eqIgnoreAsciiCase h.1 "location")).bind Prod.snd

/-- A body read so far. The retained body is only kept for an output file. -/
structure BodyRead where
  snippet : List UInt8
  fullBody : Option (List UInt8)
  bytesRead : Nat
  ended : Bool
  capped : Bool
deriving DecidableEq, Repr

def BodyRead.start (output : Bool) : BodyRead :=
  ⟨[], if output then some [] else none, 0, false, false⟩

def pushBodySnippet (snippet data : List UInt8) : List UInt8 :=
  if bodySnippetBytes ≤ snippet.length then snippet
  else snippet ++ data.take (bodySnippetBytes - snippet.length)

/-- Accumulate one chunk, cut to the remaining budget. -/
def pushBoundedBody (max : UInt64) (data : List UInt8) (r : BodyRead) : BodyRead :=
  let bounded := data.take (max.toNat - r.bytesRead)
  { r with
    snippet := pushBodySnippet r.snippet bounded
    fullBody := r.fullBody.map (fun full => full ++ bounded)
    bytesRead := r.bytesRead + bounded.length }

/-- Read frames until the body ends, fails, stalls or reaches the cap. -/
def readBody (step : String) (max : UInt64) (ending : BodyEnd) :
    List Frame → BodyRead → Except ProbeError BodyRead
  | [], r =>
    match ending with
    | .complete => .ok { r with ended := true }
    | .failed e => .error (httpError step e)
    | .stalled => .ok r
  | .trailers :: frames, r => readBody step max ending frames r
  | .data bytes :: frames, r =>
    let r := pushBoundedBody max bytes r
    if max.toNat ≤ r.bytesRead then .ok { r with ended := true, capped := true }
    else readBody step max ending frames r

/-- The snippet as text, with an ellipsis where the body goes on. -/
def bodySnippetString (snippet : List UInt8) (truncated : Bool) : Option String :=
  if snippet.isEmpty then none
  else some (String.ofList (Utf8.decodeLossy snippet ++ if truncated then ['…'] else []))

structure HttpProbe where
  destination : SocketAddr
  host : String
  method : String
  path : String
  headers : List (String × String)
  body : Option (List UInt8)
  timeout : Duration
  maxBodyBytes : UInt64
  output : Bool

def HttpProbe.base (probe : HttpProbe) : HttpObservation :=
  { HttpObservation.base probe.destination probe.host probe.method probe.path with
    protocol := some "HTTP/1.1" }

/-- Drive one request and body read over a connection. -/
def driveHttp1 (probe : HttpProbe) (tls : Option TlsObservation) (transport : HttpTransport) :
    HttpObservation :=
  let base := probe.base
  let request : HttpRequest :=
    ⟨probe.method, probe.path,
      http1Headers probe.destination probe.host tls.isSome probe.headers probe.body, probe.body⟩
  match transport.handshake with
  | .err e => base.withFailure (httpError "HTTP/1.1 handshake" e)
  | .elapsed => base.withFailure ⟨.timeout,
      s!"http/1.1 handshake to {probe.destination} timed out after {probe.timeout.debug}"⟩
  | .ok () =>
    match transport.rejects request with
    | some e => base.withFailure ⟨.protocol, s!"could not build http request: {e}"⟩
    | none =>
      match transport.response with
      | .err e => base.withFailure (httpError "http request" e)
      | .elapsed => base.withFailure ⟨.timeout,
          s!"http request to {probe.destination} timed out after {probe.timeout.debug}"⟩
      | .ok head =>
        match readBody "HTTP/1.1 body" probe.maxBodyBytes transport.ending transport.frames
          (.start probe.output) with
        | .error failure => base.withFailure failure
        | .ok read =>
          { base with
            tls := tls
            status := some head.status
            protocol := some head.version
            location := locationHeader head.headers
            headers := collectResponseHeaders head.headers
            bodyBytes := if read.ended then some (UInt64.ofNat read.bytesRead) else none
            bodyCapped := read.capped
            bodySnippet := bodySnippetString read.snippet (read.snippet.length < read.bytesRead)
            latencyMs := some transport.elapsed.millis
            ttfbMs := some transport.ttfb.millis }

/-- The TLS details of the connection an HTTP probe runs over. -/
def buildTlsObservation (conn : TlsConnection) (destination : SocketAddr) (host : String) :
    TlsObservation :=
  { destination, sni := String.ofList (wireHost host.toList), success := true,
    version := conn.session.version, cipher := conn.session.cipher, alpn := conn.session.alpn,
    certificate := conn.session.certificate, latencyMs := some conn.latencyMs, failure := none }

def httpProbe (probe : HttpProbe) (tls : TlsTransport) (transport : HttpTransport) :
    HttpObservation :=
  match connectTo probe.destination probe.host probe.timeout tls with
  | .error failure => probe.base.withFailure failure
  | .ok conn =>
    driveHttp1 probe (some (buildTlsObservation conn probe.destination probe.host)) transport

def httpProbePlain (probe : HttpProbe) (connect : Timed IoError Unit)
    (transport : HttpTransport) : HttpObservation :=
  match connect with
  | .err e => probe.base.withFailure
      ⟨classifyIoError e, s!"tcp connect to {probe.destination} failed: {e.text}"⟩
  | .elapsed => probe.base.withFailure ⟨.timeout,
      s!"tcp connect to {probe.destination} timed out after {probe.timeout.debug}"⟩
  | .ok () => driveHttp1 probe none transport

end IpTools
