import IpTools.Probes.Http

/-!
# HTTP/2 probes

One request over TLS. The URI names the authority, so the request has no `host` header.
-/

namespace IpTools

variable [DebugTables]

/-- The user headers that are not stacked on the framing headers of the probe. -/
def passedHeaders (headers : List (String × String)) (body : Option (List UInt8)) :
    List (String × String) :=
  headers.filter (fun h =>
    ((customHost headers).isNone || !eqIgnoreAsciiCase h.1 "host") &&
      !(body.isSome && eqIgnoreAsciiCase h.1 "content-length"))

/-- The header that announces a body. -/
def lengthHeader (body : Option (List UInt8)) : List (String × String) :=
  (body.map (fun bytes => ("content-length", toString bytes.length))).toList

/-- The host that the URI and the headers name: a `host` header overrides the target's. -/
def HttpProbe.effectiveHost (probe : HttpProbe) : String :=
  (customHost probe.headers).getD probe.host

/-- The absolute URI over TLS. -/
def HttpProbe.httpsUri (probe : HttpProbe) : String :=
  "https://" ++
    String.ofList (uriAuthorityAt probe.effectiveHost.toList probe.destination.port) ++ probe.path

def HttpProbe.http2Request (probe : HttpProbe) : HttpRequest :=
  { method := probe.method
    uri := probe.httpsUri
    headers := [("user-agent", "ip-tools"), ("accept", "*/*")] ++
      passedHeaders probe.headers probe.body ++ lengthHeader probe.body
    body := probe.body }

/-- What the HTTP/2 library and the peer answer. -/
structure Http2Transport where
  handshake : Timed String Unit
  /-- The error of a request that the HTTP library does not build. -/
  rejects : HttpRequest → Option String
  sendRequest : Except String Unit
  sendData : Except String Unit
  sendTrailers : Except String Unit
  response : Timed String ResponseHead
  ttfb : Duration
  chunks : List (List UInt8)
  ending : BodyEnd
  elapsed : Duration

def HttpProbe.http2Base (probe : HttpProbe) : HttpObservation :=
  { HttpObservation.base probe.destination probe.host probe.method probe.path with
    protocol := some "HTTP/2" }

/-- Send the body on the open stream, and end it with empty trailers. -/
def sendHttp2Body (body : Option (List UInt8)) (transport : Http2Transport) :
    Except ProbeError Unit :=
  if body.isSome then
    match transport.sendData, transport.sendTrailers with
    | .error e, _ => .error (httpError "http/2 body send" e)
    | .ok (), .error e => .error (httpError "http/2 body finish" e)
    | .ok (), .ok () => .ok ()
  else .ok ()

/-- Drive one request and body read over an HTTP/2 connection. -/
def driveHttp2 (probe : HttpProbe) (tls : TlsObservation) (transport : Http2Transport) :
    HttpObservation :=
  let base := probe.http2Base
  match transport.handshake with
  | .err e => base.withFailure (httpError "HTTP/2 handshake" e)
  | .elapsed => base.withFailure ⟨.timeout,
      s!"http/2 handshake to {probe.destination} timed out after {probe.timeout.debug}"⟩
  | .ok () =>
    match transport.rejects probe.http2Request with
    | some e => base.withFailure ⟨.protocol, s!"could not build http/2 request: {e}"⟩
    | none =>
      match transport.sendRequest with
      | .error e => base.withFailure (httpError "http/2 request" e)
      | .ok () =>
        match sendHttp2Body probe.body transport with
        | .error failure => base.withFailure failure
        | .ok () =>
          match transport.response with
          | .err e => base.withFailure (httpError "http/2 response" e)
          | .elapsed => base.withFailure ⟨.timeout,
              s!"http/2 request to {probe.destination} timed out after {probe.timeout.debug}"⟩
          | .ok head =>
            match readBody "http/2 body" probe.maxBodyBytes transport.ending
              (transport.chunks.map Frame.data) (.start probe.output) with
            | .error failure => base.withFailure failure
            | .ok read =>
              { base with
                tls := some tls
                status := some head.status
                location := locationHeader head.headers
                headers := collectResponseHeaders head.headers
                bodyBytes := if read.ended then some (UInt64.ofNat read.bytesRead) else none
                bodyCapped := read.capped
                bodySnippet := bodySnippetString read.snippet (read.snippet.length < read.bytesRead)
                latencyMs := some transport.elapsed.millis
                ttfbMs := some transport.ttfb.millis }

def http2Probe (probe : HttpProbe) (tls : TlsTransport) (transport : Http2Transport) :
    HttpObservation :=
  match connectTo probe.destination probe.host probe.timeout tls with
  | .error failure => probe.http2Base.withFailure failure
  | .ok conn =>
    driveHttp2 probe (buildTlsObservation conn probe.destination probe.host) transport

end IpTools
