import Mathlib.Data.Finset.Card
import IpTools.Model.Diagnosis

/-!
# HTTP and QUIC diagnostic rules
-/

namespace IpTools
open Std

/-- Whether the HTTP observation merely inherits a TCP failure at its destination. -/
def inheritedTcp (input : DiagnosticInput) (h : HttpObservation) : Bool :=
  h.failure.isSome && input.tcp.any (fun t => t.destination = h.destination && !t.success)

/-- A failure that no other layer's rule owns. -/
def ownFailure (h : HttpObservation) : Bool :=
  h.failure.any (fun e =>
    if h.protocol = some "HTTP/3" then e.kind = .http || e.kind = .protocol
    else !(e.kind = .quic || e.kind = .tlsHandshake || e.kind = .certificate))

def layerFailed (input : DiagnosticInput) (h : HttpObservation) : Bool :=
  (ownFailure h && !inheritedTcp input h) || h.status.any (fun s => s ≥ 400)

/-- HTTP-layer errors (non-2xx status or an HTTP-protocol-layer failure). -/
def httpLayerRules (input : DiagnosticInput) : List Diagnosis :=
  let failing := (input.http.filter (layerFailed input)).map (fun h =>
    let outcome := (h.status.map (fun s => toString s.toNat)).getD "error"
    s!"{h.destination} -> {outcome}")
  if !failing.isEmpty then
    [{ severity := .low
       category := .http
       confidence := .low
       summary := s!"HTTP-layer errors returned by {input.hostname}"
       evidence := [⟨"; ".intercalate failing⟩]
       possibleCauses := ["application error / server-side issue", "redirect loop or auth required",
         "HTTP (not TLS) protocol problem"] }]
  else []

/-- HTTP responses whose headers arrived but whose body never completed. -/
def truncatedBodyRules (input : DiagnosticInput) : List Diagnosis :=
  let truncated := (input.http.filter (fun h =>
    h.failure.isNone && h.status.isSome && h.bodyBytes.isNone)).map
      (fun h => toString h.destination)
  if !truncated.isEmpty then
    let joined := ", ".intercalate truncated
    [{ severity := .low
       category := .http
       confidence := .low
       summary := s!"HTTP response body did not complete for {input.hostname}"
       evidence := [⟨s!"headers received, body stalled ({joined})"⟩]
       possibleCauses := ["response truncated by a proxy / load balancer",
         "server keep-alive without content-length or chunked coding",
         "connection reset or packet loss mid-transfer", "streaming endpoint that never finishes"] }]
  else []

/-- QUIC/HTTP3 failing while the TCP path succeeds. -/
def quicRules (input : DiagnosticInput) : List Diagnosis :=
  let tcpHttpOk := input.http.any (fun h => h.failure.isNone && h.status.any (fun s => s < 400))
  let quicHttp := input.http.filter (fun h => h.protocol = some "HTTP/3")
  let quicOk := quicHttp.any (fun h => h.failure.isNone)
  let hasQuic := quicHttp.length > 0
  if hasQuic && tcpHttpOk && !quicOk then
    [{ severity := .low
       category := .quic
       confidence := .medium
       summary := s!"QUIC/HTTP3 fails while TCP+HTTPS succeeds for {input.hostname}"
       evidence := [⟨"TCP path OK; UDP/QUIC path failed"⟩]
       possibleCauses := ["QUIC disabled / not offered by server",
         "UDP blocked or rate-limited on a path", "middlebox/NAT interfering with QUIC",
         "server prefers TCP"] }]
  else []

/-- The codes that signal a followable redirect. -/
def isRedirect (status : UInt16) : Bool :=
  status = 301 || status = 302 || status = 303 || status = 307 || status = 308

/-- Automated redirect observation into a diagnosis. -/
def redirectRules (input : DiagnosticInput) : List Diagnosis :=
  let redirects := (input.http.filter (fun h => h.failure.isNone)).filterMap (fun h =>
    match h.status with
    | none => none
    | some status =>
      if isRedirect status then
        let target := h.location.getD "(no Location header)"
        some s!"{h.destination} -> {status.toNat} {target}"
      else none)
  if !redirects.isEmpty then
    let joined := "; ".intercalate redirects
    [{ severity := .low
       category := .http
       confidence := .low
       summary := s!"HTTP {input.hostname} which redirected"
       evidence := [⟨s!"redirect observed ({joined})"⟩]
       possibleCauses := ["captive portal / login wall intercepting the request",
         "site or resource permanently moved", "authentication or session redirect",
         "CDN / middleware rewriting the URL"] }]
  else []

/-- A 2xx status. -/
def content (status : UInt16) : Bool := 200 ≤ status && status < 300

/-- A response with a status, a protocol and no failure. -/
def HttpObservation.completed (h : HttpObservation) : Bool :=
  h.failure.isNone && h.status.isSome && h.protocol.isSome

/-- The status of a completed response. -/
def HttpObservation.code (h : HttpObservation) : UInt16 := h.status.getD 0

/-- Completed responses grouped by destination, each group in the order observed. -/
def perDest (http : List HttpObservation) : ExtTreeMap SocketAddr (List HttpObservation) :=
  http.foldl (fun m h =>
    if h.completed then m.alter h.destination (fun obs => some (obs.getD [] ++ [h])) else m) ∅

/-- The evidence of one destination whose protocols disagree. -/
def protoDivergence (dest : SocketAddr) (obs : List HttpObservation) : Option String :=
  if (obs.map (fun h => h.protocol.getD "?")).toFinset.card < 2 then none
  else if obs.any (fun h => content h.code) && obs.any (fun h => !content h.code) then
    let joined := ", ".intercalate (obs.map (fun h =>
      let protocol := h.protocol.getD "?"
      s!"{protocol} -> {h.code.toNat}"))
    some s!"{dest}: {joined}"
  else none

/-- The statuses that one address family returned. -/
def familyStatus (http : List HttpObservation) (ipv4 : Bool) : List UInt16 :=
  (http.filter (fun h => h.failure.isNone && h.destination.isIpv4 == ipv4)).filterMap
    HttpObservation.status

/-- The evidence that only one of the two families returned a 2xx. -/
def familyDivergence (http : List HttpObservation) : Option String :=
  let v4 := familyStatus http true
  let v6 := familyStatus http false
  if !v4.isEmpty && !v6.isEmpty && v4.any content != v6.any content then
    let render := fun (name : String) (raw : List UInt16) =>
      let joined := ",".intercalate (raw.map (fun s => toString s.toNat))
      s!"{name}({joined})"
    let left := render "IPv4" v4
    let right := render "IPv6" v6
    some s!"{left} vs {right}"
  else none

attribute [local instance] lexOrd in
/-- Statuses of completed responses grouped by protocol and family, the last one of an address
standing for it. -/
def perProtoFamily (http : List HttpObservation) :
    ExtTreeMap (String × Bool) (ExtTreeMap SocketAddr UInt16) :=
  http.foldl (fun m h =>
    if h.completed then
      m.alter (h.protocol.getD "", h.destination.isIpv4)
        (fun byAddr => some ((byAddr.getD ∅).insert h.destination h.code))
    else m) ∅

/-- The evidence of one protocol and family whose addresses disagree. -/
def addressDivergence (proto : String) (byAddr : ExtTreeMap SocketAddr UInt16) : Option String :=
  if byAddr.size < 2 then none
  else if !(byAddr.toList.any (fun e => content e.2) && byAddr.toList.any (fun e => !content e.2))
  then none
  else
    let joined := ", ".intercalate (byAddr.toList.map (fun e => s!"{e.1} -> {e.2.toNat}"))
    some s!"{proto}: {joined}"

/-- Cross-path HTTP consistency: responses that differ in being 2xx across the protocols of one
destination, across the address families, or across the addresses of one protocol and family. -/
def httpConsistencyRules (input : DiagnosticInput) : List Diagnosis :=
  let protoDivergences := (perDest input.http).toList.filterMap (fun e => protoDivergence e.1 e.2)
  let addressDivergences := (perProtoFamily input.http).toList.filterMap
    (fun e => addressDivergence e.1.1 e.2)
  (if !protoDivergences.isEmpty then
    [{ severity := .low
       category := .http
       confidence := .medium
       summary := s!"HTTP status differs across protocols for {input.hostname}"
       evidence := protoDivergences.map (fun d => ⟨s!"cross-protocol: {d}"⟩)
       possibleCauses := ["CDN edge / WAF applying different rules to different protocols",
         "A/B or partial deployment across edges or servers",
         "rate-limiting or auth gating one protocol but not another"] }]
  else []) ++
  (match familyDivergence input.http with
  | some detail =>
    [{ severity := .low
       category := .http
       confidence := .medium
       summary := s!"HTTP behavior differs between IPv4 and IPv6 for {input.hostname}"
       evidence := [⟨s!"cross-address-family: {detail}"⟩]
       possibleCauses := ["per-family cloud edge with a different origin state",
         "IPv6-specific WAF / ACL rules", "A/B or partial deployment across families"] }]
  | none => []) ++
  (if !addressDivergences.isEmpty then
    [{ severity := .low
       category := .http
       confidence := .medium
       summary := s!"HTTP status differs across {input.hostname}'s addresses"
       evidence := addressDivergences.map (fun d => ⟨s!"cross-address: {d}"⟩)
       possibleCauses := ["partial deployment across edges or backends",
         "per-node WAF / routing differences", "load-balancer health-check / draining member",
         "one CDN edge / origin failing"] }]
  else [])

end IpTools
