import IpTools.Report.Aggregates

/-!
# Reports

The human reports as one type, with the texts of the input that each is written from.
-/

namespace IpTools

inductive Report where
  | dns (host : String) (observations : List DnsObservation)
  | tcp (observations : List TcpObservation)
  | tls (observations : List TlsObservation)
  | http (plain : Bool) (observations : List HttpObservation)
  | dnsRepeat (host : String) (results : List DnsRepeatResult)
  | probe (results : List ProbeResult)
  | route (hops : List RouteHop)
  | routeRepeat (runs : RouteRepeat)
  | diagnoses (ds : List Diagnosis)

def Report.render (unprintable : Char → Bool) (now : Clock) (style : Style) : Report → String
  | .dns host observations => renderDns unprintable style host observations
  | .tcp observations => renderTcp style observations
  | .tls observations => renderTls now style observations
  | .http plain observations => renderHttpImpl now style plain observations
  | .dnsRepeat host results => renderDnsRepeat style host results
  | .probe results => renderProbe style results
  | .route hops => renderRoute style hops
  | .routeRepeat runs => renderRouteRepeat style runs
  | .diagnoses ds => renderDiagnoses style ds

def ResolverKind.texts : ResolverKind → List String
  | .system | .custom _ => []
  | .doh endpoint | .dot endpoint => [endpoint]

def DnsRecord.texts : DnsRecord → List String
  | .a _ | .aaaa _ => []
  | .cname text | .mx _ text | .txt text | .ns text | .soa text | .srv _ _ _ text | .ptr text =>
    [text]
  | .caa _ tag value => [tag, value]

def ProbeError.texts (failure : ProbeError) : List String := [failure.message]

def DnsObservation.texts (obs : DnsObservation) : List String :=
  obs.hostname :: obs.resolver.texts ++ obs.records.flatMap DnsRecord.texts ++
    obs.error.toList.flatMap ProbeError.texts

def CertificateSummary.texts (cert : CertificateSummary) : List String :=
  [cert.subject, cert.issuer] ++ cert.notBeforeUtc.toList ++ cert.notAfterUtc.toList ++ cert.sans

def TlsObservation.texts (obs : TlsObservation) : List String :=
  obs.sni :: obs.version.toList ++ obs.cipher.toList ++ obs.alpn.toList ++
    obs.certificate.toList.flatMap CertificateSummary.texts ++
    obs.failure.toList.flatMap ProbeError.texts

def HttpObservation.texts (obs : HttpObservation) : List String :=
  [obs.host, obs.method, obs.path] ++ obs.tls.toList.flatMap TlsObservation.texts ++
    obs.protocol.toList ++ obs.location.toList ++ obs.headers.flatMap (fun h => [h.1, h.2]) ++
    obs.bodySnippet.toList ++ obs.failure.toList.flatMap ProbeError.texts

def Diagnosis.texts (d : Diagnosis) : List String :=
  d.summary :: d.evidence.map Evidence.detail ++ d.possibleCauses

def Report.texts : Report → List String
  | .dns host observations => host :: observations.flatMap DnsObservation.texts
  | .tcp observations => observations.flatMap (fun o => o.failure.toList.flatMap ProbeError.texts)
  | .tls observations => observations.flatMap TlsObservation.texts
  | .http _ observations => observations.flatMap HttpObservation.texts
  | .dnsRepeat host results => host :: results.flatMap (fun r => r.resolver.texts)
  | .probe _ => []
  | .route hops => hops.flatMap (fun h => h.hostname.toList)
  | .routeRepeat runs => runs.hops.flatMap (fun h => h.hostname.toList)
  | .diagnoses ds => ds.flatMap Diagnosis.texts

end IpTools
