import IpTools.Probes.Http3

/-!
# Request headers

The three protocols put their own framing headers around the headers of the user. Neither `host` nor
`content-length` is stacked, and nothing else of the user's headers is touched.
-/

namespace IpTools

/-- The values of a header, in their order. -/
def headerValues (name : String) (headers : List (String × String)) : List String :=
  (headers.filter (fun h => eqIgnoreAsciiCase h.1 name)).map Prod.snd

/-- The headers whose values are the probe's to give. -/
def isFraming (body : Option (List UInt8)) (name : String) : Bool :=
  eqIgnoreAsciiCase name "host" || (body.isSome && eqIgnoreAsciiCase name "content-length")

lemma headerValues_append (name : String) (xs ys : List (String × String)) :
    headerValues name (xs ++ ys) = headerValues name xs ++ headerValues name ys := by
  unfold headerValues
  rw [List.filter_append, List.map_append]

lemma eqIgnoreAsciiCase_congr {a b : String} (h : eqIgnoreAsciiCase a b = true) (c : String) :
    eqIgnoreAsciiCase a c = eqIgnoreAsciiCase b c := by
  unfold eqIgnoreAsciiCase at *
  rw [of_decide_eq_true h]

lemma eqIgnoreAsciiCase_comm (a b : String) : eqIgnoreAsciiCase a b = eqIgnoreAsciiCase b a := by
  unfold eqIgnoreAsciiCase
  exact decide_eq_decide.mpr eq_comm

lemma isFraming_congr {a b : String} (h : eqIgnoreAsciiCase a b = true)
    (body : Option (List UInt8)) : isFraming body a = isFraming body b := by
  unfold isFraming
  rw [eqIgnoreAsciiCase_congr h, eqIgnoreAsciiCase_congr h]

/-- Where there is no `host` header the filter need not look for one. -/
lemma passedHeaders_eq (headers : List (String × String)) (body : Option (List UInt8)) :
    passedHeaders headers body = headers.filter (fun h => !isFraming body h.1) := by
  unfold passedHeaders isFraming
  refine List.filter_congr (fun h hh => ?_)
  have hcustom : (customHost headers).isNone = true → eqIgnoreAsciiCase h.1 "host" = false := by
    intro hnone
    unfold customHost at hnone
    rw [Option.isNone_map, Option.isNone_iff_eq_none, List.find?_eq_none] at hnone
    exact Bool.eq_false_iff.mpr (hnone h hh)
  cases hnone : (customHost headers).isNone with
  | true => rw [hcustom hnone, Bool.true_or, Bool.false_or, Bool.true_and]
  | false => rw [Bool.false_or, Bool.not_or]

lemma headerValues_passedHeaders (name : String) (headers : List (String × String))
    (body : Option (List UInt8)) :
    headerValues name (passedHeaders headers body) =
      if isFraming body name then [] else headerValues name headers := by
  rw [passedHeaders_eq]
  unfold headerValues
  rw [List.filter_filter]
  have hcongr : ∀ h ∈ headers, (eqIgnoreAsciiCase h.1 name && !isFraming body h.1) =
      (!isFraming body name && eqIgnoreAsciiCase h.1 name) := by
    intro h _
    cases heq : eqIgnoreAsciiCase h.1 name with
    | true => rw [isFraming_congr heq, Bool.true_and, Bool.and_true]
    | false => rw [Bool.false_and, Bool.and_false]
  rw [List.filter_congr hcongr]
  cases isFraming body name with
  | true => simp
  | false => simp

/-- The request that `driveHttp1` builds, over TLS or in cleartext. -/
def HttpProbe.http1Request (probe : HttpProbe) (tls : Bool) : HttpRequest :=
  ⟨probe.method, probe.path,
    http1Headers probe.destination probe.host tls probe.headers probe.body, probe.body⟩

lemma driveHttp1_request (probe : HttpProbe) (tls : Option TlsObservation)
    (transport : HttpTransport) : driveHttp1 probe tls transport = driveHttp1 probe tls
      { transport with rejects := fun _ => transport.rejects (probe.http1Request tls.isSome) } :=
  rfl

lemma driveHttp2_request (probe : HttpProbe) (tls : TlsObservation)
    (transport : Http2Transport) : driveHttp2 probe tls transport = driveHttp2 probe tls
      { transport with rejects := fun _ => transport.rejects probe.http2Request } := rfl

lemma http3Probe_request (probe : HttpProbe) (transport : Http3Transport) :
    http3Probe probe transport = http3Probe probe
      { transport with rejects := fun _ => transport.rejects probe.http3Request } := rfl

/-- What the probe sends of its own in front of the headers of the user, next to the host. -/
def ownHeaders : List (String × String) := [("user-agent", "ip-tools"), ("accept", "*/*")]

/-- A request with the given `host` headers, framed by the probe alone. -/
structure FramedRequest (probe : HttpProbe) (hosts : List String) (request : HttpRequest) :
    Prop where
  host : headerValues "host" request.headers = hosts
  length : ∀ bytes ∈ probe.body,
    headerValues "content-length" request.headers = [toString bytes.length]
  body : request.body = probe.body
  kept : request.headers = hosts.map (fun host => ("host", host)) ++ ownHeaders ++
    probe.headers.filter (fun h => !isFraming probe.body h.1) ++ lengthHeader probe.body
  values : ∀ name, isFraming probe.body name = false →
    headerValues name request.headers = headerValues name ownHeaders ++
      headerValues name probe.headers

lemma headerValues_hosts (hosts : List String) (name : String) :
    headerValues name (hosts.map (fun host => ("host", host))) =
      if eqIgnoreAsciiCase "host" name then hosts else [] := by
  unfold headerValues
  rw [List.filter_map, List.map_map]
  cases h : eqIgnoreAsciiCase "host" name with
  | true => simp [Function.comp_def, h]
  | false => simp [Function.comp_def, h]

lemma headerValues_lengthHeader (body : Option (List UInt8)) (name : String) :
    headerValues name (lengthHeader body) =
      if eqIgnoreAsciiCase "content-length" name then
        (body.map (fun bytes => toString bytes.length)).toList
      else [] := by
  cases body with
  | none => cases eqIgnoreAsciiCase "content-length" name <;> rfl
  | some bytes =>
    unfold headerValues lengthHeader
    cases h : eqIgnoreAsciiCase "content-length" name with
    | true => simp [h]
    | false => simp [h]

lemma framedRequest_of_headers {probe : HttpProbe} {hosts : List String} {request : HttpRequest}
    (hbody : request.body = probe.body)
    (h : request.headers = hosts.map (fun host => ("host", host)) ++ ownHeaders ++
      passedHeaders probe.headers probe.body ++ lengthHeader probe.body) :
    FramedRequest probe hosts request := by
  have hvalues : ∀ name, headerValues name request.headers =
      (if eqIgnoreAsciiCase "host" name then hosts else []) ++ headerValues name ownHeaders ++
      (if isFraming probe.body name then [] else headerValues name probe.headers) ++
      if eqIgnoreAsciiCase "content-length" name then
        (probe.body.map (fun bytes => toString bytes.length)).toList
      else [] := by
    intro name
    rw [h, headerValues_append, headerValues_append, headerValues_append, headerValues_hosts,
      headerValues_passedHeaders, headerValues_lengthHeader]
  refine ⟨?_, ?_, hbody, ?_, ?_⟩
  · rw [hvalues]
    have hframing : isFraming probe.body "host" = true := rfl
    rw [hframing]
    simp [show eqIgnoreAsciiCase "host" "host" = true from rfl,
      show eqIgnoreAsciiCase "content-length" "host" = false from rfl,
      show headerValues "host" ownHeaders = [] from rfl]
  · intro bytes hbytes
    have hframing : isFraming probe.body "content-length" = true := by
      rw [Option.mem_def.mp hbytes]
      rfl
    rw [hvalues, hframing, Option.mem_def.mp hbytes]
    rfl
  · rw [h, passedHeaders_eq]
  · intro name hname
    have hparts := Bool.or_eq_false_iff.mp hname
    rw [hvalues, hname, eqIgnoreAsciiCase_comm "host", hparts.1,
      eqIgnoreAsciiCase_comm "content-length"]
    cases hbody : probe.body with
    | none => simp
    | some bytes =>
      rw [hbody, Option.isSome_some, Bool.true_and] at hparts
      simp [hparts.2]

/-- On every protocol the request is framed once: by one `host` header, or by the authority of the
URI alone. -/
theorem requests_framed (probe : HttpProbe) (tls : Bool) :
    FramedRequest probe [String.ofList
      (wireAuthority probe.effectiveHost.toList probe.destination.port tls)]
      (probe.http1Request tls) ∧
    FramedRequest probe [] probe.http2Request ∧
    probe.http2Request.uri = "https://" ++ String.ofList
      (uriAuthorityAt probe.effectiveHost.toList probe.destination.port) ++ probe.path ∧
    FramedRequest probe [String.ofList
      (wireAuthority probe.effectiveHost.toList probe.destination.port true)]
      probe.http3Request :=
  ⟨framedRequest_of_headers rfl rfl, framedRequest_of_headers rfl rfl, rfl,
    framedRequest_of_headers rfl rfl⟩

end IpTools
