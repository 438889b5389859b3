import IpTools.Dns.Endpoint
import IpTools.Dns.Message
import IpTools.Probes.Connect

/-!
# DNS queries

One query through the system resolver library, over HTTPS or over TLS, as an observation. What the
library and the network answer is a parameter of each.
-/

namespace IpTools

variable [DebugTables]

instance : ToString DnsRecordType where
  toString
    | .a => "A"
    | .aaaa => "AAAA"
    | .cname => "CNAME"
    | .mx => "MX"
    | .txt => "TXT"
    | .ns => "NS"
    | .soa => "SOA"
    | .caa => "CAA"
    | .srv => "SRV"
    | .ptr => "PTR"

/-- Record data of the resolver library; a name is given by the text it displays as. -/
inductive RData where
  | a (ip : Ipv4Addr)
  | aaaa (ip : Ipv6Addr)
  | cname (name : String)
  | mx (preference : UInt16) (exchange : String)
  | txt (data : List (List UInt8))
  | ns (name : String)
  | soa (mname rname : String) (serial refresh retry expire minimum : Int)
  | caa (issuerCritical : Bool) (reservedFlags : UInt8) (tag : String) (value : List UInt8)
  | srv (priority weight port : UInt16) (target : String)
  | ptr (name : String)
  | other
deriving DecidableEq, Repr

structure NetError where
  isNxDomain : Bool
  isNoRecordsFound : Bool
  text : String
deriving DecidableEq, Repr

structure LookupAnswer where
  data : RData
  ttl : UInt32
deriving DecidableEq, Repr

/-- The record of an answer, `none` where it is of another type. -/
def recordFromRdata : DnsRecordType → RData → Option DnsRecord
  | .a, .a ip => some (.a ip)
  | .aaaa, .aaaa ip => some (.aaaa ip)
  | .cname, .cname name => some (.cname name)
  | .mx, .mx preference exchange => some (.mx preference exchange)
  | .txt, .txt data => some (.txt (String.join (data.map fromUtf8Lossy)))
  | .ns, .ns name => some (.ns name)
  | .soa, .soa mname rname serial refresh retry expire minimum =>
    some (.soa (s!"{mname} {rname} serial {serial} refresh {refresh} retry {retry} " ++
      s!"expire {expire} minimum {minimum}"))
  | .caa, .caa issuerCritical reservedFlags tag value =>
    some (.caa ((if issuerCritical then 0x80 else 0) ||| reservedFlags) tag (fromUtf8Lossy value))
  | .ptr, .ptr name => some (.ptr name)
  | .srv, .srv priority weight port target => some (.srv priority weight port target)
  | _, _ => none

/-- The records of the wanted type and the TTL of the first of them. -/
def resolverLookup (recordType : DnsRecordType) (answers : List LookupAnswer) :
    List DnsRecord × Option UInt32 :=
  answers.foldl (fun (records, ttl) rec =>
    match recordFromRdata recordType rec.data with
    | some record => (records ++ [record], if ttl.isNone then some rec.ttl else ttl)
    | none => (records, ttl)) ([], none)

def lookupErrorMessage (host : String) (recordType : DnsRecordType) (err : NetError) : String :=
  if err.isNxDomain then s!"{host} does not exist (NXDOMAIN)"
  else if err.isNoRecordsFound then s!"no {recordType} records found for {host}"
  else err.text

def query (outcome : Timed NetError (List LookupAnswer)) (elapsed timeout : Duration)
    (kind : ResolverKind) (host : String) (recordType : DnsRecordType) : DnsObservation :=
  let (latencyMs, records, ttl, error) : Option UInt64 × List DnsRecord × Option UInt32 ×
      Option ProbeError := match outcome with
    | .ok answers =>
      let (records, ttl) := resolverLookup recordType answers
      (some elapsed.millis, records, ttl, none)
    | .err e => (none, [], none, some ⟨.dns, lookupErrorMessage host recordType e⟩)
    | .elapsed =>
      let time := timeout.debug
      (none, [], none,
        some ⟨.timeout, s!"dns lookup of {host} ({recordType}) timed out after {time}"⟩)
  { hostname := host, resolver := kind, recordType, latencyMs, ttl, records, error }

def rcodeName (rcode : UInt8) : String :=
  if rcode = 0 then "NoError"
  else if rcode = 1 then "FormErr"
  else if rcode = 2 then "ServFail"
  else if rcode = 3 then "NXDomain"
  else if rcode = 4 then "NotImp"
  else if rcode = 5 then "Refused"
  else if rcode = 9 then "NotAuth"
  else "UnknownError"

def DnsObservation.base (host : String) (resolver : ResolverKind) (recordType : DnsRecordType) :
    DnsObservation where
  hostname := host
  resolver := resolver
  recordType := recordType
  records := []
  ttl := none
  latencyMs := none
  error := none

/-- The closure `fail`: the blank observation with an error. -/
def DnsObservation.failed (base : DnsObservation) (kind : FailureKind) (message : String) :
    DnsObservation :=
  { base with error := some ⟨kind, message⟩ }

def dohMaxBody : Nat := 64 * 1024

structure DohRequest where
  uri : List Char
  host : List Char

/-- What the network and the HTTP library do with one request. -/
structure DohTransport where
  lookup : EndpointLookup
  tls : TlsTransport
  handshake : Timed String Unit
  /-- The error of building a request, if there is one. -/
  build : DohRequest → Option String
  send : DohRequest → Timed String UInt16
  body : Timed String (List UInt8)
  elapsed : Duration

/-- The observation of a response body. A parser that panics leaves none. -/
def dohAnswer (base : DnsObservation) (endpoint host : String) (recordType : DnsRecordType)
    (bytes : List UInt8) (elapsed : Duration) : Option DnsObservation :=
  match parseDnsResponse bytes recordType with
  | .error .panic => none
  | .error (.message msg) =>
    some (base.failed .dns s!"DoH endpoint {endpoint} returned an invalid response: {msg}")
  | .ok parsed =>
    if parsed.rcode = 0 ∧ parsed.records.isEmpty then
      if parsed.sawCname then
        some (base.failed .dns (s!"{host} resolved only to a CNAME (the DoH endpoint did not " ++
          s!"follow the alias); no {recordType} record in its answer"))
      else some (base.failed .dns s!"no {recordType} records found for {host}")
    else if parsed.rcode ≠ 0 then
      let name := rcodeName parsed.rcode
      some { base with
        records := []
        latencyMs := none
        error := some ⟨.dns, s!"DoH endpoint {endpoint} answered {name}"⟩ }
    else
      some { base with
        records := parsed.records
        latencyMs := some elapsed.millis
        ttl := parsed.ttl }

def dohExchange (base : DnsObservation) (endpoint host : String) (recordType : DnsRecordType)
    (timeout : Duration) (request : DohRequest) (transport : DohTransport) :
    Option DnsObservation :=
  let time := timeout.debug
  match transport.handshake with
  | .err e => some (base.failed .dns s!"http/1.1 handshake with DoH endpoint failed: {e}")
  | .elapsed => some (base.failed .timeout s!"DoH handshake to {endpoint} timed out after {time}")
  | .ok () =>
    match transport.build request with
    | some e => some (base.failed .protocol s!"could not build DoH request: {e}")
    | none =>
      match transport.send request with
      | .err e => some (base.failed .dns s!"DoH request failed: {e}")
      | .elapsed => some (base.failed .timeout s!"DoH request to {endpoint} timed out after {time}")
      | .ok status =>
        match transport.body with
        | .err e =>
          some (base.failed .dns
            (if containsText "length limit exceeded".toList e.toList then
              let kib := dohMaxBody / 1024
              s!"the DoH response exceeded the {kib} KiB wire-response cap ({dohMaxBody} bytes)"
            else s!"DoH body read failed: {e}"))
        | .elapsed =>
          some (base.failed .timeout s!"DoH body from {endpoint} timed out after {time}")
        | .ok bytes =>
          if status ≠ 200 then
            let code := status.toNat
            some (base.failed .dns s!"DoH endpoint {endpoint} responded HTTP {code}")
          else dohAnswer base endpoint host recordType bytes transport.elapsed

def dohQuery (endpoint host : String) (recordType : DnsRecordType) (timeout : Duration)
    (transport : DohTransport) : Option DnsObservation :=
  let base := DnsObservation.base host (.doh endpoint) recordType
  match parseDohUrl endpoint.toList with
  | .error msg => some (base.failed .other msg)
  | .ok (ehost, eport, path) =>
    match resolveEndpointHost transport.lookup ehost with
    | .error msg => some (base.failed .dns msg)
    | .ok ip =>
      match buildQuery host.toList recordType with
      | .error msg => some (base.failed .protocol msg)
      | .ok bytes =>
        match connectTo (SocketAddr.new ip eport) (String.ofList ehost) timeout transport.tls with
        | .error f => some { base with error := some f }
        | .ok _ =>
          dohExchange base endpoint host recordType timeout
            ⟨path ++ "?dns=".toList ++ base64url bytes, wireAuthority ehost eport true⟩ transport

/-- What the network does with one query. The body is read to the length of its prefix. -/
structure DotTransport where
  lookup : EndpointLookup
  tls : TlsTransport
  write : List UInt8 → Timed String Unit
  readHeader : Timed String (UInt8 × UInt8)
  readBody : (len : Nat) → Timed String (Vector UInt8 len)
  elapsed : Duration

/-- The observation of a response message. A parser that panics leaves none. -/
def dotAnswer (base : DnsObservation) (endpoint host : String) (recordType : DnsRecordType)
    (bytes : List UInt8) (elapsed : Duration) : Option DnsObservation :=
  match parseDnsResponse bytes recordType with
  | .error .panic => none
  | .error (.message msg) =>
    some (base.failed .dns s!"DoT endpoint {endpoint} returned an invalid response: {msg}")
  | .ok parsed =>
    if parsed.rcode = 0 ∧ parsed.records.isEmpty then
      if parsed.sawCname then
        some (base.failed .dns (s!"{host} resolved only to a CNAME (the DoT endpoint did not " ++
          s!"follow the alias); no {recordType} record in its answer"))
      else some (base.failed .dns s!"no {recordType} records found for {host}")
    else if parsed.rcode ≠ 0 then
      let name := rcodeName parsed.rcode
      some { base with
        records := []
        latencyMs := none
        error := some ⟨.dns, s!"DoT endpoint {endpoint} answered {name}"⟩ }
    else
      some { base with
        records := parsed.records
        latencyMs := some elapsed.millis
        ttl := parsed.ttl }

def dotExchange (base : DnsObservation) (endpoint host : String) (recordType : DnsRecordType)
    (timeout : Duration) (query : List UInt8) (transport : DotTransport) :
    Option DnsObservation :=
  let time := timeout.debug
  let len := query.length
  if len ≥ 2 ^ 16 then
    some (base.failed .protocol
      s!"DoT query is too large ({len} bytes) for a 2-byte length prefix")
  else
    match transport.write (be16 (UInt16.ofNat len) ++ query) with
    | .err e => some (base.failed .dns s!"DoT write to {endpoint} failed: {e}")
    | .elapsed => some (base.failed .timeout s!"DoT write to {endpoint} timed out after {time}")
    | .ok () =>
      match transport.readHeader with
      | .err e => some (base.failed .dns s!"DoT read from {endpoint} failed: {e}")
      | .elapsed => some (base.failed .timeout s!"DoT read from {endpoint} timed out after {time}")
      | .ok (high, low) =>
        match transport.readBody (high.toNat * 2 ^ 8 + low.toNat) with
        | .err e => some (base.failed .dns s!"DoT response read from {endpoint} failed: {e}")
        | .elapsed =>
          some (base.failed .timeout s!"DoT response from {endpoint} timed out after {time}")
        | .ok body => dotAnswer base endpoint host recordType body.toList transport.elapsed

def dotQuery (endpoint host : String) (recordType : DnsRecordType) (timeout : Duration)
    (transport : DotTransport) : Option DnsObservation :=
  let base := DnsObservation.base host (.dot endpoint) recordType
  match parseDotEndpoint endpoint.toList with
  | .error msg => some (base.failed .other msg)
  | .ok (ehost, eport) =>
    match resolveEndpointHost transport.lookup ehost with
    | .error msg => some (base.failed .dns msg)
    | .ok ip =>
      match buildQuery host.toList recordType with
      | .error msg => some (base.failed .protocol msg)
      | .ok bytes =>
        match connectTo (SocketAddr.new ip eport) (String.ofList ehost) timeout transport.tls with
        | .error f => some { base with error := some f }
        | .ok _ => dotExchange base endpoint host recordType timeout bytes transport

end IpTools
