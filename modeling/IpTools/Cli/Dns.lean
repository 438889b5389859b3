import IpTools.Cli.Concurrency
import IpTools.Cli.Csv
import IpTools.Cli.ProbeFlow
import IpTools.Cli.ReverseZone
import IpTools.Dns.Repeat

/-!
# The dns command

Each target is looked up by every resolver for every record type, once or repeatedly. The targets
are handled concurrently, and the queries of the resolver library complete in any order.
-/

namespace IpTools

variable [DebugTables]

/-- The client over those servers whose resolvers can be built; a server given twice counts once. -/
def DnsClient.new (system : Bool) (builds : SocketAddr → Bool) (servers : List SocketAddr) :
    DnsClient :=
  ⟨system, (servers.filter builds).dedup, List.nodup_dedup _⟩

/-- What the resolver library and the encrypted endpoints answer: to a query, by the host, the
record type and the attempt. -/
structure DnsNetwork where
  outcome : String → DnsRecordType → Nat → ResolverKind → Timed NetError (List LookupAnswer)
  elapsed : String → DnsRecordType → Nat → ResolverKind → Duration
  doh : String → DnsRecordType → String → Nat → DohTransport
  dot : String → DnsRecordType → String → Nat → DotTransport

def DnsNetwork.encrypted (net : DnsNetwork) (host : String) (rt : DnsRecordType) :
    EncryptedNetwork := ⟨net.doh host rt, net.dot host rt⟩

/-- The orders in which the queries of the rounds complete. -/
structure Completions (client : DnsClient) where
  order : String → DnsRecordType → Nat → List ResolverKind
  perm : ∀ host rt i, (order host rt i).Perm client.kinds

def DnsNetwork.round (net : DnsNetwork) {client : DnsClient} (completions : Completions client)
    (host : String) (rt : DnsRecordType) (i : Nat) : DnsRound client where
  order := completions.order host rt i
  complete := completions.perm host rt i
  outcome := net.outcome host rt i
  elapsed := net.elapsed host rt i

/-- One observation for each endpoint, `none` where a query panics. -/
def encryptedDns (dohEndpoints dotEndpoints : List String) (host : String) (rt : DnsRecordType)
    (timeout : Duration) (net : EncryptedNetwork) : Option (List DnsObservation) := do
  let doh ← dohEndpoints.mapM (fun endpoint =>
    dohQuery endpoint host rt timeout (net.doh endpoint 0))
  let dot ← dotEndpoints.mapM (fun endpoint =>
    dotQuery endpoint host rt timeout (net.dot endpoint 0))
  return doh ++ dot

/-- The resolvers of the probe commands, as the library and the endpoints answer them. -/
structure Resolvers.AnsweredBy (resolvers : Resolvers) {client : DnsClient} (net : DnsNetwork)
    (completions : Completions client) (timeout : Duration) : Prop where
  resolve : ∀ host rt, resolvers.resolve host rt =
    client.resolve (net.round completions (String.ofList host) rt 0) timeout (String.ofList host) rt
  doh : ∀ endpoint ∈ resolvers.dohEndpoints, ∀ host rt,
    IpTools.dohQuery endpoint (String.ofList host) rt timeout
      (net.doh (String.ofList host) rt endpoint 0) = some (resolvers.dohQuery endpoint host rt)
  dot : ∀ endpoint ∈ resolvers.dotEndpoints, ∀ host rt,
    IpTools.dotQuery endpoint (String.ofList host) rt timeout
      (net.dot (String.ofList host) rt endpoint 0) = some (resolvers.dotQuery endpoint host rt)

def parseRecordType (s : String) : Option DnsRecordType :=
  match String.ofList (s.toList.map Char.toUpper) with
  | "A" => some .a
  | "AAAA" => some .aaaa
  | "CNAME" => some .cname
  | "MX" => some .mx
  | "TXT" => some .txt
  | "NS" => some .ns
  | "SOA" => some .soa
  | "CAA" => some .caa
  | "SRV" => some .srv
  | "PTR" => some .ptr
  | _ => none

/-- The record types that the flags ask for. -/
def recordTypes (recordType : Option String) (onlyV4 onlyV6 : Bool) :
    Except String (List DnsRecordType) :=
  match recordType with
  | some s =>
    match parseRecordType s with
    | some rt => .ok [rt]
    | none =>
      let shown := strDebug s
      .error (s!"unsupported record type {shown} " ++
        "(try A, AAAA, CNAME, MX, TXT, NS, SOA, CAA, SRV or PTR)")
  | none => .ok (if onlyV4 then [.a] else if onlyV6 then [.aaaa] else [.a, .aaaa])

structure DnsArgs where
  recordTypes : List DnsRecordType
  dohEndpoints : List String
  dotEndpoints : List String
  count : Nat
  timeout : Duration
  concurrency : Nat
  strict : Bool

/-- The observations of a host for one record type. -/
def DnsArgs.rows (args : DnsArgs) {client : DnsClient} (net : DnsNetwork)
    (completions : Completions client) (host : String) (rt : DnsRecordType) :
    Option (List DnsObservation) := do
  let encrypted ← encryptedDns args.dohEndpoints args.dotEndpoints host rt args.timeout
    (net.encrypted host rt)
  return client.resolve (net.round completions host rt 0) args.timeout host rt ++ encrypted

/-- The lookups that `--strict` counts. -/
def TargetDns.failed (o : TargetDns) : Nat :=
  if o.repeated then o.results.countP (fun r => 0 < r.failures)
  else o.observations.countP (fun obs => obs.error.isSome)

end IpTools
