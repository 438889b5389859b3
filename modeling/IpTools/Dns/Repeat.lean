import IpTools.Dns.Query
import IpTools.Library.StableSort
import IpTools.Probes.Repeat

/-!
# Repeated DNS queries

The observations of one resolver over a number of attempts are aggregated into one row. Rows come
from the resolver library, where each attempt asks every resolver, and from encrypted endpoints.
-/

namespace IpTools

open StableSort

variable [DebugTables]

structure DnsRepeatResult where
  resolver : ResolverKind
  recordType : DnsRecordType
  attempts : Nat
  successes : Nat
  failures : Nat
  successRate : Float
  latency : LatencySummary
  failureCounts : List FailureCount
  ttl : Option UInt32

structure DnsRepeatState where
  latency : LatencyStats
  failures : List (FailureKind × Nat)
  successes : Nat
  minTtl : Option UInt32

def DnsRepeatState.start : DnsRepeatState := ⟨.empty, [], 0, none⟩

def DnsRepeatState.record (state : DnsRepeatState) (obs : DnsObservation) : DnsRepeatState :=
  let state := match obs.ttl with
    | some t => { state with minTtl := some ((state.minTtl.map (fun m => min m t)).getD t) }
    | none => state
  match obs.latencyMs with
  | some ms => { state with successes := state.successes + 1, latency := state.latency.push ms }
  | none =>
    match obs.error with
    | some err => { state with failures := Tally.bump err.kind state.failures }
    | none => state

def aggregateRepeat (order : HashOrder) (bucket : List DnsObservation)
    (recordType : DnsRecordType) (attempts : Nat) : DnsRepeatResult :=
  let state := bucket.foldl DnsRepeatState.record DnsRepeatState.start
  let failureCounts := Tally.sortByCount FailureKind.discriminant (order.entries state.failures)
  { resolver := (bucket.head?.map DnsObservation.resolver).getD .system
    recordType
    attempts
    successes := state.successes
    failures := attempts - state.successes
    successRate := if attempts = 0 then 0.0 else state.successes.toFloat / attempts.toFloat
    latency := state.latency.summarize
    failureCounts := failureCounts.map (fun e => ⟨e.1, e.2⟩)
    ttl := state.minTtl }

/-- The single spelling of a resolver. -/
def ResolverKind.label : ResolverKind → String
  | .system => "system"
  | .custom addr => toString addr
  | .doh endpoint => endpoint
  | .dot endpoint => s!"{endpoint} (DoT)"

/-- The resolvers that could be built, the custom ones with distinct addresses. -/
structure DnsClient where
  system : Bool
  custom : List SocketAddr
  nodup : custom.Nodup

def DnsClient.kinds (client : DnsClient) : List ResolverKind :=
  (if client.system then [.system] else []) ++ client.custom.map .custom

/-- One round over all resolvers: the order in which the queries complete, what each comes to and
the time it took. -/
structure DnsRound (client : DnsClient) where
  order : List ResolverKind
  complete : order.Perm client.kinds
  outcome : ResolverKind → Timed NetError (List LookupAnswer)
  elapsed : ResolverKind → Duration

def DnsClient.resolve (client : DnsClient) (round : DnsRound client) (timeout : Duration)
    (host : String) (recordType : DnsRecordType) : List DnsObservation :=
  sortByKey (fun o => o.resolver.label) (round.order.map (fun kind =>
    query (round.outcome kind) (round.elapsed kind) timeout kind host recordType))

def pushBucket (o : DnsObservation) :
    List (ResolverKind × List DnsObservation) → List (ResolverKind × List DnsObservation)
  | [] => [(o.resolver, [o])]
  | (r, bucket) :: rest =>
    if r = o.resolver then (r, bucket ++ [o]) :: rest else (r, bucket) :: pushBucket o rest

def buckets (observations : List DnsObservation) : List (ResolverKind × List DnsObservation) :=
  observations.foldl (fun perResolver o => pushBucket o perResolver) []

/-- Repeatedly resolve a host: `rounds` are the attempts. -/
def DnsClient.resolveRepeat (client : DnsClient) (order : HashOrder)
    (rounds : List (DnsRound client)) (timeout : Duration) (host : String)
    (recordType : DnsRecordType) : List DnsRepeatResult :=
  let observations :=
    rounds.flatMap (fun round => client.resolve round timeout host recordType)
  sortByKey (fun row => row.resolver.label) ((buckets observations).map (fun entry =>
    aggregateRepeat order entry.2 recordType rounds.length))

/-- What the network does with each attempt at an endpoint. -/
structure EncryptedNetwork where
  doh : String → Nat → DohTransport
  dot : String → Nat → DotTransport

/-- The row of one endpoint, `none` where an attempt panics. -/
def repeatEndpoint (order : HashOrder) (recordType : DnsRecordType) (count : Nat)
    (attempt : Nat → Option DnsObservation) : Option DnsRepeatResult := do
  let bucket ← (List.range count).mapM attempt
  return aggregateRepeat order bucket recordType count

/-- The rows of the endpoints, in their order. -/
def encryptedRepeat (order : HashOrder) (dohEndpoints dotEndpoints : List String) (host : String)
    (recordType : DnsRecordType) (count : Nat) (timeout : Duration) (net : EncryptedNetwork) :
    Option (List DnsRepeatResult) := do
  let doh ← dohEndpoints.mapM (fun endpoint => repeatEndpoint order recordType count
    (fun i => dohQuery endpoint host recordType timeout (net.doh endpoint i)))
  let dot ← dotEndpoints.mapM (fun endpoint => repeatEndpoint order recordType count
    (fun i => dotQuery endpoint host recordType timeout (net.dot endpoint i)))
  return doh ++ dot

end IpTools
