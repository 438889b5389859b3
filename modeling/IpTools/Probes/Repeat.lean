import IpTools.Library.Tally
import IpTools.Model.Latency
import IpTools.Probes.Http

/-!
# Repeated probes

The outcomes of the attempts of one probe are aggregated into counters, latency statistics and the
distributions of failures and statuses.
-/

namespace IpTools

variable [DebugTables]

structure Outcome where
  ok : Bool
  latencyMs : Option UInt64
  kind : Option FailureKind
  status : Option UInt16
  ttfbMs : Option UInt64
deriving DecidableEq, Repr

def tcpOutcome (obs : TcpObservation) : Outcome :=
  if obs.success then ⟨true, obs.latencyMs, none, none, none⟩
  else ⟨false, none, obs.failure.map ProbeError.kind, none, none⟩

def tlsOutcome (obs : TlsObservation) : Outcome :=
  if obs.success then ⟨true, obs.latencyMs, none, none, none⟩
  else ⟨false, none, obs.failure.map ProbeError.kind, none, none⟩

/-- An error status is a completed probe, a body that never completes is not. -/
def httpOutcome (obs : HttpObservation) : Outcome :=
  if obs.failure.isNone then
    if obs.bodyBytes.isNone then ⟨false, none, some .timeout, obs.status, obs.ttfbMs⟩
    else ⟨true, obs.latencyMs, none, obs.status, obs.ttfbMs⟩
  else ⟨false, none, obs.failure.map ProbeError.kind, none, none⟩

/-- The order in which hash maps are read, which differs from process to process. -/
structure HashOrder where
  entries : {α : Type} → List (α × Nat) → List (α × Nat)
  perm : ∀ {α : Type} (m : List (α × Nat)), (entries m).Perm m

/-- The place of a failure kind in its declaration: `kind as u8`. -/
def FailureKind.discriminant (kind : FailureKind) : Nat := kind.ctorIdx

structure RepeatState where
  latency : LatencyStats
  ttfb : LatencyStats
  failures : List (FailureKind × Nat)
  statuses : List (UInt16 × Nat)
  successes : Nat

def RepeatState.start : RepeatState := ⟨.empty, .empty, [], [], 0⟩

def RepeatState.record (state : RepeatState) (o : Outcome) : RepeatState :=
  let state := match o.status with
    | some status => { state with statuses := Tally.bump status state.statuses }
    | none => state
  let state := match o.ttfbMs with
    | some ms => { state with ttfb := state.ttfb.push ms }
    | none => state
  if o.ok then
    { state with
      successes := state.successes + 1
      latency := state.latency.push (o.latencyMs.getD 0) }
  else
    match o.kind with
    | some kind => { state with failures := Tally.bump kind state.failures }
    | none => state

/-- Shared aggregation: `attempt` gives the outcome of each call. -/
def repeatImpl (order : HashOrder) (destination : SocketAddr) (attempts : Nat)
    (attempt : Nat → Outcome) : ProbeResult :=
  let state := ((List.range attempts).map attempt).foldl RepeatState.record RepeatState.start
  let failureCounts := Tally.sortByCount FailureKind.discriminant (order.entries state.failures)
  let statusCounts := Tally.sortByCount UInt16.toNat (order.entries state.statuses)
  { destination
    attempts
    successes := state.successes
    failures := ((order.entries state.failures).map Prod.snd).sum
    successRate := if attempts = 0 then 0.0 else state.successes.toFloat / attempts.toFloat
    latency := state.latency.summarize
    ttfb := state.ttfb.summarize
    failureCounts := failureCounts.map (fun e => ⟨e.1, e.2⟩)
    statusCounts := statusCounts.map (fun e => ⟨e.1, e.2⟩) }

def tcpRepeat (order : HashOrder) (destination : SocketAddr) (attempts : Nat) (timeout : Duration)
    (connect : Nat → Connect) : ProbeResult :=
  repeatImpl order destination attempts
    (fun i => tcpOutcome (tcpProbe destination timeout (connect i)))

def tlsRepeat (order : HashOrder) (destination : SocketAddr) (sni : String) (attempts : Nat)
    (timeout : Duration) (transport : Nat → TlsTransport × Duration) : ProbeResult :=
  repeatImpl order destination attempts
    (fun i => tlsOutcome
      (tlsProbe destination sni timeout (transport i).1 (transport i).2))

/-- Repeatedly probe HTTP: `obs` is what each request observes. -/
def httpRepeat (order : HashOrder) (destination : SocketAddr) (attempts : Nat)
    (obs : Nat → HttpObservation) : ProbeResult :=
  repeatImpl order destination attempts (fun i => httpOutcome (obs i))

end IpTools
