import IpTools.Model.Latency
import IpTools.Route.Traceroute

/-!
# Repeated traceroutes

The hops of several traces, folded into one entry for each TTL.
-/

namespace IpTools

/-- What the runs have shown of one hop so far. -/
structure HopEntry where
  answered : UInt16
  addrs : List IpAddr
  hostname : Option String
  latency : LatencyStats
deriving DecidableEq, Repr

def HopEntry.start : HopEntry := ⟨0, [], none, .empty⟩

/-- `u16::saturating_add(1)`. -/
def saturatingSucc (n : UInt16) : UInt16 := UInt16.ofNat (min 65535 (n.toNat + 1))

/-- A lost hop only makes sure that there is an entry. -/
def HopEntry.add (entry : HopEntry) (hop : RouteHop) : HopEntry :=
  if hop.lost then entry
  else
    { answered := saturatingSucc entry.answered
      addrs := match hop.addr with
        | some addr => if addr ∈ entry.addrs then entry.addrs else entry.addrs ++ [addr]
        | none => entry.addrs
      latency := match hop.rttMs with
        | some ms => entry.latency.push ms
        | none => entry.latency
      hostname := match hop.hostname with
        | some name =>
          if entry.hostname.isNone && !name.isEmpty then some name else entry.hostname
        | none => entry.hostname }

/-- The entry of the TTL of a hop, with the hop folded into it. -/
def addHop (byTtl : Std.ExtTreeMap UInt8 HopEntry) (hop : RouteHop) :
    Std.ExtTreeMap UInt8 HopEntry :=
  byTtl.alter hop.ttl (fun entry => some ((entry.getD .start).add hop))

def HopEntry.stats (ttl : UInt8) (entry : HopEntry) : RouteHopStats :=
  { ttl
    answered := entry.answered
    addrs := entry.addrs
    hostname := entry.hostname
    rtt := entry.latency.summarize
    pathChanged := 1 < entry.addrs.length }

def aggregateRuns (hopsByRun : List (List RouteHop)) : RouteRepeat :=
  let byTtl := hopsByRun.foldl (fun byTtl run => run.foldl addHop byTtl) ∅
  { runs := hopsByRun.length
    hops := byTtl.toList.map (fun entry => entry.2.stats entry.1) }

/-- Repeat a traceroute, at least once. The first error ends it. -/
def tracerouteRepeat (traceroute : Nat → Trace (List RouteHop)) (count : Nat) :
    Trace RouteRepeat := do
  let runs ← (List.range (max count 1)).mapM traceroute
  return aggregateRuns runs

end IpTools
