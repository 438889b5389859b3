import IpTools.Model.Observation

/-!
# Routes

The hops of one traceroute, and what repeated ones come to.
-/

namespace IpTools

/-- One hop in a route. -/
structure RouteHop where
  ttl : UInt8
  addr : Option IpAddr
  hostname : Option String
  rttMs : Option UInt64
  lost : Bool
deriving DecidableEq, Repr

/-- The observations of one TTL across the runs of a repeated traceroute. -/
structure RouteHopStats where
  ttl : UInt8
  answered : UInt16
  addrs : List IpAddr
  hostname : Option String
  rtt : LatencySummary
  pathChanged : Bool
deriving DecidableEq, Repr

structure RouteRepeat where
  runs : Nat
  hops : List RouteHopStats
deriving DecidableEq, Repr

end IpTools
