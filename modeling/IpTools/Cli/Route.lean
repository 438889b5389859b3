import IpTools.Cli.Csv
import IpTools.Cli.Inputs
import IpTools.Cli.ProbeFlow
import IpTools.Route.Aggregate

/-!
# The route command

One trace or an aggregate of several, with the names of the routers, and the exit under `--strict`.
-/

namespace IpTools

variable [DebugTables]

/-- What a run of the command meets. -/
structure RouteWorld where
  resolvers : Resolvers
  /-- Whether the blocking task of the traces ends by itself. -/
  joined : Except String Unit
  /-- The raw socket of each trace. -/
  socket : Nat → Except String Unit
  io : Nat → UInt8 → Nat → ProbeIo
  /-- The name in the first answer of a reverse lookup. The lookups are counted by hops. -/
  reverse : Nat → IpAddr → Option String
  /-- Whether the report can be written. -/
  written : Bool

inductive RouteOutput where
  | hops (hops : List RouteHop)
  | repeated (runs : RouteRepeat)
deriving DecidableEq

/-- What a run of the command prints and how it exits. -/
structure RouteRun where
  output : Option RouteOutput
  error : Option String
  exit : ExitCode

/-- Print the report, and exit by it and by what was lost. -/
def RouteRun.report (world : RouteWorld) (output : RouteOutput) (lost : Nat) (message : String) :
    RouteRun :=
  if !world.written then ⟨some output, none, .failure⟩
  else if 0 < lost then ⟨some output, some s!"Error: {message}", .failure⟩
  else ⟨some output, none, .success⟩

def flagText (flag : Bool) : String := if flag then "1" else "0"

/-- The distinct routers of a hop. -/
def hopAddrs (h : RouteHopStats) : String := ";".intercalate (h.addrs.map toString)

def routeCsvRow (h : RouteHop) : String :=
  toString h.ttl.toNat ++ "," ++ csvField (h.hostname.getD "") ++ "," ++
    csvField ((h.addr.map toString).getD "") ++ "," ++ csvField (opt h.rttMs) ++ "," ++
    flagText h.lost ++ "\n"

def routeCsvHeader : String := "ttl,hostname,addr,rtt_ms,lost\n"

def renderRouteCsv (hops : List RouteHop) : String :=
  routeCsvHeader ++ String.join (hops.map routeCsvRow)

def routeRepeatCsvRow (runs : Nat) (h : RouteHopStats) : String :=
  toString h.ttl.toNat ++ "," ++ csvField (h.hostname.getD "") ++ "," ++ csvField (hopAddrs h) ++
    "," ++ csvField (opt h.rtt.min) ++ "," ++ csvField (opt h.rtt.p50) ++ "," ++
    csvField (opt h.rtt.max) ++ "," ++ toString h.answered.toNat ++ "," ++ toString runs ++ "," ++
    flagText h.pathChanged ++ "\n"

def routeRepeatCsvHeader : String :=
  "ttl,hostname,addr,rtt_min_ms,rtt_p50_ms,rtt_max_ms,answered,runs,path_changed\n"

def renderRouteRepeatCsv (route : RouteRepeat) : String :=
  routeRepeatCsvHeader ++ String.join (route.hops.map (routeRepeatCsvRow route.runs))

end IpTools
