import IpTools.Cli.Route
import IpTools.Proofs.RoutePath

/-!
# Reports of the route command

What the command prints over a network, the names it gives to the routers, and its exit under
`--strict`.
-/

namespace IpTools

open BoundedLoop

variable {ι : Type} {io : ι → ProbeIo}

section Runs

variable {args : RouteArgs} {world : RouteWorld} {dest : IpAddr} {run : RouteRun}
  {output : RouteOutput}

end Runs

end IpTools
