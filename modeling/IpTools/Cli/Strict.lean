import IpTools.Cli.ProbeFlow
import IpTools.Probes.Repeat

/-!
# The strict commands

What the `http` and the `probe` command count as failed under `--strict`.
-/

namespace IpTools

def httpFailed (obs : HttpObservation) : Bool := obs.failure.isSome

def probeFailed (result : ProbeResult) : Bool := 0 < result.failures

def httpStrict (written : Bool) (r : FlowResult HttpObservation) : ExitCode :=
  r.exitCode ⟨none, true, httpFailed⟩ written

def probeStrict (written : Bool) (r : FlowResult ProbeResult) : ExitCode :=
  r.exitCode ⟨none, true, probeFailed⟩ written

/-- What `probe --protocol http --count 1` makes of the observations of a run. -/
def repeatedOnce (order : HashOrder) (r : FlowResult HttpObservation) : FlowResult ProbeResult where
  perTarget := r.perTarget.map (fun t =>
    (t.1, t.2.map (fun obs => httpRepeat order obs.destination 1 (fun _ => obs))))
  unresolved := r.unresolved

end IpTools
