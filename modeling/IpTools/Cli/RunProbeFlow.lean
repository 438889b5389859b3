import IpTools.Cli.Concurrency
import IpTools.Cli.ProbeFlow

/-!
# Runs of the probe flow

The two phases of the flow as runs of concurrent maps, with the exits on the way to the report.
-/

namespace IpTools

open TaskPool

/-- The file that `--output-body` names, and whether it can be created. -/
structure OutputBody where
  path : String
  writable : Bool
deriving DecidableEq, Repr

/-- What a run of the flow is configured with and meets: what the resolvers answer and what the
probes give may differ from target to target. -/
structure ProbeFlow (O : Type) where
  concurrency : Nat
  resolvers : Nat → Resolvers
  flags : FamilyFlags
  sni : Option (List Char)
  outputBody : Option OutputBody
  probe : Nat → List Char → SocketAddr → O
  sortKey : O → SocketAddr

variable {O : Type}

def ProbeFlow.resolveTask (flow : ProbeFlow O) (item : Nat × Target) : ResolvedTarget :=
  IpTools.resolveTask (flow.resolvers item.1) flow.flags item

def ProbeFlow.probeTask (flow : ProbeFlow O) (item : ProbeItem) : ProbeItem × O :=
  IpTools.probeTask (flow.probe item.idx) flow.sni item

/-- The exits before the first map. -/
def ProbeFlow.refusesTargets (flow : ProbeFlow O) (targets : List Target) : Bool :=
  targets.isEmpty || flow.outputBody.isSome && 1 < targets.length

def destCount (resolved : List ResolvedTarget) : Nat :=
  (resolved.filterMap (fun r => r.2.map (fun t => t.2.length))).sum

/-- The exits between the maps: the bodies would race into one file, or it cannot be written. -/
def ProbeFlow.refusesDestinations (flow : ProbeFlow O) (resolved : List ResolvedTarget) : Bool :=
  match flow.outputBody with
  | some file => 1 < destCount resolved || destCount resolved = 1 && !file.writable
  | none => false

/-- What `run_probe_flow` can come to have for its report, `none` where it exits before. -/
inductive RunProbeFlow (flow : ProbeFlow O) (targets : List Target) : Option (FlowResult O) → Prop
  | refusedTargets (h : flow.refusesTargets targets = true) : RunProbeFlow flow targets none
  | refusedDestinations {resolved : List ResolvedTarget}
      (h : flow.refusesTargets targets = false)
      (hresolved : ParallelMapped flow.resolveTask flow.concurrency (resolveItems targets) resolved)
      (hrefused : flow.refusesDestinations (sortByIdx resolved) = true) :
      RunProbeFlow flow targets none
  | report {resolved : List ResolvedTarget} {probed : List (ProbeItem × O)}
      (h : flow.refusesTargets targets = false)
      (hresolved : ParallelMapped flow.resolveTask flow.concurrency (resolveItems targets) resolved)
      (haccepted : flow.refusesDestinations (sortByIdx resolved) = false)
      (hprobed : ParallelMapped flow.probeTask flow.concurrency
        (probeItems (sortByIdx resolved)) probed) :
      RunProbeFlow flow targets
        (some (regroup flow.sortKey targets.length (sortByIdx resolved) probed))

/-- The exit code of a run, given whether its report was written. The exits before the report are
failures. -/
def flowExitCode (checks : FlowChecks O) (written : Bool) : Option (FlowResult O) → ExitCode
  | none => .failure
  | some r => r.exitCode checks written

end IpTools
