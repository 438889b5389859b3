import IpTools.Cli.RunDiagnose
import IpTools.Proofs.ProbeOrder

/-!
# The diagnose pipeline

Whatever the interleaving of its tasks, a sweep comes to the reports of its targets in their order.
The evidence of a report covers every layer at every destination, once.
-/

namespace IpTools

open StableSort TaskPool

lemma destination_driveHttp1 (probe : HttpProbe) (tls : Option TlsObservation)
    (transport : HttpTransport) :
    (driveHttp1 probe tls transport).destination = probe.destination := by
  unfold driveHttp1
  dsimp only
  split
  · rfl
  · rfl
  · split
    · rfl
    · split
      · rfl
      · rfl
      · split <;> rfl

lemma destination_http1 [DebugTables] (args : DiagnoseArgs) (probe : HttpProbe)
    (transport : TlsTransport × HttpTransport) :
    (args.http1 probe transport).destination = probe.destination := by
  unfold DiagnoseArgs.http1 httpProbePlain httpProbe
  split
  · split
    · rfl
    · rfl
    · exact destination_driveHttp1 _ _ _
  · split
    · rfl
    · exact destination_driveHttp1 _ _ _

lemma destination_driveHttp2 (probe : HttpProbe) (tls : TlsObservation)
    (transport : Http2Transport) :
    (driveHttp2 probe tls transport).destination = probe.destination := by
  unfold driveHttp2
  dsimp only
  split
  · rfl
  · rfl
  · split
    · rfl
    · split
      · rfl
      · split
        · rfl
        · split
          · rfl
          · rfl
          · split <;> rfl

lemma destination_http2Probe [DebugTables] (probe : HttpProbe) (tls : TlsTransport)
    (transport : Http2Transport) :
    (http2Probe probe tls transport).destination = probe.destination := by
  unfold http2Probe
  split
  · rfl
  · exact destination_driveHttp2 _ _ _

lemma destination_http3Probe (probe : HttpProbe) (transport : Http3Transport) :
    (http3Probe probe transport).destination = probe.destination := by
  unfold http3Probe
  dsimp only
  split <;> rfl

/-- The addresses to probe are the pool of the target, at its port. -/
lemma diagnoseDestinations_eq (resolvers : Resolvers) (family : FamilyScope) (target : Target) :
    diagnoseDestinations resolvers family target =
      if diagnosePool resolvers family target = [] then none
      else some ((diagnosePool resolvers family target).map
        (fun ip => SocketAddr.new ip target.port)) := by
  have hempty : ((diagnoseAddresses resolvers target).filter family.keeps).isEmpty = true ↔
      diagnosePool resolvers family target = [] := by
    rw [List.isEmpty_iff, diagnosePool]
    constructor
    · intro h
      rw [h]
      exact List.mergeSort_nil
    · intro h
      have hperm := sortByKey_perm id ((diagnoseAddresses resolvers target).filter family.keeps)
      rw [h] at hperm
      exact hperm.nil_eq.symm
  unfold diagnoseDestinations
  dsimp only
  by_cases h : diagnosePool resolvers family target = []
  · rw [if_pos (hempty.mpr h), if_pos h]
  · rw [if_neg (fun he => h (hempty.mp he)), if_neg h]
    rfl

section Target

variable (args : DiagnoseArgs) (net : DiagnoseNetwork) (target : Target)

/-- The rows of the HTTP layer: protocol by protocol, each in the order of the destinations. -/
def DiagnoseArgs.httpRows [DebugTables] (presented : String) (destinations : List SocketAddr) :
    List HttpObservation :=
  destinations.map (args.http1Task net presented) ++
    if args.plain then []
    else destinations.map (args.http2Task net presented) ++
      destinations.map (args.http3Task net presented)

/-- What the engine is given for a target, as a function of the network. -/
def DiagnoseArgs.evidence [DebugTables] (destinations : List SocketAddr) : DiagnosticInput :=
  let lists := (args.probes net (args.presented target)).expected destinations
  { hostname := String.ofList target.host
    dns := args.dnsRows net target
    tcp := lists.tcp
    tls := lists.tls
    http := args.httpRows net (args.presented target) destinations
    probes := lists.probes }

/-- The report of a target, as a function of the network. -/
def DiagnoseArgs.report [DebugTables] : Option DiagnoseReport :=
  (diagnoseDestinations net.resolvers args.family target).map
    (fun destinations => .of net.now (args.evidence net target destinations))

variable {args net target}

lemma collectHttpProbes_iff [DebugTables] {presented : String} {destinations : List SocketAddr}
    (hnodup : destinations.Nodup) (hsorted : Ascending id destinations)
    (http : List HttpObservation) :
    CollectHttpProbes args net presented destinations http ↔
      http = args.httpRows net presented destinations := by
  have hsame : ∀ {f : SocketAddr → HttpObservation} {out : List HttpObservation},
      (∀ d, (f d).destination = d) → ParallelMapped f args.concurrency destinations out →
      sortByKey HttpObservation.destination out = destinations.map f :=
    fun hkey h => sortByKey_parallelMapped hnodup hsorted hkey h
  have h1Key : ∀ d, (args.http1Task net presented d).destination = d :=
    fun d => destination_http1 args _ _
  have h2Key : ∀ d, (args.http2Task net presented d).destination = d :=
    fun d => destination_http2Probe _ _ _
  have h3Key : ∀ d, (args.http3Task net presented d).destination = d :=
    fun d => destination_http3Probe _ _
  unfold DiagnoseArgs.httpRows
  constructor
  · rintro ⟨h1, h2, h3⟩
    rw [hsame h1Key h1, hsame h2Key h2, hsame h3Key h3]
  · rintro rfl
    obtain ⟨http1, h1⟩ :=
      exists_parallelMapped (args.http1Task net presented) args.concurrency destinations
    obtain ⟨http2, h2⟩ :=
      exists_parallelMapped (args.http2Task net presented) args.concurrency destinations
    obtain ⟨http3, h3⟩ :=
      exists_parallelMapped (args.http3Task net presented) args.concurrency destinations
    rw [← hsame h1Key h1, ← hsame h2Key h2, ← hsame h3Key h3]
    exact .collected h1 h2 h3

lemma diagnoseTarget_iff [DebugTables] (report : Option DiagnoseReport) :
    DiagnoseTarget args net target report ↔ report = args.report net target := by
  unfold DiagnoseArgs.report
  constructor
  · intro h
    cases h with
    | unresolved h =>
      rw [h]
      rfl
    | report h hlists hhttp =>
      obtain ⟨hnodup, hsorted⟩ := diagnoseDestinations_sorted h
      rw [h, Option.map_some, (diagnoseOne_iff hnodup hsorted _ _).mp hlists,
        (collectHttpProbes_iff hnodup hsorted _).mp hhttp]
      rfl
  · rintro rfl
    cases h : diagnoseDestinations net.resolvers args.family target with
    | none => exact .unresolved h
    | some destinations =>
      obtain ⟨hnodup, hsorted⟩ := diagnoseDestinations_sorted h
      exact .report h ((diagnoseOne_iff hnodup hsorted _ _).mpr rfl)
        ((collectHttpProbes_iff hnodup hsorted _).mpr rfl)

end Target

/-- The reports of a sweep, as a function of the networks that its targets meet. -/
def DiagnoseArgs.sweep [DebugTables] (args : DiagnoseArgs) (net : Nat → DiagnoseNetwork)
    (targets : List Target) : DiagnoseSweep :=
  let reports := (resolveItems targets).map (fun item => args.report (net item.1) item.2)
  { reports := reports.filterMap id
    unresolved := reports.countP Option.isNone }

lemma runDiagnose_iff [DebugTables] (args : DiagnoseArgs) (net : Nat → DiagnoseNetwork)
    (targets : List Target) (sweep : DiagnoseSweep) :
    RunDiagnose args net targets sweep ↔ sweep = args.sweep net targets := by
  have hrun : ∀ {report : Nat × Target → Option DiagnoseReport}
      {indexed : List (Nat × Option DiagnoseReport)},
      (∀ item ∈ resolveItems targets, DiagnoseTarget args (net item.1) item.2 (report item)) →
      ParallelMapped (fun item => (item.1, report item)) args.concurrency (resolveItems targets)
        indexed →
      sweepReports indexed = args.sweep net targets := by
    intro report indexed hreport hindexed
    obtain ⟨s, n, hcompleted, rfl⟩ := hindexed
    obtain ⟨order, hperm, hreturned⟩ := hcompleted.exists_order
    have hsorted := sortByIdx_order (f := fun item : Nat × Target => (item.1, report item))
      (fun _ => rfl) hperm ⟨_, map_fst_resolveItems targets⟩
    have hreports : (resolveItems targets).map (fun item => args.report (net item.1) item.2) =
        (resolveItems targets).map report :=
      List.map_congr_left (fun item hitem => ((diagnoseTarget_iff _).mp (hreport item hitem)).symm)
    unfold sweepReports DiagnoseArgs.sweep
    rw [hreturned, hsorted, hreports]
    dsimp only
    rw [List.filterMap_map, List.countP_map, List.filterMap_map, List.countP_map]
    rfl
  constructor
  · rintro ⟨hreport, hindexed⟩
    exact hrun hreport hindexed
  · rintro rfl
    have hreport : ∀ item ∈ resolveItems targets,
        DiagnoseTarget args (net item.1) item.2 (args.report (net item.1) item.2) :=
      fun item _ => (diagnoseTarget_iff _).mpr rfl
    obtain ⟨indexed, hindexed⟩ := exists_parallelMapped
      (fun item : Nat × Target => (item.1, args.report (net item.1) item.2)) args.concurrency
      (resolveItems targets)
    rw [← hrun hreport hindexed]
    exact .swept hreport hindexed

end IpTools
