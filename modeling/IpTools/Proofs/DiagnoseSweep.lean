import IpTools.Proofs.DiagnosePipeline
import IpTools.Proofs.DnsSweep
import IpTools.Proofs.Engine

/-!
# Diagnose sweeps

What a run of `diagnose` can say, from the network to the exit code: which evidence a report rests
on, what its diagnoses mean, and what the flags of the command can and cannot change.
-/

namespace IpTools

open StableSort

/-- The destinations of a target: its addresses in scope, each once and in canonical order. -/
structure DiagnoseArgs.Reaches (args : DiagnoseArgs) (net : DiagnoseNetwork) (target : Target)
    (destinations : List SocketAddr) : Prop where
  nonempty : destinations ≠ []
  nodup : destinations.Nodup
  sorted : Ascending id destinations
  mem_iff : ∀ d, d ∈ destinations ↔ ∃ ip ∈ diagnoseAddresses net.resolvers target,
    args.family.keeps ip = true ∧ d = SocketAddr.new ip target.port

/-- A report has every layer at every destination once, and says what its evidence indicates. -/
structure DiagnoseReport.Covers (report : DiagnoseReport) (args : DiagnoseArgs)
    (net : DiagnoseNetwork) (target : Target) (destinations : List SocketAddr) : Prop where
  name : report.target = String.ofList target.host
  tcp : report.tcp.map TcpObservation.destination = destinations
  tls : report.tls.map TlsObservation.destination = if args.plain then [] else destinations
  http : report.http.map HttpObservation.destination =
    if args.plain then destinations else destinations ++ (destinations ++ destinations)
  probes : report.probes.map (fun p => (p.destination, p.attempts)) =
    destinations.flatMap (fun d => [(d, args.count), (d, args.count)])
  raises : ∀ c, c ≠ .healthy →
    (Raises report.diagnoses c ↔ Indicates net.now report.input c)
  healthy : report.diagnoses = [healthyDiagnosis report.input] ↔
    ∀ c, ¬Indicates net.now report.input c

/-- What `diagnose` has to say about a target. -/
inductive DiagnoseArgs.Diagnosed (args : DiagnoseArgs) (net : DiagnoseNetwork) (target : Target) :
    Option DiagnoseReport → Prop
  | unresolved (h : ∀ ip ∈ diagnoseAddresses net.resolvers target, args.family.keeps ip = false) :
      args.Diagnosed net target none
  | report {destinations : List SocketAddr} {report : DiagnoseReport}
      (hreaches : args.Reaches net target destinations)
      (hcovers : report.Covers args net target destinations) :
      args.Diagnosed net target (some report)

section Report

variable {args : DiagnoseArgs} {net : DiagnoseNetwork} {target : Target}
  {destinations : List SocketAddr}

lemma mem_diagnosePool {resolvers : Resolvers} {family : FamilyScope} {ip : IpAddr} :
    ip ∈ diagnosePool resolvers family target ↔
      ip ∈ diagnoseAddresses resolvers target ∧ family.keeps ip = true := by
  rw [diagnosePool, (sortByKey_perm _ _).mem_iff, List.mem_filter]

lemma reaches_of_eq_some (h : diagnoseDestinations net.resolvers args.family target =
    some destinations) : args.Reaches net target destinations := by
  obtain ⟨hnodup, hsorted⟩ := diagnoseDestinations_sorted h
  rw [diagnoseDestinations_eq] at h
  split at h
  · cases h
  · rename_i hpool
    cases h
    refine ⟨by simpa using hpool, hnodup, hsorted, fun d => ?_⟩
    simp only [List.mem_map, mem_diagnosePool, and_assoc, eq_comm]

lemma unresolved_iff : diagnoseDestinations net.resolvers args.family target = none ↔
    ∀ ip ∈ diagnoseAddresses net.resolvers target, args.family.keeps ip = false := by
  rw [diagnoseDestinations_eq]
  have hpool : diagnosePool net.resolvers args.family target = [] ↔
      ∀ ip ∈ diagnoseAddresses net.resolvers target, args.family.keeps ip = false := by
    rw [List.eq_nil_iff_forall_not_mem]
    simp only [mem_diagnosePool, not_and, Bool.not_eq_true]
  rw [← hpool]
  split <;> simp_all

/-- What is observed at each destination is in the order of the destinations. -/
lemma map_key_map {α : Type} {f : SocketAddr → α} {key : α → SocketAddr}
    (h : ∀ d, key (f d) = d) : (destinations.map f).map key = destinations := by
  have hid : key ∘ f = id := funext h
  rw [List.map_map, hid, List.map_id]

lemma map_destination_tcp [DebugTables] :
    ((args.evidence net target destinations).tcp).map TcpObservation.destination =
      destinations := by
  exact map_key_map (fun d => destination_tcpProbe d _ _)

lemma map_destination_tls [DebugTables] :
    ((args.evidence net target destinations).tls).map TlsObservation.destination =
      if args.plain then [] else destinations := by
  have hplain : (args.probes net (args.presented target)).plain = args.plain := rfl
  unfold DiagnoseArgs.evidence DiagnoseProbes.expected
  dsimp only
  rw [hplain]
  split
  · rfl
  · exact map_key_map (fun d => destination_tlsProbe d _ _ _ _)

lemma map_destination_http [DebugTables] :
    ((args.evidence net target destinations).http).map HttpObservation.destination =
      if args.plain then destinations else destinations ++ (destinations ++ destinations) := by
  unfold DiagnoseArgs.evidence DiagnoseArgs.httpRows
  dsimp only
  split
  · rw [List.append_nil]
    exact map_key_map (fun d => destination_http1 args _ _)
  · rw [List.map_append, List.map_append]
    refine congrArg₂ _ ?_ (congrArg₂ _ ?_ ?_)
    · exact map_key_map (fun d => destination_http1 args _ _)
    · exact map_key_map (fun d => destination_http2Probe _ _ _)
    · exact map_key_map (fun d => destination_http3Probe _ _)

lemma map_destination_probes [DebugTables] :
    ((args.evidence net target destinations).probes).map (fun p => (p.destination, p.attempts)) =
      destinations.flatMap (fun d => [(d, args.count), (d, args.count)]) := by
  unfold DiagnoseArgs.evidence DiagnoseProbes.expected
  dsimp only
  rw [List.map_flatMap]
  rfl

lemma input_of (now : Clock) (input : DiagnosticInput) :
    (DiagnoseReport.of now input).input = input := rfl

lemma diagnoses_of (now : Clock) (input : DiagnosticInput) :
    (DiagnoseReport.of now input).diagnoses = diagnose now input := by
  rw [DiagnoseReport.of]

lemma covers_of [DebugTables]
    : (DiagnoseReport.of net.now (args.evidence net target destinations)).Covers args
    net target destinations where
  name := rfl
  tcp := map_destination_tcp
  tls := map_destination_tls
  http := map_destination_http
  probes := map_destination_probes
  raises := by
    intro c hc
    rw [diagnoses_of, input_of]
    exact diagnose_raises_iff hc
  healthy := by
    rw [diagnoses_of, input_of]
    exact diagnose_eq_healthy_iff

lemma diagnosed_report [DebugTables] : args.Diagnosed net target (args.report net target) := by
  unfold DiagnoseArgs.report
  cases h : diagnoseDestinations net.resolvers args.family target with
  | none => exact .unresolved (unresolved_iff.mp h)
  | some destinations => exact .report (reaches_of_eq_some h) covers_of

end Report

/-- A report is healthy where the engine found nothing to say. -/
lemma countP_category_eq_zero_iff {now : Clock} {report : DiagnoseReport}
    (h : report.diagnoses = diagnose now report.input) :
    report.diagnoses.countP (fun d => d.category ≠ .healthy) = 0 ↔
      report.diagnoses = [healthyDiagnosis report.input] := by
  rw [List.countP_eq_zero, h, diagnose_eq_healthy_iff]
  constructor
  · intro hall c hc
    obtain ⟨g, hg, hcategory⟩ := hc.raises
    have hhealthy : g.category = .healthy := by simpa using hall g hg
    exact hc.ne_healthy (hcategory.symm.trans hhealthy)
  · intro hnone d hd
    have hhealthy := diagnose_eq_healthy_iff.mpr hnone
    rw [hhealthy, List.mem_singleton] at hd
    simp [hd, healthyDiagnosis]

lemma anomalies_eq_zero_iff {sweep : DiagnoseSweep}
    (h : ∀ report ∈ sweep.reports, ∃ now, report.diagnoses = diagnose now report.input) :
    sweep.anomalies = 0 ↔
      ∀ report ∈ sweep.reports, report.diagnoses = [healthyDiagnosis report.input] := by
  unfold DiagnoseSweep.anomalies
  rw [List.countP_eq_zero, List.forall_mem_flatMap]
  refine forall₂_congr (fun report hreport => ?_)
  obtain ⟨now, hnow⟩ := h report hreport
  rw [← countP_category_eq_zero_iff hnow, List.countP_eq_zero]

lemma exitCode_success_iff {args : DiagnoseArgs} {targets : List Target} {written : Bool}
    {sweep : DiagnoseSweep} :
    sweep.exitCode args targets written = .success ↔ targets ≠ [] ∧ written = true ∧
      sweep.unresolved = 0 ∧ (args.strict = true → sweep.anomalies = 0) := by
  unfold DiagnoseSweep.exitCode
  cases targets with
  | nil => simp
  | cons target targets =>
    cases written <;> cases sweep.unresolved <;> cases args.strict <;> cases sweep.anomalies <;>
      simp

lemma exists_now_of_mem_sweep [DebugTables] {args : DiagnoseArgs} {net : Nat → DiagnoseNetwork}
    {targets : List Target} {report : DiagnoseReport}
    (h : report ∈ (args.sweep net targets).reports) :
    ∃ now, report.diagnoses = diagnose now report.input := by
  obtain ⟨output, houtput, hreport⟩ := List.mem_filterMap.mp h
  obtain ⟨item, -, hitem⟩ := List.mem_map.mp houtput
  rw [← hitem] at hreport
  obtain ⟨destinations, -, rfl⟩ := Option.map_eq_some_iff.mp hreport
  exact ⟨_, (diagnoses_of _ _).trans (congrArg _ (input_of _ _).symm)⟩

/-- However its tasks interleave, a sweep has one outcome: each target in its place has its report
or no address, the diagnoses of a report are what its evidence indicates, and the command succeeds
exactly where every target was diagnosed and, under `--strict`, found healthy. -/
theorem runDiagnose_complete [DebugTables] (args : DiagnoseArgs) (net : Nat → DiagnoseNetwork)
    (targets : List Target) :
    ∃ sweep outputs, (∀ sweep', RunDiagnose args net targets sweep' ↔ sweep' = sweep) ∧
      List.Forall₂ (fun item output => args.Diagnosed (net item.1) item.2 output)
        (resolveItems targets) outputs ∧
      sweep.reports = outputs.filterMap id ∧ sweep.unresolved = outputs.countP Option.isNone ∧
      ∀ written, sweep.exitCode args targets written = .success ↔
        targets ≠ [] ∧ written = true ∧ none ∉ outputs ∧ (args.strict = true →
          ∀ report ∈ sweep.reports, report.diagnoses = [healthyDiagnosis report.input]) := by
  refine ⟨args.sweep net targets,
    (resolveItems targets).map (fun item => args.report (net item.1) item.2),
    runDiagnose_iff args net targets, ?_, by rw [DiagnoseArgs.sweep], by rw [DiagnoseArgs.sweep],
    fun written => ?_⟩
  · rw [List.forall₂_map_right_iff, List.forall₂_same]
    exact fun item _ => diagnosed_report
  · have hunresolved : (args.sweep net targets).unresolved = 0 ↔
        none ∉ (resolveItems targets).map (fun item => args.report (net item.1) item.2) := by
      unfold DiagnoseArgs.sweep
      dsimp only
      rw [List.countP_eq_zero]
      constructor
      · intro hall hnone
        exact hall none hnone rfl
      · rintro hnone (- | report) houtput
        · exact absurd houtput hnone
        · exact Bool.false_ne_true
    rw [exitCode_success_iff, hunresolved,
      anomalies_eq_zero_iff (fun report => exists_now_of_mem_sweep)]

end IpTools
