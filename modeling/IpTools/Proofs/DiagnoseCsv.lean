import IpTools.Cli.DiagnoseCsv
import IpTools.Proofs.CsvRows
import IpTools.Proofs.DiagnoseFlags

/-!
# What the CSV output of a sweep tells

The rows of a sweep are read back as its diagnoses, target by target, and the verdict under
`--strict` is told by their categories alone.
-/

namespace IpTools

open Csv

lemma category_name_injective : Function.Injective DiagnosticCategory.name := by
  intro c c' h
  cases c <;> cases c' <;> first | rfl | exact absurd h (by decide)

def diagnoseCsvColumns : List String :=
  ["host", "severity", "category", "confidence", "summary", "evidence", "possible_causes"]

def diagnoseCsvValues (target : String) (d : Diagnosis) : List String :=
  [target, d.severity.name, d.category.name, d.confidence.name, d.summary,
    joinSemis (d.evidence.map Evidence.detail), joinSemis d.possibleCauses]

def DiagnoseReport.csvRows (report : DiagnoseReport) : List (List String) :=
  report.diagnoses.map (diagnoseCsvValues report.target)

lemma diagnoseCsvRow_records (target : String) (d : Diagnosis) :
    Records (diagnoseCsvRow target d) [diagnoseCsvValues target d] := by
  have hrow := fields_cell (csvField_writes target)
    |>.cell (csvField_writes d.severity.name)
    |>.cell (csvField_writes d.category.name)
    |>.cell (csvField_writes d.confidence.name)
    |>.cell (csvField_writes d.summary)
    |>.cell (csvField_writes (joinSemis (d.evidence.map Evidence.detail)))
    |>.record (csvField_writes (joinSemis d.possibleCauses))
  exact hrow

lemma renderDiagnoseCsv_records (reports : List DiagnoseReport) :
    Records (renderDiagnoseCsv reports)
      (diagnoseCsvColumns :: reports.flatMap DiagnoseReport.csvRows) := by
  have hheader : Records diagnoseCsvHeader [diagnoseCsvColumns] := by
    have htext : diagnoseCsvHeader = ",".intercalate diagnoseCsvColumns ++ "\n" := by
      decide +kernel
    rw [htext]
    exact records_intercalate (show ∀ s ∈ diagnoseCsvColumns, CharClass.All IsRaw s by decide)
  exact hheader.append (records_join (fun r _ =>
    records_map (fun d _ => diagnoseCsvRow_records r.target d)))

/-- A row is one diagnosis of one report. -/
lemma mem_csvRows_iff {reports : List DiagnoseReport} {row : List String} :
    row ∈ reports.flatMap DiagnoseReport.csvRows ↔
      ∃ report ∈ reports, ∃ d ∈ report.diagnoses, diagnoseCsvValues report.target d = row := by
  rw [List.mem_flatMap]
  simp only [DiagnoseReport.csvRows, List.mem_map]

/-- A target has a row of a category where that category is raised for it. -/
lemma category_row_iff {reports : List DiagnoseReport} {host : String}
    {category : DiagnosticCategory} :
    (∃ row ∈ reports.flatMap DiagnoseReport.csvRows,
        row[0]? = some host ∧ row[2]? = some category.name) ↔
      ∃ report ∈ reports, report.target = host ∧ Raises report.diagnoses category := by
  constructor
  · rintro ⟨row, hrow, hhost, hcategory⟩
    obtain ⟨report, hreport, d, hd, rfl⟩ := mem_csvRows_iff.mp hrow
    have hname : d.category.name = category.name := Option.some.inj hcategory
    exact ⟨report, hreport, Option.some.inj hhost, d, hd, category_name_injective hname⟩
  · rintro ⟨report, hreport, rfl, d, hd, rfl⟩
    exact ⟨_, mem_csvRows_iff.mpr ⟨report, hreport, d, hd, rfl⟩, rfl, rfl⟩

lemma anomalies_eq_zero_iff_rows (sweep : DiagnoseSweep) :
    sweep.anomalies = 0 ↔ ∀ row ∈ sweep.reports.flatMap DiagnoseReport.csvRows,
      row[2]? = some DiagnosticCategory.healthy.name := by
  unfold DiagnoseSweep.anomalies
  rw [List.countP_eq_zero, List.forall_mem_flatMap]
  constructor
  · intro hall row hrow
    obtain ⟨report, hreport, d, hd, rfl⟩ := mem_csvRows_iff.mp hrow
    have hhealthy : d.category = .healthy := by simpa using hall report hreport d hd
    exact congrArg (fun c => some (DiagnosticCategory.name c)) hhealthy
  · intro hall report hreport d hd
    have hname := hall _ (mem_csvRows_iff.mpr ⟨report, hreport, d, hd, rfl⟩)
    have hhealthy : d.category = .healthy := category_name_injective (Option.some.inj hname)
    simp [hhealthy]

/-- The rows of a sweep are its diagnoses, target by target: each target that was diagnosed has one
at least, and has one of a category where the category is raised for it. Under `--strict` the
command succeeds where no target is left out and every row is healthy. -/
theorem diagnose_csv_verdict [DebugTables] {args : DiagnoseArgs} {net : Nat → DiagnoseNetwork}
    {targets : List Target} {sweep : DiagnoseSweep} (h : RunDiagnose args net targets sweep) :
    ∃ rows, Csv.read (renderDiagnoseCsv sweep.reports).toList =
        some (diagnoseCsvColumns :: rows.flatten) ∧
      List.Forall₂ (fun report (rows : List (List String)) => rows ≠ [] ∧
        rows = report.diagnoses.map (diagnoseCsvValues report.target)) sweep.reports rows ∧
      (∀ host category,
        (∃ row ∈ rows.flatten, row[0]? = some host ∧
            row[2]? = some (DiagnosticCategory.name category)) ↔
          ∃ report ∈ sweep.reports, report.target = host ∧ Raises report.diagnoses category) ∧
      ∀ written, sweep.exitCode args targets written = .success ↔ targets ≠ [] ∧
        written = true ∧ sweep.unresolved = 0 ∧
          (args.strict = true → ∀ row ∈ rows.flatten, row[2]? = some "healthy") := by
  have hflat : (sweep.reports.map DiagnoseReport.csvRows).flatten =
      sweep.reports.flatMap DiagnoseReport.csvRows := (List.flatMap_def ..).symm
  refine ⟨sweep.reports.map DiagnoseReport.csvRows, ?_, ?_, ?_, ?_⟩
  · rw [hflat]
    exact (renderDiagnoseCsv_records sweep.reports).read_eq
  · rw [List.forall₂_map_right_iff, List.forall₂_same]
    intro report hreport
    rw [(runDiagnose_iff args net targets sweep).mp h] at hreport
    obtain ⟨now, hnow⟩ := exists_now_of_mem_sweep hreport
    have hne : report.diagnoses ≠ [] := by
      rw [hnow, diagnose_eq_run]
      exact RuleEngine.run_ne_nil
    exact ⟨fun hnil => hne (List.map_eq_nil_iff.mp hnil), rfl⟩
  · intro host category
    rw [hflat]
    exact category_row_iff
  · intro written
    rw [hflat, exitCode_success_iff, anomalies_eq_zero_iff_rows]
    rfl

/-- A sweep of a literal and a name over a silent network. -/
theorem diagnose_csv_verdict_silent :
    letI := DebugTables.none
    let net : Nat → DiagnoseNetwork := fun _ => .silent plainArgs.timeout
    let sweep := plainArgs.sweep net twoTargets
    ∃ rows, Csv.read (renderDiagnoseCsv sweep.reports).toList =
        some (diagnoseCsvColumns :: rows.flatten) ∧
      List.Forall₂ (fun report (rows : List (List String)) => rows ≠ [] ∧
        rows = report.diagnoses.map (diagnoseCsvValues report.target)) sweep.reports rows ∧
      (∀ host category,
        (∃ row ∈ rows.flatten, row[0]? = some host ∧
            row[2]? = some (DiagnosticCategory.name category)) ↔
          ∃ report ∈ sweep.reports, report.target = host ∧ Raises report.diagnoses category) ∧
      ∀ written, sweep.exitCode plainArgs twoTargets written = .success ↔ twoTargets ≠ [] ∧
        written = true ∧ sweep.unresolved = 0 ∧
          (plainArgs.strict = true → ∀ row ∈ rows.flatten, row[2]? = some "healthy") := by
  let := DebugTables.none
  exact diagnose_csv_verdict ((runDiagnose_iff _ _ _ _).mpr rfl)

end IpTools
