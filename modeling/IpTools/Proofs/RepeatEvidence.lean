import IpTools.Diagnostics.Repeat
import IpTools.Library.RunningDedup
import IpTools.Proofs.TcpEvidence

/-!
# What the repeated-probe rules read off the probe results

The three rules are one loop: each reports, destination by destination, the first probe that
meets its guard.
-/

namespace IpTools

section Loop

variable {guard : ProbeResult → Bool} {diagnosis : ProbeResult → Diagnosis}

theorem reportOnce_eq (reported : List SocketAddr) (probes : List ProbeResult) :
    reportOnce guard diagnosis reported probes =
      (RunningDedup.firsts ProbeResult.destination reported (probes.filter guard)).map
        diagnosis := by
  induction probes generalizing reported with
  | nil => rfl
  | cons p probes ih =>
    unfold reportOnce
    by_cases hg : guard p = true
    · rw [List.filter_cons_of_pos hg]
      by_cases hr : p.destination ∈ reported
      · rw [RunningDedup.firsts_cons_of_mem hr, ← ih]
        simp [hg, hr]
      · rw [RunningDedup.firsts_cons_of_notMem hr, List.map_cons, ← ih]
        simp [hg, hr]
    · rw [List.filter_cons_of_neg hg, ← ih]
      simp [hg]

/-- Each diagnosis of the loop comes from a probe that meets the guard. -/
lemma mem_reportOnce {probes : List ProbeResult} {g : Diagnosis}
    (hg : g ∈ reportOnce guard diagnosis [] probes) :
    ∃ p ∈ probes, guard p = true ∧ diagnosis p = g := by
  rw [reportOnce_eq] at hg
  obtain ⟨p, hp, rfl⟩ := List.mem_map.mp hg
  have hmem := (RunningDedup.mem_of_mem_firsts hp).1
  exact ⟨p, (List.mem_filter.mp hmem).1, (List.mem_filter.mp hmem).2, rfl⟩

lemma verdict_of_mem_reportOnce {probes : List ProbeResult} {v : Verdict}
    (hverdict : ∀ p, (diagnosis p).verdict = v) :
    ∀ g ∈ reportOnce guard diagnosis [] probes, g.verdict = v := by
  intro g hg
  obtain ⟨p, -, -, rfl⟩ := mem_reportOnce hg
  exact hverdict p

lemma reportOnce_ne_nil_iff {probes : List ProbeResult} :
    reportOnce guard diagnosis [] probes ≠ [] ↔ ∃ p ∈ probes, guard p = true := by
  rw [reportOnce_eq, ne_eq, List.map_eq_nil_iff, RunningDedup.firsts_eq_nil_iff,
    List.filter_eq_nil_iff]
  push Not
  rfl

/-- A probe speaks when it is the first of its destination to meet the guard. -/
theorem reportOnce_append_singleton (probes : List ProbeResult) (p : ProbeResult) :
    reportOnce guard diagnosis [] (probes ++ [p]) =
      reportOnce guard diagnosis [] probes ++
        if guard p = true ∧ ∀ q ∈ probes, guard q = true → q.destination ≠ p.destination then
          [diagnosis p]
        else [] := by
  rw [reportOnce_eq, reportOnce_eq, List.filter_append]
  by_cases hg : guard p = true
  · rw [List.filter_cons_of_pos hg, List.filter_nil, RunningDedup.firsts_append_singleton,
      List.map_append]
    congr 1
    have hseen : p.destination ∈ [] ∨
        p.destination ∈ (probes.filter guard).map ProbeResult.destination ↔
          ¬∀ q ∈ probes, guard q = true → q.destination ≠ p.destination := by
      simp [and_assoc]
    by_cases hnew : ∀ q ∈ probes, guard q = true → q.destination ≠ p.destination
    · rw [if_neg (fun h => hseen.mp h hnew), if_pos ⟨hg, hnew⟩, List.map_singleton]
    · rw [if_pos (hseen.mpr hnew), if_neg (fun h => hnew h.2), List.map_nil]
  · rw [List.filter_cons_of_neg hg, List.filter_nil, List.append_nil, if_neg (fun h => hg h.1),
      List.append_nil]

end Loop

lemma intermittentDiagnosis_verdict (p : ProbeResult) :
    (intermittentDiagnosis p).verdict = (.medium, .intermittent, .high) := rfl

lemma flappingDiagnosis_verdict (p : ProbeResult) :
    (flappingDiagnosis p).verdict = (.low, .intermittent, .high) := rfl

lemma unstableDiagnosis_verdict (p : ProbeResult) :
    (unstableDiagnosis p).verdict = (.low, .intermittent, .high) := rfl

/-- A probe of which some attempt failed and none succeeded. -/
def ProbeResult.whollyFailed (p : ProbeResult) : Bool := p.failures > 0 && p.successes = 0

/-- No guard admits a wholly failed probe: the rules look for a change between attempts. -/
lemma ProbeResult.whollyFailed.guards {p : ProbeResult} (hp : p.whollyFailed = true) :
    isIntermittent p = false ∧ isFlapping p = false ∧ isUnstable p = false := by
  simp only [ProbeResult.whollyFailed, Bool.and_eq_true, decide_eq_true_eq] at hp
  obtain ⟨hf, hs⟩ := hp
  refine ⟨?_, ?_, ?_⟩
  · simp [isIntermittent, hs]
  · simp [isFlapping, hf]
  · simp [isUnstable, hf]

end IpTools
