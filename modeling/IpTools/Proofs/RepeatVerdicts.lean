import IpTools.Library.Delimited
import IpTools.Proofs.Completeness
import IpTools.Proofs.Display

/-!
# The verdicts on repeated probes

The three repeat rules keep lists of their own of the destinations they reported. Each rule
reports a destination once; between the rules nothing but their guards keeps a destination from
being reported again, and the guard of the latency rule does not look at the statuses.
-/

namespace IpTools

/-- The latency rule, having read the probes before `p`, adds `g` when it reads `p`. -/
def RaisedFor (input : DiagnosticInput) (p : ProbeResult) (g : Diagnosis) : Prop :=
  ∃ before after, input.probes = before ++ p :: after ∧
    latencyInstabilityRules { input with probes := before ++ [p] } =
      latencyInstabilityRules { input with probes := before } ++ [g]

/-- The first probe of its destination that meets the guard of the latency rule. -/
def FirstUnstable (probes : List ProbeResult) (p : ProbeResult) : Prop :=
  isUnstable p = true ∧ ∃ before after, probes = before ++ p :: after ∧
    ∀ q ∈ before, isUnstable q = true → q.destination ≠ p.destination

lemma isUnstable.no_failures {p : ProbeResult} (h : isUnstable p = true) : p.failures = 0 := by
  simp only [isUnstable, Bool.and_eq_true, Bool.not_eq_true', Bool.or_eq_false_iff,
    decide_eq_false_iff_not] at h
  omega

lemma raisedFor_iff {input : DiagnosticInput} {p : ProbeResult} {g : Diagnosis} :
    RaisedFor input p g ↔ FirstUnstable input.probes p ∧ g = unstableDiagnosis p := by
  have hstep : ∀ before, latencyInstabilityRules { input with probes := before ++ [p] } =
      latencyInstabilityRules { input with probes := before } ++ [g] ↔
        (isUnstable p = true ∧ ∀ q ∈ before, isUnstable q = true → q.destination ≠ p.destination) ∧
          g = unstableDiagnosis p := by
    intro before
    unfold latencyInstabilityRules
    rw [reportOnce_append_singleton, List.append_cancel_left_eq]
    split
    · next h =>
      rw [List.cons.injEq]
      exact ⟨fun he => ⟨h, he.1.symm⟩, fun he => ⟨he.2.symm, rfl⟩⟩
    · next h =>
      exact ⟨fun he => absurd he (by simp), fun he => absurd he.1 h⟩
  constructor
  · rintro ⟨before, after, hprobes, hraised⟩
    obtain ⟨⟨hunstable, hfirst⟩, hg⟩ := (hstep before).mp hraised
    exact ⟨⟨hunstable, before, after, hprobes, hfirst⟩, hg⟩
  · rintro ⟨⟨hunstable, before, after, hprobes, hfirst⟩, hg⟩
    exact ⟨before, after, hprobes, (hstep before).mpr ⟨⟨hunstable, hfirst⟩, hg⟩⟩

/-- Every diagnosis of the rule is raised for some probe. -/
lemma exists_raisedFor {input : DiagnosticInput} {g : Diagnosis}
    (hg : g ∈ latencyInstabilityRules input) : ∃ p, RaisedFor input p g := by
  suffices h : ∀ probes : List ProbeResult, g ∈ reportOnce isUnstable unstableDiagnosis [] probes →
      ∃ p, FirstUnstable probes p ∧ g = unstableDiagnosis p by
    obtain ⟨p, hp⟩ := h input.probes hg
    exact ⟨p, raisedFor_iff.mpr hp⟩
  intro probes
  induction probes using List.reverseRecOn with
  | nil => intro hg; exact absurd hg List.not_mem_nil
  | append_singleton probes p ih =>
    intro hg
    rw [reportOnce_append_singleton, List.mem_append] at hg
    rcases hg with hg | hg
    · obtain ⟨q, ⟨hunstable, before, after, hprobes, hfirst⟩, hq⟩ := ih hg
      exact ⟨q, ⟨hunstable, before, after ++ [p], by simp [hprobes], hfirst⟩, hq⟩
    · split at hg
      · next h =>
        exact ⟨p, ⟨h.1, probes, [], rfl, h.2⟩, List.mem_singleton.mp hg⟩
      · exact absurd hg List.not_mem_nil

/-- The evidence of the latency verdicts, that transport and HTTP status were stable, is true
exactly if no first unstable probe of a destination saw both 2xx and other statuses. -/
theorem latency_evidence_true_iff (input : DiagnosticInput) :
    (∀ g ∈ latencyInstabilityRules input, ∃ p, RaisedFor input p g) ∧
      ((∀ p g, RaisedFor input p g → p.failures = 0 ∧ mixedStatus p = false) ↔
        ∀ p, FirstUnstable input.probes p → mixedStatus p = false) := by
  refine ⟨fun g hg => exists_raisedFor hg, ?_⟩
  constructor
  · intro h p hp
    exact (h p _ (raisedFor_iff.mpr ⟨hp, rfl⟩)).2
  · intro h p g hraised
    obtain ⟨hp, -⟩ := raisedFor_iff.mp hraised
    exact ⟨isUnstable.no_failures hp.1, h p hp⟩

/-- Three answered attempts with a slow tail, one of them a 503. -/
def slowAndFlapping : ProbeResult :=
  { probed (sampleV4 1) 3 0 with
    latency := ⟨3, some 10, some 12, some 95, some 95, some 95, some 95, some 39, some 39,
      [10, 12, 95]⟩
    failureCounts := []
    statusCounts := [⟨200, 2⟩, ⟨503, 1⟩] }

def slowAndFlappingInput : DiagnosticInput := { tcpOnly [] with probes := [slowAndFlapping] }

theorem latency_evidence_false_for_flapping :
    unstableDiagnosis slowAndFlapping ∈ latencyInstabilityRules slowAndFlappingInput ∧
      RaisedFor slowAndFlappingInput slowAndFlapping (unstableDiagnosis slowAndFlapping) ∧
      ¬(slowAndFlapping.failures = 0 ∧ mixedStatus slowAndFlapping = false) :=
  ⟨List.mem_cons_self, ⟨[], [], rfl, rfl⟩, by decide⟩

inductive RepeatRule where
  | intermittent
  | flapping
  | unstable
deriving DecidableEq, Repr

namespace RepeatRule

def all : List RepeatRule := [intermittent, flapping, unstable]

def guard : RepeatRule → ProbeResult → Bool
  | intermittent => isIntermittent
  | flapping => isFlapping
  | unstable => isUnstable

def diagnosis : RepeatRule → ProbeResult → Diagnosis
  | intermittent => intermittentDiagnosis
  | flapping => flappingDiagnosis
  | unstable => unstableDiagnosis

/-- What precedes the destination in the summaries of the rule. -/
def lead : RepeatRule → String
  | intermittent => "Intermittent connectivity to "
  | flapping => "HTTP status flapping for "
  | unstable => "Latency instability for "

/-- The summaries of different rules differ in their first character. -/
def initial : RepeatRule → Char
  | intermittent => 'I'
  | flapping => 'H'
  | unstable => 'L'

lemma lead_eq (r : RepeatRule) : ∃ tail, r.lead.toList = r.initial :: tail := by
  cases r <;> exact ⟨_, rfl⟩

lemma initial_injective : Function.Injective initial := by
  intro r r' h
  cases r <;> cases r' <;> first | rfl | exact absurd h (by decide)

lemma mem_all (r : RepeatRule) : r ∈ all := by
  cases r <;> decide

lemma category_eq (r : RepeatRule) (p : ProbeResult) :
    (r.diagnosis p).category = .intermittent := by
  cases r <;> rfl

lemma summary_eq (r : RepeatRule) (p : ProbeResult) : ∃ rest : String,
    (r.diagnosis p).summary = r.lead ++ (toString p.destination ++ (" (" ++ rest)) := by
  cases r with
  | intermittent =>
    refine ⟨formatTenths (p.successRate * 100.0) ++ "% success)", ?_⟩
    simp only [diagnosis, intermittentDiagnosis, lead, String.append_assoc]
    rfl
  | flapping =>
    refine ⟨formatTenths (p.successRate * 100.0) ++ "% transport success)", ?_⟩
    simp only [diagnosis, flappingDiagnosis, lead, String.append_assoc]
    rfl
  | unstable =>
    let p50 := (p.latency.p50.getD 0).toNat
    let p95 := (p.latency.p95.getD 0).toNat
    refine ⟨s!"p95 {p95} ms vs p50 {p50} ms)", ?_⟩
    simp only [diagnosis, unstableDiagnosis, lead, String.append_assoc]
    rfl

end RepeatRule

/-- The summary starts by naming the destination, as one of the repeat rules does. -/
def names (d : SocketAddr) (g : Diagnosis) : Bool :=
  RepeatRule.all.any (fun r => (r.lead ++ (toString d ++ " (")).toList.isPrefixOf g.summary.toList)

lemma space_notMem_socketAddr (d : SocketAddr) : ' ' ∉ (toString d).toList :=
  fun h => absurd (bare_socketAddr d ' ' h) (by decide)

/-- A repeat rule's diagnosis names the destinations that print like its own. -/
lemma names_diagnosis_iff (d : SocketAddr) (r : RepeatRule) (p : ProbeResult) :
    names d (r.diagnosis p) = true ↔ toString p.destination = toString d := by
  obtain ⟨rest, hsummary⟩ := r.summary_eq p
  have hright : (r.diagnosis p).summary.toList = r.lead.toList ++
      ((toString p.destination).toList ++ ' ' :: (['('] ++ rest.toList)) := by
    rw [hsummary, String.toList_append, String.toList_append, String.toList_append]
    rfl
  have hstarts : ∀ r' : RepeatRule, (r'.lead ++ (toString d ++ " (")).toList.isPrefixOf
      (r.diagnosis p).summary.toList = true ↔ r' = r ∧ toString p.destination = toString d := by
    intro r'
    have hleft : (r'.lead ++ (toString d ++ " (")).toList =
        r'.lead.toList ++ ((toString d).toList ++ ' ' :: ['(']) := by
      rw [String.toList_append, String.toList_append]
      rfl
    rw [List.isPrefixOf_iff_prefix, hleft, hright]
    by_cases hr : r' = r
    · rw [hr, List.prefix_append_right_inj, Delimited.starts_iff (space_notMem_socketAddr d)
        (space_notMem_socketAddr p.destination), String.toList_inj]
      exact ⟨fun h => ⟨rfl, h.symm⟩, fun h => h.2.symm⟩
    · obtain ⟨tail, htail⟩ := r.lead_eq
      obtain ⟨tail', htail'⟩ := r'.lead_eq
      rw [htail, htail', List.cons_append, List.cons_append, List.cons_prefix_cons]
      exact ⟨fun h => absurd (RepeatRule.initial_injective h.1) hr, fun h => absurd h.1 hr⟩
  unfold names
  rw [List.any_eq_true]
  simp only [hstarts]
  constructor
  · rintro ⟨r', -, -, h⟩
    exact h
  · intro h
    exact ⟨r, r.mem_all, rfl, h⟩

/-- The probes the three rules report, in the order of their diagnoses. -/
def reports (probes : List ProbeResult) : List (RepeatRule × ProbeResult) :=
  RepeatRule.all.flatMap (fun r =>
    (RunningDedup.firsts ProbeResult.destination [] (probes.filter r.guard)).map (fun p => (r, p)))

/-- How many intermittent diagnoses of the three rules name the destination. -/
def namings (input : DiagnosticInput) (d : SocketAddr) : Nat :=
  (intermittentRules input ++ httpStatusFlappingRules input ++
    latencyInstabilityRules input).countP (fun g => g.category = .intermittent && names d g)

lemma repeatRules_eq (input : DiagnosticInput) :
    intermittentRules input ++ httpStatusFlappingRules input ++ latencyInstabilityRules input =
      (reports input.probes).map (fun e => e.1.diagnosis e.2) := by
  unfold intermittentRules httpStatusFlappingRules latencyInstabilityRules reports
  simp only [reportOnce_eq, RepeatRule.all, List.flatMap_cons, List.flatMap_nil, List.append_nil,
    List.map_append, List.map_map, List.append_assoc]
  rfl

lemma namings_eq (input : DiagnosticInput) (d : SocketAddr) :
    namings input d =
      ((reports input.probes).map (fun e => toString e.2.destination)).count (toString d) := by
  unfold namings
  rw [repeatRules_eq, List.countP_map, List.count, List.countP_map]
  apply List.countP_congr
  intro e _
  simp only [Function.comp_apply, RepeatRule.category_eq, decide_true, Bool.true_and,
    names_diagnosis_iff, beq_iff_eq]

lemma mem_reports {probes : List ProbeResult} {r : RepeatRule} {p : ProbeResult} :
    (r, p) ∈ reports probes ↔
      p ∈ RunningDedup.firsts ProbeResult.destination [] (probes.filter r.guard) := by
  unfold reports
  simp only [List.mem_flatMap, List.mem_map, Prod.mk.injEq]
  constructor
  · rintro ⟨r', -, q, hq, rfl, rfl⟩
    exact hq
  · intro hp
    exact ⟨r, r.mem_all, p, hp, rfl, rfl⟩

lemma nodup_reports (probes : List ProbeResult) : (reports probes).Nodup := by
  unfold reports
  rw [List.nodup_flatMap]
  constructor
  · intro r _
    exact (RunningDedup.nodup_firsts _ _ _).map (Prod.mk_right_injective r)
  · have hall : RepeatRule.all.Nodup := by decide
    apply hall.imp
    intro r r' hne e he he'
    obtain ⟨p, -, rfl⟩ := List.mem_map.mp he
    obtain ⟨q, -, hq⟩ := List.mem_map.mp he'
    exact hne (congrArg Prod.fst hq).symm

/-- Every probe that meets a guard has its destination reported by that rule. -/
lemma exists_report {probes : List ProbeResult} {r : RepeatRule} {p : ProbeResult} (hp : p ∈ probes)
    (hg : r.guard p = true) : ∃ q, (r, q) ∈ reports probes ∧ q.destination = p.destination := by
  obtain ⟨q, hq, hd⟩ := RunningDedup.exists_mem_firsts (List.mem_filter.mpr ⟨hp, hg⟩)
    (List.not_mem_nil : p.destination ∉ [])
  exact ⟨q, mem_reports.mpr hq, hd⟩

lemma report_guard {probes : List ProbeResult} {r : RepeatRule} {p : ProbeResult}
    (h : (r, p) ∈ reports probes) : p ∈ probes ∧ r.guard p = true :=
  List.mem_filter.mp (RunningDedup.mem_of_mem_firsts (mem_reports.mp h)).1

/-- Every destination is named at most once exactly if probes that meet guards at destinations
that print alike meet one guard at one destination. -/
theorem named_once_iff (input : DiagnosticInput) :
    (∀ d, namings input d ≤ 1) ↔
      ∀ r r' : RepeatRule, ∀ p ∈ input.probes, ∀ q ∈ input.probes, r.guard p = true →
        r'.guard q = true → toString p.destination = toString q.destination →
          r = r' ∧ p.destination = q.destination := by
  have hcount : (∀ d, namings input d ≤ 1) ↔
      ((reports input.probes).map (fun e => toString e.2.destination)).Nodup := by
    rw [List.nodup_iff_count_le_one]
    simp only [namings_eq]
    constructor
    · intro h text
      by_cases hmem : text ∈ (reports input.probes).map (fun e => toString e.2.destination)
      · obtain ⟨e, -, rfl⟩ := List.mem_map.mp hmem
        exact h e.2.destination
      · rw [List.count_eq_zero_of_not_mem hmem]
        exact Nat.zero_le 1
    · intro h d
      exact h (toString d)
  rw [hcount, List.nodup_map_iff_inj_on (nodup_reports input.probes)]
  constructor
  · intro hinj r r' p hp q hq hgp hgq htext
    obtain ⟨p', hp', hpd⟩ := exists_report hp hgp
    obtain ⟨q', hq', hqd⟩ := exists_report hq hgq
    have htext' : toString p'.destination = toString q'.destination := by rw [hpd, hqd, htext]
    obtain ⟨hr, hpq⟩ := Prod.mk.inj (hinj (r, p') hp' (r', q') hq' htext')
    exact ⟨hr, by rw [← hpd, ← hqd, hpq]⟩
  · rintro h ⟨r, p⟩ hp ⟨r', q⟩ hq htext
    obtain ⟨hpm, hpg⟩ := report_guard hp
    obtain ⟨hqm, hqg⟩ := report_guard hq
    obtain ⟨rfl, hd⟩ := h r r' p hpm q hqm hpg hqg htext
    rw [RunningDedup.eq_of_mem_firsts (mem_reports.mp hp) (mem_reports.mp hq) hd]

/-- The destination of the slow and flapping probe is named by two rules. -/
theorem slow_and_flapping_named_twice : ¬∀ d, namings slowAndFlappingInput d ≤ 1 := by
  intro h
  have htwice : namings slowAndFlappingInput (sampleV4 1) = 2 := by
    rw [namings_eq]
    have hreports : reports slowAndFlappingInput.probes =
        [(.flapping, slowAndFlapping), (.unstable, slowAndFlapping)] := rfl
    rw [hreports]
    decide +kernel
  have honce := h (sampleV4 1)
  omega

end IpTools
