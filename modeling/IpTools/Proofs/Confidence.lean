import IpTools.Proofs.Completeness
import IpTools.Proofs.Engine

/-!
# How much evidence high confidence rests on

The TCP rules withhold high confidence from a single failed connection. The resolution rule does
not count its failures, so the only query of a target can carry it.
-/

namespace IpTools

/-- The failed observations that a diagnosis of the category is drawn from. -/
def supportingFailures (input : DiagnosticInput) : DiagnosticCategory → Nat
  | .dns => (input.dns.filter (fun o => o.isForward && o.error.isSome)).length
  | .totalConnectivityLoss | .partialConnectivity =>
    (input.tcp.filter (fun o => !o.success)).length
  | _ => 0

/-- No diagnosis about resolution or connectivity is sure of itself on one failed observation. -/
def ConfidenceEarned (now : Clock) (input : DiagnosticInput) : Prop :=
  ∀ g ∈ diagnose now input,
    g.category ∈ [DiagnosticCategory.dns, .totalConnectivityLoss, .partialConnectivity] →
      supportingFailures input g.category = 1 → g.confidence ≠ .high

/-- The hostname was looked up once, and the lookup failed. -/
def LoneFailedQuery (dns : List DnsObservation) : Prop :=
  ∃ o, dns.filter DnsObservation.isForward = [o] ∧ o.error.isSome = true

variable {now : Clock} {input : DiagnosticInput} {g : Diagnosis}

lemma loneFailedQuery_iff (dns : List DnsObservation) :
    LoneFailedQuery dns ↔ NothingResolved dns ∧
      (dns.filter (fun o => o.isForward && o.error.isSome)).length = 1 := by
  have hfilter : dns.filter (fun o => o.isForward && o.error.isSome) =
      (dns.filter DnsObservation.isForward).filter (fun o => o.error.isSome) := by
    rw [List.filter_filter]
    exact List.filter_congr (fun o _ => Bool.and_comm _ _)
  constructor
  · rintro ⟨o, ho, he⟩
    have hmem : o ∈ dns ∧ o.isForward = true := List.mem_filter.mp (by rw [ho]; simp)
    refine ⟨⟨⟨o, hmem.1, hmem.2, he⟩, fun o' ho' hf' => ?_⟩, ?_⟩
    · have hmem' : o' ∈ dns.filter DnsObservation.isForward := List.mem_filter.mpr ⟨ho', hf'⟩
      rw [ho, List.mem_singleton] at hmem'
      rw [hmem', he]
    · rw [hfilter, ho]
      simp [he]
  · rintro ⟨⟨-, hall⟩, hlen⟩
    have hsame : (dns.filter DnsObservation.isForward).filter (fun o => o.error.isSome) =
        dns.filter DnsObservation.isForward :=
      List.filter_eq_self.mpr
        (fun o ho => hall o (List.mem_filter.mp ho).1 (List.mem_filter.mp ho).2)
    rw [hfilter, hsame, List.length_eq_one_iff] at hlen
    obtain ⟨o, ho⟩ := hlen
    have hmem : o ∈ dns ∧ o.isForward = true := List.mem_filter.mp (by rw [ho]; simp)
    exact ⟨o, ho, hall o hmem.1 hmem.2⟩

/-- Only the resolution and the connectivity rules raise the three categories. -/
lemma mem_rules_category {r : DiagnosticInput → List Diagnosis} (hr : r ∈ rules now)
    (hg : g ∈ r input)
    (hc : g.category ∈ [DiagnosticCategory.dns, .totalConnectivityLoss, .partialConnectivity]) :
    g ∈ (dnsRules input).2 ∨ g ∈ connectivityRules input := by
  have hraises : Raises (r input) g.category := ⟨g, hg, rfl⟩
  -- a rule that raises one category only, which is none of the three
  have hother : ∀ {P : Prop} {c : DiagnosticCategory}, (P ∧ c = g.category) →
      c ∉ [DiagnosticCategory.dns, .totalConnectivityLoss, .partialConnectivity] → False :=
    fun h hn => hn (h.2 ▸ hc)
  simp only [rules, List.mem_cons, List.not_mem_nil, or_false] at hr
  rcases hr with rfl | rfl | rfl | rfl | rfl | rfl | rfl | rfl | rfl | rfl | rfl | rfl | rfl |
    rfl | rfl
  · exact Or.inl hg
  · exact Or.inr hg
  · exact (hother ((raises_of_verdict (familyRules_verdict input)).mp hraises) (by decide)).elim
  · exact (hother ((raises_of_verdict (tlsLayerRules_verdict input)).mp hraises) (by decide)).elim
  · exact (hother (certificateLifetimeRules_raises.mp hraises) (by decide)).elim
  · exact (hother (certificateCoverageRules_raises.mp hraises) (by decide)).elim
  · exact (hother ((raises_of_verdict (httpLayerRules_verdict input)).mp hraises) (by decide)).elim
  · exact (hother ((raises_of_verdict (redirectRules_verdict input)).mp hraises) (by decide)).elim
  · exact (hother (httpConsistencyRules_raises.mp hraises) (by decide)).elim
  · exact (hother ((raises_of_verdict (truncatedBodyRules_verdict input)).mp hraises)
      (by decide)).elim
  · exact (hother ((raises_of_verdict (quicRules_verdict input)).mp hraises) (by decide)).elim
  · exact (hother ((reportOnce_raises intermittentDiagnosis_verdict).mp hraises) (by decide)).elim
  · exact (hother ((reportOnce_raises flappingDiagnosis_verdict).mp hraises) (by decide)).elim
  · exact (hother ((reportOnce_raises unstableDiagnosis_verdict).mp hraises) (by decide)).elim
  · exact (hother (filteringRules_raises.mp hraises) (by decide)).elim

lemma mem_diagnose_of_rule {r : DiagnosticInput → List Diagnosis} (hr : r ∈ rules now)
    (hg : g ∈ r input) : g ∈ diagnose now input := by
  have hne : g ≠ healthyDiagnosis input := by
    rintro rfl
    exact rules_not_healthy hr hg rfl
  rw [diagnose_eq_run]
  obtain ⟨d, hd, rfl⟩ := (RuleEngine.exists_mem_run_iff (P := fun d => d = g) hne.symm).mpr
    ⟨r, hr, g, hg, rfl⟩
  exact hd

/-- The connectivity rules are sure only of several failed connections. -/
lemma connectivityRules_confidence (hg : g ∈ connectivityRules input) :
    (g.category = .totalConnectivityLoss ∨ g.category = .partialConnectivity) ∧
      g.confidence = lossConfidence input.tcp := by
  have hv : g.verdict ∈ (connectivityRules input).map Diagnosis.verdict :=
    List.mem_map_of_mem hg
  rw [connectivityRules_verdict] at hv
  unfold Diagnosis.verdict at hv
  split at hv
  · split at hv <;> simp_all
  · simp at hv

lemma lossConfidence_ne_high {tcp : List TcpObservation}
    (h : (tcp.filter (fun o => !o.success)).length = 1) : lossConfidence tcp ≠ .high := by
  simp [lossConfidence, h]

/-- The resolution rule is sure of itself exactly when nothing resolved. -/
lemma dnsRules_confidence (hg : g ∈ (dnsRules input).2) :
    g.category = .dns ∧ (g.confidence = .high ↔ NothingResolved input.dns) := by
  have hv : g.verdict ∈ (dnsRules input).2.map Diagnosis.verdict := List.mem_map_of_mem hg
  rw [dnsRules_verdict] at hv
  unfold Diagnosis.verdict at hv
  split at hv
  · simp_all
  · split at hv
    · simp_all
    · simp at hv

/-- High confidence is earned on every input but those whose only lookup of the hostname failed. -/
theorem confidence_earned_iff (now : Clock) (input : DiagnosticInput) :
    ConfidenceEarned now input ↔ ¬LoneFailedQuery input.dns := by
  rw [loneFailedQuery_iff]
  constructor
  · rintro h ⟨hn, hlen⟩
    have hrules : (dnsRules input).2 ≠ [] := by
      rw [dnsRules_diagnoses, if_pos hn]
      exact List.cons_ne_nil _ _
    obtain ⟨g, hg⟩ := List.exists_mem_of_ne_nil _ hrules
    obtain ⟨hcat, hconf⟩ := dnsRules_confidence hg
    have hout : g ∈ diagnose now input :=
      mem_diagnose_of_rule (r := fun x => (dnsRules x).2) (by simp [rules]) hg
    exact h g hout (by simp [hcat]) (by rw [hcat]; exact hlen) (hconf.mpr hn)
  · intro h g hg hc hone hhigh
    have hhealthy : healthyDiagnosis input ≠ g := by
      rintro rfl
      simp [healthyDiagnosis] at hc
    rw [diagnose_eq_run] at hg
    obtain ⟨r, hr, d, hd, rfl⟩ :=
      (RuleEngine.exists_mem_run_iff (P := fun d => d = g) hhealthy).mp ⟨g, hg, rfl⟩
    rcases mem_rules_category hr hd hc with hdns | htcp
    · obtain ⟨hcat, hconf⟩ := dnsRules_confidence hdns
      rw [hcat] at hone
      exact h ⟨hconf.mp hhigh, hone⟩
    · obtain ⟨hcat, hconf⟩ := connectivityRules_confidence htcp
      have hcount : (input.tcp.filter (fun o => !o.success)).length = 1 := by
        rcases hcat with hcat | hcat <;> rw [hcat] at hone <;> exact hone
      exact lossConfidence_ne_high hcount (hconf ▸ hhigh)

/-- One lookup by the system resolver, which timed out. -/
def timedOutLookup : DnsObservation where
  hostname := "example.com"
  resolver := .system
  recordType := .a
  records := []
  ttl := none
  latencyMs := none
  error := some ⟨.timeout, "dns lookup of example.com (A) timed out after 3s"⟩

def loneLookup : DiagnosticInput := { tcpOnly [] with dns := [timedOutLookup] }

theorem lone_lookup_is_certain : ¬ConfidenceEarned none loneLookup := by
  unfold ConfidenceEarned
  decide +kernel

end IpTools
