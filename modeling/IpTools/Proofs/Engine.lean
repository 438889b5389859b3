import IpTools.Diagnostics.Diagnose
import IpTools.Library.RuleEngine
import IpTools.Proofs.DnsEvidence
import IpTools.Proofs.FilteringEvidence
import IpTools.Proofs.HttpEvidence
import IpTools.Proofs.RepeatEvidence
import IpTools.Proofs.TlsEvidence

/-!
# The engine is sound and complete for its evidence

`Indicates` says what each category stands for, pattern of evidence by pattern of evidence and
without reference to the rules. The engine returns a category exactly when the input indicates
it, and reports a healthy target exactly when the input indicates nothing.
-/

namespace IpTools

/-- What an input gives evidence of. -/
inductive Indicates (now : Clock) (input : DiagnosticInput) : DiagnosticCategory → Prop where
  | nothingResolved (h : NothingResolved input.dns) : Indicates now input .dns
  | resolversDisagree (h : ResolversDisagree input.dns) : Indicates now input .dns
  | totalLoss (failed : FailedOnPath input.tcp) (reached : ¬Reached input.tcp) :
      Indicates now input .totalConnectivityLoss
  | partialLoss (failed : FailedOnPath input.tcp) (reached : Reached input.tcp) :
      Indicates now input .partialConnectivity
  | familySplit (h : FamilySplit input.tcp) : Indicates now input .addressFamily
  | familyUnroutable (h : LoneFamilyUnroutable input.tcp) : Indicates now input .addressFamily
  | handshake (h : HandshakeFailed input) : Indicates now input .tls
  | lifetime (t : TlsObservation) (f : String × Diagnosis) (ht : t ∈ input.tls)
      (hf : f ∈ lifetimeFindings now t) : Indicates now input .certificate
  | coverage (t : TlsObservation) (g : Diagnosis) (ht : t ∈ input.tls)
      (hg : coverageFinding t = some g) : Indicates now input .certificate
  | httpFailure (h : HttpLayerFailed input) : Indicates now input .http
  | redirect (h : Redirected input.http) : Indicates now input .http
  | acrossProtocols (h : ProtocolsDiffer input.http) : Indicates now input .http
  | acrossFamilies (h : FamiliesDiffer input.http) : Indicates now input .http
  | acrossAddresses (h : AddressesDiffer input.http) : Indicates now input .http
  | truncated (h : BodyTruncated input.http) : Indicates now input .http
  | quic (h : QuicBlocked input.http) : Indicates now input .quic
  | intermittent (p : ProbeResult) (hp : p ∈ input.probes) (h : isIntermittent p = true) :
      Indicates now input .intermittent
  | flapping (p : ProbeResult) (hp : p ∈ input.probes) (h : isFlapping p = true) :
      Indicates now input .intermittent
  | unstable (p : ProbeResult) (hp : p ∈ input.probes) (h : isUnstable p = true) :
      Indicates now input .intermittent
  | filtering (h : 2 ≤ signalCount input (decide (ResolversDisagree input.dns))) :
      Indicates now input .possibleNetworkFiltering

/-- Some diagnosis of the list has this category. -/
def Raises (out : List Diagnosis) (c : DiagnosticCategory) : Prop := ∃ g ∈ out, g.category = c

instance (out : List Diagnosis) (c : DiagnosticCategory) : Decidable (Raises out c) := by
  unfold Raises; infer_instance

/-- The rules in the order they run. -/
def rules (now : Clock) : List (DiagnosticInput → List Diagnosis) :=
  [fun input => (dnsRules input).2, connectivityRules, familyRules, tlsLayerRules,
    certificateLifetimeRules now, certificateCoverageRules, httpLayerRules, redirectRules,
    httpConsistencyRules, truncatedBodyRules, quicRules, intermittentRules,
    httpStatusFlappingRules, latencyInstabilityRules,
    fun input => filteringRules input (dnsRules input).1]

theorem diagnose_eq_run (now : Clock) (input : DiagnosticInput) :
    diagnose now input = RuleEngine.run (rules now) healthyDiagnosis input := by
  unfold diagnose RuleEngine.run rules
  simp only [List.flatMap_cons, List.flatMap_nil, List.append_nil, List.append_assoc]

variable {now : Clock} {input : DiagnosticInput} {c : DiagnosticCategory}

lemma raises_iff_verdict {out : List Diagnosis} :
    Raises out c ↔ ∃ v ∈ out.map Diagnosis.verdict, v.2.1 = c := by
  simp only [List.mem_map, exists_exists_and_eq_and]
  rfl

/-- A rule that speaks under one condition. -/
lemma raises_of_verdict {out : List Diagnosis} {P : Prop} [Decidable P] {v : Verdict}
    (h : out.map Diagnosis.verdict = if P then [v] else []) : Raises out c ↔ P ∧ v.2.1 = c := by
  rw [raises_iff_verdict, h]
  by_cases hP : P <;> simp [hP]

/-- A rule all of whose diagnoses have one verdict. -/
lemma raises_of_forall {out : List Diagnosis} {v : Verdict} (h : ∀ g ∈ out, g.verdict = v) :
    Raises out c ↔ out ≠ [] ∧ v.2.1 = c := by
  constructor
  · rintro ⟨g, hg, rfl⟩
    exact ⟨List.ne_nil_of_mem hg, (Diagnosis.category_of_verdict (h g hg)).symm⟩
  · rintro ⟨hne, rfl⟩
    obtain ⟨g, hg⟩ := List.exists_mem_of_ne_nil out hne
    exact ⟨g, hg, Diagnosis.category_of_verdict (h g hg)⟩

lemma dnsRules_raises : Raises (dnsRules input).2 c ↔
    (NothingResolved input.dns ∨ ResolversDisagree input.dns) ∧ .dns = c := by
  rw [raises_iff_verdict, dnsRules_verdict]
  by_cases hn : NothingResolved input.dns
  · simp [hn]
  · by_cases hd : ResolversDisagree input.dns <;> simp [hn, hd]

lemma connectivityRules_raises : Raises (connectivityRules input) c ↔
    FailedOnPath input.tcp ∧ (Reached input.tcp ∧ .partialConnectivity = c ∨
      ¬Reached input.tcp ∧ .totalConnectivityLoss = c) := by
  rw [raises_iff_verdict, connectivityRules_verdict]
  by_cases hp : FailedOnPath input.tcp
  · by_cases hr : Reached input.tcp <;> simp [hp, hr]
  · simp [hp]

lemma certificateLifetimeRules_raises : Raises (certificateLifetimeRules now input) c ↔
    (∃ t ∈ input.tls, ∃ f, f ∈ lifetimeFindings now t) ∧ .certificate = c := by
  have hcat : ∀ t f, f ∈ lifetimeFindings now t → f.2.category = .certificate := by
    intro t f hf
    obtain ⟨mark, rest, -, -, hv⟩ := finding_summary hf
    rw [Diagnosis.category_of_verdict hv]
    unfold lifetimeVerdict
    split
    · rfl
    · split <;> rfl
  rw [certificateLifetimeRules_eq]
  constructor
  · rintro ⟨g, hg, rfl⟩
    obtain ⟨f, hf, rfl⟩ := List.mem_map.mp hg
    obtain ⟨t, ht, hft⟩ := List.mem_flatMap.mp (RunningDedup.mem_of_mem_firsts hf).1
    exact ⟨⟨t, ht, f, hft⟩, (hcat t f hft).symm⟩
  · rintro ⟨⟨t, ht, f, hf⟩, rfl⟩
    have hmem : f ∈ input.tls.flatMap (lifetimeFindings now) := List.mem_flatMap.mpr ⟨t, ht, hf⟩
    obtain ⟨f', hf', -⟩ : ∃ f' ∈ RunningDedup.firsts findingKey []
        (input.tls.flatMap (lifetimeFindings now)), findingKey f' = findingKey f :=
      RunningDedup.exists_mem_firsts hmem List.not_mem_nil
    obtain ⟨t', -, hft'⟩ := List.mem_flatMap.mp (RunningDedup.mem_of_mem_firsts hf').1
    exact ⟨f'.2, List.mem_map_of_mem hf', hcat t' f' hft'⟩

lemma certificateCoverageRules_raises : Raises (certificateCoverageRules input) c ↔
    (∃ t ∈ input.tls, ∃ g, coverageFinding t = some g) ∧ .certificate = c := by
  have hverdict : ∀ g ∈ certificateCoverageRules input,
      g.verdict = (.medium, .certificate, .medium) := by
    intro g hg
    rw [certificateCoverageRules_eq] at hg
    obtain ⟨t, -, ht⟩ := List.mem_filterMap.mp (RunningDedup.mem_of_mem_firsts hg).1
    exact verdict_of_coverageFinding ht
  have hne : certificateCoverageRules input ≠ [] ↔
      ∃ t ∈ input.tls, ∃ g, coverageFinding t = some g := by
    rw [certificateCoverageRules_eq, ne_eq, RunningDedup.firsts_eq_nil_iff,
      List.filterMap_eq_nil_iff]
    push Not
    simp only [Option.ne_none_iff_exists', ne_eq]
  rw [raises_of_forall hverdict, hne]

lemma httpConsistencyRules_raises : Raises (httpConsistencyRules input) c ↔
    (ProtocolsDiffer input.http ∨ FamiliesDiffer input.http ∨ AddressesDiffer input.http) ∧
      .http = c := by
  rw [raises_iff_verdict, httpConsistencyRules_verdict]
  by_cases hp : ProtocolsDiffer input.http <;> by_cases hf : FamiliesDiffer input.http <;>
    by_cases ha : AddressesDiffer input.http <;> simp [hp, hf, ha]

lemma reportOnce_raises {guard : ProbeResult → Bool} {diagnosis : ProbeResult → Diagnosis}
    {probes : List ProbeResult} {v : Verdict} (hverdict : ∀ p, (diagnosis p).verdict = v) :
    Raises (reportOnce guard diagnosis [] probes) c ↔
      (∃ p ∈ probes, guard p = true) ∧ v.2.1 = c := by
  rw [raises_of_forall (verdict_of_mem_reportOnce hverdict), reportOnce_ne_nil_iff]

lemma filteringRules_raises : Raises (filteringRules input (dnsRules input).1) c ↔
    2 ≤ signalCount input (decide (ResolversDisagree input.dns)) ∧
      .possibleNetworkFiltering = c := by
  rw [raises_of_verdict (filteringRules_verdict input _), dnsRules_flag]

lemma Indicates.ne_healthy (h : Indicates now input c) : c ≠ .healthy := by
  cases h <;> decide

lemma indicates_of_mem_rules {r : DiagnosticInput → List Diagnosis} (hr : r ∈ rules now)
    (hc : Raises (r input) c) : Indicates now input c := by
  simp only [rules, List.mem_cons, List.not_mem_nil, or_false] at hr
  rcases hr with rfl | rfl | rfl | rfl | rfl | rfl | rfl | rfl | rfl | rfl | rfl | rfl | rfl |
    rfl | rfl
  · obtain ⟨h | h, rfl⟩ := dnsRules_raises.mp hc
    · exact .nothingResolved h
    · exact .resolversDisagree h
  · obtain ⟨hp, ⟨hr, rfl⟩ | ⟨hr, rfl⟩⟩ := connectivityRules_raises.mp hc
    · exact .partialLoss hp hr
    · exact .totalLoss hp hr
  · obtain ⟨h | h, rfl⟩ := (raises_of_verdict (familyRules_verdict input)).mp hc
    · exact .familySplit h
    · exact .familyUnroutable h
  · obtain ⟨h, rfl⟩ := (raises_of_verdict (tlsLayerRules_verdict input)).mp hc
    exact .handshake h
  · obtain ⟨⟨t, ht, f, hf⟩, rfl⟩ := certificateLifetimeRules_raises.mp hc
    exact .lifetime t f ht hf
  · obtain ⟨⟨t, ht, g, hg⟩, rfl⟩ := certificateCoverageRules_raises.mp hc
    exact .coverage t g ht hg
  · obtain ⟨h, rfl⟩ := (raises_of_verdict (httpLayerRules_verdict input)).mp hc
    exact .httpFailure h
  · obtain ⟨h, rfl⟩ := (raises_of_verdict (redirectRules_verdict input)).mp hc
    exact .redirect h
  · obtain ⟨h | h | h, rfl⟩ := httpConsistencyRules_raises.mp hc
    · exact .acrossProtocols h
    · exact .acrossFamilies h
    · exact .acrossAddresses h
  · obtain ⟨h, rfl⟩ := (raises_of_verdict (truncatedBodyRules_verdict input)).mp hc
    exact .truncated h
  · obtain ⟨h, rfl⟩ := (raises_of_verdict (quicRules_verdict input)).mp hc
    exact .quic h
  · obtain ⟨⟨p, hp, h⟩, rfl⟩ := (reportOnce_raises intermittentDiagnosis_verdict).mp hc
    exact .intermittent p hp h
  · obtain ⟨⟨p, hp, h⟩, rfl⟩ := (reportOnce_raises flappingDiagnosis_verdict).mp hc
    exact .flapping p hp h
  · obtain ⟨⟨p, hp, h⟩, rfl⟩ := (reportOnce_raises unstableDiagnosis_verdict).mp hc
    exact .unstable p hp h
  · obtain ⟨h, rfl⟩ := filteringRules_raises.mp hc
    exact .filtering h

lemma Indicates.exists_rule (h : Indicates now input c) : ∃ r ∈ rules now, Raises (r input) c := by
  cases h with
  | nothingResolved h =>
    exact ⟨fun x => (dnsRules x).2, by simp [rules], dnsRules_raises.mpr ⟨Or.inl h, rfl⟩⟩
  | resolversDisagree h =>
    exact ⟨fun x => (dnsRules x).2, by simp [rules], dnsRules_raises.mpr ⟨Or.inr h, rfl⟩⟩
  | totalLoss hp hr =>
    exact ⟨connectivityRules, by simp [rules],
      connectivityRules_raises.mpr ⟨hp, Or.inr ⟨hr, rfl⟩⟩⟩
  | partialLoss hp hr =>
    exact ⟨connectivityRules, by simp [rules],
      connectivityRules_raises.mpr ⟨hp, Or.inl ⟨hr, rfl⟩⟩⟩
  | familySplit h =>
    exact ⟨familyRules, by simp [rules],
      (raises_of_verdict (familyRules_verdict input)).mpr ⟨Or.inl h, rfl⟩⟩
  | familyUnroutable h =>
    exact ⟨familyRules, by simp [rules],
      (raises_of_verdict (familyRules_verdict input)).mpr ⟨Or.inr h, rfl⟩⟩
  | handshake h =>
    exact ⟨tlsLayerRules, by simp [rules],
      (raises_of_verdict (tlsLayerRules_verdict input)).mpr ⟨h, rfl⟩⟩
  | lifetime t f ht hf =>
    exact ⟨certificateLifetimeRules now, by simp [rules],
      certificateLifetimeRules_raises.mpr ⟨⟨t, ht, f, hf⟩, rfl⟩⟩
  | coverage t g ht hg =>
    exact ⟨certificateCoverageRules, by simp [rules],
      certificateCoverageRules_raises.mpr ⟨⟨t, ht, g, hg⟩, rfl⟩⟩
  | httpFailure h =>
    exact ⟨httpLayerRules, by simp [rules],
      (raises_of_verdict (httpLayerRules_verdict input)).mpr ⟨h, rfl⟩⟩
  | redirect h =>
    exact ⟨redirectRules, by simp [rules],
      (raises_of_verdict (redirectRules_verdict input)).mpr ⟨h, rfl⟩⟩
  | acrossProtocols h =>
    exact ⟨httpConsistencyRules, by simp [rules],
      httpConsistencyRules_raises.mpr ⟨Or.inl h, rfl⟩⟩
  | acrossFamilies h =>
    exact ⟨httpConsistencyRules, by simp [rules],
      httpConsistencyRules_raises.mpr ⟨Or.inr (Or.inl h), rfl⟩⟩
  | acrossAddresses h =>
    exact ⟨httpConsistencyRules, by simp [rules],
      httpConsistencyRules_raises.mpr ⟨Or.inr (Or.inr h), rfl⟩⟩
  | truncated h =>
    exact ⟨truncatedBodyRules, by simp [rules],
      (raises_of_verdict (truncatedBodyRules_verdict input)).mpr ⟨h, rfl⟩⟩
  | quic h =>
    exact ⟨quicRules, by simp [rules],
      (raises_of_verdict (quicRules_verdict input)).mpr ⟨h, rfl⟩⟩
  | intermittent p hp h =>
    exact ⟨intermittentRules, by simp [rules],
      (reportOnce_raises intermittentDiagnosis_verdict).mpr ⟨⟨p, hp, h⟩, rfl⟩⟩
  | flapping p hp h =>
    exact ⟨httpStatusFlappingRules, by simp [rules],
      (reportOnce_raises flappingDiagnosis_verdict).mpr ⟨⟨p, hp, h⟩, rfl⟩⟩
  | unstable p hp h =>
    exact ⟨latencyInstabilityRules, by simp [rules],
      (reportOnce_raises unstableDiagnosis_verdict).mpr ⟨⟨p, hp, h⟩, rfl⟩⟩
  | filtering h =>
    exact ⟨fun x => filteringRules x (dnsRules x).1, by simp [rules],
      filteringRules_raises.mpr ⟨h, rfl⟩⟩

/-- Some rule raises a category exactly when the input indicates it. -/
theorem rules_raise_iff : (∃ r ∈ rules now, Raises (r input) c) ↔ Indicates now input c := by
  constructor
  · rintro ⟨r, hr, hc⟩
    exact indicates_of_mem_rules hr hc
  · exact Indicates.exists_rule

/-- The engine raises a category exactly when the input indicates it. -/
theorem diagnose_raises_iff (hc : c ≠ .healthy) :
    Raises (diagnose now input) c ↔ Indicates now input c := by
  rw [diagnose_eq_run, ← rules_raise_iff]
  exact RuleEngine.exists_mem_run_iff (fun h => hc h.symm)

lemma Raises.indicates (h : Raises (diagnose now input) c) (hc : c ≠ .healthy := by decide) :
    Indicates now input c := (diagnose_raises_iff hc).mp h

lemma Indicates.raises (h : Indicates now input c) : Raises (diagnose now input) c :=
  (diagnose_raises_iff h.ne_healthy).mpr h

lemma rules_not_healthy {r : DiagnosticInput → List Diagnosis} (hr : r ∈ rules now)
    {g : Diagnosis} (hg : g ∈ r input) : g.category ≠ .healthy := by
  intro h
  have hind : Indicates now input .healthy := indicates_of_mem_rules hr ⟨g, hg, h⟩
  exact hind.ne_healthy rfl

lemma quiet_iff : RuleEngine.Quiet (rules now) input ↔ ∀ c, ¬Indicates now input c := by
  constructor
  · intro h c hc
    obtain ⟨r, hr, g, hg, -⟩ := hc.exists_rule
    rw [h r hr] at hg
    exact List.not_mem_nil hg
  · intro h r hr
    by_contra hne
    obtain ⟨g, hg⟩ := List.exists_mem_of_ne_nil _ hne
    exact h g.category (indicates_of_mem_rules hr ⟨g, hg, rfl⟩)

/-- A healthy target is reported exactly when the input indicates nothing. -/
theorem diagnose_healthy_iff :
    Raises (diagnose now input) .healthy ↔ ∀ c, ¬Indicates now input c := by
  rw [diagnose_eq_run, ← quiet_iff]
  exact RuleEngine.exists_fallback_iff rfl (fun r hr g hg => rules_not_healthy hr hg)

theorem diagnose_eq_healthy_iff :
    diagnose now input = [healthyDiagnosis input] ↔ ∀ c, ¬Indicates now input c := by
  rw [← diagnose_healthy_iff]
  constructor
  · intro h
    exact ⟨healthyDiagnosis input, by simp [h], rfl⟩
  · intro h
    rw [diagnose_eq_run, RuleEngine.run_of_quiet (quiet_iff.mpr (diagnose_healthy_iff.mp h))]

end IpTools
