import IpTools.Proofs.Completeness

/-!
# What resolver disagreement means

The rule compares the combined A and AAAA answers of the resolvers that answered at all, so a
resolver whose AAAA query failed disagrees with one that gave AAAA addresses.
-/

namespace IpTools

/-- The addresses that a resolver gave to queries of one type. -/
def answersFor (dns : List DnsObservation) (resolver : ResolverKind) (type : DnsRecordType) :
    Finset IpAddr :=
  ((dns.filter (fun o => o.resolver = resolver && o.recordType = type && o.error.isNone)).flatMap
    DnsObservation.addresses).toFinset

lemma mem_answersFor {dns : List DnsObservation} {resolver : ResolverKind} {type : DnsRecordType}
    {ip : IpAddr} : ip ∈ answersFor dns resolver type ↔
      ∃ o ∈ dns, o.resolver = resolver ∧ o.recordType = type ∧ o.error.isNone = true ∧
        ip ∈ o.addresses := by
  unfold answersFor
  simp [and_assoc]

/-- Two resolvers answered, and gave different addresses to a type that the first answered. -/
def AnswersDiffer (dns : List DnsObservation) : Prop :=
  ∃ o₁ ∈ dns, ∃ o₂ ∈ dns, o₁.resolver ≠ o₂.resolver ∧ o₁.answered = true ∧ o₂.answered = true ∧
    answersFor dns o₁.resolver o₁.recordType ≠ answersFor dns o₂.resolver o₁.recordType

/-- Two resolvers answered a type without error, and gave different addresses to it. -/
def AnswersDifferOnType (dns : List DnsObservation) (type : DnsRecordType) : Prop :=
  ∃ o₁ ∈ dns, ∃ o₂ ∈ dns, o₁.resolver ≠ o₂.resolver ∧ o₁.recordType = type ∧
    o₂.recordType = type ∧ o₁.error = none ∧ o₂.error = none ∧
    answersFor dns o₁.resolver type ≠ answersFor dns o₂.resolver type

instance (dns : List DnsObservation) (type : DnsRecordType) :
    Decidable (AnswersDifferOnType dns type) := by
  unfold AnswersDifferOnType; infer_instance

/-- The disagreement diagnosis is among those of the rule. -/
def ReportsDisagreement (input : DiagnosticInput) : Prop :=
  ∃ distinct, disagreementDiagnosis input.hostname distinct ∈ (dnsRules input).2

lemma DnsObservation.answered.fields {o : DnsObservation} (h : o.answered = true) :
    o.isForward = true ∧ o.error.isNone = true := by
  unfold DnsObservation.answered at h
  simp only [Bool.and_eq_true] at h
  exact h.1

/-- An address that separates the combined answers separates the answers to the type of the query
it came from. -/
lemma ResolversDisagree.answersDiffer {dns : List DnsObservation} (h : ResolversDisagree dns) :
    AnswersDiffer dns := by
  obtain ⟨o₁, -, o₂, ho₂, -, ha₂, ip, hip, hnot⟩ := h
  obtain ⟨o, ho, ha, hdebug, hio⟩ := mem_combinedAddresses.mp hip
  have habsent : ∀ b ∈ dns, b.answered = true → b.resolver = o₂.resolver → ip ∉ b.addresses := by
    intro b hb hab hr hib
    exact hnot (mem_combinedAddresses.mpr ⟨b, hb, hab, by rw [hr], hib⟩)
  obtain ⟨hforward, herror⟩ := DnsObservation.answered.fields ha
  refine ⟨o, ho, o₂, ho₂, fun hr => habsent o ho ha hr hio, ha, ha₂, fun heq => ?_⟩
  have hmem : ip ∈ answersFor dns o.resolver o.recordType :=
    mem_answersFor.mpr ⟨o, ho, rfl, rfl, herror, hio⟩
  rw [heq] at hmem
  obtain ⟨b, hb, hr, htype, herror', hib⟩ := mem_answersFor.mp hmem
  refine habsent b hb ?_ hr hib
  have hrecords : b.records.isEmpty = false := by
    rw [List.isEmpty_eq_false_iff_exists_mem]
    obtain ⟨r, hrb, -⟩ := List.mem_filterMap.mp hib
    exact ⟨r, hrb⟩
  have hforward' : b.isForward = true := by
    unfold DnsObservation.isForward
    rw [htype]
    exact hforward
  rw [DnsObservation.answered, hforward', herror', hrecords]
  rfl

lemma reportsDisagreement_iff (input : DiagnosticInput) :
    ReportsDisagreement input ↔ ResolversDisagree input.dns := by
  unfold ReportsDisagreement
  rw [dnsRules_diagnoses]
  by_cases hd : ResolversDisagree input.dns
  · rw [if_neg hd.resolved, if_pos hd]
    exact ⟨fun _ => hd, fun _ => ⟨_, List.mem_singleton.mpr rfl⟩⟩
  · rw [if_neg hd]
    refine ⟨fun ⟨distinct, hmem⟩ => ?_, fun h => absurd h hd⟩
    by_cases hn : NothingResolved input.dns
    · rw [if_pos hn, List.mem_singleton] at hmem
      exact absurd (congrArg Diagnosis.severity hmem) (show Severity.low ≠ .high by decide)
    · rw [if_neg hn] at hmem
      exact absurd hmem List.not_mem_nil

/-- The loop passes over the observations of other record types. -/
lemma foldl_add_filter (dns : List DnsObservation) (t : DnsTally) :
    (dns.filter DnsObservation.isForward).foldl DnsTally.add t = dns.foldl DnsTally.add t := by
  rw [List.foldl_filter]
  congr 1
  funext t o
  unfold DnsTally.add
  cases o.isForward <;> rfl

theorem dnsRules_congr {input : DiagnosticInput} {dns : List DnsObservation}
    (h : dns.filter DnsObservation.isForward = input.dns.filter DnsObservation.isForward) :
    dnsRules { input with dns := dns } = dnsRules input := by
  unfold dnsRules
  dsimp only
  rw [← foldl_add_filter dns, h, foldl_add_filter]

/-- The flag and the diagnosis go together, they mean that two resolvers gave different addresses,
and observations of other record types have no part in them. -/
theorem dnsRules_disagreement (input : DiagnosticInput) :
    ((dnsRules input).1 = true ↔ ReportsDisagreement input) ∧
      ((dnsRules input).1 = true → AnswersDiffer input.dns) ∧
      ∀ dns : List DnsObservation,
        dns.filter DnsObservation.isForward = input.dns.filter DnsObservation.isForward →
          (dnsRules { input with dns := dns }).1 = (dnsRules input).1 ∧
            (ReportsDisagreement { input with dns := dns } ↔ ReportsDisagreement input) := by
  rw [dnsRules_flag, decide_eq_true_eq]
  refine ⟨(reportsDisagreement_iff input).symm, ResolversDisagree.answersDiffer, fun dns h => ?_⟩
  unfold ReportsDisagreement
  rw [dnsRules_congr h, dnsRules_flag]
  exact ⟨rfl, Iff.rfl⟩

def answered (resolver : SocketAddr) (ip : IpAddr) : DnsObservation where
  hostname := "example.com"
  resolver := .custom resolver
  recordType := match ip with
    | .v4 _ => .a
    | .v6 _ => .aaaa
  records := match ip with
    | .v4 ip => [.a ip]
    | .v6 ip => [.aaaa ip]
  ttl := some 300
  latencyMs := some 20
  error := none

/-- Two resolvers give one A answer, and one of them also gives an AAAA answer. -/
def failedAaaa : List DnsObservation :=
  let v4 : IpAddr := .v4 ⟨#v[192, 0, 2, 1]⟩
  let v6 : IpAddr := .v6 ⟨#v[0x20, 1, 0xd, 0xb8, 0, 0, 0, 0, 0, 0, 0, 0, 0, 0, 0, 1]⟩
  [answered (sampleV4 8) v4, answered (sampleV4 8) v6, answered (sampleV4 9) v4,
    { answered (sampleV4 9) v6 with
      records := []
      error := some ⟨.timeout, "timeout"⟩ }]

theorem failed_aaaa_disagrees :
    (dnsRules { tcpOnly [] with dns := failedAaaa }).1 = true ∧
      ¬AnswersDifferOnType failedAaaa .a ∧ ¬AnswersDifferOnType failedAaaa .aaaa := by
  decide +kernel

theorem dnsRules_disagreement_failed_aaaa :
    AnswersDiffer failedAaaa ∧
      ReportsDisagreement { tcpOnly [] with
        dns := failedAaaa ++ [{ answered (sampleV4 9) (.v4 ⟨#v[192, 0, 2, 7]⟩) with
          recordType := .ptr }] } := by
  have h := dnsRules_disagreement { tcpOnly [] with dns := failedAaaa }
  have hflag : (dnsRules { tcpOnly [] with dns := failedAaaa }).1 = true := by decide +kernel
  have hreports := h.1.mp hflag
  refine ⟨h.2.1 hflag, ?_⟩
  exact (h.2.2 _ (by decide +kernel)).2.mpr hreports

end IpTools
