import IpTools.Diagnostics.Dns
import IpTools.Library.Grouping
import IpTools.Library.RunningDedup
import IpTools.Proofs.Display
import IpTools.Proofs.TcpEvidence

/-!
# What the resolution rule reads off the DNS observations

The tally of the loop is a grouping of the answers by resolver, and the rule compares the
groups as sets of addresses.
-/

namespace IpTools
open Std

/-- A forward query that was answered with some record. -/
def DnsObservation.answered (o : DnsObservation) : Bool :=
  o.isForward && o.error.isNone && !o.records.isEmpty

/-- The addresses among the records. -/
def DnsObservation.addresses (o : DnsObservation) : List IpAddr :=
  o.records.filterMap DnsRecord.address

/-- Whatever is escaped, the answers of two endpoints are grouped where the endpoints are one. -/
theorem endpoint_debug_iff (unprintable : Char → Bool) {s t : String} :
    ((ResolverKind.doh s).debug = (ResolverKind.doh t).debug ↔
      textDebug unprintable s = textDebug unprintable t) ∧
    ((ResolverKind.dot s).debug = (ResolverKind.dot t).debug ↔
      textDebug unprintable s = textDebug unprintable t) := by
  have hdoh : ∀ s, (ResolverKind.doh s).debug = "Doh(" ++ textDebug (fun _ => false) s ++ ")" :=
    fun s => rfl
  have hdot : ∀ s, (ResolverKind.dot s).debug = "Dot(" ++ textDebug (fun _ => false) s ++ ")" :=
    fun s => rfl
  simp only [hdoh, hdot, String.append_left_inj, String.append_right_inj,
    (textDebug_injective _).eq_iff, and_self]

/-- The combined addresses of the resolvers that print as `key`. -/
def combinedAddresses (dns : List DnsObservation) (key : String) : List IpAddr :=
  (dns.filter (fun o => o.answered && o.resolver.debug = key)).flatMap DnsObservation.addresses

/-- Some forward query failed and none succeeded. -/
def NothingResolved (dns : List DnsObservation) : Prop :=
  (∃ o ∈ dns, o.isForward = true ∧ o.error.isSome = true) ∧
    ∀ o ∈ dns, o.isForward = true → o.error.isSome = true

/-- One resolver gave an address that another, which answered too, did not give. -/
def ResolversDisagree (dns : List DnsObservation) : Prop :=
  ∃ o₁ ∈ dns, ∃ o₂ ∈ dns, o₁.answered = true ∧ o₂.answered = true ∧
    ∃ ip ∈ combinedAddresses dns o₁.resolver.debug, ip ∉ combinedAddresses dns o₂.resolver.debug

instance (dns : List DnsObservation) : Decidable (NothingResolved dns) := by
  unfold NothingResolved; infer_instance
instance (dns : List DnsObservation) : Decidable (ResolversDisagree dns) := by
  unfold ResolversDisagree; infer_instance

lemma mem_combinedAddresses {dns : List DnsObservation} {key : String} {ip : IpAddr} :
    ip ∈ combinedAddresses dns key ↔
      ∃ o ∈ dns, o.answered = true ∧ o.resolver.debug = key ∧ ip ∈ o.addresses := by
  simp [combinedAddresses, and_assoc]

/-- The grouping of answers by resolver. -/
def answersByResolver (dns : List DnsObservation) : ExtTreeMap String (ExtTreeSet IpAddr) :=
  Grouping.group compare (fun o => o.resolver.debug) ∅ (fun set o => set.insertMany o.addresses)
    (dns.filter DnsObservation.answered)

lemma flags_foldl (dns : List DnsObservation) (t : DnsTally) :
    (dns.foldl DnsTally.add t).anySuccess =
      (t.anySuccess || dns.any (fun o => o.isForward && o.error.isNone)) ∧
    (dns.foldl DnsTally.add t).anyFailure =
      (t.anyFailure || dns.any (fun o => o.isForward && o.error.isSome)) := by
  induction dns generalizing t with
  | nil => simp
  | cons o dns ih =>
    rw [List.foldl_cons, (ih _).1, (ih _).2, List.any_cons, List.any_cons]
    cases hf : o.isForward <;> cases he : o.error <;> cases hr : o.records.isEmpty <;>
      simp [DnsTally.add, hf, he, hr]

lemma perResolver_foldl (dns : List DnsObservation) (t : DnsTally) :
    (dns.foldl DnsTally.add t).perResolver =
      (dns.filter DnsObservation.answered).foldl
        (fun m o => m.alter o.resolver.debug (fun set =>
          some ((set.getD ∅).insertMany o.addresses))) t.perResolver := by
  induction dns generalizing t with
  | nil => rfl
  | cons o dns ih =>
    rw [List.foldl_cons, ih]
    cases ha : o.answered
    · rw [List.filter_cons_of_neg (by simp [ha])]
      congr 1
      unfold DnsTally.add
      unfold DnsObservation.answered at ha
      cases hf : o.isForward <;> cases he : o.error <;> cases hr : o.records.isEmpty <;>
        simp_all
    · rw [List.filter_cons_of_pos ha, List.foldl_cons]
      congr 1
      unfold DnsObservation.answered at ha
      simp only [Bool.and_eq_true, Option.isNone_iff_eq_none, Bool.not_eq_true'] at ha
      simp [DnsTally.add, ha.1.1, ha.1.2, ha.2, DnsObservation.addresses]

lemma perResolver_eq (dns : List DnsObservation) :
    (dns.foldl DnsTally.add .empty).perResolver = answersByResolver dns := perResolver_foldl dns _

lemma mem_foldl_insertMany {l : List DnsObservation} {s : ExtTreeSet IpAddr} {ip : IpAddr} :
    ip ∈ l.foldl (fun set o => set.insertMany o.addresses) s ↔
      ip ∈ s ∨ ∃ o ∈ l, ip ∈ o.addresses := by
  induction l generalizing s with
  | nil => simp
  | cons o l ih =>
    rw [List.foldl_cons, ih, ExtTreeSet.mem_insertMany_list]
    simp [or_assoc]

/-- The set of a group holds the combined addresses of its key. -/
lemma mem_group {dns : List DnsObservation} {key : String} {ip : IpAddr} :
    ip ∈ ((dns.filter DnsObservation.answered).filter
        (fun o => o.resolver.debug = key)).foldl
      (fun set o => set.insertMany o.addresses) (∅ : ExtTreeSet IpAddr) ↔
      ip ∈ combinedAddresses dns key := by
  rw [mem_foldl_insertMany, mem_combinedAddresses]
  simp [and_assoc, and_left_comm]

lemma distinctSets_eq_firsts (m : ExtTreeMap String (ExtTreeSet IpAddr)) :
    distinctSets m = RunningDedup.firsts id [] (m.toList.map Prod.snd) := by
  have h := RunningDedup.foldl_eq_firsts (id : ExtTreeSet IpAddr → ExtTreeSet IpAddr) id
    (fun distinct set => if set ∈ distinct then distinct else distinct ++ [set])
    (fun distinct => distinct) (fun distinct => distinct)
    (fun s a ha => if_pos ha) (fun s a ha => if_neg ha) (fun s a ha => if_neg ha)
    (m.toList.map Prod.snd) []
  simpa [distinctSets] using h

/-- Some address separates two of the groups exactly when their sets are not all the same. -/
theorem one_lt_distinctSets (dns : List DnsObservation) :
    1 < (distinctSets (answersByResolver dns)).length ↔ ResolversDisagree dns := by
  have hsep : ∀ s t : ExtTreeSet IpAddr,
      s ≠ t ↔ (∃ ip, ip ∈ s ∧ ip ∉ t) ∨ ∃ ip, ip ∈ t ∧ ip ∉ s := by
    intro s t
    constructor
    · intro hne
      by_contra h
      push Not at h
      exact hne (ExtTreeSet.ext_mem (fun ip => ⟨h.1 ip, h.2 ip⟩))
    · rintro (⟨ip, h, hn⟩ | ⟨ip, h, hn⟩) rfl
      · exact hn h
      · exact hn h
  have hgroups : ∀ P : ExtTreeSet IpAddr → Prop,
      (∃ s ∈ (answersByResolver dns).toList.map Prod.snd, P s) ↔
        ∃ o ∈ dns, o.answered = true ∧
          P (((dns.filter DnsObservation.answered).filter
            (fun b => b.resolver.debug = o.resolver.debug)).foldl
              (fun set b => set.insertMany b.addresses) ∅) := by
    intro P
    have hmap : (∃ s ∈ (answersByResolver dns).toList.map Prod.snd, P s) ↔
        ∃ e ∈ (answersByResolver dns).toList, P e.2 := by
      simp only [List.mem_map, exists_exists_and_eq_and]
    rw [hmap]
    refine (Grouping.exists_toList_group (P := fun _ s => P s)).trans ?_
    simp only [List.mem_filter, and_assoc]
  rw [distinctSets_eq_firsts, RunningDedup.one_lt_length_firsts]
  simp only [id_eq, hgroups, hsep, mem_group]
  constructor
  · rintro ⟨o₁, h₁, a₁, o₂, h₂, a₂, ⟨ip, hi, hn⟩ | ⟨ip, hi, hn⟩⟩
    · exact ⟨o₁, h₁, o₂, h₂, a₁, a₂, ip, hi, hn⟩
    · exact ⟨o₂, h₂, o₁, h₁, a₂, a₁, ip, hi, hn⟩
  · rintro ⟨o₁, h₁, o₂, h₂, a₁, a₂, ip, hi, hn⟩
    exact ⟨o₁, h₁, a₁, o₂, h₂, a₂, Or.inl ⟨ip, hi, hn⟩⟩

lemma nothingResolved_iff (dns : List DnsObservation) :
    ((dns.foldl DnsTally.add .empty).anyFailure && !(dns.foldl DnsTally.add .empty).anySuccess)
      = true ↔ NothingResolved dns := by
  rw [(flags_foldl dns .empty).1, (flags_foldl dns .empty).2]
  simp only [DnsTally.empty, Bool.false_or, Bool.and_eq_true, Bool.not_eq_true',
    List.any_eq_true, List.any_eq_false, NothingResolved, Option.isNone_iff_eq_none,
    Option.isSome_iff_ne_none, not_and]

/-- The flag that also feeds the filtering analysis. -/
theorem dnsRules_flag (input : DiagnosticInput) :
    (dnsRules input).1 = decide (ResolversDisagree input.dns) := by
  have h : (dnsRules input).1 =
      decide ((distinctSets (answersByResolver input.dns)).length > 1) := by
    rw [← perResolver_eq]
    unfold dnsRules
    dsimp only
    split
    · rfl
    · split <;> rfl
  rw [h]
  exact decide_eq_decide.mpr (one_lt_distinctSets input.dns)

/-- The rule reports disagreement only where something resolved. -/
theorem dnsRules_diagnoses (input : DiagnosticInput) :
    (dnsRules input).2 =
      if NothingResolved input.dns then
        [unresolvedDiagnosis input.hostname (input.dns.foldl DnsTally.add .empty).failed]
      else if ResolversDisagree input.dns then
        [disagreementDiagnosis input.hostname (distinctSets (answersByResolver input.dns)).length]
      else [] := by
  have hres := nothingResolved_iff input.dns
  have hdis := one_lt_distinctSets input.dns
  rw [← perResolver_eq] at hdis ⊢
  unfold dnsRules
  dsimp only
  by_cases hn : NothingResolved input.dns
  · rw [if_pos hn, if_pos (hres.mpr hn)]
  · rw [if_neg hn, if_neg (fun h => hn (hres.mp h))]
    by_cases hd : ResolversDisagree input.dns
    · rw [if_pos hd, if_pos (decide_eq_true (hdis.mpr hd))]
    · rw [if_neg hd, if_neg (fun h => hd (hdis.mp (of_decide_eq_true h)))]

theorem dnsRules_verdict (input : DiagnosticInput) :
    (dnsRules input).2.map Diagnosis.verdict =
      if NothingResolved input.dns then [(.high, .dns, .high)]
      else if ResolversDisagree input.dns then [(.low, .dns, .low)]
      else [] := by
  rw [dnsRules_diagnoses]
  split
  · rfl
  · split <;> rfl

/-- Resolvers that disagree have resolved something. -/
lemma ResolversDisagree.resolved {dns : List DnsObservation} (h : ResolversDisagree dns) :
    ¬NothingResolved dns := by
  obtain ⟨o, ho, -, -, ha, -⟩ := h
  rintro ⟨-, hall⟩
  unfold DnsObservation.answered at ha
  simp only [Bool.and_eq_true] at ha
  have herror := Option.isSome_iff_ne_none.mp (hall o ho ha.1.1)
  exact herror (Option.isNone_iff_eq_none.mp ha.1.2)

end IpTools
