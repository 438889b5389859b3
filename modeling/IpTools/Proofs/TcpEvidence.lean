import IpTools.Diagnostics.Connectivity

/-!
# What the connectivity rules read off the TCP observations

The rules are summed up by the verdicts they give, as a function of which families were probed
and reached and of whether some failure happened on the path.
-/

namespace IpTools

/-- How a diagnosis is classified, leaving out its texts. -/
abbrev Verdict := Severity × DiagnosticCategory × Confidence

def Diagnosis.verdict (g : Diagnosis) : Verdict := (g.severity, g.category, g.confidence)

lemma Diagnosis.category_of_verdict {g : Diagnosis} {v : Verdict} (h : g.verdict = v) :
    g.category = v.2.1 := congrArg (fun w : Verdict => w.2.1) h

/-- A rule that raises one diagnosis under a condition. -/
lemma map_verdict_ite {P : Prop} [Decidable P] {b : Bool} {g : Diagnosis} {v : Verdict}
    (hb : b = true ↔ P) (hv : g.verdict = v) :
    (if b then [g] else []).map Diagnosis.verdict = if P then [v] else [] := by
  by_cases h : P
  · rw [if_pos h, if_pos (hb.mpr h), List.map_singleton, hv]
  · rw [if_neg h, if_neg (fun hc => h (hb.mp hc)), List.map_nil]

lemma not_isEmpty_filter_iff {α : Type*} {l : List α} {p : α → Bool} :
    (!(l.filter p).isEmpty) = true ↔ ∃ a ∈ l, p a = true := by
  rw [Bool.not_eq_true', Bool.eq_false_iff, ne_eq, List.isEmpty_iff, List.filter_eq_nil_iff]
  push Not
  rfl

section Tcp

variable (tcp : List TcpObservation)

/-- Some address accepted the connection. -/
def Reached : Prop := ∃ o ∈ tcp, o.success = true

/-- Some failure is not the host's own no-route verdict. -/
def FailedOnPath : Prop :=
  ∃ o ∈ tcp, o.success = false ∧ o.failure.any (fun f => f.kind.isLocalUnreachability) = false

def FamilyProbed (ipv4 : Bool) : Prop := ∃ o ∈ tcp, o.destination.isIpv4 = ipv4

def FamilyReached (ipv4 : Bool) : Prop :=
  ∃ o ∈ tcp, o.destination.isIpv4 = ipv4 ∧ o.success = true

/-- One family was reached, the other was probed in vain. -/
def FamilySplit : Prop :=
  ∃ ipv4, FamilyReached tcp ipv4 ∧ FamilyProbed tcp (!ipv4) ∧ ¬FamilyReached tcp (!ipv4)

/-- One family was probed alone, and no address of it has a route. -/
def LoneFamilyUnroutable : Prop :=
  (∃ ipv4, FamilyProbed tcp ipv4 ∧ ¬FamilyProbed tcp (!ipv4)) ∧ ¬Reached tcp ∧ ¬FailedOnPath tcp

instance : Decidable (Reached tcp) := by unfold Reached; infer_instance
instance : Decidable (FailedOnPath tcp) := by unfold FailedOnPath; infer_instance
instance (ipv4 : Bool) : Decidable (FamilyProbed tcp ipv4) := by
  unfold FamilyProbed; infer_instance
instance (ipv4 : Bool) : Decidable (FamilyReached tcp ipv4) := by
  unfold FamilyReached; infer_instance
instance : Decidable (FamilySplit tcp) := by unfold FamilySplit; infer_instance
instance : Decidable (LoneFamilyUnroutable tcp) := by unfold LoneFamilyUnroutable; infer_instance

/-- Several failing addresses corroborate each other. -/
def lossConfidence : Confidence :=
  if (tcp.filter (fun o => !o.success)).length > 1 then .high else .medium

variable {tcp}

lemma FamilyReached.reached {ipv4 : Bool} (h : FamilyReached tcp ipv4) : Reached tcp := by
  obtain ⟨o, ho, -, hs⟩ := h
  exact ⟨o, ho, hs⟩

lemma FamilyReached.probed {ipv4 : Bool} (h : FamilyReached tcp ipv4) : FamilyProbed tcp ipv4 := by
  obtain ⟨o, ho, hf, -⟩ := h
  exact ⟨o, ho, hf⟩

lemma FamilySplit.reached (h : FamilySplit tcp) : Reached tcp := by
  obtain ⟨ipv4, hr, -⟩ := h
  exact hr.reached

lemma FailedOnPath.ne_nil (h : FailedOnPath tcp) : tcp ≠ [] := by
  obtain ⟨o, ho, -⟩ := h
  exact List.ne_nil_of_mem ho

lemma isEmpty_ok_iff : (tcp.filter (fun o => o.success)).isEmpty = true ↔ ¬Reached tcp := by
  rw [List.isEmpty_iff, List.filter_eq_nil_iff]
  unfold Reached
  push Not
  rfl

lemma allLocalUnreachability_iff :
    allLocalUnreachability (tcp.filter (fun o => !o.success)) = true ↔ ¬FailedOnPath tcp := by
  unfold allLocalUnreachability FailedOnPath
  simp only [List.all_eq_true, List.mem_filter, Bool.not_eq_true', and_imp]
  push Not
  simp only [ne_eq, Bool.not_eq_false]

lemma FailedOnPath.exists_bad (h : FailedOnPath tcp) :
    (tcp.filter (fun o => !o.success)).isEmpty = false := by
  obtain ⟨o, ho, hs, -⟩ := h
  rw [List.isEmpty_eq_false_iff_exists_mem]
  exact ⟨o, List.mem_filter.mpr ⟨ho, by simp [hs]⟩⟩

/-- The connectivity rule speaks exactly when some failure happened on the path; whether some
address was reached decides between partial and total loss. -/
theorem connectivityRules_verdict (input : DiagnosticInput) :
    (connectivityRules input).map Diagnosis.verdict =
      if FailedOnPath input.tcp then
        if Reached input.tcp then
          [(.medium, .partialConnectivity, lossConfidence input.tcp)]
        else [(.high, .totalConnectivityLoss, lossConfidence input.tcp)]
      else [] := by
  by_cases hp : FailedOnPath input.tcp
  · have hne : input.tcp.isEmpty = false := by simpa using hp.ne_nil
    have hbad := hp.exists_bad
    have hall : allLocalUnreachability (input.tcp.filter (fun o => !o.success)) = false :=
      Bool.eq_false_iff.mpr (fun h => allLocalUnreachability_iff.mp h hp)
    by_cases hr : Reached input.tcp
    · have hok : (input.tcp.filter (fun o => o.success)).isEmpty = false :=
        Bool.eq_false_iff.mpr (fun h => isEmpty_ok_iff.mp h hr)
      simp only [connectivityRules, hne, hok, hbad, hall, if_pos hp, if_pos hr]
      rfl
    · have hok := isEmpty_ok_iff.mpr hr
      simp only [connectivityRules, hne, hok, hbad, hall, if_pos hp, if_neg hr]
      rfl
  · have hall := allLocalUnreachability_iff.mpr hp
    rw [if_neg hp]
    unfold connectivityRules
    simp only [hall, if_true]
    split <;> simp

lemma familyResult_eq (ipv4 : Bool) :
    familyResult tcp ipv4 =
      if FamilyProbed tcp ipv4 then some (decide (FamilyReached tcp ipv4)) else none := by
  have hprobed : (tcp.filter (fun o => o.destination.isIpv4 == ipv4)).isEmpty = true ↔
      ¬FamilyProbed tcp ipv4 := by
    rw [List.isEmpty_iff, List.filter_eq_nil_iff]
    simp [FamilyProbed]
  have hreached : (tcp.filter (fun o => o.destination.isIpv4 == ipv4)).any (fun o => o.success) =
      decide (FamilyReached tcp ipv4) := by
    rw [Bool.eq_iff_iff, List.any_eq_true, decide_eq_true_eq]
    simp only [List.mem_filter, beq_iff_eq, and_assoc]
    rfl
  unfold familyResult
  by_cases h : FamilyProbed tcp ipv4
  · have he : (tcp.filter (fun o => o.destination.isIpv4 == ipv4)).isEmpty = false :=
      Bool.eq_false_iff.mpr (fun hc => hprobed.mp hc h)
    simp [he, h, hreached]
  · simp [hprobed.mpr h, h]

lemma familySplit_iff (h4 : FamilyProbed tcp true) (h6 : FamilyProbed tcp false) :
    FamilySplit tcp ↔ decide (FamilyReached tcp true) ≠ decide (FamilyReached tcp false) := by
  simp only [FamilySplit, Bool.exists_bool, Bool.not_false, Bool.not_true, h4, h6, true_and, ne_eq,
    decide_eq_decide]
  tauto

lemma not_familySplit {ipv4 : Bool} (h : ¬FamilyProbed tcp (!ipv4)) : ¬FamilySplit tcp := by
  rintro ⟨b, hr, hp, -⟩
  cases b <;> cases ipv4
  · exact h hp
  · exact h hr.probed
  · exact h hr.probed
  · exact h hp

lemma familyAsymmetry_verdict (v4Ok v6Ok : Bool) :
    (familyAsymmetry (some v4Ok) (some v6Ok)).map Diagnosis.verdict =
      if v4Ok ≠ v6Ok then [(.low, .addressFamily, .medium)] else [] := by
  cases v4Ok <;> cases v6Ok <;> rfl

/-- When one family was probed alone, the note reads the whole list. -/
lemma singleFamilyNote_verdict (input : DiagnosticInput) {ipv4 : Bool}
    (h : FamilyProbed input.tcp ipv4) (hother : ¬FamilyProbed input.tcp (!ipv4))
    {v4 v6 : Option Bool}
    (hsingle : singleFamily v4 v6 = some (ipv4, decide (FamilyReached input.tcp ipv4))) :
    (singleFamilyNote input v4 v6).map Diagnosis.verdict =
      if LoneFamilyUnroutable input.tcp then [(.low, .addressFamily, .medium)] else [] := by
  have hall : ∀ o ∈ input.tcp, o.destination.isIpv4 = ipv4 := by
    intro o ho
    by_contra hne
    exact hother ⟨o, ho, by revert hne; cases o.destination.isIpv4 <;> cases ipv4 <;> simp⟩
  have hreached : FamilyReached input.tcp ipv4 ↔ Reached input.tcp := by
    constructor
    · exact FamilyReached.reached
    · rintro ⟨o, ho, hs⟩
      exact ⟨o, ho, hall o ho, hs⟩
  have hbad : input.tcp.filter (fun o => o.destination.isIpv4 == ipv4 && !o.success) =
      input.tcp.filter (fun o => !o.success) := by
    apply List.filter_congr
    intro o ho
    simp [hall o ho]
  have hlone : LoneFamilyUnroutable input.tcp ↔
      ¬Reached input.tcp ∧ ¬FailedOnPath input.tcp :=
    ⟨fun hl => hl.2, fun hl => ⟨⟨ipv4, h, hother⟩, hl⟩⟩
  simp only [singleFamilyNote, hsingle, hbad, hlone]
  by_cases hr : Reached input.tcp
  · simp [hreached, hr]
  · by_cases hp : FailedOnPath input.tcp
    · have hloc : allLocalUnreachability (input.tcp.filter (fun o => !o.success)) = false :=
        Bool.eq_false_iff.mpr (fun hc => allLocalUnreachability_iff.mp hc hp)
      simp [hreached, hr, hp, hloc]
    · have hloc := allLocalUnreachability_iff.mpr hp
      simp [hreached, hr, hp, hloc, Diagnosis.verdict]

/-- The family rule speaks when the families differ, or when the only family has no route. -/
theorem familyRules_verdict (input : DiagnosticInput) :
    (familyRules input).map Diagnosis.verdict =
      if FamilySplit input.tcp ∨ LoneFamilyUnroutable input.tcp then
        [(.low, .addressFamily, .medium)]
      else [] := by
  by_cases hne : input.tcp.isEmpty
  · have hnil : input.tcp = [] := List.isEmpty_iff.mp hne
    simp [familyRules, hnil, FamilySplit, LoneFamilyUnroutable, FamilyReached, FamilyProbed]
  · rw [Bool.not_eq_true] at hne
    simp only [familyRules, hne, Bool.false_eq_true, if_false, familyResult_eq, List.map_append]
    by_cases h4 : FamilyProbed input.tcp true <;> by_cases h6 : FamilyProbed input.tcp false
    · -- both families were probed
      have hlone : ¬LoneFamilyUnroutable input.tcp := by
        rintro ⟨⟨b, -, hn⟩, -⟩
        cases b
        · exact hn h4
        · exact hn h6
      rw [if_pos h4, if_pos h6, familyAsymmetry_verdict]
      simp only [singleFamilyNote, singleFamily, List.map_nil, List.append_nil, hlone, or_false,
        familySplit_iff h4 h6]
    · have hs : ¬FamilySplit input.tcp :=
        not_familySplit (show ¬FamilyProbed input.tcp (!true) from h6)
      rw [if_pos h4, if_neg h6, singleFamilyNote_verdict input h4 h6 rfl]
      simp only [familyAsymmetry, List.map_nil, List.nil_append, hs, false_or]
    · have hs : ¬FamilySplit input.tcp :=
        not_familySplit (show ¬FamilyProbed input.tcp (!false) from h4)
      rw [if_neg h4, if_pos h6, singleFamilyNote_verdict input h6 h4 rfl]
      simp only [familyAsymmetry, List.map_nil, List.nil_append, hs, false_or]
    · -- some family of a non-empty list was probed
      obtain ⟨o, ho⟩ := List.isEmpty_eq_false_iff_exists_mem.mp hne
      cases hf : o.destination.isIpv4
      · exact absurd ⟨o, ho, hf⟩ h6
      · exact absurd ⟨o, ho, hf⟩ h4

end Tcp

end IpTools
