import IpTools.Diagnostics.Tls
import IpTools.Library.RunningDedup
import IpTools.Proofs.TcpEvidence

/-!
# What the TLS and certificate rules read off the TLS observations

The certificate rules report each cause once. What they would say about each observation alone
is split off here, so that the rules become a deduplication of these findings; the key of the
deduplication determines the verdict.
-/

namespace IpTools

/-- A handshake failed at a destination that TCP reached. -/
def HandshakeFailed (input : DiagnosticInput) : Prop :=
  ∃ t ∈ input.tls, t.success = false ∧
    ∃ o ∈ input.tcp, o.destination = t.destination ∧ o.success = true

instance (input : DiagnosticInput) : Decidable (HandshakeFailed input) := by
  unfold HandshakeFailed; infer_instance

theorem tlsLayerRules_verdict (input : DiagnosticInput) :
    (tlsLayerRules input).map Diagnosis.verdict =
      if HandshakeFailed input then [(.medium, .tls, .medium)] else [] := by
  unfold tlsLayerRules
  refine map_verdict_ite ?_ rfl
  rw [List.isEmpty_map, not_isEmpty_filter_iff]
  simp only [Bool.and_eq_true, Bool.not_eq_true', List.any_eq_true, decide_eq_true_eq]
  rfl

def earlyFinding (now : Clock) (sni : String) (cert : CertificateSummary) : List Diagnosis :=
  match cert.notBeforeUtc with
  | none => []
  | some notBefore =>
    match daysUntilFromRfc3339 now notBefore with
    | none => []
    | some days => if days > 0 then [notYetValidDiagnosis sni cert.subject notBefore days] else []

def lateFinding (now : Clock) (sni : String) (cert : CertificateSummary) : List Diagnosis :=
  match cert.notAfterUtc with
  | none => []
  | some notAfter =>
    match daysUntilFromRfc3339 now notAfter with
    | none => []
    | some days =>
      if days < 0 ∨ days = 0 ∧ rfc3339IsInPast now notAfter then
        [expiredDiagnosis sni cert.subject notAfter days]
      else if days ≤ renderCertExpiryWindowDays then
        [expiringDiagnosis sni cert.subject notAfter days]
      else []

/-- What the lifetime of one certificate calls for, with the server name it is keyed by. -/
def lifetimeFindings (now : Clock) (t : TlsObservation) : List (String × Diagnosis) :=
  match t.certificate with
  | none => []
  | some cert =>
    (earlyFinding now t.sni cert ++ lateFinding now t.sni cert).map (fun d => (t.sni, d))

def findingKey (f : String × Diagnosis) : String × String := (f.1, f.2.summary)

lemma LifetimeState.step_eq (now : Clock) (st : LifetimeState) (t : TlsObservation) :
    st.step now t = (lifetimeFindings now t).foldl (fun st f => st.push f.1 f.2) st := by
  unfold LifetimeState.step lifetimeFindings
  cases t.certificate with
  | none => rfl
  | some cert =>
    dsimp only
    rw [List.map_append, List.foldl_append]
    have hearly : ((earlyFinding now t.sni cert).map (fun d => (t.sni, d))).foldl
        (fun st f => LifetimeState.push st f.1 f.2) st =
          match cert.notBeforeUtc with
          | none => st
          | some notBefore =>
            match daysUntilFromRfc3339 now notBefore with
            | none => st
            | some days =>
              if days > 0 then
                st.push t.sni (notYetValidDiagnosis t.sni cert.subject notBefore days)
              else st := by
      unfold earlyFinding
      cases cert.notBeforeUtc with
      | none => rfl
      | some notBefore =>
        dsimp only
        cases daysUntilFromRfc3339 now notBefore with
        | none => rfl
        | some days => by_cases h : days > 0 <;> simp [h]
    rw [hearly]
    unfold lateFinding
    cases cert.notAfterUtc with
    | none => rfl
    | some notAfter =>
      dsimp only
      cases daysUntilFromRfc3339 now notAfter with
      | none => rfl
      | some days =>
        dsimp only
        split
        · rfl
        · split <;> rfl

lemma LifetimeState.push_of_mem {st : LifetimeState} {f : String × Diagnosis}
    (h : findingKey f ∈ st.reported) : st.push f.1 f.2 = st := if_pos h

lemma LifetimeState.push_of_notMem {st : LifetimeState} {f : String × Diagnosis}
    (h : findingKey f ∉ st.reported) :
    st.push f.1 f.2 = ⟨st.reported ++ [findingKey f], st.out ++ [f.2]⟩ := if_neg h

theorem certificateLifetimeRules_eq (now : Clock) (input : DiagnosticInput) :
    certificateLifetimeRules now input =
      (RunningDedup.firsts findingKey [] (input.tls.flatMap (lifetimeFindings now))).map
        Prod.snd := by
  have hfold : input.tls.foldl (LifetimeState.step now) ⟨[], []⟩ =
      (input.tls.flatMap (lifetimeFindings now)).foldl (fun st f => st.push f.1 f.2)
        ⟨[], []⟩ := by
    rw [List.foldl_flatMap]
    congr 1
    funext st t
    exact st.step_eq now t
  unfold certificateLifetimeRules
  rw [hfold]
  exact RunningDedup.foldl_eq_firsts findingKey Prod.snd (fun st f => st.push f.1 f.2)
    LifetimeState.reported LifetimeState.out (fun _ _ h => LifetimeState.push_of_mem h)
    (fun _ _ h => by rw [LifetimeState.push_of_notMem h])
    (fun _ _ h => by rw [LifetimeState.push_of_notMem h]) _ _

/-- The verdict of a finding, by the nine characters that follow the server name. -/
def lifetimeVerdict (mark : String) : Verdict :=
  if mark = " expired " then (.medium, .certificate, .high)
  else if mark = " expires " then (.low, .certificate, .medium)
  else (.medium, .certificate, .medium)

lemma mem_earlyFinding {now : Clock} {sni : String} {cert : CertificateSummary} {g : Diagnosis}
    (hg : g ∈ earlyFinding now sni cert) :
    ∃ subject notBefore days, g = notYetValidDiagnosis sni subject notBefore days := by
  unfold earlyFinding at hg
  split at hg
  · simp at hg
  · split at hg
    · simp at hg
    · split at hg
      · rw [List.mem_singleton] at hg
        exact ⟨_, _, _, hg⟩
      · simp at hg

lemma mem_lateFinding {now : Clock} {sni : String} {cert : CertificateSummary} {g : Diagnosis}
    (hg : g ∈ lateFinding now sni cert) :
    ∃ subject notAfter days, g = expiredDiagnosis sni subject notAfter days ∨
      g = expiringDiagnosis sni subject notAfter days := by
  unfold lateFinding at hg
  split at hg
  · simp at hg
  · split at hg
    · simp at hg
    · split at hg
      · rw [List.mem_singleton] at hg
        exact ⟨_, _, _, Or.inl hg⟩
      · split at hg
        · rw [List.mem_singleton] at hg
          exact ⟨_, _, _, Or.inr hg⟩
        · simp at hg

lemma finding_summary {now : Clock} {t : TlsObservation} {f : String × Diagnosis}
    (hf : f ∈ lifetimeFindings now t) :
    ∃ mark rest : String, mark.toList.length = 9 ∧
      f.2.summary = "Certificate for " ++ (f.1 ++ (mark ++ rest)) ∧
      f.2.verdict = lifetimeVerdict mark := by
  unfold lifetimeFindings at hf
  cases hc : t.certificate with
  | none => simp [hc] at hf
  | some cert =>
    rw [hc] at hf
    obtain ⟨g, hg, rfl⟩ := List.mem_map.mp hf
    rcases List.mem_append.mp hg with hg | hg
    · obtain ⟨subject, notBefore, days, rfl⟩ := mem_earlyFinding hg
      refine ⟨" is not y", s!"et valid (starts in {days} day(s), subject {subject})", rfl, ?_, rfl⟩
      simp only [notYetValidDiagnosis, toString, String.append_assoc]
      rfl
    · obtain ⟨subject, notAfter, days, rfl | rfl⟩ := mem_lateFinding hg
      · refine ⟨" expired ", (if days = 0 then "today" else s!"{-days} day(s) ago") ++
          (" (subject " ++ (subject ++ ")")), rfl, ?_, rfl⟩
        simp only [expiredDiagnosis, toString, String.append_assoc]
      · refine ⟨" expires ", (if days = 0 then "today" else s!"in {days} day(s)") ++
          (" (subject " ++ (subject ++ ")")), rfl, ?_, rfl⟩
        simp only [expiringDiagnosis, toString, String.append_assoc]

/-- Findings that the rule takes for the same cause have the same verdict. -/
theorem verdict_of_findingKey {now : Clock} {t u : TlsObservation} {f g : String × Diagnosis}
    (hf : f ∈ lifetimeFindings now t) (hg : g ∈ lifetimeFindings now u)
    (hkey : findingKey f = findingKey g) : f.2.verdict = g.2.verdict := by
  obtain ⟨mark, rest, hlen, hs, hv⟩ := finding_summary hf
  obtain ⟨mark', rest', hlen', hs', hv'⟩ := finding_summary hg
  obtain ⟨hsni, hsummary⟩ := Prod.mk.inj hkey
  rw [hs, hs', hsni, String.append_right_inj, String.append_right_inj] at hsummary
  have hlists : mark.toList ++ rest.toList = mark'.toList ++ rest'.toList := by
    rw [← String.toList_append, ← String.toList_append, hsummary]
  have hmark : mark = mark' :=
    String.toList_inj.mp (List.append_inj hlists (hlen.trans hlen'.symm)).1
  rw [hv, hv', hmark]

/-- What the names of the certificate call for. -/
def coverageFinding (t : TlsObservation) : Option Diagnosis :=
  match t.certificate with
  | none => none
  | some cert =>
    if cert.sans.isEmpty then some (noSansDiagnosis t.sni cert.subject)
    else if !certCoversHostname t.sni cert.sans then
      some (notCoveredDiagnosis t.sni cert.subject cert.sans)
    else none

lemma CoverageState.step_eq (st : CoverageState) (t : TlsObservation) :
    st.step t = match coverageFinding t with
      | some g => st.push g
      | none => st := by
  unfold CoverageState.step coverageFinding
  cases t.certificate with
  | none => rfl
  | some cert =>
    dsimp only
    split
    · rfl
    · split <;> rfl

theorem certificateCoverageRules_eq (input : DiagnosticInput) :
    certificateCoverageRules input =
      RunningDedup.firsts Diagnosis.summary [] (input.tls.filterMap coverageFinding) := by
  have hfold : input.tls.foldl CoverageState.step ⟨[], []⟩ =
      (input.tls.filterMap coverageFinding).foldl CoverageState.push ⟨[], []⟩ := by
    rw [List.foldl_filterMap]
    congr 1
    funext st t
    rw [st.step_eq t]
    cases coverageFinding t <;> rfl
  have hnew : ∀ (st : CoverageState) (g : Diagnosis), g.summary ∉ st.reported →
      st.push g = ⟨st.reported ++ [g.summary], st.out ++ [g]⟩ := fun st g h => if_neg h
  have hloop := RunningDedup.foldl_eq_firsts Diagnosis.summary id CoverageState.push
    CoverageState.reported CoverageState.out (fun st g h => if_pos h)
    (fun st g h => by rw [hnew st g h]) (fun st g h => by rw [hnew st g h]; rfl)
    (input.tls.filterMap coverageFinding) ⟨[], []⟩
  unfold certificateCoverageRules
  rw [hfold, hloop, List.nil_append, List.map_id]

lemma verdict_of_coverageFinding {t : TlsObservation} {g : Diagnosis}
    (hg : coverageFinding t = some g) : g.verdict = (.medium, .certificate, .medium) := by
  unfold coverageFinding at hg
  split at hg
  · cases hg
  · split at hg
    · cases hg
      rfl
    · split at hg
      · cases hg
        rfl
      · cases hg

end IpTools
