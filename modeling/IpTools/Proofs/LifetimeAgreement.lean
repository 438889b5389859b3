import IpTools.Proofs.Calendar
import IpTools.Proofs.TlsEvidence
import IpTools.Report.Observations

/-!
# Certificate lifetimes in the rules and in the report

The rule engine and the report read the expiry of a certificate off the same two dates. Both say
what the instant of expiry and the day numbers call for, and the rules say it once for each server
name and summary.
-/

namespace IpTools

/-- A certificate that expires at `ts`, within years of four digits, and is valid already. -/
structure Dated (now : UInt64) (cert : CertificateSummary) (ts : Int) : Prop where
  notNegative : 0 ≤ ts
  fourDigits : ts ≤ 253402300799
  notAfter : cert.notAfterUtc = formatUtc ts
  started : ∀ notBefore ∈ cert.notBeforeUtc, ∀ days ∈ daysUntilFromRfc3339 (some now) notBefore,
    days ≤ 0

/-- The difference of the day numbers. -/
def daysLeft (now : UInt64) (ts : Int) : Int := ts / 86400 - (now.toNat : Int) / 86400

/-- Which of three outcomes is there decides between the conditions they stand under. -/
lemma outcome_iff {α : Type} {x a b c : α} {p q : Prop} [Decidable p] [Decidable q]
    (hx : x = if p then a else if q then b else c) (hab : a ≠ b) (hac : a ≠ c) (hbc : b ≠ c) :
    (x = a ↔ p) ∧ (x = b ↔ ¬p ∧ q) ∧ (x = c ↔ ¬p ∧ ¬q) := by
  subst hx
  by_cases hp : p
  · simp [hp, hab, hac]
  · by_cases hq : q
    · simp [hp, hq, hab.symm, hbc]
    · simp [hp, hq, hac.symm, hbc.symm]

section Certificate

variable {now : UInt64} {cert : CertificateSummary} {ts : Int}

/-- What both of them read off the dates: the days that are left, and on the last day whether the
instant has passed. -/
lemma Dated.reads (h : Dated now cert ts) : ∃ text, cert.notAfterUtc = some text ∧
    daysUntilFromRfc3339 (some now) text = some (daysLeft now ts) ∧
      (daysLeft now ts = 0 → rfc3339IsInPast (some now) text = decide (ts ≤ now.toNat)) := by
  obtain ⟨hfit, hday, htime⟩ := utcFields_spec h.notNegative h.fourDigits
  refine ⟨(utcFields ts).text, ?_, ?_, ?_⟩
  · rw [h.notAfter, formatUtc, if_neg (Int.not_lt.mpr h.notNegative)]
  · rw [daysUntilFromRfc3339_text hfit, hday]
    rfl
  · intro hzero
    have h0 := h.notNegative
    have h9999 := h.fourDigits
    unfold daysLeft at hzero
    have hseconds : ts / 86400 * 86400 + (utcFields ts).hour * 3600 +
        (utcFields ts).minute * 60 + (utcFields ts).second = ts := by omega
    rw [rfc3339IsInPast_text hfit now (by omega), hday, hseconds,
      wrapI64_of_range (by omega) (by omega)]

/-- The days that are left and the instant together: both take a certificate for expired from its
last second on. -/
lemma Dated.passed_iff (h : Dated now cert ts) {text : String}
    (htext : cert.notAfterUtc = some text) :
    (daysLeft now ts < 0 ∨ daysLeft now ts = 0 ∧ rfc3339IsInPast (some now) text = true) ↔
      ts ≤ now.toNat := by
  obtain ⟨text', htext', -, hpast⟩ := h.reads
  obtain rfl : text' = text := Option.some.inj (htext'.symm.trans htext)
  by_cases hzero : daysLeft now ts = 0
  · rw [hpast hzero, decide_eq_true_iff]
    exact ⟨fun hor => (hor.resolve_left (by omega)).2, fun hle => .inr ⟨hzero, hle⟩⟩
  · unfold daysLeft at hzero ⊢
    omega

lemma Dated.lateFinding_eq (h : Dated now cert ts) {text : String}
    (htext : cert.notAfterUtc = some text) (sni : String) :
    lateFinding (some now) sni cert =
      if ts ≤ now.toNat then [expiredDiagnosis sni cert.subject text (daysLeft now ts)]
      else if daysLeft now ts ≤ 30 then [expiringDiagnosis sni cert.subject text (daysLeft now ts)]
      else [] := by
  obtain ⟨text', htext', hdays, -⟩ := h.reads
  obtain rfl : text' = text := Option.some.inj (htext'.symm.trans htext)
  unfold lateFinding
  rw [htext]
  dsimp only
  rw [hdays]
  exact if_congr (h.passed_iff htext) rfl rfl

lemma Dated.lifetimeFindings_eq (h : Dated now cert ts) {t : TlsObservation}
    (hcert : t.certificate = some cert) :
    lifetimeFindings (some now) t =
      (lateFinding (some now) t.sni cert).map (fun d => (t.sni, d)) := by
  have hearly : earlyFinding (some now) t.sni cert = [] := by
    unfold earlyFinding
    split
    · rfl
    · rename_i notBefore hnotBefore
      split
      · rfl
      · rename_i days hdays
        exact if_neg (Int.not_lt.mpr (h.started notBefore hnotBefore days hdays))
  unfold lifetimeFindings
  rw [hcert]
  dsimp only
  rw [hearly, List.nil_append]

lemma finding_sni {t : TlsObservation} {f : String × Diagnosis}
    (hf : f ∈ lifetimeFindings (some now) t) : f.1 = t.sni := by
  unfold lifetimeFindings at hf
  split at hf
  · exact absurd hf List.not_mem_nil
  · obtain ⟨d, -, rfl⟩ := List.mem_map.mp hf
    rfl

/-- For one observation the rules say what its certificate calls for. -/
lemma rules_alone {t : TlsObservation} {input : DiagnosticInput}
    (h : ∀ cert ∈ t.certificate, ∃ ts, Dated now cert ts) :
    certificateLifetimeRules (some now) { input with tls := [t] } =
      (lifetimeFindings (some now) t).map Prod.snd := by
  rw [certificateLifetimeRules_eq, List.flatMap_singleton]
  congr 1
  cases hcert : t.certificate with
  | none =>
    unfold lifetimeFindings
    rw [hcert]
    rfl
  | some cert =>
    obtain ⟨ts, hdated⟩ := h cert hcert
    obtain ⟨text, htext, -, -⟩ := hdated.reads
    rw [hdated.lifetimeFindings_eq hcert, hdated.lateFinding_eq htext]
    split_ifs <;> rfl

/-- The days and the instant of expiry as the conditions of the outcomes have them. -/
lemma outcome_conditions : (¬ts ≤ now.toNat ∧ daysLeft now ts ≤ 30 ↔
    now.toNat < ts ∧ daysLeft now ts ≤ 30) ∧ (¬ts ≤ now.toNat ∧ ¬daysLeft now ts ≤ 30 ↔
    now.toNat < ts ∧ 30 < daysLeft now ts) := by
  rw [Int.not_le, Int.not_le]
  exact ⟨Iff.rfl, Iff.rfl⟩

lemma Dated.rules_iff (h : Dated now cert ts) {text : String}
    (htext : cert.notAfterUtc = some text) {t : TlsObservation} (hcert : t.certificate = some cert)
    (input : DiagnosticInput) :
    let alone := certificateLifetimeRules (some now) { input with tls := [t] }
    let days := daysLeft now ts
    (alone = [expiredDiagnosis t.sni cert.subject text days] ↔ ts ≤ now.toNat) ∧
    (alone = [expiringDiagnosis t.sni cert.subject text days] ↔ now.toNat < ts ∧ days ≤ 30) ∧
    (alone = [] ↔ now.toNat < ts ∧ 30 < days) := by
  have halone : certificateLifetimeRules (some now) { input with tls := [t] } =
      lateFinding (some now) t.sni cert := by
    rw [rules_alone (fun cert' hcert' => ?_), h.lifetimeFindings_eq hcert, List.map_map]
    · exact List.map_id _
    · obtain rfl : cert = cert' := Option.some.inj (hcert.symm.trans hcert')
      exact ⟨ts, h⟩
  have hdiffer : [expiredDiagnosis t.sni cert.subject text (daysLeft now ts)] ≠
      [expiringDiagnosis t.sni cert.subject text (daysLeft now ts)] :=
    fun heq => absurd (congrArg Diagnosis.severity (List.cons.inj heq).1)
      (show Severity.medium ≠ .low by decide)
  have houtcome := outcome_iff (halone.trans (h.lateFinding_eq htext t.sni)) hdiffer
    (List.cons_ne_nil _ _) (List.cons_ne_nil _ _)
  rwa [outcome_conditions.1, outcome_conditions.2] at houtcome

/-- The note of a certificate that expires in some days. -/
def dueNote (days : Int) : String :=
  if days = 0 then " (expires today)"
  else " (expires in " ++ toString days ++ " day" ++ (if days = 1 then "" else "s") ++ ")"

lemma Dated.renderLifetime_eq (h : Dated now cert ts) (style : Style) :
    renderLifetime (some now) style cert.notAfterUtc =
      if ts ≤ now.toNat then style.fail " (expired)"
      else if daysLeft now ts ≤ 30 then style.warn (dueNote (daysLeft now ts)) else "" := by
  obtain ⟨text, htext, hdays, -⟩ := h.reads
  have hpassed := h.passed_iff htext
  unfold renderLifetime dueNote
  rw [htext, Option.bind_some, hdays]
  dsimp only
  rw [Option.any_some]
  by_cases hle : ts ≤ now.toNat
  · rw [if_pos (hpassed.mpr hle), if_pos hle]
  · rw [if_neg (fun hp => hle (hpassed.mp hp)), if_neg hle]
    by_cases hzero : daysLeft now ts = 0
    · rw [if_pos hzero, if_pos (by omega), if_pos hzero]
    · rw [if_neg hzero, if_neg hzero]
      rfl

lemma dueNote_eq (days : Int) : ∃ rest, dueNote days = " (expires " ++ rest := by
  unfold dueNote
  split
  · exact ⟨"today)", by decide⟩
  · refine ⟨"in " ++ toString days ++ " day" ++ (if days = 1 then "" else "s") ++ ")", ?_⟩
    simp only [← String.append_assoc]
    rfl

lemma fail_ne_warn (style : Style) (days : Int) :
    style.fail " (expired)" ≠ style.warn (dueNote days) := by
  obtain ⟨rest, hrest⟩ := dueNote_eq days
  rw [hrest]
  intro h
  replace h := congrArg String.toList h
  unfold Style.fail Style.warn Style.paint at h
  split at h
  · simp [String.toList_append] at h
  · simp [String.toList_append] at h

lemma paint_ne_empty {style : Style} {code text : String} (h : text ≠ "") :
    style.paint code text ≠ "" := by
  unfold Style.paint
  split
  · exact fun hempty => absurd (congrArg String.toList hempty) (by simp [String.toList_append])
  · exact h

lemma dueNote_ne_empty (days : Int) : dueNote days ≠ "" := by
  obtain ⟨rest, hrest⟩ := dueNote_eq days
  rw [hrest]
  exact fun hempty => absurd (congrArg String.toList hempty) (by simp [String.toList_append])

lemma Dated.note_iff (h : Dated now cert ts) (style : Style) :
    let note := renderLifetime (some now) style cert.notAfterUtc
    let days := daysLeft now ts
    (note = style.fail " (expired)" ↔ ts ≤ now.toNat) ∧
    (note = style.warn (dueNote days) ↔ now.toNat < ts ∧ days ≤ 30) ∧
    (note = "" ↔ now.toNat < ts ∧ 30 < days) := by
  have houtcome := outcome_iff (h.renderLifetime_eq style) (fail_ne_warn style (daysLeft now ts))
    (paint_ne_empty (by decide)) (paint_ne_empty (dueNote_ne_empty (daysLeft now ts)))
  rwa [outcome_conditions.1, outcome_conditions.2] at houtcome

end Certificate

/-- The rules and the report classify the lifetime of a certificate alike, by the instant and by
the day numbers, and the rules raise one verdict for each server name and summary. -/
theorem certificateLifetime_agrees {now : UInt64} {input : DiagnosticInput}
    (h : ∀ t ∈ input.tls, ∀ cert ∈ t.certificate, ∃ ts, Dated now cert ts) :
    let alone := fun t => certificateLifetimeRules (some now) { input with tls := [t] }
    (∀ t ∈ input.tls, ∀ cert ∈ t.certificate, ∀ ts, Dated now cert ts →
      ∃ text, cert.notAfterUtc = some text ∧
        let days := daysLeft now ts
        let expired := expiredDiagnosis t.sni cert.subject text days
        let expiring := expiringDiagnosis t.sni cert.subject text days
        (alone t = [expired] ↔ ts ≤ now.toNat) ∧
        (alone t = [expiring] ↔ now.toNat < ts ∧ days ≤ 30) ∧
        (alone t = [] ↔ now.toNat < ts ∧ 30 < days) ∧
        ∀ style, ∃ note,
          renderCert (some now) style cert = cert.subject ++ " issued by " ++ cert.issuer ++
            renderValidity cert ++ note ++ renderSans cert.sans ∧
          (note = style.fail " (expired)" ↔ ts ≤ now.toNat) ∧
          (note = style.warn (dueNote days) ↔ now.toNat < ts ∧ days ≤ 30) ∧
          (note = "" ↔ now.toNat < ts ∧ 30 < days)) ∧
    ∃ raised : List (String × Diagnosis),
      certificateLifetimeRules (some now) input = raised.map Prod.snd ∧
      (raised.map findingKey).Nodup ∧
      (∀ f ∈ raised, ∃ t ∈ input.tls, f.1 = t.sni ∧ f.2 ∈ alone t) ∧
      ∀ t ∈ input.tls, ∀ d ∈ alone t, ∃ f ∈ raised, findingKey f = (t.sni, d.summary) ∧
        f.2.verdict = d.verdict := by
  intro alone
  have halone : ∀ t ∈ input.tls, alone t = (lifetimeFindings (some now) t).map Prod.snd :=
    fun t ht => rules_alone (h t ht)
  refine ⟨fun t ht cert hcert ts hdated => ?_, ?_⟩
  · obtain ⟨text, htext, -, -⟩ := hdated.reads
    obtain ⟨hexpired, hexpiring, hquiet⟩ := hdated.rules_iff htext hcert input
    refine ⟨text, htext, hexpired, hexpiring, hquiet, fun style => ?_⟩
    exact ⟨renderLifetime (some now) style cert.notAfterUtc, rfl, hdated.note_iff style⟩
  · have hrules := certificateLifetimeRules_eq (some now) input
    generalize hall : input.tls.flatMap (lifetimeFindings (some now)) = findings at hrules
    refine ⟨RunningDedup.firsts findingKey [] findings, hrules,
      RunningDedup.nodup_keys_firsts findingKey _ _, ?_, ?_⟩
    · intro f hf
      have hf' := (RunningDedup.mem_of_mem_firsts hf).1
      rw [← hall] at hf'
      obtain ⟨t, ht, hft⟩ := List.mem_flatMap.mp hf'
      refine ⟨t, ht, finding_sni hft, ?_⟩
      rw [halone t ht]
      exact List.mem_map_of_mem hft
    · intro t ht d hd
      rw [halone t ht] at hd
      obtain ⟨g, hg, rfl⟩ := List.mem_map.mp hd
      have hmem : g ∈ findings := hall ▸ List.mem_flatMap.mpr ⟨t, ht, hg⟩
      have hkept : ∃ f ∈ RunningDedup.firsts findingKey [] findings, findingKey f = findingKey g :=
        RunningDedup.exists_mem_firsts hmem List.not_mem_nil
      obtain ⟨f, hf, hkey⟩ := hkept
      have hf' := (RunningDedup.mem_of_mem_firsts hf).1
      rw [← hall] at hf'
      obtain ⟨u, hu, hfu⟩ := List.mem_flatMap.mp hf'
      refine ⟨f, hf, ?_, verdict_of_findingKey hfu hg hkey⟩
      rw [hkey, findingKey, finding_sni hg]

def expiredCertificate : CertificateSummary where
  subject := "CN=example.com"
  issuer := "CN=Example CA"
  notBeforeUtc := some "1970-01-01T00:00:00Z"
  notAfterUtc := some "1970-01-12T13:46:40Z"
  sans := ["example.com"]

/-- A host that serves the certificate from two addresses. -/
def servedTwice : DiagnosticInput where
  hostname := "example.com"
  dns := []
  tcp := []
  tls := [1, 2].map (fun octet =>
    { destination := .v4 ⟨.new 192 0 2 octet, 443⟩, sni := "example.com", success := true,
      version := none, cipher := none, alpn := none, certificate := some expiredCertificate,
      latencyMs := none, failure := none })
  http := []
  probes := []

/-- Two hours after the certificate has expired. -/
theorem certificateLifetime_agrees_expired :
    (∀ t ∈ servedTwice.tls,
      certificateLifetimeRules (some 1007200) { servedTwice with tls := [t] } =
        [expiredDiagnosis t.sni "CN=example.com" "1970-01-12T13:46:40Z" 0]) ∧
    ∃ raised : List (String × Diagnosis),
      certificateLifetimeRules (some 1007200) servedTwice = raised.map Prod.snd ∧
        (raised.map findingKey).Nodup := by
  have hdated : Dated 1007200 expiredCertificate 1000000 :=
    { notNegative := by decide
      fourDigits := by decide
      notAfter := by decide +kernel
      started := by decide +kernel }
  have hserved : ∀ t ∈ servedTwice.tls, ∀ cert ∈ t.certificate, cert = expiredCertificate := by
    decide +kernel
  obtain ⟨hone, raised, hrules, hnodup, -⟩ := @certificateLifetime_agrees 1007200 servedTwice
    (fun t ht cert hcert => ⟨1000000, hserved t ht cert hcert ▸ hdated⟩)
  refine ⟨fun t ht => ?_, raised, hrules, hnodup⟩
  have hcert : expiredCertificate ∈ t.certificate := by
    revert t
    decide +kernel
  obtain ⟨text, htext, hexpired, -⟩ := hone t ht expiredCertificate hcert 1000000 hdated
  obtain rfl : "1970-01-12T13:46:40Z" = text := Option.some.inj htext
  exact hexpired.mpr (by decide)

end IpTools
