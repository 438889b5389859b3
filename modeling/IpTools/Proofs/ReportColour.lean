import IpTools.Library.Sgr
import IpTools.Proofs.ReportText

/-!
# Colour and text

A coloured report is the plain one with SGR sequences in it: what is coloured is padded before, and
no width is taken of a coloured text.
-/

namespace IpTools

open CharClass Sgr

lemma ne_escape {c : Char} (h : IsPrintable c) : c ≠ '\x1b' := by
  rintro rfl
  exact absurd h (by decide)

lemma noEscape_of_printable {s : String} (h : All IsPrintable s) : NoEscape s :=
  h.mono (fun _ => ne_escape)

lemma noEscape_nat (n : Nat) : NoEscape (toString n) := noEscape_of_printable (printable_nat n)

lemma strips_paint {code text : String} (hcode : All (fun c => isParameter c = true) code)
    (h : NoEscape text) : Strips (Style.colored.paint code text) (Style.plain.paint code text) := by
  have hreset : "\x1b[0m" = "\x1b[" ++ "0" ++ "m" := by decide
  have hparts := ((strips_sequence hcode).append (strips_self h)).append
    (strips_sequence (show All (fun c => isParameter c = true) "0" by decide))
  rw [← hreset, String.empty_append, String.append_empty] at hparts
  exact hparts

lemma strips_pass {text : String} (h : NoEscape text) :
    Strips (Style.colored.pass text) (Style.plain.pass text) := strips_paint (by decide) h

lemma strips_fail {text : String} (h : NoEscape text) :
    Strips (Style.colored.fail text) (Style.plain.fail text) := strips_paint (by decide) h

lemma strips_warn {text : String} (h : NoEscape text) :
    Strips (Style.colored.warn text) (Style.plain.warn text) := strips_paint (by decide) h

lemma strips_info {text : String} (h : NoEscape text) :
    Strips (Style.colored.info text) (Style.plain.info text) := strips_paint (by decide) h

lemma strips_label {label x y : String} (hlabel : NoEscape label) (h : Strips x y) :
    Strips (label ++ x) (label ++ y) := (strips_self hlabel).append h

lemma strips_ending {x y ending : String} (h : Strips x y) (hending : NoEscape ending) :
    Strips (x ++ ending) (y ++ ending) := h.append (strips_self hending)

abbrev SameRows (rows rows' : List String) : Prop := List.Forall₂ Strips rows rows'

lemma sameRows_self {rows : List String} (h : ∀ row ∈ rows, NoEscape row) : SameRows rows rows :=
  List.forall₂_same.mpr (fun row hrow => strips_self (h row hrow))

lemma sameRows_map {α : Type} {l : List α} {f g : α → String} (h : ∀ a ∈ l, Strips (f a) (g a)) :
    SameRows (l.map f) (l.map g) := by
  rw [SameRows, List.forall₂_map_left_iff, List.forall₂_map_right_iff]
  exact List.forall₂_same.mpr h

lemma sameRows_flatMap {α : Type} {l : List α} {f g : α → List String}
    (h : ∀ a ∈ l, SameRows (f a) (g a)) : SameRows (l.flatMap f) (l.flatMap g) := by
  induction l with
  | nil => exact .nil
  | cons a l ih =>
    exact List.rel_append (h a List.mem_cons_self)
      (ih (fun b hb => h b (List.mem_cons_of_mem a hb)))

lemma strips_unlines {rows rows' : List String} (h : SameRows rows rows') :
    Strips (unlines rows) (unlines rows') := by
  apply strips_join
  rw [List.forall₂_map_left_iff, List.forall₂_map_right_iff]
  exact h.imp (fun _ _ hrow => strips_ending hrow (by decide))

lemma sameRows_if {c : Prop} [Decidable c] {rows : List String} (h : ∀ row ∈ rows, NoEscape row) :
    SameRows (if c then rows else []) (if c then rows else []) :=
  sameRows_self (forall_mem_rows_if h)

lemma sameRows_rowOf {label : String} {value : Option String} (hlabel : All IsPrintable label)
    (h : ∀ v ∈ value, NoEscape v) : SameRows (rowOf label value) (rowOf label value) :=
  sameRows_self ((all_rowOf_iff (fun _ => ne_escape) hlabel).mpr h)

section Dns

variable {unprintable : Char → Bool}

lemma strips_renderDnsOne {obs : DnsObservation} (h : ∀ t ∈ obs.texts, NoEscape t) :
    Strips (renderDnsOne unprintable .colored obs) (renderDnsOne unprintable .plain obs) := by
  unfold renderDnsOne
  cases herror : obs.error with
  | some err =>
    have hmessage : NoEscape err.message :=
      h _ (by simp [DnsObservation.texts, ProbeError.texts, herror])
    apply strips_fail
    split
    · exact hmessage
    · exact (((noEscape_of_printable (printable_failureKind err.kind)).append (by decide)).append
        hmessage).append (by decide)
  | none =>
    -- what is not a failure is written without colour
    cases obs.latencyMs with
    | none => exact strips_self (show NoEscape "no records" by decide)
    | some ms =>
      have hms := noEscape_nat ms.toNat
      dsimp only
      apply strips_self
      split
      · exact ((show NoEscape "no records (" by decide).append hms).append (by decide)
      · have hrecords : NoEscape
            (", ".intercalate (obs.records.map (DnsRecord.display unprintable))) := by
          refine all_displays (fun _ => ne_escape) (fun d hd t ht => h t ?_)
          exact List.mem_append_left _ (List.mem_append_right _ (List.mem_flatMap.mpr ⟨d, hd, ht⟩))
        refine (((hrecords.append ?_).append (by decide)).append hms).append (by decide)
        cases obs.ttl with
        | none => exact show NoEscape "" by decide
        | some t =>
          exact ((show NoEscape ", ttl " by decide).append (noEscape_nat t.toNat)).append
            (by decide)

lemma strips_dnsRow {host : String} {obs : DnsObservation} (h : ∀ t ∈ obs.texts, NoEscape t) :
    Strips (dnsRow unprintable .colored host obs) (dnsRow unprintable .plain host obs) := by
  unfold dnsRow
  dsimp only
  have htype : NoEscape (padRight 4 (toString obs.recordType)) :=
    all_padRight (fun _ => ne_escape) (noEscape_of_printable (printable_recordType _))
  refine strips_label ?_ (strips_renderDnsOne h)
  refine (((show NoEscape "    " by decide).append htype).append (by decide)).append ?_
  split
  · exact (h obs.hostname List.mem_cons_self).append (by decide)
  · decide

lemma mem_seenResolvers {observations : List DnsObservation} {r : ResolverKind}
    (h : r ∈ seenResolvers observations) : ∃ obs ∈ observations, obs.resolver = r := by
  suffices hfold : ∀ (l : List DnsObservation) (seen : List ResolverKind),
      r ∈ l.foldl (fun seen o => if o.resolver ∈ seen then seen else seen ++ [o.resolver]) seen →
      r ∈ seen ∨ ∃ obs ∈ l, obs.resolver = r by
    exact (hfold observations [] h).resolve_left List.not_mem_nil
  intro l
  induction l with
  | nil => exact fun seen hr => .inl hr
  | cons obs l ih =>
    intro seen hr
    rw [List.foldl_cons] at hr
    rcases ih _ hr with hseen | ⟨o, ho, hor⟩
    · split at hseen
      · exact .inl hseen
      · rcases List.mem_append.mp hseen with hseen | hnew
        · exact .inl hseen
        · exact .inr ⟨obs, List.mem_cons_self, (List.mem_singleton.mp hnew).symm⟩
    · exact .inr ⟨o, List.mem_cons_of_mem obs ho, hor⟩

lemma strips_renderDns {host : String} {observations : List DnsObservation} (hhost : NoEscape host)
    (h : ∀ obs ∈ observations, ∀ t ∈ obs.texts, NoEscape t) :
    Strips (renderDns unprintable .colored host observations)
      (renderDns unprintable .plain host observations) := by
  refine strips_unlines (.cons (strips_self ((show NoEscape "DNS " by decide).append hhost)) ?_)
  refine sameRows_flatMap (fun resolver hresolver => .cons (strips_self ?_) ?_)
  · obtain ⟨obs, hobs, rfl⟩ := mem_seenResolvers hresolver
    refine (show NoEscape "  " by decide).append (all_label (fun _ => ne_escape) (fun t ht => ?_))
    refine h obs hobs t (List.mem_append_left _ (List.mem_append_left _ ?_))
    exact List.mem_cons_of_mem _ ht
  · refine sameRows_flatMap (fun rt _ => sameRows_map (fun obs hobs => ?_))
    exact strips_dnsRow (h obs (List.mem_filter.mp hobs).1)

end Dns

lemma noEscape_msOrDash (ms : Option UInt64) : NoEscape (msOrDash ms) :=
  noEscape_of_printable (printable_msOrDash ms)

lemma strips_renderTcp (observations : List TcpObservation) :
    Strips (renderTcp .colored observations) (renderTcp .plain observations) := by
  refine strips_unlines (.cons (strips_self (by decide)) (sameRows_map (fun obs _ => ?_)))
  have hdestination := noEscape_of_printable (printable_socketAddr obs.destination)
  refine strips_label (((show NoEscape "  " by decide).append
    (all_padRight (fun _ => ne_escape) hdestination)).append (by decide)) ?_
  split
  · exact strips_pass ((show NoEscape "PASS      " by decide).append (noEscape_msOrDash _))
  · apply strips_fail (all_padRight (fun _ => ne_escape) _)
    split
    · exact noEscape_of_printable (printable_failureKind _)
    · decide

section Tls

variable {now : Clock}

lemma strips_renderLifetime (notAfter : Option String) :
    Strips (renderLifetime now .colored notAfter) (renderLifetime now .plain notAfter) := by
  unfold renderLifetime
  cases notAfter.bind (daysUntilFromRfc3339 now) with
  | none => exact strips_self (show NoEscape "" by decide)
  | some days =>
    dsimp only
    split_ifs
    · exact strips_fail (by decide)
    · exact strips_warn (by decide)
    · exact strips_warn (noEscape_of_printable (printable_days (by decide)))
    · exact strips_warn (noEscape_of_printable (printable_days (by decide)))
    · exact strips_self (by decide)

lemma strips_renderCert {cert : CertificateSummary} (h : ∀ t ∈ cert.texts, NoEscape t) :
    Strips (renderCert now .colored cert) (renderCert now .plain cert) := by
  have hsubject : NoEscape cert.subject := h _ (by simp [CertificateSummary.texts])
  have hissuer : NoEscape cert.issuer := h _ (by simp [CertificateSummary.texts])
  have hvalidity : NoEscape (renderValidity cert) := by
    refine (all_renderValidity_iff (fun _ => ne_escape)).mpr (fun a ha b hb => ⟨h a ?_, h b ?_⟩)
    · simp [CertificateSummary.texts, Option.mem_def.mp ha]
    · simp [CertificateSummary.texts, Option.mem_def.mp hb]
  have hsans : NoEscape (renderSans cert.sans) :=
    (all_renderSans_iff (fun _ => ne_escape)).mpr (fun san hsan =>
      h san (List.mem_append_right _ hsan))
  have hlead := ((hsubject.append (show NoEscape " issued by " by decide)).append hissuer).append
    hvalidity
  unfold renderCert
  exact strips_ending (strips_label hlead (strips_renderLifetime cert.notAfterUtc)) hsans

lemma sameRows_certRows {sni : String} {certificate : Option CertificateSummary}
    (hsni : NoEscape sni) (h : ∀ cert ∈ certificate, ∀ t ∈ cert.texts, NoEscape t) :
    SameRows (certRows now .colored sni certificate) (certRows now .plain sni certificate) := by
  cases certificate with
  | none => exact .nil
  | some cert =>
    have hcovers := ((show NoEscape "    covers " by decide).append hsni).append
      (show NoEscape ": " by decide)
    unfold certRows
    dsimp only
    refine .cons (strips_label (by decide) (strips_renderCert (h cert rfl)))
      (.cons (strips_label hcovers ?_) .nil)
    split
    · exact strips_pass (by decide)
    · exact strips_fail (by decide)

lemma sameRows_tlsRows {obs : TlsObservation} (h : ∀ t ∈ obs.texts, NoEscape t) :
    SameRows (tlsRows now .colored obs) (tlsRows now .plain obs) := by
  have hdestination := noEscape_of_printable (printable_socketAddr obs.destination)
  have hsni : NoEscape obs.sni := h _ List.mem_cons_self
  refine .cons (strips_label (by decide) (strips_self hdestination)) (List.rel_append ?_ ?_)
  · exact sameRows_if (List.forall_mem_singleton.mpr (All.append (by decide) hsni))
  split
  · refine .cons (strips_label (by decide) (strips_fail ?_)) .nil
    cases hfailure : obs.failure with
    | none => exact show NoEscape "failed" by decide
    | some e =>
      have hmessage : NoEscape e.message :=
        h _ (by simp [TlsObservation.texts, ProbeError.texts, hfailure])
      exact (((noEscape_of_printable (printable_failureKind e.kind)).append (by decide)).append
        hmessage).append (by decide)
  · have hversion : NoEscape (obs.version.getD "unknown") :=
      all_getD (by decide) (fun v hv => h v (by simp [TlsObservation.texts, Option.mem_def.mp hv]))
    refine List.rel_append (List.rel_append (List.rel_append (List.rel_append ?_ ?_) ?_) ?_) ?_
    · exact .cons (strips_label (by decide) (strips_self hversion)) .nil
    · refine sameRows_rowOf (by decide) (fun v hv => h v ?_)
      simp [TlsObservation.texts, Option.mem_def.mp hv]
    · refine sameRows_rowOf (by decide) (fun v hv => h v ?_)
      simp [TlsObservation.texts, Option.mem_def.mp hv]
    · refine sameRows_certRows hsni (fun cert hcert t ht => h t ?_)
      simp [TlsObservation.texts, Option.mem_def.mp hcert, ht]
    · exact .cons (strips_label (by decide) (strips_self (noEscape_msOrDash _))) .nil

lemma strips_renderTls {observations : List TlsObservation}
    (h : ∀ obs ∈ observations, ∀ t ∈ obs.texts, NoEscape t) :
    Strips (renderTls now .colored observations) (renderTls now .plain observations) :=
  strips_unlines (.cons (strips_self (by decide))
    (sameRows_flatMap (fun obs hobs => sameRows_tlsRows (h obs hobs))))

lemma strips_paintStatus {status : UInt16} {text : String} (h : NoEscape text) :
    Strips (paintStatus .colored status text) (paintStatus .plain status text) := by
  unfold paintStatus
  split_ifs
  · exact strips_pass h
  · exact strips_warn h
  · exact strips_fail h
  · exact strips_self h

lemma sameRows_httpTlsRows {tls : Option TlsObservation}
    (h : ∀ obs ∈ tls, ∀ t ∈ obs.texts, NoEscape t) :
    SameRows (httpTlsRows now .colored tls) (httpTlsRows now .plain tls) := by
  cases tls with
  | none => exact .nil
  | some obs =>
    have htext := h obs rfl
    refine List.rel_append (List.rel_append ?_ ?_) ?_
    · refine sameRows_rowOf (by decide) (fun v hv => htext v ?_)
      simp [TlsObservation.texts, Option.mem_def.mp hv]
    · refine sameRows_rowOf (by decide) (fun v hv => htext v ?_)
      simp [TlsObservation.texts, Option.mem_def.mp hv]
    · refine sameRows_certRows (htext _ List.mem_cons_self) (fun cert hcert t ht => htext t ?_)
      simp [TlsObservation.texts, Option.mem_def.mp hcert, ht]

lemma sameRows_bodyRows (obs : HttpObservation) :
    SameRows (bodyRows .colored obs) (bodyRows .plain obs) := by
  unfold bodyRows
  cases obs.bodyBytes with
  | none =>
    dsimp only
    split
    · exact .cons (strips_label (by decide) (strips_warn (by decide))) .nil
    · exact .nil
  | some bytes =>
    have hbytes := noEscape_nat bytes.toNat
    dsimp only
    split
    · refine .cons (strips_ending (strips_ending (strips_ending ?_ ?_) hbytes) ?_) .nil
      · exact strips_label (by decide) (strips_warn (by decide))
      · decide
      · decide
    · exact .cons (strips_ending (strips_label (by decide) (strips_self hbytes)) (by decide)) .nil

lemma sameRows_httpRows {obs : HttpObservation} (h : ∀ t ∈ obs.texts, NoEscape t) :
    SameRows (httpRows now .colored obs) (httpRows now .plain obs) := by
  have hdestination := noEscape_of_printable (printable_socketAddr obs.destination)
  have hhost : NoEscape obs.host := h _ (by simp [HttpObservation.texts])
  have hpath : NoEscape obs.path := h _ (by simp [HttpObservation.texts])
  have hprotocol : NoEscape (obs.protocol.getD "HTTP/1.1") :=
    all_getD (by decide) (fun v hv => h v (by simp [HttpObservation.texts, Option.mem_def.mp hv]))
  refine .cons (strips_label (by decide) (strips_self hdestination)) (List.rel_append
    (List.rel_append ?_ ?_) ?_)
  · exact sameRows_if (List.forall_mem_singleton.mpr (All.append (by decide) hhost))
  · exact sameRows_if (List.forall_mem_singleton.mpr (All.append (by decide) hpath))
  cases hfailure : obs.failure with
  | some e =>
    have hmessage : NoEscape e.message :=
      h _ (by simp [HttpObservation.texts, ProbeError.texts, hfailure])
    have hkind := noEscape_of_printable (printable_failureKind e.kind)
    refine .cons (strips_label (by decide) (strips_fail ?_)) .nil
    exact ((((hprotocol.append (by decide)).append hkind).append (by decide)).append
      hmessage).append (by decide)
  | none =>
    dsimp only
    refine List.rel_append (List.rel_append (List.rel_append (List.rel_append (List.rel_append
      (List.rel_append (List.rel_append ?_ ?_) ?_) ?_) ?_) ?_) ?_) ?_
    · refine .cons (strips_label ?_ ?_) .nil
      · exact ((show NoEscape "    " by decide).append hprotocol).append (by decide)
      · cases obs.status with
        | none => exact strips_self (show NoEscape "no status" by decide)
        | some status => exact strips_paintStatus (noEscape_nat status.toNat)
    · refine sameRows_rowOf (by decide) (fun v hv => h v ?_)
      simp [HttpObservation.texts, Option.mem_def.mp hv]
    · refine sameRows_httpTlsRows (fun tls htls t ht => h t ?_)
      simp [HttpObservation.texts, Option.mem_def.mp htls, ht]
    · refine sameRows_map (fun header hheader => strips_self ?_)
      have hmem := (List.mem_filter.mp hheader).1
      have htexts : ∀ t ∈ [header.1, header.2], t ∈ obs.texts := by
        intro t ht
        simp only [HttpObservation.texts, List.mem_append]
        exact .inl (.inl (.inr (List.mem_flatMap.mpr ⟨header, hmem, ht⟩)))
      exact (((show NoEscape "    " by decide).append (h _ (htexts _ (by simp)))).append
        (by decide)).append (h _ (htexts _ (by simp)))
    · exact sameRows_bodyRows obs
    · refine sameRows_rowOf (by decide) (fun v hv => ?_)
      obtain ⟨snippet, -, rfl⟩ := Option.map_eq_some_iff.mp hv
      refine all_sanitizeSnippet (fun _ => ne_escape) (fun c _ hc => ?_)
      rintro rfl
      exact hc (by decide)
    · exact .cons (strips_label (by decide) (strips_self (noEscape_msOrDash _))) .nil
    · refine sameRows_rowOf (by decide) (fun v hv => ?_)
      obtain ⟨ttfb, -, rfl⟩ := Option.map_eq_some_iff.mp hv
      exact (noEscape_nat ttfb.toNat).append (by decide)

lemma strips_renderHttpImpl {plain : Bool} {observations : List HttpObservation}
    (h : ∀ obs ∈ observations, ∀ t ∈ obs.texts, NoEscape t) :
    Strips (renderHttpImpl now .colored plain observations)
      (renderHttpImpl now .plain plain observations) := by
  refine strips_unlines (.cons (strips_self ?_)
    (sameRows_flatMap (fun obs hobs => sameRows_httpRows (h obs hobs))))
  split <;> decide

end Tls

lemma noEscape_fmt (v : Option UInt64) : NoEscape (fmt v) := noEscape_of_printable (printable_fmt v)

lemma noEscape_formatRate (rate : Float) : NoEscape (formatRate rate) :=
  noEscape_of_printable (printable_formatRate rate)

lemma strips_failuresText (failures : Nat) :
    Strips (failuresText .colored failures) (failuresText .plain failures) := by
  unfold failuresText
  split
  · exact strips_fail (noEscape_nat failures)
  · exact strips_self (noEscape_nat failures)

lemma strips_failureCount (kind : FailureKind) (count : Nat) :
    Strips (Style.colored.fail (toString kind ++ ": " ++ toString count))
      (Style.plain.fail (toString kind ++ ": " ++ toString count)) :=
  strips_fail (((noEscape_of_printable (printable_failureKind kind)).append (by decide)).append
    (noEscape_nat count))

lemma noEscape_success {label : String} (hlabel : NoEscape label) (successes : Nat) (rate : Float) :
    NoEscape (label ++ toString successes ++ " (" ++ formatRate rate ++ ")") :=
  (((hlabel.append (noEscape_nat successes)).append (by decide)).append
    (noEscape_formatRate rate)).append (by decide)

lemma sameRows_dnsRepeatRows {r : DnsRepeatResult} (h : ∀ t ∈ r.resolver.texts, NoEscape t) :
    SameRows (dnsRepeatRows .colored r) (dnsRepeatRows .plain r) := by
  refine List.rel_append (List.rel_append (List.rel_append ?_ ?_) ?_) ?_
  · refine .cons (strips_self ?_) (.cons ?_ (.cons ?_ (.cons ?_ .nil)))
    · exact (((show NoEscape "  " by decide).append (all_label (fun _ => ne_escape) h)).append
        (by decide)).append (noEscape_of_printable (printable_recordType r.recordType))
    · exact strips_label (by decide) (strips_self (noEscape_nat r.attempts))
    · exact strips_self (noEscape_success (by decide) r.successes r.successRate)
    · exact strips_label (by decide) (strips_failuresText r.failures)
  · exact sameRows_map (fun fc _ => strips_label (by decide) (strips_failureCount fc.kind fc.count))
  · refine sameRows_rowOf (by decide) (fun v hv => ?_)
    obtain ⟨ttl, -, rfl⟩ := Option.map_eq_some_iff.mp hv
    exact (noEscape_nat ttl.toNat).append (by decide)
  · split
    · refine .cons (strips_self (by decide)) ?_
      repeat' first
        | exact .nil
        | refine .cons (strips_label (by decide) (strips_self (noEscape_msOrDash _))) ?_
    · exact .nil

lemma strips_renderDnsRepeat {host : String} {results : List DnsRepeatResult}
    (hhost : NoEscape host) (h : ∀ r ∈ results, ∀ t ∈ r.resolver.texts, NoEscape t) :
    Strips (renderDnsRepeat .colored host results) (renderDnsRepeat .plain host results) :=
  strips_unlines (.cons (strips_label (by decide) (strips_self hhost))
    (sameRows_flatMap (fun r hr => sameRows_dnsRepeatRows (h r hr))))

lemma strips_commas {α : Type} {l : List α} {f g : α → String} (h : ∀ a ∈ l, Strips (f a) (g a)) :
    Strips (", ".intercalate (l.map f)) (", ".intercalate (l.map g)) :=
  strips_intercalate (by decide) (sameRows_map h)

lemma strips_msRow {label : String} (hlabel : NoEscape label) (v : Option UInt64) :
    Strips (label ++ fmt v ++ " ms") (label ++ fmt v ++ " ms") :=
  strips_self ((hlabel.append (noEscape_fmt v)).append (by decide))

lemma sameRows_probeRows (r : ProbeResult) :
    SameRows (probeRows .colored r) (probeRows .plain r) := by
  have hdestination := noEscape_of_printable (printable_socketAddr r.destination)
  refine List.rel_append (List.rel_append (List.rel_append (List.rel_append ?_ ?_) ?_) ?_) ?_
  · refine .cons ?_ (.cons ?_ (.cons ?_ (.cons ?_ .nil)))
    · exact strips_label (by decide) (strips_self hdestination)
    · exact strips_label (by decide) (strips_self (noEscape_nat r.attempts))
    · exact strips_self (noEscape_success (by decide) r.successes r.successRate)
    · exact strips_label (by decide) (strips_failuresText r.failures)
  · split
    · refine .cons (strips_self (by decide)) ?_
      repeat' first
        | exact .nil
        | refine .cons (strips_msRow (by decide) _) ?_
    · exact .nil
  · split
    · refine .cons (strips_self (by decide)) ?_
      repeat' first
        | exact .nil
        | refine .cons (strips_msRow (by decide) _) ?_
    · exact .nil
  · split
    · refine .cons (strips_label (by decide) (strips_commas (fun f _ => ?_))) .nil
      exact strips_failureCount f.kind f.count
    · exact .nil
  · split
    · refine .cons (strips_label (by decide) (strips_commas (fun s _ => ?_))) .nil
      apply strips_paintStatus
      exact ((noEscape_nat s.status.toNat).append (by decide)).append (noEscape_nat s.count)
    · exact .nil

lemma strips_renderProbe (results : List ProbeResult) :
    Strips (renderProbe .colored results) (renderProbe .plain results) :=
  strips_unlines (.cons (strips_self (by decide))
    (sameRows_flatMap (fun r _ => sameRows_probeRows r)))

lemma noEscape_hostCell {hostname : Option String} {addrs : String}
    (h : ∀ name ∈ hostname, NoEscape name) (haddrs : NoEscape addrs) :
    NoEscape (hostCell hostname addrs) := by
  unfold hostCell
  split
  · rename_i name hname
    have hname' := h name (Option.filter_eq_some_iff.mp hname).1
    exact ((hname'.append (by decide)).append haddrs).append (by decide)
  · exact haddrs

lemma noEscape_hop (ttl : UInt8) : NoEscape ("  " ++ padLeft 2 (toString ttl.toNat) ++ "  ") :=
  ((show NoEscape "  " by decide).append
    (all_padLeft (fun _ => ne_escape) (noEscape_nat ttl.toNat))).append (by decide)

lemma strips_routeRow {width : Nat} {hop : RouteHop} (h : ∀ name ∈ hop.hostname, NoEscape name) :
    Strips (routeRow .colored width hop) (routeRow .plain width hop) := by
  unfold routeRow
  split
  · exact strips_label (noEscape_hop hop.ttl) (strips_fail (by decide))
  · have hcell : NoEscape (padRight width (routeHostCell hop)) := by
      refine all_padRight (fun _ => ne_escape) (noEscape_hostCell h ?_)
      cases hop.addr with
      | none => exact show NoEscape "" by decide
      | some a => exact noEscape_of_printable (printable_ipAddr a)
    exact strips_self ((((noEscape_hop hop.ttl).append hcell).append (by decide)).append
      (noEscape_msOrDash hop.rttMs))

lemma strips_renderRoute {hops : List RouteHop}
    (h : ∀ hop ∈ hops, ∀ name ∈ hop.hostname, NoEscape name) :
    Strips (renderRoute .colored hops) (renderRoute .plain hops) :=
  strips_unlines (.cons (strips_self (by decide))
    (sameRows_map (fun hop hhop => strips_routeRow (h hop hhop))))

lemma sameRows_routeRepeatTail (hop : RouteHopStats) :
    SameRows (routeRepeatTail .colored hop) (routeRepeatTail .plain hop) := by
  have hms : ∀ (v : Option UInt64), ∀ t ∈ v.map (fun ms => toString ms.toNat ++ " ms"),
      NoEscape t := by
    intro v t ht
    obtain ⟨ms, -, rfl⟩ := Option.map_eq_some_iff.mp ht
    exact (noEscape_nat ms.toNat).append (by decide)
  refine List.rel_append (List.rel_append (List.rel_append ?_ ?_) ?_) ?_
  · exact sameRows_rowOf (by decide) (hms hop.rtt.min)
  · exact sameRows_rowOf (by decide) (hms hop.rtt.p50)
  · exact sameRows_rowOf (by decide) (hms hop.rtt.max)
  · split
    · exact .cons (strips_warn (by decide)) .nil
    · exact .nil

lemma strips_routeRepeatRow {runs width : Nat} {hop : RouteHopStats}
    (h : ∀ name ∈ hop.hostname, NoEscape name) :
    Strips (routeRepeatRow .colored runs width hop) (routeRepeatRow .plain runs width hop) := by
  unfold routeRepeatRow
  split
  · dsimp only
    refine Strips.append (strips_ending (strips_ending ?_ ?_) (by decide)) (strips_fail ?_)
    · exact strips_label (noEscape_hop hop.ttl) (strips_fail (by decide))
    · exact all_spaces (fun _ => ne_escape) (width - 1)
    · exact (noEscape_nat runs).append (by decide)
  · have haddrs : NoEscape (", ".intercalate (hop.addrs.map toString)) := by
      refine all_intercalate (by decide) (fun s hs => ?_)
      obtain ⟨a, -, rfl⟩ := List.mem_map.mp hs
      exact noEscape_of_printable (printable_ipAddr a)
    have hcell : NoEscape (padRight width (routeRepeatHostCell hop)) :=
      all_padRight (fun _ => ne_escape) (noEscape_hostCell h haddrs)
    have hline := (((((noEscape_hop hop.ttl).append hcell).append
      (show NoEscape " " by decide)).append (noEscape_nat hop.answered.toNat)).append
      (show NoEscape "/" by decide)).append (noEscape_nat runs)
    have hanswered := hline.append (show NoEscape " answered" by decide)
    have htail := sameRows_routeRepeatTail hop
    dsimp only
    generalize routeRepeatTail .colored hop = tail, routeRepeatTail .plain hop = tail' at htail ⊢
    cases htail with
    | nil => exact strips_self hanswered
    | cons hrow hrows =>
      exact strips_label (hanswered.append (by decide))
        (strips_intercalate (by decide) (.cons hrow hrows))

lemma strips_renderRouteRepeat {runs : RouteRepeat}
    (h : ∀ hop ∈ runs.hops, ∀ name ∈ hop.hostname, NoEscape name) :
    Strips (renderRouteRepeat .colored runs) (renderRouteRepeat .plain runs) := by
  refine strips_unlines (.cons (strips_self ?_)
    (sameRows_map (fun hop hhop => strips_routeRepeatRow (h hop hhop))))
  exact ((show NoEscape "Traceroute (" by decide).append (noEscape_nat _)).append (by decide)

lemma strips_renderSeverityBadge (severity : Severity) :
    Strips (renderSeverityBadge .colored severity) (renderSeverityBadge .plain severity) := by
  cases severity with
  | info => exact strips_info (by decide)
  | low => exact strips_self (by decide)
  | medium => exact strips_warn (by decide)
  | high => exact strips_fail (by decide)

lemma printable_severity (severity : Severity) : All IsPrintable severity.debug := by
  cases severity <;> decide

lemma printable_category (category : DiagnosticCategory) : All IsPrintable category.debug := by
  cases category <;> decide

lemma printable_confidence (confidence : Confidence) : All IsPrintable confidence.debug := by
  cases confidence <;> decide

lemma sameRows_block {α : Type} {l : List α} {title label : String} {f : α → String}
    (htitle : NoEscape title) (hlabel : NoEscape label) (h : ∀ a ∈ l, NoEscape (f a)) :
    SameRows (if !l.isEmpty then title :: l.map (fun a => label ++ f a) else [])
      (if !l.isEmpty then title :: l.map (fun a => label ++ f a) else []) := by
  apply sameRows_if
  refine List.forall_mem_cons.mpr ⟨htitle, List.forall_mem_map.mpr (fun a ha => ?_)⟩
  exact hlabel.append (h a ha)

lemma sameRows_diagnosisRows {d : Diagnosis} (h : ∀ t ∈ d.texts, NoEscape t) :
    SameRows (diagnosisRows .colored d) (diagnosisRows .plain d) := by
  have hcategory := noEscape_of_printable (printable_category d.category)
  have hconfidence := noEscape_of_printable (printable_confidence d.confidence)
  refine List.rel_append (List.rel_append (List.rel_append ?_ ?_) ?_) ?_
  · refine .cons ?_ (.cons ?_ .nil)
    · refine strips_ending (strips_ending (strips_ending (strips_ending (strips_ending
        (strips_label ?_ (strips_renderSeverityBadge d.severity)) ?_) hcategory) ?_) hconfidence) ?_
      · decide
      · decide
      · decide
      · decide
    · exact strips_label (by decide) (strips_self (h _ List.mem_cons_self))
  · refine sameRows_block (by decide) (by decide) (fun e he => h e.detail ?_)
    exact List.mem_append_left _ (List.mem_cons_of_mem _ (List.mem_map_of_mem he))
  · exact sameRows_block (by decide) (by decide) (fun c hc => h c (List.mem_append_right _ hc))
  · exact .cons (strips_self (by decide)) .nil

lemma printable_token {n : Nat} {counted : List (Severity × Nat)} :
    All IsPrintable ("Anomalies: " ++ toString n ++ " (" ++ ", ".intercalate
      (counted.map (fun e => toUppercase (e.1.debug ++ ": " ++ toString e.2))) ++ ")") := by
  have hparts : All IsPrintable (", ".intercalate
      (counted.map (fun e => toUppercase (e.1.debug ++ ": " ++ toString e.2)))) := by
    refine all_intercalate (by decide) (fun s hs => ?_)
    obtain ⟨e, -, rfl⟩ := List.mem_map.mp hs
    exact printable_toUppercase
      (((printable_severity e.1).append (by decide)).append (printable_nat e.2))
  exact ((((show All IsPrintable "Anomalies: " by decide).append (printable_nat n)).append
    (by decide)).append hparts).append (by decide)

lemma sameRows_anomalyRows (ds : List Diagnosis) :
    SameRows (anomalyRows .colored ds) (anomalyRows .plain ds) := by
  unfold anomalyRows
  dsimp only
  split
  · refine .cons ?_ .nil
    split
    · exact strips_fail (noEscape_of_printable printable_token)
    · exact strips_warn (noEscape_of_printable printable_token)
  · exact .nil

lemma strips_renderDiagnoses {ds : List Diagnosis} (h : ∀ d ∈ ds, ∀ t ∈ d.texts, NoEscape t) :
    Strips (renderDiagnoses .colored ds) (renderDiagnoses .plain ds) := by
  apply strips_unlines
  refine List.rel_append (.cons (strips_self (by decide)) ?_) (sameRows_anomalyRows ds)
  exact sameRows_flatMap (fun d hd => sameRows_diagnosisRows (h d hd))

/-- Without its SGR sequences a coloured report is the plain one, the padding included. -/
theorem colour_keeps_text {unprintable : Char → Bool} {now : Clock} {report : Report}
    (h : ∀ t ∈ report.texts, NoEscape t) :
    strip (report.render unprintable now .colored).toList =
      (report.render unprintable now .plain).toList := by
  apply Strips.strip_eq
  cases report with
  | dns host observations =>
    exact strips_renderDns (h host List.mem_cons_self) (fun obs hobs t ht =>
      h t (List.mem_cons_of_mem _ (List.mem_flatMap.mpr ⟨obs, hobs, ht⟩)))
  | tcp observations => exact strips_renderTcp observations
  | tls observations =>
    exact strips_renderTls (fun obs hobs t ht => h t (List.mem_flatMap.mpr ⟨obs, hobs, ht⟩))
  | http plain observations =>
    exact strips_renderHttpImpl (fun obs hobs t ht => h t (List.mem_flatMap.mpr ⟨obs, hobs, ht⟩))
  | dnsRepeat host results =>
    exact strips_renderDnsRepeat (h host List.mem_cons_self) (fun r hr t ht =>
      h t (List.mem_cons_of_mem _ (List.mem_flatMap.mpr ⟨r, hr, ht⟩)))
  | probe results => exact strips_renderProbe results
  | route hops =>
    exact strips_renderRoute (fun hop hhop name hname =>
      h name (List.mem_flatMap.mpr ⟨hop, hhop, Option.mem_toList.mpr hname⟩))
  | routeRepeat runs =>
    exact strips_renderRouteRepeat (fun hop hhop name hname =>
      h name (List.mem_flatMap.mpr ⟨hop, hhop, Option.mem_toList.mpr hname⟩))
  | diagnoses ds =>
    exact strips_renderDiagnoses (fun d hd t ht => h t (List.mem_flatMap.mpr ⟨d, hd, ht⟩))

/-- A traceroute of two runs: a hop that answers along two paths, then a lost one. -/
def changedRoute : RouteRepeat where
  runs := 2
  hops := [
    { ttl := 1, answered := 2, addrs := [.v4 (.new 192 0 2 1), .v4 (.new 192 0 2 2)],
      hostname := some "gw.example",
      rtt := ⟨2, some 3, some 3, some 4, some 4, some 4, some 4, some 3, some 1, [3, 4]⟩,
      pathChanged := true },
    { ttl := 2, answered := 0, addrs := [], hostname := none,
      rtt := ⟨0, none, none, none, none, none, none, none, none, []⟩, pathChanged := false }]

theorem colour_keeps_text_route :
    strip ((Report.routeRepeat changedRoute).render (fun _ => false) none .colored).toList =
      ((Report.routeRepeat changedRoute).render (fun _ => false) none .plain).toList :=
  colour_keeps_text (by decide)

end IpTools
