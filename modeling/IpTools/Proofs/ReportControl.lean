import IpTools.Proofs.ReportText

/-!
# Control characters in the HTTP report

The snippet of a body is escaped before it is shown. What the report shows as the server sent it
decides whether a row of it has a control character: the protocol, the TLS version, the ALPN and
the certificate.
-/

namespace IpTools

open CharClass

/-- What a row may have: a tab, and no other control character. -/
def IsShown (c : Char) : Prop := ¬IsAsciiControl c ∨ c = '\t'

instance : DecidablePred IsShown := fun c =>
  inferInstanceAs (Decidable (¬IsAsciiControl c ∨ c = '\t'))

/-- What the value of a decoded header has: visible ASCII and tabs. -/
def IsHeaderChar (c : Char) : Prop := IsPrintable c ∨ c = '\t'

instance : DecidablePred IsHeaderChar := fun c =>
  inferInstanceAs (Decidable (IsPrintable c ∨ c = '\t'))

lemma isShown_of_isPrintable (c : Char) (h : IsPrintable c) : IsShown c :=
  .inl (not_control_of_isPrintable h)

lemma shown_of_printable {s : String} (h : All IsPrintable s) : All IsShown s :=
  h.mono isShown_of_isPrintable

lemma shown_of_clean {s : String} (h : Clean s) : All IsShown s := h.mono (fun _ => Or.inl)

lemma shown_of_header {s : String} (h : All IsHeaderChar s) : All IsShown s :=
  h.mono (fun _ hc => hc.imp_left not_control_of_isPrintable)

/-- The operator's own inputs and the failure have no control character, and the headers are
decoded. -/
structure HttpObservation.Vetted (obs : HttpObservation) : Prop where
  host : Clean obs.host
  path : Clean obs.path
  sni : ∀ tls ∈ obs.tls, Clean tls.sni
  message : ∀ failure ∈ obs.failure, Clean failure.message
  headers : ∀ header ∈ obs.headers, All IsHeaderChar header.2
  location : ∀ location ∈ obs.location, All IsHeaderChar location

/-- The validity is shown where both of its ends are known. -/
def CertificateSummary.validityTexts (cert : CertificateSummary) : List String :=
  match cert.notAfterUtc, cert.notBeforeUtc with
  | some a, some b => [b, a]
  | _, _ => []

def CertificateSummary.shownTexts (cert : CertificateSummary) : List String :=
  [cert.subject, cert.issuer] ++ cert.validityTexts ++ cert.sans

def TlsObservation.shownTexts (tls : TlsObservation) : List String :=
  tls.version.toList ++ tls.alpn.toList ++
    tls.certificate.toList.flatMap CertificateSummary.shownTexts

/-- A failure shows no more than the protocol. -/
def HttpObservation.shownTexts (obs : HttpObservation) : List String :=
  obs.protocol.toList ++
    if obs.failure.isSome then [] else obs.tls.toList.flatMap TlsObservation.shownTexts

section Rows

variable {now : Clock}

lemma printable_lifetime (now : Clock) (notAfter : Option String) :
    All IsPrintable (renderLifetime now .plain notAfter) := by
  unfold renderLifetime
  cases notAfter.bind (daysUntilFromRfc3339 now) with
  | none => exact show All IsPrintable "" by decide
  | some days =>
    dsimp only
    split_ifs
    · exact show All IsPrintable " (expired)" by decide
    · exact show All IsPrintable " (expires today)" by decide
    · exact printable_days (by decide)
    · exact printable_days (by decide)
    · decide

lemma shown_renderCert_iff {cert : CertificateSummary} :
    All IsShown (renderCert now .plain cert) ↔ ∀ t ∈ cert.shownTexts, All IsShown t := by
  have hlifetime := shown_of_printable (printable_lifetime now cert.notAfterUtc)
  have hvalidity : All IsShown (renderValidity cert) ↔
      ∀ t ∈ cert.validityTexts, All IsShown t := by
    rw [all_renderValidity_iff isShown_of_isPrintable, CertificateSummary.validityTexts]
    cases cert.notAfterUtc <;> cases cert.notBeforeUtc <;> simp [and_comm]
  unfold renderCert CertificateSummary.shownTexts
  simp only [all_append_iff, hvalidity, all_renderSans_iff isShown_of_isPrintable, hlifetime,
    show All IsShown " issued by " by decide, List.forall_mem_append, List.forall_mem_cons,
    List.not_mem_nil, IsEmpty.forall_iff, implies_true, and_true]

lemma shown_certRows_iff {sni : String} {certificate : Option CertificateSummary}
    (hsni : Clean sni) :
    (∀ row ∈ certRows now .plain sni certificate, All IsShown row) ↔
      ∀ t ∈ certificate.toList.flatMap CertificateSummary.shownTexts, All IsShown t := by
  cases certificate with
  | none => exact Iff.rfl
  | some cert =>
    have hcovers : All IsShown ("    covers " ++ sni ++ ": " ++
        if certCoversHostname sni cert.sans then Style.plain.pass "yes"
        else Style.plain.fail "no") := by
      refine ((All.append (by decide) (shown_of_clean hsni)).append (by decide)).append ?_
      split <;> decide
    unfold certRows
    dsimp only
    rw [List.forall_mem_cons, List.forall_mem_singleton, and_iff_left hcovers, all_append_iff,
      and_iff_right (by decide), shown_renderCert_iff, Option.toList_some, List.flatMap_singleton]

lemma shown_httpTlsRows_iff {tls : Option TlsObservation} (hsni : ∀ obs ∈ tls, Clean obs.sni) :
    (∀ row ∈ httpTlsRows now .plain tls, All IsShown row) ↔
      ∀ t ∈ tls.toList.flatMap TlsObservation.shownTexts, All IsShown t := by
  cases tls with
  | none => exact Iff.rfl
  | some obs =>
    simp only [httpTlsRows, Option.toList_some, List.flatMap_singleton, TlsObservation.shownTexts,
      List.forall_mem_append, shown_certRows_iff (hsni obs rfl),
      all_rowOf_iff isShown_of_isPrintable (show All IsPrintable "    TLS: " by decide),
      all_rowOf_iff isShown_of_isPrintable (show All IsPrintable "    ALPN: " by decide),
      Option.mem_toList, Option.mem_def]

/-- The names of the curated headers are printable in any case. -/
lemma printable_of_isCurated {name : String} (h : isCurated name = true) :
    All IsPrintable name := by
  have hlower : ∀ s ∈ curatedHeaders, All IsPrintable s := by decide
  intro c hc
  have hprintable : IsPrintable c.toLower := by
    refine hlower _ (of_decide_eq_true h) c.toLower ?_
    rw [toAsciiLowercase, String.toList_ofList]
    exact List.mem_map_of_mem hc
  unfold Char.toLower at hprintable
  split at hprintable
  · rename_i hupper
    refine isPrintable_of_isAlphanum ?_
    have hcase : c.isUpper = true := decide_eq_true hupper
    exact show (c.isUpper || c.isLower || c.isDigit) = true by rw [hcase]; rfl
  · exact hprintable

lemma shown_bodyRows (obs : HttpObservation) : ∀ row ∈ bodyRows .plain obs, All IsShown row := by
  unfold bodyRows
  cases obs.bodyBytes with
  | none =>
    dsimp only
    split <;> decide
  | some bytes =>
    have hbytes := shown_of_printable (printable_nat bytes.toNat)
    dsimp only
    split
    · refine List.forall_mem_singleton.mpr (((All.append ?_ ?_).append hbytes).append ?_) <;> decide
    · exact List.forall_mem_singleton.mpr (((by decide : All IsShown "    body: ").append
        hbytes).append (by decide))

lemma shown_protocol_iff (obs : HttpObservation) :
    All IsShown (obs.protocol.getD "HTTP/1.1") ↔ ∀ t ∈ obs.protocol.toList, All IsShown t := by
  cases obs.protocol with
  | none => exact iff_of_true (show All IsShown "HTTP/1.1" by decide) (List.forall_mem_nil _)
  | some protocol => exact List.forall_mem_singleton.symm

lemma printable_renderStatus (status : UInt16) : All IsPrintable (renderStatus .plain status) := by
  have hstatus := printable_nat status.toNat
  unfold renderStatus paintStatus
  split_ifs <;> exact hstatus

/-- The operator's own inputs. -/
lemma shown_hostRows {obs : HttpObservation} (h : obs.Vetted) :
    (∀ row ∈ if presentedNameDiffers obs.host obs.destination then
      ["    host: " ++ obs.host] else [], All IsShown row) ∧
    ∀ row ∈ if obs.path ≠ "/" then ["    path: " ++ obs.path] else [], All IsShown row := by
  constructor
  · apply forall_mem_rows_if
    exact List.forall_mem_singleton.mpr (All.append (by decide) (shown_of_clean h.host))
  · apply forall_mem_rows_if
    exact List.forall_mem_singleton.mpr (All.append (by decide) (shown_of_clean h.path))

/-- The headers are decoded, and the names of those that are shown are printable. -/
lemma shown_headerRows {obs : HttpObservation} (h : obs.Vetted) :
    (∀ row ∈ rowOf "    redirect: " obs.location, All IsShown row) ∧
    ∀ row ∈ (obs.headers.filter (fun h => isCurated h.1)).map
      (fun h => "    " ++ h.1 ++ ": " ++ h.2), All IsShown row := by
  constructor
  · exact (all_rowOf_iff isShown_of_isPrintable (by decide)).mpr
      (fun v hv => shown_of_header (h.location v hv))
  · intro row hrow
    obtain ⟨header, hheader, rfl⟩ := List.mem_map.mp hrow
    obtain ⟨hmem, hcurated⟩ := List.mem_filter.mp hheader
    have hname := shown_of_printable (printable_of_isCurated hcurated)
    exact (((show All IsShown "    " by decide).append hname).append (by decide)).append
      (shown_of_header (h.headers header hmem))

/-- The snippet is escaped, and the latencies are numbers. -/
lemma shown_lastRows (obs : HttpObservation) :
    (∀ row ∈ rowOf "    body content: " (obs.bodySnippet.map sanitizeSnippet), All IsShown row) ∧
    All IsShown ("    latency: " ++ msOrDash obs.latencyMs) ∧
    ∀ row ∈ rowOf "    ttfb:    " (obs.ttfbMs.map (fun ttfb => toString ttfb.toNat ++ " ms")),
      All IsShown row := by
  refine ⟨?_, shown_of_printable (All.append (by decide) (printable_msOrDash _)), ?_⟩
  · refine (all_rowOf_iff isShown_of_isPrintable (by decide)).mpr (fun v hv => ?_)
    obtain ⟨snippet, -, rfl⟩ := Option.map_eq_some_iff.mp hv
    exact all_sanitizeSnippet isShown_of_isPrintable (fun _ _ hc => .inl hc)
  · refine (all_rowOf_iff isShown_of_isPrintable (by decide)).mpr (fun v hv => ?_)
    obtain ⟨ttfb, -, rfl⟩ := Option.map_eq_some_iff.mp hv
    exact shown_of_printable ((printable_nat ttfb.toNat).append (by decide))

lemma shown_httpRows_iff {obs : HttpObservation} (h : obs.Vetted) :
    (∀ row ∈ httpRows now .plain obs, All IsShown row) ↔
      ∀ t ∈ obs.shownTexts, All IsShown t := by
  have hdestination : All IsShown ("  " ++ toString obs.destination) :=
    shown_of_printable (All.append (by decide) (printable_socketAddr _))
  have hlead : All IsShown "    " := by decide
  have hspace : All IsShown " " := by decide
  unfold httpRows HttpObservation.shownTexts
  rw [List.forall_mem_cons, and_iff_right hdestination, List.forall_mem_append,
    List.forall_mem_append, and_iff_right (shown_hostRows h), List.forall_mem_append]
  cases hfailure : obs.failure with
  | some e =>
    have hkind := shown_of_printable (printable_failureKind e.kind)
    have hmessage := shown_of_clean (h.message e hfailure)
    have hopen : All IsShown " (" := by decide
    have hclose : All IsShown ")" := by decide
    rw [List.forall_mem_singleton, all_append_iff, and_iff_right hlead, ← shown_protocol_iff]
    change All IsShown (failureText obs.protocol e) ↔ _
    simp only [failureText, all_append_iff, hspace, hkind, hopen, hmessage, hclose, and_true,
      Option.isSome_some, if_true, List.not_mem_nil, IsEmpty.forall_iff, implies_true]
  | none =>
    obtain ⟨hlocation, hheaders⟩ := shown_headerRows h
    obtain ⟨hsnippet, hlatency, httfb⟩ := shown_lastRows obs
    dsimp only
    rw [List.forall_mem_append, List.forall_mem_append, List.forall_mem_append,
      List.forall_mem_append, List.forall_mem_append, List.forall_mem_append,
      List.forall_mem_append, and_iff_left httfb,
      and_iff_left (List.forall_mem_singleton.mpr hlatency), and_iff_left hsnippet,
      and_iff_left (shown_bodyRows obs), and_iff_left hheaders, shown_httpTlsRows_iff h.sni,
      and_iff_left hlocation, List.forall_mem_singleton, all_append_iff, all_append_iff,
      all_append_iff, and_iff_right hlead, and_iff_left hspace, shown_protocol_iff]
    refine and_congr_left (fun _ => and_iff_left ?_)
    cases obs.status with
    | none => exact show All IsShown "no status" by decide
    | some s => exact shown_of_printable (printable_renderStatus s)

end Rows

/-- No row has a control character exactly where no text that is shown as the server sent it
has one, whatever the snippets of the bodies are. -/
theorem httpReport_shown_iff {now : Clock} {observations : List HttpObservation}
    (h : ∀ obs ∈ observations, obs.Vetted) :
    renderHttp now .plain observations =
        unlines ("HTTPS" :: observations.flatMap (httpRows now .plain)) ∧
      ((∀ row ∈ "HTTPS" :: observations.flatMap (httpRows now .plain), All IsShown row) ↔
        ∀ obs ∈ observations, ∀ t ∈ obs.shownTexts, All IsShown t) := by
  refine ⟨rfl, ?_⟩
  rw [List.forall_mem_cons, and_iff_right (by decide), List.forall_mem_flatMap]
  exact forall₂_congr (fun obs hobs => shown_httpRows_iff (h obs hobs))

/-- A response over TLS whose certificate has one alternative name. -/
def named (san : String) : HttpObservation where
  destination := .v4 ⟨.new 192 0 2 1, 443⟩
  host := "example.com"
  method := "GET"
  path := "/"
  tls := some
    { destination := .v4 ⟨.new 192 0 2 1, 443⟩, sni := "example.com", success := true,
      version := some "TLSv1_3", cipher := none, alpn := some "h2",
      certificate := some ⟨"CN=example.com", "CN=Example CA", none, none, [san]⟩,
      latencyMs := some 12, failure := none }
  protocol := some "HTTP/2"
  status := some 200
  location := none
  headers := [("server", "nginx")]
  bodyBytes := some 2
  bodyCapped := false
  bodySnippet := some "\x1b[2J\n"
  latencyMs := some 20
  ttfbMs := some 15
  failure := none

lemma named_vetted (san : String) : (named san).Vetted where
  host := show Clean "example.com" by decide
  path := show Clean "/" by decide
  sni := fun tls htls => by
    cases htls
    exact show Clean "example.com" by decide
  message := fun failure hfailure => by cases hfailure
  headers := show ∀ header ∈ [("server", "nginx")], All IsHeaderChar header.2 by decide
  location := fun location hlocation => by cases hlocation

theorem httpReport_shown_snippet :
    renderHttp none .plain [named "example.com"] =
        unlines ("HTTPS" :: [named "example.com"].flatMap (httpRows none .plain)) ∧
      ((∀ row ∈ "HTTPS" :: [named "example.com"].flatMap (httpRows none .plain),
          All IsShown row) ↔
        ∀ obs ∈ [named "example.com"], ∀ t ∈ obs.shownTexts, All IsShown t) :=
  httpReport_shown_iff (List.forall_mem_singleton.mpr (named_vetted "example.com"))

/-- An alternative name that clears the screen is written as it is. -/
theorem name_clears_screen :
    (named "example.com\x1b[2J").Vetted ∧
      ¬∀ row ∈ "HTTPS" :: [named "example.com\x1b[2J"].flatMap (httpRows none .plain),
        All IsShown row :=
  ⟨named_vetted _, by decide +kernel⟩

end IpTools
