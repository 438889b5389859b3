import IpTools.Proofs.BodyRead
import IpTools.Proofs.Expectations

/-!
# Expected bodies

What an expectation says of the bytes that a server sends: the text has to be within the characters
that the snippet holds, however the body comes in.
-/

namespace IpTools

lemma infix_of_infix_concat {α : Type} {a : α} {needle s : List α} (ha : a ∉ needle)
    (h : needle <:+: s ++ [a]) : needle <:+: s := by
  rcases List.infix_concat_iff.mp h with h | h
  · rcases List.suffix_concat_iff.mp h with rfl | ⟨t, rfl, -⟩
    · exact List.nil_infix
    · exact absurd (List.mem_append_right t List.mem_cons_self) ha
  · exact h

/-- The signs that a snippet may end with are no part of what is found before them. -/
lemma infix_signed_iff {needle s lost : List Char} (hlost : lost = [] ∨ lost = [Utf8.replacement])
    (truncated : Bool) (hreplacement : Utf8.replacement ∉ needle) (hdots : '…' ∉ needle) :
    needle <:+: s ++ lost ++ (if truncated then ['…'] else []) ↔ needle <:+: s := by
  constructor
  · intro h
    have hcut : needle <:+: s ++ lost := by
      cases truncated with
      | false => simpa using h
      | true => exact infix_of_infix_concat hdots h
    rcases hlost with rfl | rfl
    · rwa [List.append_nil] at hcut
    · exact infix_of_infix_concat hreplacement hcut
  · intro h
    rw [List.append_assoc]
    exact h.trans (List.prefix_append s _).isInfix

/-- What is found in a snippet of the first bytes of a text is in the characters that are wholly in
them. -/
lemma snippet_contains_iff (n : Nat) (text : List Char) (truncated : Bool) {needle : List Char}
    (hne : needle ≠ []) (hreplacement : Utf8.replacement ∉ needle) (hdots : '…' ∉ needle) :
    (∃ body, bodySnippetString ((Utf8.encode text).take n) truncated = some body ∧
        needle <:+: body.toList) ↔
      ∃ shown, shown <+: text ∧ (Utf8.encode shown).length ≤ n ∧ needle <:+: shown := by
  obtain ⟨lost, hlost, hdecoded⟩ := Utf8.decodeLossy_take_encode text n
  have hshown : needle <:+: Utf8.fitting n text ↔
      ∃ shown, shown <+: text ∧ (Utf8.encode shown).length ≤ n ∧ needle <:+: shown := by
    constructor
    · intro h
      obtain ⟨hstart, hlength⟩ :=
        Utf8.prefix_fitting_iff.mp (List.prefix_refl (Utf8.fitting n text))
      exact ⟨Utf8.fitting n text, hstart, hlength, h⟩
    · rintro ⟨shown, hstart, hlength, h⟩
      exact h.trans (Utf8.prefix_fitting_iff.mpr ⟨hstart, hlength⟩).isInfix
  rw [← hshown]
  unfold bodySnippetString
  split
  case isTrue hempty =>
    rw [List.isEmpty_iff] at hempty
    rw [hempty] at hdecoded
    have hfitting : Utf8.fitting n text = [] := (List.append_eq_nil_iff.mp hdecoded.symm).1
    rw [hfitting]
    refine iff_of_false (fun ⟨_, h, _⟩ => by cases h) (fun h => hne (List.infix_nil.mp h))
  case isFalse hnonempty =>
    rw [hdecoded, ← infix_signed_iff hlost truncated hreplacement hdots]
    constructor
    · rintro ⟨body, hbody, h⟩
      cases hbody
      rwa [String.toList_ofList] at h
    · intro h
      refine ⟨_, rfl, ?_⟩
      rwa [String.toList_ofList]

/-- What an exchange that is not broken off observes. -/
lemma driveHttp1_read {probe : HttpProbe} {tls : Option TlsObservation} {transport : HttpTransport}
    {head : ResponseHead} (hreach : ReachesBody probe tls.isSome transport)
    (hresponse : transport.response = .ok head) (hending : ∀ e, transport.ending ≠ .failed e) :
    (driveHttp1 probe tls transport).failure = none ∧
      (driveHttp1 probe tls transport).status = some head.status ∧
      ∃ truncated, (driveHttp1 probe tls transport).bodySnippet =
        bodySnippetString (shownBytes probe.maxBodyBytes (frameBytes transport.frames))
          truncated := by
  obtain ⟨read, hread, hkept⟩ | ⟨e, hfailed, -⟩ := bodyAccumulated probe transport
  · have hshown : read.snippet = shownBytes probe.maxBodyBytes (frameBytes transport.frames) := by
      rw [hkept.snippet, List.take_take, Nat.min_comm]
      rfl
    have hsnippet := (driveHttp1_of_ok hreach hread).2
    rw [hshown] at hsnippet
    obtain ⟨hhandshake, hrejects, -, -⟩ := hreach
    unfold HttpProbe.request at hrejects
    unfold bodyRead at hread
    refine ⟨?_, ?_, _, hsnippet⟩
    · unfold driveHttp1
      simp only [hhandshake, hrejects, hresponse, hread]
      rfl
    · unfold driveHttp1
      simp only [hhandshake, hrejects, hresponse, hread]
  · exact absurd hfailed (hending e)

lemma parseExpectation_contains {expectStatus : Option String} {needle : String} {e : Expectation}
    (h : parseExpectation expectStatus (some needle) = .ok (some e)) :
    needle ≠ "" ∧ e.contains = some needle := by
  unfold parseExpectation at h
  cases hstatus : expectStatus.mapM parseStatusSpec with
  | error err =>
    rw [hstatus] at h
    cases h
  | ok status =>
    rw [hstatus] at h
    by_cases hempty : needle.isEmpty = true
    · simp [hempty, bind, Except.bind, throw, throwThe, MonadExceptOf.throw] at h
    · rw [String.isEmpty_iff] at hempty
      refine ⟨hempty, ?_⟩
      simp [hempty, bind, Except.bind, pure, Except.pure] at h
      rw [← h]

/-- An expectation about the body of a response is met by the characters of it whose bytes are
within the first 1024 and the cap, and by no others, whatever chunks the body comes in and whether
or not it ends. -/
theorem expected_text_iff [DebugTables] (probe : HttpProbe) (tls : Option TlsObservation)
    {transport : HttpTransport} (hreach : ReachesBody probe tls.isSome transport)
    (hending : ∀ e, transport.ending ≠ .failed e) (text : List Char)
    (hbody : frameBytes transport.frames = Utf8.encode text)
    {expectStatus : Option String} {needle : String} {e : Expectation}
    (hparse : parseExpectation expectStatus (some needle) = .ok (some e))
    (hreplacement : Utf8.replacement ∉ needle.toList) (hdots : '…' ∉ needle.toList) :
    e.check (driveHttp1 probe tls transport) = none ↔
      (∀ spec, e.status = some spec →
        ∃ head, transport.response = .ok head ∧ spec.Accepts head.status) ∧
      ∃ shown, shown <+: text ∧
        (Utf8.encode shown).length ≤ min probe.maxBodyBytes.toNat bodySnippetBytes ∧
        needle.toList <:+: shown := by
  obtain ⟨-, -, head, hresponse⟩ := id hreach
  obtain ⟨hfailure, hstatus, truncated, hsnippet⟩ := driveHttp1_read hreach hresponse hending
  obtain ⟨hne, hcontains⟩ := parseExpectation_contains hparse
  have hfound := snippet_contains_iff (min probe.maxBodyBytes.toNat bodySnippetBytes) text truncated
    (fun h => hne (String.toList_eq_nil_iff.mp h)) hreplacement hdots
  unfold shownBytes at hsnippet
  rw [hbody] at hsnippet
  rw [← hsnippet] at hfound
  rw [check_eq_none, ← hfound]
  constructor
  · intro h
    refine ⟨fun spec hspec => ?_, h.contains needle hcontains⟩
    obtain ⟨code, hcode, haccepts⟩ := h.status spec hspec
    rw [hstatus] at hcode
    cases hcode
    exact ⟨head, hresponse, haccepts⟩
  · rintro ⟨haccepted, hshown⟩
    refine ⟨hfailure, fun spec hspec => ?_, fun other hother => ?_⟩
    · obtain ⟨head', hresponse', haccepts⟩ := haccepted spec hspec
      rw [hresponse] at hresponse'
      cases hresponse'
      exact ⟨head.status, hstatus, haccepts⟩
    · rw [hcontains] at hother
      cases hother
      exact hshown

/-- A text that is cut between two chunks. -/
theorem expected_text_hello :
    letI := DebugTables.none
    Expectation.check ⟨some (.statusClass 2), some "hell"⟩
      (driveHttp1 (cappedProbe 4) none (answers [.data [104, 101], .data [108, 108, 111]])) =
        none := by
  let := DebugTables.none
  have hparse : parseExpectation (some "2xx") (some "hell") =
      .ok (some ⟨some (.statusClass 2), some "hell"⟩) := by decide +kernel
  refine (expected_text_iff (cappedProbe 4) none ⟨rfl, rfl, _, rfl⟩ (fun _ h => by cases h)
    "hello".toList (by decide +kernel) hparse (by decide +kernel) (by decide +kernel)).mpr ⟨?_, ?_⟩
  · intro spec hspec
    cases hspec
    exact ⟨_, rfl, matchesStatus_iff.mp rfl⟩
  · exact ⟨"hell".toList, by decide +kernel, by decide +kernel, List.infix_refl _⟩

end IpTools
