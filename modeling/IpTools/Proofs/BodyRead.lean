import IpTools.Probes.Http

/-!
# Reading a response body

What is kept of a body does not depend on how it is cut into frames. What is told of the cut is
wrong where a body ends with the cap, and where the cap is within the snippet.
-/

namespace IpTools

/-- The bytes of the data frames. -/
def frameBytes (frames : List Frame) : List UInt8 :=
  frames.flatMap (fun
    | .data bytes => bytes
    | .trailers => [])

def Frame.isData : Frame → Bool
  | .data _ => true
  | .trailers => false

@[simp] lemma frameBytes_data (bytes : List UInt8) (frames : List Frame) :
    frameBytes (.data bytes :: frames) = bytes ++ frameBytes frames := rfl

@[simp] lemma frameBytes_trailers (frames : List Frame) :
    frameBytes (.trailers :: frames) = frameBytes frames := rfl

lemma frameBytes_of_no_data {frames : List Frame} (h : frames.any Frame.isData = false) :
    frameBytes frames = [] := by
  induction frames with
  | nil => rfl
  | cons f frames ih =>
    cases f with
    | trailers => exact ih h
    | data bytes => cases h

/-- What is kept of a body under a cap: the retained bytes, and the start of them as a snippet. -/
def BodyRead.keep (max : UInt64) (output : Bool) (body : List UInt8) : BodyRead :=
  let kept := body.take max.toNat
  ⟨kept.take bodySnippetBytes, if output then some kept else none, kept.length, false, false⟩

lemma pushBodySnippet_take (kept bytes : List UInt8) :
    pushBodySnippet (kept.take bodySnippetBytes) bytes =
      (kept ++ bytes).take bodySnippetBytes := by
  unfold pushBodySnippet
  rw [List.length_take]
  by_cases hfull : bodySnippetBytes ≤ kept.length
  · rw [if_pos (by omega), List.take_append_of_le_length hfull]
  · rw [if_neg (by omega), List.take_append, List.take_of_length_le (by omega : _ ≤ bodySnippetBytes)]
    congr 2
    omega

/-- One more chunk comes to the same as a longer body. -/
lemma pushBoundedBody_keep (max : UInt64) (output : Bool) (body bytes : List UInt8) :
    pushBoundedBody max bytes (.keep max output body) = .keep max output (body ++ bytes) := by
  have hbudget : max.toNat - (body.take max.toNat).length = max.toNat - body.length := by
    rw [List.length_take]
    omega
  have htake : (body ++ bytes).take max.toNat =
      body.take max.toNat ++ bytes.take (max.toNat - body.length) := List.take_append
  unfold pushBoundedBody BodyRead.keep
  dsimp only
  rw [hbudget, pushBodySnippet_take, htake, List.length_append]
  cases output <;> rfl

lemma keep_of_le {max : UInt64} {output : Bool} {body rest : List UInt8}
    (h : max.toNat ≤ body.length) :
    BodyRead.keep max output (body ++ rest) = .keep max output body := by
  unfold BodyRead.keep
  rw [List.take_append_of_le_length h]

/-- A read of frames comes to what is kept of the whole body: with the flags of the cap where a
data frame reaches it, and otherwise as the stream ends. -/
lemma readBody_keep (step : String) (max : UInt64) (ending : BodyEnd) (output : Bool)
    (frames : List Frame) (body : List UInt8) :
    readBody step max ending frames (.keep max output body) =
      if max.toNat ≤ (body ++ frameBytes frames).length ∧ frames.any Frame.isData = true then
        .ok { BodyRead.keep max output (body ++ frameBytes frames) with
          ended := true, capped := true }
      else readBody step max ending [] (.keep max output (body ++ frameBytes frames)) := by
  induction frames generalizing body with
  | nil => simp [frameBytes]
  | cons f frames ih =>
    cases f with
    | trailers =>
      rw [readBody, ih, frameBytes_trailers]
      rfl
    | data bytes =>
      have hread : (BodyRead.keep max output (body ++ bytes)).bytesRead =
          min max.toNat (body ++ bytes).length := List.length_take
      rw [readBody, pushBoundedBody_keep, frameBytes_data, ← List.append_assoc]
      by_cases hcap : max.toNat ≤ (body ++ bytes).length
      · rw [if_pos (by rw [hread]; omega), if_pos ⟨by rw [List.length_append]; omega, rfl⟩,
          keep_of_le hcap]
      · rw [if_neg (by rw [hread]; omega), ih]
        by_cases hdata : frames.any Frame.isData = true
        · simp only [hdata, List.any_cons, Frame.isData, Bool.true_or, and_true]
        · -- the frames that are left bring no byte, and the cap stays above the body
          have hnone := frameBytes_of_no_data (Bool.eq_false_iff.mpr hdata)
          rw [hnone, List.append_nil, if_neg (by tauto), if_neg (by tauto)]

lemma readBody_start (step : String) (max : UInt64) (ending : BodyEnd) (output : Bool)
    (frames : List Frame) :
    readBody step max ending frames (.start output) =
      if max.toNat ≤ (frameBytes frames).length ∧ frames.any Frame.isData = true then
        .ok { BodyRead.keep max output (frameBytes frames) with ended := true, capped := true }
      else readBody step max ending [] (.keep max output (frameBytes frames)) := by
  have hstart : BodyRead.start output = .keep max output [] := by
    unfold BodyRead.keep
    rw [List.take_nil]
    rfl
  rw [hstart, readBody_keep, List.nil_append]

/-- The request of a probe as it is handed to the HTTP library. -/
def HttpProbe.request (probe : HttpProbe) (tls : Bool) : HttpRequest :=
  ⟨probe.method, probe.path,
    http1Headers probe.destination probe.host tls probe.headers probe.body, probe.body⟩

/-- Whether an exchange gets to the body of a response. -/
def ReachesBody (probe : HttpProbe) (tls : Bool) (transport : HttpTransport) : Prop :=
  transport.handshake = .ok () ∧ transport.rejects (probe.request tls) = none ∧
    ∃ head, transport.response = .ok head

/-- The read of the response body of an exchange. -/
def bodyRead (probe : HttpProbe) (transport : HttpTransport) : Except ProbeError BodyRead :=
  readBody "HTTP/1.1 body" probe.maxBodyBytes transport.ending transport.frames
    (.start probe.output)

lemma driveHttp1_of_ok {probe : HttpProbe} {tls : Option TlsObservation}
    {transport : HttpTransport} {read : BodyRead} (hreach : ReachesBody probe tls.isSome transport)
    (hread : bodyRead probe transport = .ok read) :
    (driveHttp1 probe tls transport).bodyCapped = read.capped ∧
      (driveHttp1 probe tls transport).bodySnippet =
        bodySnippetString read.snippet (read.snippet.length < read.bytesRead) := by
  obtain ⟨hhandshake, hrejects, head, hresponse⟩ := hreach
  unfold HttpProbe.request at hrejects
  unfold bodyRead at hread
  unfold driveHttp1
  simp only [hhandshake, hrejects, hresponse, hread, and_self]

lemma driveHttp1_of_error {probe : HttpProbe} {tls : Option TlsObservation}
    {transport : HttpTransport} {failure : ProbeError}
    (hreach : ReachesBody probe tls.isSome transport)
    (hread : bodyRead probe transport = .error failure) :
    (driveHttp1 probe tls transport).bodyCapped = false := by
  obtain ⟨hhandshake, hrejects, head, hresponse⟩ := hreach
  unfold HttpProbe.request at hrejects
  unfold bodyRead at hread
  unfold driveHttp1
  simp only [hhandshake, hrejects, hresponse, hread]
  rfl

/-- A body is flagged where a data frame reaches the cap. -/
lemma bodyCapped_driveHttp1 {probe : HttpProbe} {tls : Option TlsObservation}
    {transport : HttpTransport} (hreach : ReachesBody probe tls.isSome transport) :
    (driveHttp1 probe tls transport).bodyCapped = true ↔
      probe.maxBodyBytes.toNat ≤ (frameBytes transport.frames).length ∧
        transport.frames.any Frame.isData = true := by
  have hread : bodyRead probe transport = _ := readBody_start _ _ _ _ _
  by_cases hcap : probe.maxBodyBytes.toNat ≤ (frameBytes transport.frames).length ∧
      transport.frames.any Frame.isData = true
  · rw [if_pos hcap] at hread
    rw [(driveHttp1_of_ok hreach hread).1]
    exact iff_of_true rfl hcap
  · rw [if_neg hcap] at hread
    apply iff_of_false _ hcap
    intro h
    cases hending : transport.ending with
    | complete =>
      rw [hending] at hread
      rw [(driveHttp1_of_ok hreach hread).1] at h
      cases h
    | failed e =>
      rw [hending] at hread
      rw [driveHttp1_of_error hreach hread] at h
      cases h
    | stalled =>
      rw [hending] at hread
      rw [(driveHttp1_of_ok hreach hread).1] at h
      cases h

/-- Whether a read holds the start of a body up to the cap, its length and a snippet of it. -/
structure Accumulated (max : UInt64) (output : Bool) (body : List UInt8) (read : BodyRead) :
    Prop where
  fullBody : read.fullBody = if output then some (body.take max.toNat) else none
  bytesRead : read.bytesRead = (body.take max.toNat).length
  bounded : read.bytesRead ≤ max.toNat
  snippet : read.snippet = (body.take max.toNat).take bodySnippetBytes

lemma accumulated_keep (max : UInt64) (output : Bool) (body : List UInt8) :
    Accumulated max output body (.keep max output body) where
  fullBody := rfl
  bytesRead := rfl
  bounded := List.length_take_le _ _
  snippet := rfl

/-- The exchange of a transport with its body cut into other frames. -/
def HttpTransport.withFrames (transport : HttpTransport) (frames : List Frame) : HttpTransport :=
  { transport with frames := frames }

/-- Whether the read of an exchange accumulates its body, or fails as the body does. -/
def BodyAccumulated (probe : HttpProbe) (transport : HttpTransport) : Prop :=
  (∃ read, bodyRead probe transport = .ok read ∧
    Accumulated probe.maxBodyBytes probe.output (frameBytes transport.frames) read) ∨
  ∃ e, transport.ending = .failed e ∧
    bodyRead probe transport = .error (httpError "HTTP/1.1 body" e)

lemma bodyAccumulated (probe : HttpProbe) (transport : HttpTransport) :
    BodyAccumulated probe transport := by
  have hkeep := accumulated_keep probe.maxBodyBytes probe.output (frameBytes transport.frames)
  have hread : bodyRead probe transport = _ := readBody_start _ _ _ _ _
  unfold BodyAccumulated
  rw [hread]
  split
  · exact Or.inl ⟨_, rfl, { hkeep with }⟩
  · cases transport.ending with
    | complete => exact Or.inl ⟨_, rfl, { hkeep with }⟩
    | failed e => exact Or.inr ⟨e, rfl, rfl⟩
    | stalled => exact Or.inl ⟨_, rfl, hkeep⟩

lemma driveHttp1_congr {probe : HttpProbe} (tls : Option TlsObservation)
    {transport : HttpTransport} {frames₁ frames₂ : List Frame}
    (h : ReachesBody probe tls.isSome transport →
      bodyRead probe (transport.withFrames frames₁) =
        bodyRead probe (transport.withFrames frames₂)) :
    driveHttp1 probe tls (transport.withFrames frames₁) =
      driveHttp1 probe tls (transport.withFrames frames₂) := by
  unfold driveHttp1 HttpTransport.withFrames
  unfold bodyRead HttpTransport.withFrames ReachesBody HttpProbe.request at h
  dsimp only at h ⊢
  cases hhandshake : transport.handshake with
  | err e => rfl
  | elapsed => rfl
  | ok =>
    cases hrejects : transport.rejects ⟨probe.method, probe.path, http1Headers probe.destination
        probe.host tls.isSome probe.headers probe.body, probe.body⟩ with
    | some e => rfl
    | none =>
      cases hresponse : transport.response with
      | err e => rfl
      | elapsed => rfl
      | ok head =>
        dsimp only
        rw [h ⟨hhandshake, hrejects, head, hresponse⟩]

/-- However a body is cut into frames, the same part of it is kept. Two cuts of it come to the same
observation unless nothing is to be kept of no body and only one of them has a data frame. -/
theorem chunks_agree_iff (probe : HttpProbe) (tls : Option TlsObservation)
    (transport : HttpTransport) (frames₁ frames₂ : List Frame)
    (hbody : frameBytes frames₁ = frameBytes frames₂) :
    BodyAccumulated probe (transport.withFrames frames₁) ∧
      BodyAccumulated probe (transport.withFrames frames₂) ∧
      driveHttp1 probe tls (transport.withFrames frames₁) =
        driveHttp1 probe tls (transport.withFrames frames₂) ↔
    ¬(ReachesBody probe tls.isSome transport ∧ probe.maxBodyBytes = 0 ∧
      frameBytes frames₁ = [] ∧ frames₁.any Frame.isData ≠ frames₂.any Frame.isData) := by
  rw [and_iff_right (bodyAccumulated _ _), and_iff_right (bodyAccumulated _ _)]
  constructor
  · rintro hsame ⟨hreach, hcap, hempty, hdata⟩
    have hflag : ∀ frames, (driveHttp1 probe tls (transport.withFrames frames)).bodyCapped = true ↔
        frames.any Frame.isData = true := by
      intro frames
      have hreach' : ReachesBody probe tls.isSome (transport.withFrames frames) := hreach
      have h := bodyCapped_driveHttp1 hreach'
      rw [hcap] at h
      exact h.trans (and_iff_right (Nat.zero_le _))
    have hiff := (hflag frames₁).symm.trans (hsame ▸ hflag frames₂)
    exact hdata (Bool.eq_iff_iff.mpr hiff)
  · intro h
    apply driveHttp1_congr tls
    intro hreach
    change readBody _ _ _ frames₁ _ = readBody _ _ _ frames₂ _
    rw [readBody_start, readBody_start, ← hbody]
    by_cases hdata : frames₁.any Frame.isData = frames₂.any Frame.isData
    · rw [hdata]
      rfl
    · -- the cut without a data frame is of no body, which is below the cap
      have hempty : frameBytes frames₁ = [] := by
        cases hfirst : frames₁.any Frame.isData with
        | false => exact frameBytes_of_no_data hfirst
        | true =>
          rw [hbody]
          apply frameBytes_of_no_data
          rw [Bool.eq_false_iff]
          intro hsecond
          exact hdata (hfirst.trans hsecond.symm)
      have hcap : ¬probe.maxBodyBytes.toNat ≤ ([] : List UInt8).length := by
        intro hle
        have hzero : probe.maxBodyBytes = 0 :=
          UInt64.toNat_inj.mp (Nat.eq_zero_of_le_zero hle)
        exact h ⟨hreach, hzero, hempty, hdata⟩
      rw [hempty, if_neg (fun hc => hcap hc.1), if_neg (fun hc => hcap hc.1)]
      rfl

/-- A probe that is to read so many bytes. -/
def cappedProbe (cap : UInt64) : HttpProbe where
  destination := .v4 ⟨.new 192 0 2 1, 80⟩
  host := "example.com"
  method := "GET"
  path := "/"
  headers := []
  body := none
  timeout := ⟨800000000⟩
  maxBodyBytes := cap
  output := true

/-- A server that answers with a body to its end. -/
def answers (frames : List Frame) : HttpTransport where
  handshake := .ok ()
  rejects := fun _ => none
  response := .ok ⟨200, "HTTP/1.1", []⟩
  ttfb := ⟨0⟩
  frames := frames
  ending := .complete
  elapsed := ⟨1000000⟩

theorem chunks_agree_hello :
    BodyAccumulated (cappedProbe 4) ((answers []).withFrames [.data [104, 101, 108, 108, 111]]) ∧
      BodyAccumulated (cappedProbe 4)
        ((answers []).withFrames [.data [104, 101], .data [], .data [108, 108, 111]]) ∧
      driveHttp1 (cappedProbe 4) none
          ((answers []).withFrames [.data [104, 101, 108, 108, 111]]) =
        driveHttp1 (cappedProbe 4) none
          ((answers []).withFrames [.data [104, 101], .data [], .data [108, 108, 111]]) :=
  (chunks_agree_iff (cappedProbe 4) none (answers []) _ _ rfl).mpr (fun h => by cases h.2.2.1)

/-- An empty chunk flags an empty body as cut. -/
theorem empty_chunk_flags_body :
    frameBytes [] = frameBytes [.data []] ∧
      driveHttp1 (cappedProbe 0) none (answers []) ≠
        driveHttp1 (cappedProbe 0) none (answers [.data []]) := by
  refine ⟨rfl, fun h => ?_⟩
  have hflag := congrArg HttpObservation.bodyCapped h
  revert hflag
  decide +kernel

/-- The bytes of a body that a snippet shows. -/
def shownBytes (cap : UInt64) (body : List UInt8) : List UInt8 :=
  body.take (min cap.toNat bodySnippetBytes)

/-- Whether an observation tells where the body was cut: its flag by the cap, and the ellipsis
after a snippet by the bytes shown. -/
structure TruncationTold (cap : UInt64) (body : List UInt8) (obs : HttpObservation) : Prop where
  capped : obs.bodyCapped = true ↔ cap.toNat < body.length
  ellipsis : obs.bodySnippet ≠ none →
    (obs.bodySnippet =
        some (String.ofList (Utf8.decodeLossy (shownBytes cap body) ++ ['…'])) ↔
      (shownBytes cap body).length < body.length)

lemma bodySnippetString_ellipsis {snippet : List UInt8} {truncated : Bool}
    (h : bodySnippetString snippet truncated ≠ none) :
    bodySnippetString snippet truncated =
        some (String.ofList (Utf8.decodeLossy snippet ++ ['…'])) ↔ truncated = true := by
  unfold bodySnippetString at h ⊢
  cases hempty : snippet.isEmpty with
  | true =>
    rw [hempty] at h
    exact absurd rfl h
  | false =>
    rw [if_neg (by decide), Option.some.injEq, String.ofList_inj, List.append_cancel_left_eq]
    cases truncated with
    | true => exact iff_of_true rfl rfl
    | false => exact iff_of_false (fun h => by cases h) (fun h => by cases h)

lemma bodySnippet_driveHttp1 {probe : HttpProbe} {tls : Option TlsObservation}
    {transport : HttpTransport} (hreach : ReachesBody probe tls.isSome transport)
    (hending : transport.ending = .complete) :
    (driveHttp1 probe tls transport).bodySnippet =
      bodySnippetString (shownBytes probe.maxBodyBytes (frameBytes transport.frames))
        (bodySnippetBytes < min probe.maxBodyBytes.toNat (frameBytes transport.frames).length) := by
  obtain ⟨read, hread, hkept⟩ | ⟨e, hfailed, -⟩ := bodyAccumulated probe transport
  · have hcount : read.bytesRead =
        min probe.maxBodyBytes.toNat (frameBytes transport.frames).length := by
      rw [hkept.bytesRead, List.length_take]
    have hlength : read.snippet.length = min bodySnippetBytes read.bytesRead := by
      rw [hkept.snippet, List.length_take, hkept.bytesRead]
    have hshown : read.snippet = shownBytes probe.maxBodyBytes (frameBytes transport.frames) := by
      rw [hkept.snippet, List.take_take, Nat.min_comm]
      rfl
    have htruncated : decide (read.snippet.length < read.bytesRead) = decide (bodySnippetBytes <
        min probe.maxBodyBytes.toNat (frameBytes transport.frames).length) := by
      rw [decide_eq_decide, hlength, ← hcount]
      omega
    rw [(driveHttp1_of_ok hreach hread).2, htruncated, hshown]
  · rw [hending] at hfailed
    cases hfailed

lemma ne_none_iff_shown {cap : UInt64} {body : List UInt8} {truncated : Bool} :
    bodySnippetString (shownBytes cap body) truncated ≠ none ↔ 0 < cap.toNat ∧ 0 < body.length := by
  have hlength : (shownBytes cap body).length = min (min cap.toNat bodySnippetBytes) body.length :=
    List.length_take
  have hbytes : bodySnippetBytes = 1024 := rfl
  unfold bodySnippetString
  by_cases hempty : (shownBytes cap body).isEmpty = true
  · rw [if_pos hempty]
    rw [List.isEmpty_iff_length_eq_zero] at hempty
    exact iff_of_false (by simp) (by omega)
  · rw [if_neg hempty]
    rw [List.isEmpty_iff_length_eq_zero] at hempty
    exact iff_of_true (by simp) (by omega)

lemma capped_told_iff {probe : HttpProbe} {tls : Option TlsObservation}
    {transport : HttpTransport} (hreach : ReachesBody probe tls.isSome transport) :
    ((driveHttp1 probe tls transport).bodyCapped = true ↔
        probe.maxBodyBytes.toNat < (frameBytes transport.frames).length) ↔
      ¬((frameBytes transport.frames).length = probe.maxBodyBytes.toNat ∧
        transport.frames.any Frame.isData = true) := by
  rw [bodyCapped_driveHttp1 hreach]
  by_cases hdata : transport.frames.any Frame.isData = true
  · rw [and_iff_left hdata, and_iff_left hdata]
    omega
  · have hempty := frameBytes_of_no_data (Bool.eq_false_iff.mpr hdata)
    simp [hdata, hempty]

lemma ellipsis_told_iff {probe : HttpProbe} {tls : Option TlsObservation}
    {transport : HttpTransport} (hreach : ReachesBody probe tls.isSome transport)
    (hending : transport.ending = .complete) :
    ((driveHttp1 probe tls transport).bodySnippet ≠ none →
      ((driveHttp1 probe tls transport).bodySnippet =
          some (String.ofList (Utf8.decodeLossy
            (shownBytes probe.maxBodyBytes (frameBytes transport.frames)) ++ ['…'])) ↔
        (shownBytes probe.maxBodyBytes (frameBytes transport.frames)).length <
          (frameBytes transport.frames).length)) ↔
      ¬(0 < probe.maxBodyBytes.toNat ∧ probe.maxBodyBytes.toNat ≤ bodySnippetBytes ∧
        probe.maxBodyBytes.toNat < (frameBytes transport.frames).length) := by
  rw [bodySnippet_driveHttp1 hreach hending]
  have hshown : (shownBytes probe.maxBodyBytes (frameBytes transport.frames)).length =
      min (min probe.maxBodyBytes.toNat bodySnippetBytes) (frameBytes transport.frames).length :=
    List.length_take
  have hbytes : bodySnippetBytes = 1024 := rfl
  constructor
  · rintro htold ⟨hpos, hsmall, hcut⟩
    have hiff := htold (ne_none_iff_shown.mpr ⟨hpos, Nat.lt_trans hpos hcut⟩)
    rw [bodySnippetString_ellipsis (ne_none_iff_shown.mpr ⟨hpos, Nat.lt_trans hpos hcut⟩),
      decide_eq_true_eq] at hiff
    omega
  · intro hcond hnonempty
    obtain ⟨hpos, hlength⟩ := ne_none_iff_shown.mp hnonempty
    rw [bodySnippetString_ellipsis hnonempty, decide_eq_true_eq]
    omega

/-- A body that is read to its end is flagged as it should be unless it ends with the cap, and its
snippet unless a cap within the snippet cuts it. -/
theorem truncation_told_iff (probe : HttpProbe) (tls : Option TlsObservation)
    (transport : HttpTransport) (hreach : ReachesBody probe tls.isSome transport)
    (hending : transport.ending = .complete) :
    TruncationTold probe.maxBodyBytes (frameBytes transport.frames)
        (driveHttp1 probe tls transport) ↔
      ¬((frameBytes transport.frames).length = probe.maxBodyBytes.toNat ∧
          transport.frames.any Frame.isData = true) ∧
        ¬(0 < probe.maxBodyBytes.toNat ∧ probe.maxBodyBytes.toNat ≤ bodySnippetBytes ∧
          probe.maxBodyBytes.toNat < (frameBytes transport.frames).length) := by
  rw [← capped_told_iff hreach, ← ellipsis_told_iff hreach hending]
  exact ⟨fun h => ⟨h.capped, h.ellipsis⟩, fun h => ⟨h.1, h.2⟩⟩

theorem truncation_told_hello :
    TruncationTold 6 [104, 101, 108, 108, 111]
        (driveHttp1 (cappedProbe 6) none (answers [.data [104, 101, 108, 108, 111]])) :=
  (truncation_told_iff (cappedProbe 6) none (answers [.data [104, 101, 108, 108, 111]])
    ⟨rfl, rfl, _, rfl⟩ rfl).mpr (by decide)

/-- A body that ends with the cap is flagged as cut, and one that goes on after it is shown without
an ellipsis. -/
theorem truncation_not_told :
    ¬TruncationTold 5 [104, 101, 108, 108, 111]
        (driveHttp1 (cappedProbe 5) none (answers [.data [104, 101, 108, 108, 111]])) ∧
      ¬TruncationTold 4 [104, 101, 108, 108, 111]
        (driveHttp1 (cappedProbe 4) none (answers [.data [104, 101, 108, 108, 111]])) := by
  constructor
  · intro h
    have hflag := h.capped
    revert hflag
    decide +kernel
  · intro h
    have hsnippet := h.ellipsis
    revert hsnippet
    decide +kernel

end IpTools
