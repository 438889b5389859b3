import IpTools.Cli.Strict
import IpTools.Proofs.BodyRead
import IpTools.Proofs.RepeatAccounting

/-!
# The strict modes

Where the two commands differ about a failed request: an exchange whose body never completes has
no failure of its own, and the repeated probe counts it as one.
-/

namespace IpTools

/-- Whether both commands say the same of an observation. -/
def StrictAgree (obs : HttpObservation) : Prop :=
  httpFailed obs = true ↔ (httpOutcome obs).ok = false

lemma httpOutcome_ok (obs : HttpObservation) :
    (httpOutcome obs).ok = (obs.failure.isNone && obs.bodyBytes.isSome) := by
  unfold httpOutcome
  cases obs.failure <;> cases obs.bodyBytes <;> rfl

lemma strictAgree_iff (obs : HttpObservation) :
    StrictAgree obs ↔ obs.failure.isSome = true ∨ obs.bodyBytes.isSome = true := by
  unfold StrictAgree httpFailed
  rw [httpOutcome_ok]
  cases obs.failure <;> cases obs.bodyBytes <;> simp

lemma probeFailed_once (order : HashOrder) (destination : SocketAddr) (obs : HttpObservation) :
    probeFailed (httpRepeat order destination 1 (fun _ => obs)) = !(httpOutcome obs).ok := by
  let := DebugTables.none
  have haccounts := repeatImpl_accounted order destination 1 (fun _ => httpOutcome obs)
    (fun _ _ => Wrapped.http obs)
  have hsuccesses : (repeatImpl order destination 1 (fun _ => httpOutcome obs)).successes =
      if (httpOutcome obs).ok then 1 else 0 := by
    have hstate := recorded_foldl [httpOutcome obs]
    have hcount := hstate.successes
    rw [List.countP_singleton] at hcount
    exact hcount
  have htotal : _ + _ = 1 := haccounts.total
  unfold probeFailed httpRepeat
  rw [hsuccesses] at htotal
  cases hok : (httpOutcome obs).ok with
  | true =>
    rw [hok, if_pos rfl] at htotal
    simp only [Bool.not_true, decide_eq_false_iff_not]
    omega
  | false =>
    rw [hok, if_neg (by decide)] at htotal
    simp only [Bool.not_false, decide_eq_true_eq]
    omega

lemma exitCode_unwritten {O : Type} (r : FlowResult O) (checks : FlowChecks O) :
    r.exitCode checks false = .failure := rfl

lemma exitCode_strict {O : Type} (r : FlowResult O) (failed : O → Bool) :
    r.exitCode ⟨none, true, failed⟩ true = .failure ↔
      0 < r.unresolved ∨ ∃ o ∈ r.perTarget.flatMap Prod.snd, failed o = true := by
  unfold FlowResult.exitCode
  dsimp only
  rw [Bool.not_true, if_neg Bool.false_ne_true, Option.any_none, if_neg Bool.false_ne_true,
    Bool.true_and]
  by_cases hunresolved : 0 < r.unresolved
  · simp [hunresolved]
  · rw [if_neg hunresolved]
    by_cases hfailed : 0 < (r.perTarget.flatMap Prod.snd).countP failed
    · rw [if_pos (decide_eq_true hfailed)]
      exact iff_of_true rfl (.inr (List.countP_pos_iff.mp hfailed))
    · rw [if_neg (by simpa using hfailed)]
      refine iff_of_false ExitCode.noConfusion ?_
      rintro (h | h)
      · exact hunresolved h
      · exact hfailed (List.countP_pos_iff.mpr h)

lemma ExitCode.eq_iff (a b : ExitCode) : a = b ↔ (a = .failure ↔ b = .failure) := by
  cases a <;> cases b <;> simp

lemma results_repeatedOnce (order : HashOrder) (r : FlowResult HttpObservation) :
    (repeatedOnce order r).perTarget.flatMap Prod.snd =
      (r.perTarget.flatMap Prod.snd).map
        (fun obs => httpRepeat order obs.destination 1 (fun _ => obs)) := by
  unfold repeatedOnce
  rw [List.flatMap_map, List.map_flatMap]

/-- The exit codes of a run differ where its only failed requests are incomplete ones. -/
lemma strict_verdicts_iff (order : HashOrder) (r : FlowResult HttpObservation) :
    httpStrict true r = probeStrict true (repeatedOnce order r) ↔
      0 < r.unresolved ∨ (∃ obs ∈ r.perTarget.flatMap Prod.snd, obs.failure.isSome = true) ∨
        ∀ obs ∈ r.perTarget.flatMap Prod.snd, obs.bodyBytes.isSome = true := by
  unfold httpStrict probeStrict
  rw [ExitCode.eq_iff, exitCode_strict, exitCode_strict, results_repeatedOnce]
  have hunresolved : (repeatedOnce order r).unresolved = r.unresolved := rfl
  rw [hunresolved]
  generalize r.perTarget.flatMap Prod.snd = results
  have hprobe : (∃ o ∈ results.map (fun obs => httpRepeat order obs.destination 1 (fun _ => obs)),
      probeFailed o = true) ↔
        ∃ obs ∈ results, obs.failure.isSome = true ∨ obs.bodyBytes.isSome = false := by
    simp only [List.mem_map, exists_exists_and_eq_and, probeFailed_once, httpOutcome_ok,
      Bool.not_eq_true', Bool.and_eq_false_iff]
    simp only [Option.isNone_eq_false_iff]
  rw [hprobe]
  have hhttp : (∃ obs ∈ results, httpFailed obs = true) ↔
      ∃ obs ∈ results, obs.failure.isSome = true := Iff.rfl
  rw [hhttp]
  constructor
  · intro h
    by_cases hcomplete : ∀ obs ∈ results, obs.bodyBytes.isSome = true
    · exact .inr (.inr hcomplete)
    · push Not at hcomplete
      obtain ⟨obs, hobs, hnone⟩ := hcomplete
      rcases h.mpr (.inr ⟨obs, hobs, .inr (by simpa using hnone)⟩) with h | h
      · exact .inl h
      · exact .inr (.inl h)
  · rintro (h | ⟨obs, hobs, h⟩ | h)
    · exact iff_of_true (.inl h) (.inl h)
    · exact iff_of_true (.inr ⟨obs, hobs, h⟩) (.inr ⟨obs, hobs, .inl h⟩)
    · refine or_congr Iff.rfl ⟨?_, ?_⟩
      · rintro ⟨obs, hobs, hfailed⟩
        exact ⟨obs, hobs, .inl hfailed⟩
      · rintro ⟨obs, hobs, hfailed | hnone⟩
        · exact ⟨obs, hobs, hfailed⟩
        · exact absurd (h obs hobs) (by simp [hnone])

/-- A run whose report is not written fails under both commands. -/
lemma strict_verdicts_written_iff (order : HashOrder) (r : FlowResult HttpObservation) :
    (∀ written, httpStrict written r = probeStrict written (repeatedOnce order r)) ↔
      httpStrict true r = probeStrict true (repeatedOnce order r) := by
  rw [Bool.forall_bool]
  exact and_iff_right ((exitCode_unwritten _ _).trans (exitCode_unwritten _ _).symm)

/-- Whether a body read stops at its deadline: the peer stalls before the body reaches the cap,
which is looked at after a data frame. -/
def Stalls (max : UInt64) (frames : List Frame) (ending : BodyEnd) : Prop :=
  ending = .stalled ∧
    ((frameBytes frames).length < max.toNat ∨ ∀ f ∈ frames, f = .trailers)

lemma any_isData_eq_false {frames : List Frame} :
    frames.any Frame.isData = false ↔ ∀ f ∈ frames, f = .trailers := by
  rw [List.any_eq_false]
  apply forall₂_congr
  intro f _
  cases f <;> simp [Frame.isData]

/-- A read ends incomplete where the peer stalls below the cap. -/
lemma readBody_incomplete (step : String) (max : UInt64) (ending : BodyEnd) (output : Bool)
    (frames : List Frame) :
    (∃ read, readBody step max ending frames (.start output) = .ok read ∧ read.ended = false) ↔
      Stalls max frames ending := by
  unfold Stalls
  rw [readBody_start, ← any_isData_eq_false]
  by_cases hcap : max.toNat ≤ (frameBytes frames).length ∧ frames.any Frame.isData = true
  · rw [if_pos hcap]
    apply iff_of_false
    · rintro ⟨read, hread, hfalse⟩
      cases hread
      cases hfalse
    · rintro ⟨-, h | h⟩
      · omega
      · rw [h] at hcap
        cases hcap.2
  · rw [if_neg hcap]
    have hbelow : (frameBytes frames).length < max.toNat ∨ frames.any Frame.isData = false := by
      cases hdata : frames.any Frame.isData with
      | false => exact .inr rfl
      | true => exact .inl (Nat.lt_of_not_le (fun h => hcap ⟨h, hdata⟩))
    rw [and_iff_left hbelow]
    cases ending with
    | complete => exact iff_of_false (fun ⟨_, hread, h⟩ => by cases hread; cases h) (by simp)
    | failed e => exact iff_of_false (fun ⟨_, hread, _⟩ => by cases hread) (by simp)
    | stalled => exact iff_of_true ⟨_, rfl, rfl⟩ rfl

/-- Whether an exchange gets the head of a response and then stalls. -/
def ExchangeStalls (probe : HttpProbe) (tls : Bool) (transport : HttpTransport) : Prop :=
  transport.handshake = .ok () ∧ transport.rejects (probe.request tls) = none ∧
    (∃ head, transport.response = .ok head) ∧
    Stalls probe.maxBodyBytes transport.frames transport.ending

lemma strictAgree_withFailure (obs : HttpObservation) (failure : ProbeError) :
    StrictAgree (obs.withFailure failure) :=
  (strictAgree_iff _).mpr (.inl rfl)

lemma strictAgree_driveHttp1 (probe : HttpProbe) (tls : Option TlsObservation)
    (transport : HttpTransport) :
    StrictAgree (driveHttp1 probe tls transport) ↔ ¬ExchangeStalls probe tls.isSome transport := by
  unfold driveHttp1 ExchangeStalls HttpProbe.request
  dsimp only
  split
  case h_1 e h => exact iff_of_true (strictAgree_withFailure _ _) (by simp [h])
  case h_2 h => exact iff_of_true (strictAgree_withFailure _ _) (by simp [h])
  case h_3 h =>
    split
    case h_1 e hr => exact iff_of_true (strictAgree_withFailure _ _) (by simp [hr])
    case h_2 hr =>
      split
      case h_1 e hs => exact iff_of_true (strictAgree_withFailure _ _) (by simp [hs])
      case h_2 hs => exact iff_of_true (strictAgree_withFailure _ _) (by simp [hs])
      case h_3 head hs =>
        rw [h, hr, hs, eq_self, eq_self, true_and, true_and, and_iff_right ⟨head, rfl⟩,
          ← readBody_incomplete "HTTP/1.1 body" probe.maxBodyBytes transport.ending probe.output]
        split
        case h_1 failure he =>
          exact iff_of_true (strictAgree_withFailure _ _) (by simp [he])
        case h_2 read hread =>
          rw [strictAgree_iff]
          cases hended : read.ended <;>
            simp [HttpProbe.base, HttpObservation.base, hread, hended]

lemma strictAgree_httpProbe [DebugTables]
    (probe : HttpProbe) (tls : TlsTransport) (transport : HttpTransport) :
    StrictAgree (httpProbe probe tls transport) ↔
      ¬((∃ conn, connectTo probe.destination probe.host probe.timeout tls = .ok conn) ∧
        ExchangeStalls probe true transport) := by
  unfold httpProbe
  cases hconn : connectTo probe.destination probe.host probe.timeout tls with
  | error failure => exact iff_of_true (strictAgree_withFailure _ _) (by simp)
  | ok conn =>
    dsimp only
    rw [strictAgree_driveHttp1]
    simp

lemma strictAgree_httpProbePlain (probe : HttpProbe) (connect : Timed IoError Unit)
    (transport : HttpTransport) :
    StrictAgree (httpProbePlain probe connect transport) ↔
      ¬(connect = .ok () ∧ ExchangeStalls probe false transport) := by
  unfold httpProbePlain
  cases connect with
  | err e => exact iff_of_true (strictAgree_withFailure _ _) (by simp)
  | elapsed => exact iff_of_true (strictAgree_withFailure _ _) (by simp)
  | ok u =>
    dsimp only
    rw [strictAgree_driveHttp1]
    simp

/-- The two strict modes agree on an observation unless it has neither a failure nor a complete
body, which is where the exchange stalls, and then on the run it is part of. -/
theorem strict_modes_agree_iff [DebugTables]
    (obs : HttpObservation) (order : HashOrder) (host : List Char)
    (probe : HttpProbe) (tls : TlsTransport) (connect : Timed IoError Unit)
    (transport : HttpTransport) :
    ((httpFailed obs = true ↔ (httpOutcome obs).ok = false) ↔
      obs.failure.isSome = true ∨ obs.bodyBytes.isSome = true) ∧
    ((∀ written, httpStrict written ⟨[(host, [obs])], 0⟩ = probeStrict written
        ⟨[(host, [httpRepeat order obs.destination 1 (fun _ => obs)])], 0⟩) ↔
      obs.failure.isSome = true ∨ obs.bodyBytes.isSome = true) ∧
    ((httpFailed (httpProbe probe tls transport) = true ↔
        (httpOutcome (httpProbe probe tls transport)).ok = false) ↔
      ¬((∃ conn, connectTo probe.destination probe.host probe.timeout tls = .ok conn) ∧
        ExchangeStalls probe true transport)) ∧
    ((httpFailed (httpProbePlain probe connect transport) = true ↔
        (httpOutcome (httpProbePlain probe connect transport)).ok = false) ↔
      ¬(connect = .ok () ∧ ExchangeStalls probe false transport)) := by
  have hrun := (strict_verdicts_written_iff order ⟨[(host, [obs])], 0⟩).trans
    (strict_verdicts_iff order ⟨[(host, [obs])], 0⟩)
  refine ⟨strictAgree_iff obs, ?_, strictAgree_httpProbe probe tls transport,
    strictAgree_httpProbePlain probe connect transport⟩
  simpa [repeatedOnce] using hrun

/-- A server that answers with a status and then holds the stream open. -/
def holdOpen : HttpTransport where
  handshake := .ok ()
  rejects := fun _ => none
  response := .ok ⟨200, "HTTP/1.1", []⟩
  ttfb := ⟨0⟩
  frames := [.data [104, 105]]
  ending := .stalled
  elapsed := ⟨801000000⟩

def holdOpenProbe : HttpProbe where
  destination := .v4 ⟨.new 192 0 2 1, 80⟩
  host := "stall.invalid"
  method := "GET"
  path := "/"
  headers := []
  body := none
  timeout := ⟨800000000⟩
  maxBodyBytes := maxBodyBytes
  output := false

theorem stalled_body_passes_http_strict :
    let obs := httpProbePlain holdOpenProbe (.ok ()) holdOpen
    obs.status = some 200 ∧ obs.bodyBytes = none ∧ obs.failure = none ∧
    httpFailed obs = false ∧ (httpOutcome obs).ok = false ∧
    httpStrict true ⟨[("stall.invalid".toList, [obs])], 0⟩ = .success ∧
    probeStrict true ⟨[("stall.invalid".toList, [httpRepeat ⟨fun m => m, fun m => .refl m⟩
      obs.destination 1 (fun _ => obs)])], 0⟩ = .failure := by
  decide +kernel

end IpTools
