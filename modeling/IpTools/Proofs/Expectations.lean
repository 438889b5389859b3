import IpTools.Cli.Expectation
import IpTools.Proofs.ProbeOrder
import IpTools.Proofs.RepeatAccounting
import IpTools.Proofs.StrictModes
import IpTools.Proofs.Text
import Mathlib.Data.List.Infix

/-!
# Expectations and the exit code

A run with `--expect-*` succeeds where every response that it asked for is as asserted, in whatever
order the responses came in.
-/

namespace IpTools

open StableSort

/-- The codes that a spec stands for. -/
def StatusSpec.Accepts (spec : StatusSpec) (code : UInt16) : Prop :=
  match spec with
  | .exactCode expected => code = expected
  | .statusClass hundred =>
    100 * hundred.toNat ≤ code.toNat ∧ code.toNat < 100 * (hundred.toNat + 1)

lemma matchesStatus_iff {spec : StatusSpec} {code : UInt16} :
    spec.matchesStatus code = true ↔ spec.Accepts code := by
  cases spec with
  | exactCode expected =>
    simp [StatusSpec.matchesStatus, StatusSpec.Accepts, eq_comm]
  | statusClass hundred =>
    have hdiv : (code / 100).toNat = code.toNat / 100 := UInt16.toNat_div code 100
    simp only [StatusSpec.matchesStatus, StatusSpec.Accepts, decide_eq_true_eq,
      ← UInt16.toNat_inj, hdiv]
    omega

/-- The specs that are accepted. -/
def StatusSpec.Valid : StatusSpec → Prop
  | .exactCode code => 100 ≤ code.toNat ∧ code.toNat ≤ 599
  | .statusClass hundred => 1 ≤ hundred.toNat ∧ hundred.toNat ≤ 5

lemma valid_of_parseStatusSpec {raw : String} {spec : StatusSpec}
    (h : parseStatusSpec raw = .ok spec) : spec.Valid := by
  unfold parseStatusSpec at h
  dsimp only at h
  split at h
  case h_1 =>
    split at h
    case h_1 => cases h
    case h_2 hundred _ =>
      split at h
      case isTrue hrange =>
        cases h
        rw [UInt16.le_iff_toNat_le, UInt16.le_iff_toNat_le] at hrange
        exact hrange
      case isFalse => cases h
  case h_2 =>
    split at h
    case h_1 => cases h
    case h_2 code _ =>
      split at h
      case isTrue hrange =>
        cases h
        rw [UInt16.le_iff_toNat_le, UInt16.le_iff_toNat_le] at hrange
        exact hrange
      case isFalse => cases h

lemma isWhitespace_of_isDigit {c : Char} (h : c.isDigit = true) : isWhitespace c = false := by
  have hrange : 48 ≤ c.toNat ∧ c.toNat ≤ 57 := by
    simp only [Char.isDigit, Bool.and_eq_true, decide_eq_true_eq, UInt32.le_iff_toNat_le] at h
    exact h
  simp only [isWhitespace, Bool.or_eq_false_iff, Bool.and_eq_false_iff, decide_eq_false_iff_not]
  omega

lemma toList_describes_exactCode (code : UInt16) :
    (StatusSpec.exactCode code).describes.toList = Nat.toDigits 10 code.toNat := Nat.toList_repr

lemma toList_describes_statusClass (hundred : UInt16) :
    (StatusSpec.statusClass hundred).describes.toList =
      Nat.toDigits 10 hundred.toNat ++ ['x', 'x'] := by
  have hdigits : (toString hundred.toNat).toList = Nat.toDigits 10 hundred.toNat := Nat.toList_repr
  rw [StatusSpec.describes, String.toList_append, hdigits]
  rfl

lemma stripEnd_append (suffix s : List Char) : stripEnd suffix (s ++ suffix) = some s := by
  unfold stripEnd
  have hsuffix : suffix.isSuffixOf (s ++ suffix) = true :=
    List.isSuffixOf_iff_suffix.mpr (List.suffix_append s suffix)
  rw [if_pos hsuffix, List.length_append, Nat.add_sub_cancel, List.take_left]

lemma stripEnd_of_notMem {suffix s : List Char} {c : Char} (hc : c ∈ suffix) (hs : c ∉ s) :
    stripEnd suffix s = none := by
  unfold stripEnd
  rw [if_neg]
  intro h
  exact hs ((List.isSuffixOf_iff_suffix.mp h).subset hc)

/-- A spec is read back from what it is written as. -/
lemma parseStatusSpec_describes {spec : StatusSpec} (h : spec.Valid) :
    parseStatusSpec spec.describes = .ok spec := by
  unfold parseStatusSpec
  dsimp only
  cases spec with
  | exactCode code =>
    have hspaces : ∀ c ∈ Nat.toDigits 10 code.toNat, isWhitespace c = false :=
      fun c hc => isWhitespace_of_isDigit (isDigit_of_mem_toDigits hc)
    have hx : 'x' ∉ Nat.toDigits 10 code.toNat :=
      fun hx => absurd (isDigit_of_mem_toDigits hx) (by decide)
    have hrange : 100 ≤ code ∧ code ≤ 599 := by
      rw [UInt16.le_iff_toNat_le, UInt16.le_iff_toNat_le]
      exact h
    rw [toList_describes_exactCode, trim_of_all hspaces,
      stripEnd_of_notMem (List.mem_cons_self : 'x' ∈ ['x', 'x']) hx]
    dsimp only
    rw [parseU16_toDigits]
    dsimp only
    rw [if_pos hrange]
  | statusClass hundred =>
    have hspaces : ∀ c ∈ Nat.toDigits 10 hundred.toNat ++ ['x', 'x'], isWhitespace c = false := by
      intro c hc
      rcases List.mem_append.mp hc with hc | hc
      · exact isWhitespace_of_isDigit (isDigit_of_mem_toDigits hc)
      · rw [List.eq_of_mem_replicate (n := 2) hc]
        decide
    have hrange : 1 ≤ hundred ∧ hundred ≤ 5 := by
      rw [UInt16.le_iff_toNat_le, UInt16.le_iff_toNat_le]
      exact h
    rw [toList_describes_statusClass, trim_of_all hspaces, stripEnd_append]
    dsimp only
    rw [parseU16_toDigits]
    dsimp only
    rw [if_pos hrange]

lemma StatusSpec.valid_iff {spec : StatusSpec} :
    spec.Valid ↔ (∃ code, spec.Accepts code) ∧
      ∀ code, spec.Accepts code → 100 ≤ code.toNat ∧ code.toNat ≤ 599 := by
  cases spec with
  | exactCode code =>
    constructor
    · intro h
      exact ⟨⟨code, rfl⟩, fun other hother => hother ▸ h⟩
    · rintro ⟨-, h⟩
      exact h code rfl
  | statusClass hundred =>
    unfold StatusSpec.Valid StatusSpec.Accepts
    dsimp only
    constructor
    · intro h
      refine ⟨⟨UInt16.ofNat (100 * hundred.toNat), ?_⟩, fun code hcode => by omega⟩
      have hsize : 100 * hundred.toNat < UInt16.size := by
        have : UInt16.size = 65536 := rfl
        omega
      rw [UInt16.toNat_ofNat_of_lt' hsize]
      omega
    · rintro ⟨⟨code, hcode⟩, h⟩
      have hrange := h code hcode
      omega

/-- The specs that are read are those that accept some code and only codes of HTTP, and each is read
back from how it is written. -/
theorem status_spec_round_trip (spec : StatusSpec) :
    ((∃ raw, parseStatusSpec raw = .ok spec) ↔
      (∃ code, spec.Accepts code) ∧
        ∀ code, spec.Accepts code → 100 ≤ code.toNat ∧ code.toNat ≤ 599) ∧
    (parseStatusSpec spec.describes = .ok spec ↔ ∃ raw, parseStatusSpec raw = .ok spec) ∧
    ∀ code, spec.matchesStatus code = true ↔ spec.Accepts code := by
  rw [← StatusSpec.valid_iff]
  refine ⟨⟨?_, ?_⟩, ⟨?_, ?_⟩, fun code => matchesStatus_iff⟩
  · rintro ⟨raw, h⟩
    exact valid_of_parseStatusSpec h
  · exact fun h => ⟨spec.describes, parseStatusSpec_describes h⟩
  · exact fun h => ⟨spec.describes, h⟩
  · rintro ⟨raw, h⟩
    exact parseStatusSpec_describes (valid_of_parseStatusSpec h)

lemma containsText_iff {pattern s : List Char} :
    containsText pattern s = true ↔ pattern <:+: s := by
  unfold containsText
  rw [List.any_eq_true, List.infix_iff_prefix_suffix]
  constructor
  · rintro ⟨t, ht, hpre⟩
    exact ⟨t, List.isPrefixOf_iff_prefix.mp hpre, (List.mem_tails t s).mp ht⟩
  · rintro ⟨t, hpre, hsuf⟩
    exact ⟨t, (List.mem_tails t s).mpr hsuf, List.isPrefixOf_iff_prefix.mpr hpre⟩

/-- A completed response with the status and the text that are asserted. -/
structure Expectation.Meets (e : Expectation) (obs : HttpObservation) : Prop where
  completed : obs.failure = none
  status : ∀ spec, e.status = some spec → ∃ code, obs.status = some code ∧ spec.Accepts code
  contains : ∀ needle, e.contains = some needle →
    ∃ body, obs.bodySnippet = some body ∧ needle.toList <:+: body.toList

lemma statusReason_eq_nil {e : Expectation} {status : Option UInt16} :
    e.statusReason status = [] ↔
      ∀ spec, e.status = some spec → ∃ code, status = some code ∧ spec.Accepts code := by
  unfold Expectation.statusReason
  cases e.status with
  | none => simp
  | some spec =>
    cases status with
    | none => simp
    | some code =>
      simp only [ite_eq_left_iff, List.cons_ne_nil, imp_false, not_not, matchesStatus_iff]
      simp

lemma bodyReason_eq_nil [DebugTables]
    {e : Expectation} {body : Option String} {bodyBytes : Option UInt64} :
    e.bodyReason body bodyBytes = [] ↔ ∀ needle, e.contains = some needle →
      ∃ b, body = some b ∧ needle.toList <:+: b.toList := by
  unfold Expectation.bodyReason
  cases e.contains with
  | none => simp
  | some needle =>
    cases body with
    | none => simp
    | some b =>
      simp only [Option.any_some, ite_eq_left_iff, List.cons_ne_nil, imp_false, not_not,
        containsText_iff]
      simp

lemma check_eq_none [DebugTables] {e : Expectation} {obs : HttpObservation} :
    e.check obs = none ↔ e.Meets obs := by
  unfold Expectation.check Expectation.violation
  cases hfailure : obs.failure with
  | some failure =>
    rw [Option.isSome_some, if_pos rfl]
    refine iff_of_false (Option.some_ne_none _) (fun h => ?_)
    rw [h.completed] at hfailure
    cases hfailure
  | none =>
    rw [Option.isSome_none, if_neg Bool.false_ne_true]
    dsimp only
    split
    case isTrue hempty =>
      rw [List.isEmpty_iff, List.append_eq_nil_iff, statusReason_eq_nil,
        bodyReason_eq_nil] at hempty
      exact iff_of_true rfl ⟨hfailure, hempty.1, hempty.2⟩
    case isFalse hreasons =>
      refine iff_of_false (Option.some_ne_none _) (fun h => hreasons ?_)
      rw [List.isEmpty_iff, List.append_eq_nil_iff, statusReason_eq_nil, bodyReason_eq_nil]
      exact ⟨h.status, h.contains⟩

/-! ### Repeated probes -/

/-- The status that an attempt got, with or without its whole body. -/
def Gets (obs : HttpObservation) (code : UInt16) : Prop :=
  obs.failure = none ∧ obs.status = some code

lemma status_httpOutcome {obs : HttpObservation} {code : UInt16} :
    (httpOutcome obs).status = some code ↔ Gets obs code := by
  unfold httpOutcome Gets
  cases obs.failure <;> cases obs.bodyBytes <;> simp

/-- The attempts that complete. -/
def completedAttempts (attempts : Nat) (obs : Nat → HttpObservation) : Nat :=
  (List.range attempts).countP
    (fun k => (obs k).failure.isNone && (obs k).bodyBytes.isSome)

/-- Some attempt is answered, every answer has an asserted status, and enough attempts complete. -/
structure ProbeExpectation.Meets (e : ProbeExpectation) (attempts : Nat)
    (obs : Nat → HttpObservation) : Prop where
  answered : e.status.isSome = true → ∃ k < attempts, ∃ code, Gets (obs k) code
  status : ∀ spec, e.status = some spec → ∀ k < attempts, ∀ code, Gets (obs k) code →
    spec.Accepts code
  rate : ∀ min, e.rate = some min →
    ¬(completedAttempts attempts obs).toFloat / attempts.toFloat < min

section Repeated

variable (order : HashOrder) (destination : SocketAddr) (attempts : Nat)
  (obs : Nat → HttpObservation)

lemma mem_statusCounts (code : UInt16) :
    (∃ sc ∈ (httpRepeat order destination attempts obs).statusCounts, sc.status = code) ↔
      ∃ k < attempts, Gets (obs k) code := by
  have hstatuses := (recorded_foldl
    ((List.range attempts).map (fun i => httpOutcome (obs i)))).statuses_of order
  have hsorted := hstatuses.of_perm_map (@Tally.sortByCount_perm UInt16 UInt16.toNat _).symm
  have hkeys := hsorted.mem_keys code
  unfold httpRepeat repeatImpl
  dsimp only
  simp only [List.mem_map, exists_exists_and_eq_and] at hkeys ⊢
  rw [hkeys]
  simp only [List.mem_filterMap, List.mem_map, List.mem_range, exists_exists_and_eq_and,
    status_httpOutcome]

lemma probeStatusReason_eq_nil (e : ProbeExpectation) :
    e.statusReason (httpRepeat order destination attempts obs) = [] ↔
      (e.status.isSome = true → ∃ k < attempts, ∃ code, Gets (obs k) code) ∧
      ∀ spec, e.status = some spec → ∀ k < attempts, ∀ code, Gets (obs k) code →
        spec.Accepts code := by
  have hmem := mem_statusCounts order destination attempts obs
  unfold ProbeExpectation.statusReason
  generalize (httpRepeat order destination attempts obs).statusCounts = counts at hmem
  cases hstatus : e.status with
  | none => simp
  | some spec =>
    dsimp only
    split
    case isTrue hempty =>
      rw [List.isEmpty_iff] at hempty
      subst hempty
      refine iff_of_false (List.cons_ne_nil _ _) (fun h => ?_)
      obtain ⟨k, hk, code, hcode⟩ := h.1 rfl
      obtain ⟨sc, hsc, -⟩ := (hmem code).mpr ⟨k, hk, hcode⟩
      cases hsc
    case isFalse hne =>
      have hanswered : ∃ k < attempts, ∃ code, Gets (obs k) code := by
        obtain ⟨sc, hsc⟩ := List.exists_mem_of_ne_nil counts (fun h => hne (List.isEmpty_iff.mpr h))
        obtain ⟨k, hk, hcode⟩ := (hmem sc.status).mp ⟨sc, hsc, rfl⟩
        exact ⟨k, hk, sc.status, hcode⟩
      rw [and_iff_right (fun _ => hanswered)]
      simp only [ite_eq_left_iff, List.cons_ne_nil, imp_false, not_not, List.isEmpty_iff,
        List.map_eq_nil_iff, List.filter_eq_nil_iff, Bool.not_eq_true', Bool.not_eq_false,
        matchesStatus_iff]
      constructor
      · intro h expected hexpected k hk code hcode
        cases hexpected
        obtain ⟨sc, hsc, rfl⟩ := (hmem code).mpr ⟨k, hk, hcode⟩
        exact h sc hsc
      · intro h sc hsc
        obtain ⟨k, hk, hcode⟩ := (hmem sc.status).mp ⟨sc, hsc, rfl⟩
        exact h spec rfl k hk sc.status hcode

lemma successes_httpRepeat :
    (httpRepeat order destination attempts obs).successes = completedAttempts attempts obs := by
  have hsuccesses := (recorded_foldl
    ((List.range attempts).map (fun i => httpOutcome (obs i)))).successes
  unfold httpRepeat repeatImpl completedAttempts
  dsimp only
  rw [hsuccesses, List.countP_map]
  exact List.countP_congr (fun k _ => by rw [Function.comp_apply, httpOutcome_ok])

lemma rateReason_eq_nil (e : ProbeExpectation) (hattempts : 0 < attempts) :
    e.rateReason (httpRepeat order destination attempts obs) = [] ↔ ∀ min, e.rate = some min →
      ¬(completedAttempts attempts obs).toFloat / attempts.toFloat < min := by
  have hrate : (httpRepeat order destination attempts obs).successRate =
      (completedAttempts attempts obs).toFloat / attempts.toFloat := by
    rw [← successes_httpRepeat order destination]
    exact if_neg (Nat.ne_of_gt hattempts)
  unfold ProbeExpectation.rateReason
  rw [hrate]
  cases e.rate with
  | none => simp
  | some min => simp

lemma violation_eq_none {e : ProbeExpectation} (hattempts : 0 < attempts) :
    e.violation (httpRepeat order destination attempts obs) = none ↔ e.Meets attempts obs := by
  have hstatus := probeStatusReason_eq_nil order destination attempts obs e
  have hrate := rateReason_eq_nil order destination attempts obs e hattempts
  unfold ProbeExpectation.violation
  dsimp only
  split
  case isTrue hempty =>
    rw [List.isEmpty_iff, List.append_eq_nil_iff, hstatus, hrate] at hempty
    exact iff_of_true rfl ⟨hempty.1.1, hempty.1.2, hempty.2⟩
  case isFalse hreasons =>
    refine iff_of_false (Option.some_ne_none _) (fun h => hreasons ?_)
    rw [List.isEmpty_iff, List.append_eq_nil_iff, hstatus, hrate]
    exact ⟨⟨h.answered, h.status⟩, h.rate⟩

lemma probeFailed_httpRepeat :
    probeFailed (httpRepeat order destination attempts obs) = false ↔
      completedAttempts attempts obs = attempts := by
  let := DebugTables.none
  have haccounts := repeatImpl_accounted order destination attempts (fun i => httpOutcome (obs i))
    (fun i _ => Wrapped.http (obs i))
  have htotal : (httpRepeat order destination attempts obs).successes +
      (httpRepeat order destination attempts obs).failures = attempts := haccounts.total
  rw [successes_httpRepeat] at htotal
  unfold probeFailed
  rw [decide_eq_false_iff_not]
  omega

end Repeated

/-- A number in `(0, bound]`. -/
def InRange (bound v : Float) : Prop := v.isFinite = true ∧ ¬v ≤ 0.0 ∧ ¬bound < v

/-- What can be asserted of repeated probes: some status where there are statuses, or a rate, as a
fraction or in per cent. -/
structure ProbeExpectation.Readable (e : ProbeExpectation) (protocol : String) : Prop where
  asserts : e.status.isSome = true ∨ e.rate.isSome = true
  status : ∀ spec, e.status = some spec → spec.Valid ∧ protocol ∈ ["http", "http2", "http3"]
  rate : ∀ min, e.rate = some min →
    InRange 1.0 min ∨ ∃ pct, InRange 100.0 pct ∧ min = pct / 100.0

lemma inRange_of_not {bound v : Float} (h : ¬(!v.isFinite || decide (v ≤ 0.0) ||
    decide (bound < v)) = true) : InRange bound v := by
  simp only [Bool.or_eq_true, Bool.not_eq_true', decide_eq_true_eq, not_or,
    Bool.not_eq_false] at h
  exact ⟨h.1.1, h.1.2, h.2⟩

lemma rate_of_parseExpectRate {parseF64 : List Char → Option Float} {raw : String} {rate : Float}
    (h : parseExpectRate parseF64 raw = .ok rate) :
    InRange 1.0 rate ∨ ∃ pct, InRange 100.0 pct ∧ rate = pct / 100.0 := by
  unfold parseExpectRate at h
  dsimp only at h
  split at h
  case h_1 =>
    split at h
    case h_1 => cases h
    case h_2 pct _ =>
      split at h
      case isTrue => cases h
      case isFalse hrange =>
        cases h
        exact .inr ⟨pct, inRange_of_not hrange, rfl⟩
  case h_2 =>
    split at h
    case h_1 => cases h
    case h_2 v _ =>
      split at h
      case isTrue => cases h
      case isFalse hrange =>
        cases h
        exact .inl (inRange_of_not hrange)

/-- An optional flag that is read: it is absent, or its value is read. -/
lemma mapM_eq_ok {α β : Type} {f : α → Except String β} {flag : Option α} {read : Option β}
    (h : flag.mapM f = .ok read) :
    (read = none ↔ flag = none) ∧ ∀ b, read = some b → ∃ a, f a = .ok b := by
  cases flag with
  | none =>
    cases h
    exact ⟨iff_of_true rfl rfl, fun b hb => by cases hb⟩
  | some a =>
    rw [Option.mapM_some] at h
    cases hf : f a with
    | error e =>
      rw [hf] at h
      cases h
    | ok b =>
      rw [hf] at h
      cases h
      exact ⟨iff_of_false (Option.some_ne_none b) (Option.some_ne_none a),
        fun b' hb => ⟨a, Option.some.inj hb ▸ hf⟩⟩

/-- What the flags assert of repeated probes, if they assert anything. -/
theorem probeExpectation_readable {parseF64 : List Char → Option Float} {protocol : String}
    {expectStatus expectRate : Option String} {e : Option ProbeExpectation}
    (h : parseProbeExpectation parseF64 protocol expectStatus expectRate = .ok e) :
    (e = none ↔ expectStatus = none ∧ expectRate = none) ∧
      ∀ asserted, e = some asserted → asserted.Readable protocol := by
  unfold parseProbeExpectation at h
  generalize hread : (fun spec => _ : String → Except String StatusSpec) = readStatus at h
  have hreads : ∀ raw spec, readStatus raw = .ok spec →
      spec.Valid ∧ protocol ∈ ["http", "http2", "http3"] := by
    intro raw spec hspec
    rw [← hread] at hspec
    dsimp only at hspec
    split at hspec
    case isTrue => cases hspec
    case isFalse hprotocol => exact ⟨valid_of_parseStatusSpec hspec, not_not.mp hprotocol⟩
  cases hs : expectStatus.mapM readStatus with
  | error text =>
    rw [hs] at h
    cases h
  | ok status =>
    cases hr : expectRate.mapM (parseExpectRate parseF64) with
    | error text =>
      rw [hs] at h
      simp only [bind, Except.bind, hr] at h
      cases h
    | ok rate =>
      rw [hs] at h
      simp only [bind, Except.bind, hr] at h
      obtain ⟨hstatus, hspecs⟩ := mapM_eq_ok hs
      obtain ⟨hrate, hrates⟩ := mapM_eq_ok hr
      rw [← hstatus, ← hrate]
      split at h
      case isTrue hnone =>
        cases h
        rw [Bool.and_eq_true, Option.isNone_iff_eq_none, Option.isNone_iff_eq_none] at hnone
        exact ⟨iff_of_true rfl hnone, fun asserted ha => by cases ha⟩
      case isFalse hsome =>
        cases h
        rw [Bool.and_eq_true, Option.isNone_iff_eq_none, Option.isNone_iff_eq_none] at hsome
        refine ⟨iff_of_false (Option.some_ne_none _) hsome, fun asserted ha => ?_⟩
        cases ha
        refine ⟨?_, fun spec hspec => ?_, fun min hmin => ?_⟩
        · rw [Option.isSome_iff_ne_none, Option.isSome_iff_ne_none]
          exact not_and_or.mp hsome
        · obtain ⟨raw, hraw⟩ := hspecs spec hspec
          exact hreads raw spec hraw
        · obtain ⟨raw, hraw⟩ := hrates min hmin
          exact rate_of_parseExpectRate hraw

/-! ### The verdict on a run -/

section Verdict

variable {O : Type} {flow : ProbeFlow O} {targets : List Target}

/-- The targets that a run is not refused for: there is one, and where a file takes the body it can
be written and there is one destination alone. -/
structure ProbeFlow.Admits (flow : ProbeFlow O) (targets : List Target) : Prop where
  nonempty : targets ≠ []
  oneBody : ∀ file, flow.outputBody = some file → ∃ target, targets = [target] ∧
    ∀ host destinations,
      resolveTarget (flow.resolvers 0) flow.flags target = some (host, destinations) →
      file.writable = true ∧ ∃ d, destinations = [d]

/-- Every target resolves, and what its destinations give is as asserted. -/
def ProbeFlow.AllMeet (flow : ProbeFlow O) (targets : List Target)
    (Meets : Nat → List Char → SocketAddr → Prop) : Prop :=
  ∀ i target, targets[i]? = some target → ∃ host destinations,
    resolveTarget (flow.resolvers i) flow.flags target = some (host, destinations) ∧
      ∀ d ∈ destinations, Meets i (flow.sni.getD host) d

/-- A destination of a target that gives something else than is asserted. -/
def ProbeFlow.Violates (flow : ProbeFlow O) (targets : List Target)
    (Meets : Nat → List Char → SocketAddr → Prop) (d : SocketAddr) : Prop :=
  ∃ i target host destinations, targets[i]? = some target ∧
    resolveTarget (flow.resolvers i) flow.flags target = some (host, destinations) ∧
      d ∈ destinations ∧ ¬Meets i (flow.sni.getD host) d

lemma admits_iff : flow.Admits targets ↔ (flow.refusesTargets targets ||
    flow.refusesDestinations (flow.resolvedTargets targets)) = false := by
  have hnonempty : flow.Admits targets → targets.isEmpty = false :=
    fun h => List.isEmpty_eq_false_iff.mpr h.nonempty
  rw [Bool.or_eq_false_iff]
  unfold ProbeFlow.refusesTargets ProbeFlow.refusesDestinations
  cases hbody : flow.outputBody with
  | none =>
    rw [Option.isSome_none, Bool.false_and, Bool.or_false, and_iff_left rfl]
    refine ⟨hnonempty, fun h => ⟨List.isEmpty_eq_false_iff.mp h, fun file hfile => ?_⟩⟩
    rw [hbody] at hfile
    cases hfile
  | some file =>
    dsimp only
    rw [Bool.or_eq_false_iff]
    constructor
    · intro h
      obtain ⟨target, rfl, honly⟩ := h.oneBody file hbody
      refine ⟨⟨rfl, by simp⟩, ?_⟩
      have hresolved : flow.resolvedTargets [target] =
          [(0, resolveTarget (flow.resolvers 0) flow.flags target)] := rfl
      rw [hresolved]
      cases hresolve : resolveTarget (flow.resolvers 0) flow.flags target with
      | none => rfl
      | some t =>
        obtain ⟨hwritable, d, hd⟩ := honly t.1 t.2 hresolve
        simp [destCount, hd, hwritable]
    · rintro ⟨⟨hempty, hlength⟩, hcount⟩
      have hne := List.isEmpty_eq_false_iff.mp hempty
      have hone : targets.length = 1 := by
        have hpos := List.length_pos_iff.mpr hne
        simp only [Option.isSome_some, Bool.true_and, decide_eq_false_iff_not] at hlength
        omega
      obtain ⟨target, rfl⟩ := List.length_eq_one_iff.mp hone
      refine ⟨hne, fun other hother => ⟨target, rfl, fun host destinations hresolve => ?_⟩⟩
      cases hbody.symm.trans hother
      have hresolved : flow.resolvedTargets [target] = [(0, some (host, destinations))] := by
        rw [← hresolve]
        rfl
      have hdests := List.length_pos_iff.mpr (resolveTarget_ne_nil hresolve)
      rw [hresolved] at hcount
      simp only [destCount, List.filterMap_cons, List.filterMap_nil, Option.map_some,
        List.sum_singleton, Bool.or_eq_false_iff, decide_eq_false_iff_not,
        Bool.and_eq_false_iff, Bool.not_eq_false'] at hcount
      have hsingle : destinations.length = 1 := by omega
      exact ⟨hcount.2.resolve_left (not_not.mpr hsingle), List.length_eq_one_iff.mp hsingle⟩

lemma mem_expected {o : O} :
    o ∈ (flow.expected targets).perTarget.flatMap Prod.snd ↔
      ∃ i target host destinations, targets[i]? = some target ∧
        resolveTarget (flow.resolvers i) flow.flags target = some (host, destinations) ∧
        ∃ d ∈ destinations, flow.probe i (flow.sni.getD host) d = o := by
  unfold ProbeFlow.expected
  dsimp only
  rw [List.mem_flatMap]
  constructor
  · rintro ⟨t, ht, ho⟩
    obtain ⟨⟨i, output⟩, hmem, houtput⟩ := List.mem_filterMap.mp ht
    obtain ⟨⟨host, destinations⟩, rfl, rfl⟩ := Option.map_eq_some_iff.mp houtput
    obtain ⟨target, hget, hresolve⟩ := mem_resolvedTargets.mp hmem
    obtain ⟨d, hd, rfl⟩ := List.mem_map.mp ho
    exact ⟨i, target, host, destinations, hget, hresolve, d,
      (sortByKey_perm id destinations).mem_iff.mp hd, rfl⟩
  · rintro ⟨i, target, host, destinations, hget, hresolve, d, hd, rfl⟩
    refine ⟨_, List.mem_filterMap.mpr ⟨_, mem_resolvedTargets.mpr ⟨target, hget, hresolve⟩, rfl⟩,
      ?_⟩
    exact List.mem_map_of_mem ((sortByKey_perm id destinations).mem_iff.mpr hd)

lemma unresolved_expected :
    (flow.expected targets).unresolved = 0 ↔ ∀ i target, targets[i]? = some target →
      (resolveTarget (flow.resolvers i) flow.flags target).isSome = true := by
  unfold ProbeFlow.expected
  dsimp only
  rw [List.countP_eq_zero]
  constructor
  · intro h i target hget
    have hsome := h _ (mem_resolvedTargets.mpr ⟨target, hget, rfl⟩)
    simpa [Option.isSome_iff_ne_none] using hsome
  · rintro h ⟨i, output⟩ hmem
    obtain ⟨target, hget, rfl⟩ := mem_resolvedTargets.mp hmem
    have hsome := h i target hget
    simpa [Option.isSome_iff_ne_none] using hsome

variable {check : O → Option String} {strict : Bool} {failed : O → Bool} {written : Bool}

lemma exitCode_written {r : FlowResult O} :
    r.exitCode ⟨some check, strict, failed⟩ true = .success ↔
      r.unresolved = 0 ∧ ∀ o ∈ r.perTarget.flatMap Prod.snd,
        check o = none ∧ (strict = true → failed o = false) := by
  unfold FlowResult.exitCode
  dsimp only
  generalize r.perTarget.flatMap Prod.snd = results
  rw [Bool.not_true, if_neg Bool.false_ne_true, Option.any_some]
  by_cases hunresolved : 0 < r.unresolved
  · rw [if_pos hunresolved]
    exact iff_of_false ExitCode.noConfusion (fun h => Nat.ne_of_gt hunresolved h.1)
  · rw [if_neg hunresolved]
    have hzero : r.unresolved = 0 := Nat.eq_zero_of_not_pos hunresolved
    by_cases hviolated : results.any (fun o => (check o).isSome) = true
    · rw [if_pos hviolated]
      refine iff_of_false ExitCode.noConfusion (fun h => ?_)
      obtain ⟨o, ho, hsome⟩ := List.any_eq_true.mp hviolated
      rw [(h.2 o ho).1] at hsome
      cases hsome
    · rw [if_neg hviolated]
      have hnone : ∀ o ∈ results, check o = none := by
        intro o ho
        by_contra hne
        exact hviolated (List.any_eq_true.mpr ⟨o, ho, Option.isSome_iff_ne_none.mpr hne⟩)
      by_cases hfailed : (strict && decide (0 < results.countP failed)) = true
      · rw [if_pos hfailed]
        refine iff_of_false ExitCode.noConfusion (fun h => ?_)
        obtain ⟨hstrict, hpos⟩ := Bool.and_eq_true_iff.mp hfailed
        obtain ⟨o, ho, hfail⟩ := List.countP_pos_iff.mp (of_decide_eq_true hpos)
        rw [(h.2 o ho).2 hstrict] at hfail
        cases hfail
      · rw [if_neg hfailed]
        refine iff_of_true rfl ⟨hzero, fun o ho => ⟨hnone o ho, fun hstrict => ?_⟩⟩
        by_contra hne
        refine hfailed (Bool.and_eq_true_iff.mpr ⟨hstrict, decide_eq_true ?_⟩)
        exact List.countP_pos_iff.mpr ⟨o, ho, Bool.eq_true_of_not_eq_false hne⟩

lemma exitCode_success {r : FlowResult O} :
    r.exitCode ⟨some check, strict, failed⟩ written = .success ↔ written = true ∧
      r.unresolved = 0 ∧ ∀ o ∈ r.perTarget.flatMap Prod.snd,
        check o = none ∧ (strict = true → failed o = false) := by
  cases written with
  | false =>
    rw [exitCode_unwritten]
    exact iff_of_false ExitCode.noConfusion (fun h => Bool.false_ne_true h.1)
  | true => exact exitCode_written.trans (and_iff_right rfl).symm

lemma exitCode_expected :
    (flow.expected targets).exitCode ⟨some check, strict, failed⟩ written = .success ↔
      written = true ∧ flow.AllMeet targets (fun i host d =>
        check (flow.probe i host d) = none ∧
          (strict = true → failed (flow.probe i host d) = false)) := by
  rw [exitCode_success, unresolved_expected]
  refine and_congr_right (fun _ => ?_)
  unfold ProbeFlow.AllMeet
  constructor
  · rintro ⟨hresolved, hall⟩ i target hget
    obtain ⟨⟨host, destinations⟩, hresolve⟩ := Option.isSome_iff_exists.mp (hresolved i target hget)
    refine ⟨host, destinations, hresolve, fun d hd => hall _ ?_⟩
    exact mem_expected.mpr ⟨i, target, host, destinations, hget, hresolve, d, hd, rfl⟩
  · intro h
    refine ⟨fun i target hget => ?_, fun o ho => ?_⟩
    · obtain ⟨host, destinations, hresolve, -⟩ := h i target hget
      rw [hresolve, Option.isSome_some]
    · obtain ⟨i, target, host, destinations, hget, hresolve, d, hd, rfl⟩ := mem_expected.mp ho
      obtain ⟨host', destinations', hresolve', hall⟩ := h i target hget
      rw [hresolve] at hresolve'
      cases hresolve'
      exact hall d hd

variable (hkey : ∀ i host d, flow.sortKey (flow.probe i host d) = d)
  {outcome : Option (FlowResult O)} (hrun : RunProbeFlow flow targets outcome)

include hkey hrun

/-- The verdict on a run, whatever the order its probes complete in and wherever it exits. -/
lemma verdict_iff :
    flowExitCode ⟨some check, strict, failed⟩ written outcome = .success ↔
      flow.Admits targets ∧ written = true ∧ flow.AllMeet targets (fun i host d =>
        check (flow.probe i host d) = none ∧
          (strict = true → failed (flow.probe i host d) = false)) := by
  have houtcome := (runProbeFlow_iff hkey _).mp hrun
  unfold ProbeFlow.outcome at houtcome
  rw [admits_iff]
  split at houtcome
  case isTrue hrefused =>
    subst houtcome
    exact iff_of_false ExitCode.noConfusion (fun h => by rw [hrefused] at h; cases h.1)
  case isFalse haccepted =>
    subst houtcome
    rw [Bool.not_eq_true] at haccepted
    rw [and_iff_right haccepted]
    exact exitCode_expected

lemma report_eq_expected {r : FlowResult O} (hr : outcome = some r) : r = flow.expected targets := by
  have houtcome := (runProbeFlow_iff hkey _).mp hrun
  unfold ProbeFlow.outcome at houtcome
  rw [hr] at houtcome
  split at houtcome
  · cases houtcome
  · exact Option.some.inj houtcome

/-- The lines of a run whose targets all resolve name the destinations that violate the check. -/
lemma violations_named (hnames : ∀ o text, check o = some text →
      ∃ reason : String, text = s!"{flow.sortKey o}: {reason}")
    {r : FlowResult O} (hr : outcome = some r) (hresolved : ∀ i target, targets[i]? = some target →
      (resolveTarget (flow.resolvers i) flow.flags target).isSome = true) :
    (∀ d, flow.Violates targets (fun i host d => check (flow.probe i host d) = none) d →
      ∃ reason : String, s!"expectation violated: {d}: {reason}" ∈ r.violations check true) ∧
    ∀ line ∈ r.violations check true, ∃ d, ∃ reason : String,
      flow.Violates targets (fun i host d => check (flow.probe i host d) = none) d ∧
        line = s!"expectation violated: {d}: {reason}" := by
  have hzero : r.unresolved = 0 := by
    rw [report_eq_expected hkey hrun hr]
    exact unresolved_expected.mpr hresolved
  have hlines : r.violations check true = (r.perTarget.flatMap Prod.snd).filterMap
      (fun o => (check o).map (fun reason => s!"expectation violated: {reason}")) := by
    unfold FlowResult.violations
    rw [hzero, if_neg (by decide)]
  have hline : ∀ i host d text, check (flow.probe i host d) = some text → ∃ reason : String,
      s!"expectation violated: {text}" = s!"expectation violated: {d}: {reason}" := by
    intro i host d text htext
    obtain ⟨reason, hreason⟩ := hnames _ _ htext
    rw [hkey] at hreason
    refine ⟨reason, ?_⟩
    rw [hreason]
    simp [String.append_assoc, toString]
  rw [hlines, report_eq_expected hkey hrun hr]
  constructor
  · rintro d ⟨i, target, host, destinations, hget, hresolve, hd, hviolates⟩
    obtain ⟨text, htext⟩ := Option.ne_none_iff_exists'.mp hviolates
    obtain ⟨reason, hreason⟩ := hline _ _ _ _ htext
    refine ⟨reason, List.mem_filterMap.mpr ⟨_, mem_expected.mpr
      ⟨i, target, host, destinations, hget, hresolve, d, hd, rfl⟩, ?_⟩⟩
    rw [htext, Option.map_some, hreason]
  · intro line hmem
    obtain ⟨o, ho, hmap⟩ := List.mem_filterMap.mp hmem
    obtain ⟨i, target, host, destinations, hget, hresolve, d, hd, rfl⟩ := mem_expected.mp ho
    obtain ⟨text, htext, rfl⟩ := Option.map_eq_some_iff.mp hmap
    obtain ⟨reason, hreason⟩ := hline _ _ _ _ htext
    have hviolates : check (flow.probe i (flow.sni.getD host) d) ≠ none := by
      rw [htext]
      exact Option.some_ne_none text
    exact ⟨d, reason, ⟨i, target, host, destinations, hget, hresolve, hd, hviolates⟩, hreason⟩

end Verdict

lemma check_names [DebugTables] (e : Expectation) (obs : HttpObservation) (text : String)
    (h : e.check obs = some text) : ∃ reason : String, text = s!"{obs.destination}: {reason}" := by
  unfold Expectation.check Expectation.violation at h
  split at h
  · cases h
    refine ⟨"probe failed to complete (no response to assert on)", ?_⟩
    rw [String.append_assoc]
    rfl
  · dsimp only at h
    split at h
    · cases h
    · cases h
      exact ⟨_, rfl⟩

/-- A run of an HTTP command, one that exits early included, succeeds where its targets are admitted,
its report is written, every target resolves and every destination gives a completed response as
asserted, with or without `--strict`. Where the report is written and every target resolves, the
lines that it ends with name the destinations that do not. -/
theorem expectation_verdict [DebugTables] {flow : ProbeFlow HttpObservation} {targets : List Target}
    (hkey : flow.sortKey = HttpObservation.destination)
    (hdestination : ∀ i host d, (flow.probe i host d).destination = d)
    {outcome : Option (FlowResult HttpObservation)} (hrun : RunProbeFlow flow targets outcome)
    (e : Expectation) (strict written : Bool) :
    let Meets := fun i host d => e.Meets (flow.probe i host d)
    (flowExitCode ⟨expectCheck (some e), strict, httpFailed⟩ written outcome = .success ↔
      flow.Admits targets ∧ written = true ∧ flow.AllMeet targets Meets) ∧
    (∀ r, outcome = some r → (∀ i target, targets[i]? = some target →
        (resolveTarget (flow.resolvers i) flow.flags target).isSome = true) →
      (∀ d, flow.Violates targets Meets d →
        ∃ reason : String, s!"expectation violated: {d}: {reason}" ∈ r.violations e.check true) ∧
      ∀ line ∈ r.violations e.check true, ∃ d, ∃ reason : String,
        flow.Violates targets Meets d ∧ line = s!"expectation violated: {d}: {reason}") := by
  intro Meets
  have hsort : ∀ i host d, flow.sortKey (flow.probe i host d) = d := by
    intro i host d
    rw [hkey, hdestination]
  have hmeets : (fun i host d => e.check (flow.probe i host d) = none) = Meets := by
    funext i host d
    exact propext check_eq_none
  constructor
  · have hstrict : (fun i host d => e.check (flow.probe i host d) = none ∧
        (strict = true → httpFailed (flow.probe i host d) = false)) = Meets := by
      funext i host d
      refine propext ⟨fun h => check_eq_none.mp h.1, fun h => ⟨check_eq_none.mpr h, fun _ => ?_⟩⟩
      unfold httpFailed
      rw [h.completed, Option.isSome_none]
    rw [← hstrict]
    exact verdict_iff hsort hrun
  · intro r hr hresolved
    rw [← hmeets]
    exact violations_named hsort hrun (hkey ▸ check_names e) hr hresolved

/-- A local server that answers with a status. -/
def localAnswer (status : UInt16) (d : SocketAddr) : HttpObservation :=
  { HttpObservation.base d "127.0.0.1" "GET" "/" with status := some status, bodyBytes := some 0 }

/-- A flow over addresses that are given as such. -/
def localFlow {O : Type} (outputBody : Option OutputBody) (probe : SocketAddr → O)
    (sortKey : O → SocketAddr) : ProbeFlow O where
  concurrency := 4
  resolvers := fun _ => ⟨fun _ _ => [], [], fun _ _ rt => ⟨"", .system, rt, [], none, none, none⟩,
    [], fun _ _ rt => ⟨"", .system, rt, [], none, none, none⟩⟩
  flags := ⟨false, false⟩
  sni := none
  outputBody
  probe := fun _ _ d => probe d
  sortKey

def localTarget : Target := ⟨"127.0.0.1".toList, 80⟩

lemma resolveTarget_local (resolvers : Resolvers) :
    resolveTarget resolvers ⟨false, false⟩ localTarget =
      some (localTarget.host, [.v4 ⟨.new 127 0 0 1, 80⟩]) := by
  have hliteral : parseIpAddr (trimEndMatches ']' (trimStartMatches '[' localTarget.host)) =
      some (.v4 (.new 127 0 0 1)) := by decide
  unfold resolveTarget resolveForTcpServers
  dsimp only
  rw [hliteral]
  rfl

lemma admits_local {O : Type} {outputBody : Option OutputBody} {probe : SocketAddr → O}
    {sortKey : O → SocketAddr} (h : ∀ file, outputBody = some file → file.writable = true) :
    (localFlow outputBody probe sortKey).Admits [localTarget] := by
  refine ⟨List.cons_ne_nil _ _, fun file hfile => ⟨localTarget, rfl, fun host dests hresolve => ?_⟩⟩
  have hlocal := (resolveTarget_local _).symm.trans hresolve
  cases hlocal
  exact ⟨h file hfile, _, rfl⟩

lemma allMeet_local {O : Type} {outputBody : Option OutputBody} {probe : SocketAddr → O}
    {sortKey : O → SocketAddr} {Meets : Nat → List Char → SocketAddr → Prop}
    (h : ∀ host d, Meets 0 host d) :
    (localFlow outputBody probe sortKey).AllMeet [localTarget] Meets := by
  intro i target hget
  cases i with
  | succ i => cases hget
  | zero =>
    cases hget
    exact ⟨_, _, resolveTarget_local _, fun d _ => h _ d⟩

/-- A file takes the body of the only response. -/
theorem expectation_verdict_local :
    letI := DebugTables.none
    let flow := localFlow (some ⟨"body", true⟩) (localAnswer 204) HttpObservation.destination
    ∃ outcome, RunProbeFlow flow [localTarget] outcome ∧
      flowExitCode ⟨expectCheck (some ⟨some (.statusClass 2), none⟩), true, httpFailed⟩ true
        outcome = .success := by
  intro flow
  let := DebugTables.none
  have hrun : RunProbeFlow flow [localTarget] (flow.outcome [localTarget]) :=
    (runProbeFlow_iff (fun _ _ _ => rfl) _).mpr rfl
  refine ⟨_, hrun, ?_⟩
  refine (expectation_verdict rfl (fun _ _ _ => rfl) hrun _ true true).1.mpr
    ⟨admits_local ?_, rfl, allMeet_local (fun host d => ⟨rfl, ?_, ?_⟩)⟩
  · intro file hfile
    cases hfile
    rfl
  · intro spec hspec
    cases hspec
    exact ⟨204, rfl, matchesStatus_iff.mp rfl⟩
  · intro needle hneedle
    cases hneedle

/-- A run of repeated HTTP probes, one that exits early included, succeeds where its targets are
admitted, its report is written, every target resolves and every destination keeps to the
expectations over its attempts, and under `--strict` where all attempts complete as well. -/
theorem probe_expectation_verdict {flow : ProbeFlow ProbeResult} {targets : List Target}
    (order : Nat → List Char → SocketAddr → HashOrder) {attempts : Nat} (hattempts : 0 < attempts)
    (obs : Nat → List Char → SocketAddr → Nat → HttpObservation)
    (hkey : flow.sortKey = ProbeResult.destination)
    (hprobe : ∀ i host d,
      flow.probe i host d = httpRepeat (order i host d) d attempts (obs i host d))
    {outcome : Option (FlowResult ProbeResult)} (hrun : RunProbeFlow flow targets outcome)
    (e : ProbeExpectation) (strict written : Bool) :
    flowExitCode ⟨some e.violation, strict, probeFailed⟩ written outcome = .success ↔
      flow.Admits targets ∧ written = true ∧ flow.AllMeet targets (fun i host d =>
        e.Meets attempts (obs i host d) ∧
          (strict = true → completedAttempts attempts (obs i host d) = attempts)) := by
  have hsort : ∀ i host d, flow.sortKey (flow.probe i host d) = d := by
    intro i host d
    rw [hkey, hprobe]
    rfl
  rw [verdict_iff hsort hrun]
  simp only [hprobe, violation_eq_none _ _ _ _ hattempts, probeFailed_httpRepeat]

theorem probe_expectation_verdict_local :
    let obs (d : SocketAddr) (k : Nat) : HttpObservation :=
      if k = 0 then localAnswer 200 d else (localAnswer 200 d).withFailure ⟨.timeout, "timed out"⟩
    let flow := localFlow none (fun d => httpRepeat ⟨fun m => m, fun m => .refl m⟩ d 2 (obs d))
      ProbeResult.destination
    ∃ outcome, RunProbeFlow flow [localTarget] outcome ∧
      flowExitCode ⟨some (ProbeExpectation.violation ⟨some (.exactCode 200), none⟩), false,
        probeFailed⟩ true outcome = .success := by
  intro obs flow
  have hrun : RunProbeFlow flow [localTarget] (flow.outcome [localTarget]) :=
    (runProbeFlow_iff (fun _ _ _ => rfl) _).mpr rfl
  refine ⟨_, hrun, ?_⟩
  refine (probe_expectation_verdict (fun _ _ _ => ⟨fun m => m, fun m => .refl m⟩) Nat.two_pos
    (fun _ _ d => obs d) rfl (fun _ _ _ => rfl) hrun _ false true).mpr
    ⟨admits_local (fun file hfile => by cases hfile), rfl,
      allMeet_local (fun host d => ⟨⟨?_, ?_, ?_⟩, ?_⟩)⟩
  · exact fun _ => ⟨0, by decide, 200, rfl, rfl⟩
  · rintro spec hspec k - code ⟨hfailure, hstatus⟩
    cases hspec
    by_cases hk : k = 0
    · subst hk
      cases hstatus
      rfl
    · rw [show obs d k = _ from if_neg hk] at hfailure
      cases hfailure
  · intro min hmin
    cases hmin
  · intro h
    cases h

end IpTools
