import IpTools.Proofs.Engine

/-!
# Which failures the engine reports

Failures are shared out between the rules: the connectivity rule leaves a missing local route to
the family rule, the HTTP rule leaves handshakes and QUIC to their own rules, and the repeat
rules look for a change between attempts. Each theorem says when the rule that a failure is left
to takes it up.
-/

namespace IpTools

variable {now : Clock} {input : DiagnosticInput}

def sampleV4 (host : UInt8) : SocketAddr := .v4 ⟨⟨#v[192, 0, 2, host]⟩, 443⟩

def sampleV6 (host : UInt8) : SocketAddr :=
  .v6 ⟨⟨#v[0x20, 1, 0xd, 0xb8, 0, 0, 0, 0, 0, 0, 0, 0, 0, 0, 0, host]⟩, 443, 0, 0⟩

def connected (destination : SocketAddr) : TcpObservation := ⟨destination, true, some 12, none⟩

def unconnected (destination : SocketAddr) (kind : FailureKind) : TcpObservation :=
  ⟨destination, false, none, some ⟨kind, toString kind⟩⟩

def tcpOnly (tcp : List TcpObservation) : DiagnosticInput where
  hostname := "example.com"
  dns := []
  tcp := tcp
  tls := []
  http := []
  probes := []

/-- Both families were probed, and no failure left the host. -/
def UnroutableInBothFamilies (tcp : List TcpObservation) : Prop :=
  FamilyProbed tcp true ∧ FamilyProbed tcp false ∧ ¬FailedOnPath tcp

instance (tcp : List TcpObservation) : Decidable (UnroutableInBothFamilies tcp) := by
  unfold UnroutableInBothFamilies; infer_instance

lemma not_raises_healthy {c : DiagnosticCategory} (h : Raises (diagnose now input) c)
    (hc : c ≠ .healthy := by decide) : ¬Raises (diagnose now input) .healthy :=
  fun hh => diagnose_healthy_iff.mp hh c (h.indicates hc)

/-- When no connection was accepted, some rule says so, except where both families were probed
and every failure is a missing local route: each of the two rules leaves that to the other. -/
theorem total_outage_reported_iff (now : Clock) (input : DiagnosticInput) (hne : input.tcp ≠ [])
    (hfail : ∀ o ∈ input.tcp, o.success = false) :
    ((Raises (diagnose now input) .totalConnectivityLoss ∨
        Raises (diagnose now input) .addressFamily) ∧
      ¬Raises (diagnose now input) .healthy) ↔ ¬UnroutableInBothFamilies input.tcp := by
  have hreached : ¬Reached input.tcp := by
    rintro ⟨o, ho, hs⟩
    rw [hfail o ho] at hs
    exact Bool.false_ne_true hs
  constructor
  · rintro ⟨h | h, -⟩ ⟨h4, h6, hpath⟩
    · cases h.indicates with
      | totalLoss hp _ => exact hpath hp
    · cases h.indicates with
      | familySplit hs => exact hreached hs.reached
      | familyUnroutable hl =>
        obtain ⟨⟨ipv4, -, hother⟩, -⟩ := hl
        cases ipv4
        · exact hother h4
        · exact hother h6
  · intro hboth
    by_cases hpath : FailedOnPath input.tcp
    · have htotal : Raises (diagnose now input) .totalConnectivityLoss :=
        Indicates.raises (.totalLoss hpath hreached)
      exact ⟨Or.inl htotal, not_raises_healthy htotal⟩
    · -- some family was probed alone
      have hlone : ∃ ipv4, FamilyProbed input.tcp ipv4 ∧ ¬FamilyProbed input.tcp (!ipv4) := by
        obtain ⟨o, ho⟩ := List.exists_mem_of_ne_nil _ hne
        refine ⟨o.destination.isIpv4, ⟨o, ho, rfl⟩, fun hother => hboth ?_⟩
        cases hf : o.destination.isIpv4
        · rw [hf] at hother
          exact ⟨hother, ⟨o, ho, hf⟩, hpath⟩
        · rw [hf] at hother
          exact ⟨⟨o, ho, hf⟩, hother, hpath⟩
      have hfamily : Raises (diagnose now input) .addressFamily :=
        Indicates.raises (.familyUnroutable ⟨hlone, hreached, hpath⟩)
      exact ⟨Or.inr hfamily, not_raises_healthy hfamily⟩

/-- A host without IPv6, whose IPv4 address does not answer. -/
def darkDualStack : DiagnosticInput :=
  tcpOnly [unconnected (sampleV4 1) .timeout, unconnected (sampleV6 1) .networkUnreachable]

theorem total_outage_reported_timeout :
    (Raises (diagnose none darkDualStack) .totalConnectivityLoss ∨
        Raises (diagnose none darkDualStack) .addressFamily) ∧
      ¬Raises (diagnose none darkDualStack) .healthy :=
  (total_outage_reported_iff none _ (by decide) (by decide)).mpr (by decide)

/-- A host without any route, probing one address of each family. -/
def unroutedDualStack : DiagnosticInput :=
  tcpOnly [unconnected (sampleV4 1) .networkUnreachable,
    unconnected (sampleV6 1) .networkUnreachable]

theorem unrouted_dual_stack_is_silent :
    unroutedDualStack.tcp ≠ [] ∧ (∀ o ∈ unroutedDualStack.tcp, o.success = false) ∧
      ¬((Raises (diagnose none unroutedDualStack) .totalConnectivityLoss ∨
          Raises (diagnose none unroutedDualStack) .addressFamily) ∧
        ¬Raises (diagnose none unroutedDualStack) .healthy) := by
  decide +kernel

/-- When some connection was accepted, a rule reports that others failed exactly if some failure
happened on the path, or one family was reached and the other not. -/
theorem partial_failure_reported_iff (now : Clock) (input : DiagnosticInput)
    (hok : ∃ o ∈ input.tcp, o.success = true) :
    Raises (diagnose now input) .partialConnectivity ∨ Raises (diagnose now input) .addressFamily ↔
      FailedOnPath input.tcp ∨ FamilySplit input.tcp := by
  constructor
  · rintro (h | h)
    · cases h.indicates with
      | partialLoss hp _ => exact Or.inl hp
    · cases h.indicates with
      | familySplit hs => exact Or.inr hs
      | familyUnroutable hl => exact absurd hok hl.2.1
  · rintro (hp | hs)
    · exact Or.inl (Indicates.raises (.partialLoss hp hok))
    · exact Or.inr (Indicates.raises (.familySplit hs))

theorem partial_failure_reported_timeout :
    Raises (diagnose none (tcpOnly [connected (sampleV4 1), unconnected (sampleV4 2) .timeout]))
        .partialConnectivity ∨
      Raises (diagnose none (tcpOnly [connected (sampleV4 1), unconnected (sampleV4 2) .timeout]))
        .addressFamily :=
  (partial_failure_reported_iff none _ (by decide)).mpr (by decide)

/-- Two addresses of one family, one without a route. -/
def halfRouted : DiagnosticInput :=
  tcpOnly [connected (sampleV4 1), unconnected (sampleV4 2) .hostUnreachable]

theorem half_routed_family_is_silent :
    (∃ o ∈ halfRouted.tcp, o.success = true) ∧ (∃ o ∈ halfRouted.tcp, o.success = false) ∧
      ¬(Raises (diagnose none halfRouted) .partialConnectivity ∨
        Raises (diagnose none halfRouted) .addressFamily) := by
  decide +kernel

/-- The rule that reports a failed request. -/
inductive FailureOwner where
  | http
  | tls
  | quic
deriving DecidableEq, Repr

/-- HTTP/3 runs over QUIC, so only its protocol errors are left to the HTTP layer; the other
protocols are told apart by the kind of the failure. -/
def HttpObservation.owner (h : HttpObservation) (e : ProbeError) : FailureOwner :=
  if h.protocol = some "HTTP/3" then
    if e.kind = .http ∨ e.kind = .protocol then .http else .quic
  else if e.kind = .quic then .quic
  else if e.kind = .tlsHandshake ∨ e.kind = .certificate then .tls
  else .http

def FailureOwner.rule : FailureOwner → DiagnosticInput → List Diagnosis
  | .http => httpLayerRules
  | .tls => tlsLayerRules
  | .quic => quicRules

/-- The owner has grounds of its own to speak. The TLS rule needs a failed handshake among the
TLS observations, the QUIC rule needs HTTP/3 to fail throughout beside a response that is no
error. -/
def FailureOwner.Notices (input : DiagnosticInput) : FailureOwner → Prop
  | .http => True
  | .tls => HandshakeFailed input
  | .quic => QuicBlocked input.http

instance (input : DiagnosticInput) (owner : FailureOwner) : Decidable (owner.Notices input) := by
  cases owner <;> unfold FailureOwner.Notices <;> infer_instance

lemma ownFailure_eq {h : HttpObservation} {e : ProbeError} (he : h.failure = some e) :
    ownFailure h = decide (h.owner e = .http) := by
  unfold ownFailure HttpObservation.owner
  rw [he, Option.any_some]
  by_cases hp : h.protocol = some "HTTP/3"
  · rw [if_pos hp, if_pos hp]
    cases e.kind <;> rfl
  · rw [if_neg hp, if_neg hp]
    cases e.kind <;> rfl

lemma layerFailed_eq {h : HttpObservation} {e : ProbeError} (he : h.failure = some e)
    (hreached : ∀ t ∈ input.tcp, t.destination = h.destination → t.success = true) :
    layerFailed input h = (decide (h.owner e = .http) || h.status.any (fun s => s ≥ 400)) := by
  have hinherited : inheritedTcp input h = false := by
    unfold inheritedTcp
    rw [Bool.and_eq_false_iff, List.any_eq_false]
    refine Or.inr (fun t ht hc => ?_)
    simp only [Bool.and_eq_true, decide_eq_true_eq, Bool.not_eq_true'] at hc
    rw [hreached t ht hc.1] at hc
    exact absurd hc.2 (by decide)
  rw [layerFailed, ownFailure_eq he, hinherited, Bool.not_false, Bool.and_true]

lemma tlsLayerRules_ne_nil_iff : tlsLayerRules input ≠ [] ↔ HandshakeFailed input := by
  rw [ne_eq, ← List.map_eq_nil_iff (f := Diagnosis.verdict), tlsLayerRules_verdict]
  by_cases h : HandshakeFailed input <;> simp [h]

lemma quicRules_ne_nil_iff : quicRules input ≠ [] ↔ QuicBlocked input.http := by
  rw [ne_eq, ← List.map_eq_nil_iff (f := Diagnosis.verdict), quicRules_verdict]
  by_cases h : QuicBlocked input.http <;> simp [h]

/-- A request that failed where TCP connects is reported by its layer exactly if it got an error
status as well, or the owner of the failure has grounds of its own. -/
theorem http_failure_reported_iff (now : Clock) (input : DiagnosticInput) (h : HttpObservation)
    (e : ProbeError) (hh : h ∈ input.http) (he : h.failure = some e)
    (hreached : ∀ t ∈ input.tcp, t.destination = h.destination → t.success = true) :
    ((Raises (diagnose now input) .http ∨ Raises (diagnose now input) .tls ∨
        Raises (diagnose now input) .quic) ∧
      (layerFailed input h = false → (h.owner e).rule input ≠ [])) ↔
      h.status.any (fun s => s ≥ 400) = true ∨ (h.owner e).Notices input := by
  have hlayer := layerFailed_eq he hreached
  by_cases hfailed : layerFailed input h = true
  · have hhttp : Raises (diagnose now input) .http :=
      Indicates.raises (.httpFailure ⟨h, hh, hfailed⟩)
    have hright : h.status.any (fun s => s ≥ 400) = true ∨ (h.owner e).Notices input := by
      rw [hlayer, Bool.or_eq_true, decide_eq_true_eq] at hfailed
      rcases hfailed with ho | hs
      · rw [ho]
        exact Or.inr trivial
      · exact Or.inl hs
    have hleft : layerFailed input h = false → (h.owner e).rule input ≠ [] := by
      intro hout
      exact absurd (hfailed.symm.trans hout) Bool.false_ne_true.symm
    exact ⟨fun _ => hright, fun _ => ⟨Or.inl hhttp, hleft⟩⟩
  · rw [Bool.not_eq_true] at hfailed
    rw [hfailed] at hlayer
    obtain ⟨hown, hstatus⟩ := Bool.or_eq_false_iff.mp hlayer.symm
    rw [decide_eq_false_iff_not] at hown
    simp only [hfailed, hstatus, Bool.false_eq_true, false_or, true_implies]
    cases howner : h.owner e with
    | http => exact absurd howner hown
    | tls =>
      rw [show FailureOwner.tls.rule = tlsLayerRules from rfl, tlsLayerRules_ne_nil_iff]
      exact ⟨fun hl => hl.2, fun hr => ⟨Or.inr (Or.inl (Indicates.raises (.handshake hr))), hr⟩⟩
    | quic =>
      rw [show FailureOwner.quic.rule = quicRules from rfl, quicRules_ne_nil_iff]
      exact ⟨fun hl => hl.2, fun hr => ⟨Or.inr (Or.inr (Indicates.raises (.quic hr))), hr⟩⟩

def handshakeFailed (destination : SocketAddr) : TlsObservation :=
  ⟨destination, "example.com", false, none, none, none, none, none,
    some ⟨.tlsHandshake, "handshake failure"⟩⟩

def requestFailed (destination : SocketAddr) (protocol : String) (kind : FailureKind) :
    HttpObservation :=
  let blank := HttpObservation.base destination "example.com" "GET" "/"
  { blank.withFailure ⟨kind, toString kind⟩ with protocol := some protocol }

theorem http_failure_reported_handshake :
    let h := requestFailed (sampleV4 1) "HTTP/1.1" .tlsHandshake
    let input : DiagnosticInput := { tcpOnly [connected (sampleV4 1)] with
      tls := [handshakeFailed (sampleV4 1)]
      http := [h] }
    (Raises (diagnose none input) .http ∨ Raises (diagnose none input) .tls ∨
        Raises (diagnose none input) .quic) ∧
      (layerFailed input h = false →
        (h.owner ⟨.tlsHandshake, "tls handshake"⟩).rule input ≠ []) :=
  (http_failure_reported_iff none _ _ ⟨.tlsHandshake, "tls handshake"⟩ (by decide) rfl
    (by decide)).mpr (by decide)

/-- Both requests to an address fail below HTTP, after its single handshake went through. -/
def failedRequests : DiagnosticInput :=
  { tcpOnly [connected (sampleV4 1)] with
    tls := [{ handshakeFailed (sampleV4 1) with
      success := true
      failure := none }]
    http := [requestFailed (sampleV4 1) "HTTP/1.1" .tlsHandshake,
      requestFailed (sampleV4 1) "HTTP/3" .quic] }

theorem failed_requests_are_silent :
    (∀ h ∈ failedRequests.http, h.failure.isSome = true ∧
      (∃ t ∈ failedRequests.tcp, t.destination = h.destination ∧ t.success = true) ∧
      ∀ t ∈ failedRequests.tcp, t.destination = h.destination → t.success = true) ∧
    failedRequests.http ≠ [] ∧
      ¬(Raises (diagnose none failedRequests) .http ∨ Raises (diagnose none failedRequests) .tls ∨
        Raises (diagnose none failedRequests) .quic) := by
  decide +kernel

/-- The input without the repeated probes of which every attempt failed. -/
def DiagnosticInput.withoutWhollyFailed (input : DiagnosticInput) : DiagnosticInput :=
  { input with probes := input.probes.filter (fun p => !p.whollyFailed) }

/-- Of the repeated probes, the engine needs only those that some attempt of succeeded. -/
lemma Indicates.of_probes {probes : List ProbeResult} {c : DiagnosticCategory}
    (hprobes : ∀ p ∈ input.probes, p.whollyFailed = false → p ∈ probes)
    (h : Indicates now input c) : Indicates now { input with probes := probes } c := by
  have hguard : ∀ {guard : ProbeResult → Bool} {p : ProbeResult}, p ∈ input.probes →
      (p.whollyFailed = true → guard p = false) → guard p = true → p ∈ probes := by
    intro guard p hp hfailed hg
    apply hprobes p hp
    rw [Bool.eq_false_iff]
    intro hw
    rw [hfailed hw] at hg
    exact Bool.false_ne_true hg
  cases h with
  | nothingResolved h => exact .nothingResolved h
  | resolversDisagree h => exact .resolversDisagree h
  | totalLoss hp hr => exact .totalLoss hp hr
  | partialLoss hp hr => exact .partialLoss hp hr
  | familySplit h => exact .familySplit h
  | familyUnroutable h => exact .familyUnroutable h
  | handshake h => exact .handshake h
  | lifetime t f ht hf => exact .lifetime t f ht hf
  | coverage t g ht hg => exact .coverage t g ht hg
  | httpFailure h => exact .httpFailure h
  | redirect h => exact .redirect h
  | acrossProtocols h => exact .acrossProtocols h
  | acrossFamilies h => exact .acrossFamilies h
  | acrossAddresses h => exact .acrossAddresses h
  | truncated h => exact .truncated h
  | quic h => exact .quic h
  | intermittent p hp h =>
    exact .intermittent p (hguard hp (fun hw => (ProbeResult.whollyFailed.guards hw).1) h) h
  | flapping p hp h =>
    exact .flapping p (hguard hp (fun hw => (ProbeResult.whollyFailed.guards hw).2.1) h) h
  | unstable p hp h =>
    exact .unstable p (hguard hp (fun hw => (ProbeResult.whollyFailed.guards hw).2.2) h) h
  | filtering h =>
    have hrepeat : hasRepeatFail input = true →
        hasRepeatFail { input with probes := probes } = true := by
      unfold hasRepeatFail
      dsimp only
      simp only [List.any_eq_true]
      rintro ⟨p, hp, hsignal⟩
      refine ⟨p, hprobes p hp ?_, hsignal⟩
      simp only [Bool.and_eq_true, decide_eq_true_eq] at hsignal
      have hs : p.successes ≠ 0 := by omega
      simp [ProbeResult.whollyFailed, hs]
    -- the other signals do not look at the repeated probes
    have hcount : ∀ (others : List Bool) (a b : Bool), (a = true → b = true) →
        (others ++ [a]).count true ≤ (others ++ [b]).count true := by
      intro others a b hab
      rw [List.count_append, List.count_append]
      apply Nat.add_le_add_left
      cases a
      · exact Nat.zero_le _
      · rw [hab rfl]
    exact .filtering (h.trans (hcount [_, _, _, _, _] _ _ hrepeat))

theorem indicates_withoutWhollyFailed_iff {c : DiagnosticCategory} :
    Indicates now input.withoutWhollyFailed c ↔ Indicates now input c := by
  constructor
  · intro h
    have hall : Indicates now { input.withoutWhollyFailed with probes := input.probes } c :=
      h.of_probes (fun p hp _ => (List.mem_filter.mp hp).1)
    exact hall
  · intro h
    refine h.of_probes (fun p hp hw => ?_)
    exact List.mem_filter.mpr ⟨hp, by simp [hw]⟩

/-- A repeated probe with failed attempts keeps the target from being reported healthy exactly if
some attempt succeeded as well, or the rest of the input indicates something. -/
theorem repeat_failure_not_healthy_iff (now : Clock) (input : DiagnosticInput) (p : ProbeResult)
    (hp : p ∈ input.probes) (hattempts : 2 ≤ p.attempts) (hfailures : 0 < p.failures) :
    diagnose now input ≠ [healthyDiagnosis input] ↔
      0 < p.successes ∨ ∃ c, Indicates now input.withoutWhollyFailed c := by
  rw [ne_eq, diagnose_eq_healthy_iff, not_forall_not]
  simp only [indicates_withoutWhollyFailed_iff]
  constructor
  · exact Or.inr
  · rintro (hs | h)
    · refine ⟨.intermittent, .intermittent p hp ?_⟩
      simp only [isIntermittent, Bool.and_eq_true, decide_eq_true_eq]
      omega
    · exact h

def noLatency : LatencySummary := ⟨0, none, none, none, none, none, none, none, none, []⟩

def probed (destination : SocketAddr) (successes failures : Nat) : ProbeResult where
  destination := destination
  attempts := successes + failures
  successes := successes
  failures := failures
  successRate := Float.ofNat successes / Float.ofNat (successes + failures)
  latency := noLatency
  ttfb := noLatency
  failureCounts := [⟨.timeout, failures⟩]
  statusCounts := []

theorem repeat_failure_not_healthy_half :
    let input : DiagnosticInput := { tcpOnly [connected (sampleV4 1)] with
      probes := [probed (sampleV4 1) 1 1] }
    diagnose none input ≠ [healthyDiagnosis input] :=
  (repeat_failure_not_healthy_iff none _ (probed (sampleV4 1) 1 1) List.mem_cons_self (by decide)
    (by decide)).mpr (Or.inl (by decide))

/-- The single connection succeeds, and no repeated attempt does. -/
def failedRepeats : DiagnosticInput :=
  { tcpOnly [connected (sampleV4 1)] with probes := [probed (sampleV4 1) 0 5] }

theorem failed_repeats_are_reported_healthy :
    (∃ p ∈ failedRepeats.probes, 2 ≤ p.attempts ∧ 0 < p.failures ∧
      p.successes + p.failures = p.attempts ∧
      ∃ t ∈ failedRepeats.tcp, t.destination = p.destination ∧ t.success = true) ∧
    diagnose none failedRepeats = [healthyDiagnosis failedRepeats] := by
  decide +kernel

end IpTools
