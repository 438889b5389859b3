import Mathlib.Data.Multiset.Basic
import Mathlib.Logic.Equiv.Basic
import IpTools.Library.Relabelling
import IpTools.Proofs.Completeness

/-!
# Verdicts depend neither on probe order nor on addresses

Concurrent probes finish in any order. Rearranging the observations, and renaming the
destinations within their families, changes the texts of the diagnoses and the addresses they
name, but not what is diagnosed nor how severely and confidently.
-/

namespace IpTools

def TcpObservation.readdress (σ : SocketAddr → SocketAddr) (o : TcpObservation) : TcpObservation :=
  { o with destination := σ o.destination }

def TlsObservation.readdress (σ : SocketAddr → SocketAddr) (t : TlsObservation) : TlsObservation :=
  { t with destination := σ t.destination }

def HttpObservation.readdress (σ : SocketAddr → SocketAddr) (h : HttpObservation) :
    HttpObservation :=
  { h with destination := σ h.destination, tls := h.tls.map (TlsObservation.readdress σ) }

def ProbeResult.readdress (σ : SocketAddr → SocketAddr) (p : ProbeResult) : ProbeResult :=
  { p with destination := σ p.destination }

/-- The second input is the first with its lists rearranged and its destinations renamed. -/
structure Readdressed (σ : SocketAddr ≃ SocketAddr) (x y : DiagnosticInput) : Prop where
  isIpv4 : ∀ d, (σ d).isIpv4 = d.isIpv4
  hostname : y.hostname = x.hostname
  dns : y.dns.Perm x.dns
  tcp : y.tcp.Perm (x.tcp.map (TcpObservation.readdress σ))
  tls : y.tls.Perm (x.tls.map (TlsObservation.readdress σ))
  http : y.http.Perm (x.http.map (HttpObservation.readdress σ))
  probes : y.probes.Perm (x.probes.map (ProbeResult.readdress σ))

namespace Readdressed

variable {σ : SocketAddr ≃ SocketAddr} {x y : DiagnosticInput}

lemma nothingResolved_iff (h : Readdressed σ x y) :
    NothingResolved y.dns ↔ NothingResolved x.dns := by
  simp only [NothingResolved, h.dns.mem_iff]

lemma resolversDisagree_iff (h : Readdressed σ x y) :
    ResolversDisagree y.dns ↔ ResolversDisagree x.dns := by
  simp only [ResolversDisagree, mem_combinedAddresses, h.dns.mem_iff]

lemma dnsRules_flag (h : Readdressed σ x y) : (dnsRules y).1 = (dnsRules x).1 := by
  rw [IpTools.dnsRules_flag, IpTools.dnsRules_flag]
  exact decide_eq_decide.mpr h.resolversDisagree_iff

lemma reached_iff (h : Readdressed σ x y) : Reached y.tcp ↔ Reached x.tcp :=
  Relabelling.exists_iff h.tcp (fun _ => Iff.rfl)

lemma failedOnPath_iff (h : Readdressed σ x y) : FailedOnPath y.tcp ↔ FailedOnPath x.tcp :=
  Relabelling.exists_iff h.tcp (fun _ => Iff.rfl)

lemma familyProbed_iff (h : Readdressed σ x y) (ipv4 : Bool) :
    FamilyProbed y.tcp ipv4 ↔ FamilyProbed x.tcp ipv4 := by
  apply Relabelling.exists_iff h.tcp
  intro o
  rw [← h.isIpv4 o.destination]
  rfl

lemma familyReached_iff (h : Readdressed σ x y) (ipv4 : Bool) :
    FamilyReached y.tcp ipv4 ↔ FamilyReached x.tcp ipv4 := by
  apply Relabelling.exists_iff h.tcp
  intro o
  rw [← h.isIpv4 o.destination]
  rfl

lemma familySplit_iff (h : Readdressed σ x y) : FamilySplit y.tcp ↔ FamilySplit x.tcp := by
  simp only [FamilySplit, h.familyReached_iff, h.familyProbed_iff]

lemma loneFamilyUnroutable_iff (h : Readdressed σ x y) :
    LoneFamilyUnroutable y.tcp ↔ LoneFamilyUnroutable x.tcp := by
  simp only [LoneFamilyUnroutable, h.familyProbed_iff, h.reached_iff, h.failedOnPath_iff]

lemma lossConfidence_eq (h : Readdressed σ x y) :
    lossConfidence y.tcp = lossConfidence x.tcp := by
  have hlength : (y.tcp.filter (fun o => !o.success)).length =
      (x.tcp.filter (fun o => !o.success)).length := by
    rw [(Relabelling.filter_perm h.tcp (fun _ => rfl)).length_eq, List.length_map]
    rfl
  rw [lossConfidence, lossConfidence, hlength]

/-- Whether a connection to a destination was accepted, read at its new name. -/
lemma connected_iff (h : Readdressed σ x y) (d : SocketAddr) :
    (∃ o ∈ y.tcp, o.destination = σ d ∧ o.success = true) ↔
      ∃ o ∈ x.tcp, o.destination = d ∧ o.success = true := by
  apply Relabelling.exists_iff h.tcp
  intro o
  rw [← σ.injective.eq_iff (a := o.destination)]
  rfl

lemma handshakeFailed_iff (h : Readdressed σ x y) : HandshakeFailed y ↔ HandshakeFailed x := by
  apply Relabelling.exists_iff h.tls
  intro t
  rw [← h.connected_iff t.destination]
  rfl

lemma certificateLifetimeRules_perm (h : Readdressed σ x y) (now : Clock) :
    ((certificateLifetimeRules now y).map Diagnosis.verdict).Perm
      ((certificateLifetimeRules now x).map Diagnosis.verdict) := by
  have hfindings : (y.tls.flatMap (lifetimeFindings now)).Perm
      (x.tls.flatMap (lifetimeFindings now)) :=
    Relabelling.flatMap_perm h.tls (fun _ => rfl)
  rw [certificateLifetimeRules_eq, certificateLifetimeRules_eq, List.map_map, List.map_map]
  apply RunningDedup.firsts_map_perm Function.injective_id
  · intro k
    simp only [List.mem_map, hfindings.mem_iff, id_eq, exists_eq_right]
  · intro f hf g hg hkey
    obtain ⟨t, -, hft⟩ := List.mem_flatMap.mp hf
    obtain ⟨u, -, hgu⟩ := List.mem_flatMap.mp hg
    exact verdict_of_findingKey hgu hft hkey

lemma certificateCoverageRules_perm (h : Readdressed σ x y) :
    ((certificateCoverageRules y).map Diagnosis.verdict).Perm
      ((certificateCoverageRules x).map Diagnosis.verdict) := by
  have hfindings : (y.tls.filterMap coverageFinding).Perm (x.tls.filterMap coverageFinding) :=
    Relabelling.filterMap_perm h.tls (fun _ => rfl)
  rw [certificateCoverageRules_eq, certificateCoverageRules_eq]
  apply RunningDedup.firsts_map_perm Function.injective_id
  · intro k
    simp only [List.mem_map, hfindings.mem_iff, id_eq, exists_eq_right]
  · intro f hf g hg hkey
    obtain ⟨t, -, hft⟩ := List.mem_filterMap.mp hf
    obtain ⟨u, -, hgu⟩ := List.mem_filterMap.mp hg
    rw [verdict_of_coverageFinding hft, verdict_of_coverageFinding hgu]

lemma layerFailed_eq (h : Readdressed σ x y) (b : HttpObservation) :
    layerFailed y (b.readdress σ) = layerFailed x b := by
  have hinherited : inheritedTcp y (b.readdress σ) = inheritedTcp x b := by
    have hany : y.tcp.any (fun t => t.destination = σ b.destination && !t.success) =
        x.tcp.any (fun t => t.destination = b.destination && !t.success) := by
      apply Relabelling.any_eq h.tcp
      intro o
      have hd : σ o.destination = σ b.destination ↔ o.destination = b.destination :=
        σ.injective.eq_iff
      simp only [TcpObservation.readdress, hd]
    unfold inheritedTcp
    rw [show (b.readdress σ).destination = σ b.destination from rfl, hany]
    rfl
  unfold layerFailed
  rw [hinherited]
  rfl

lemma httpLayerFailed_iff (h : Readdressed σ x y) : HttpLayerFailed y ↔ HttpLayerFailed x := by
  apply Relabelling.exists_iff h.http
  intro b
  rw [h.layerFailed_eq]

lemma redirected_iff (h : Readdressed σ x y) : Redirected y.http ↔ Redirected x.http :=
  Relabelling.exists_iff h.http (fun _ => Iff.rfl)

lemma bodyTruncated_iff (h : Readdressed σ x y) : BodyTruncated y.http ↔ BodyTruncated x.http :=
  Relabelling.exists_iff h.http (fun _ => Iff.rfl)

lemma quicBlocked_iff (h : Readdressed σ x y) : QuicBlocked y.http ↔ QuicBlocked x.http :=
  and_congr (Relabelling.exists_iff h.http (fun _ => Iff.rfl))
    (and_congr (Relabelling.forall_iff h.http (fun _ => Iff.rfl))
      (Relabelling.exists_iff h.http (fun _ => Iff.rfl)))

lemma protocolsDiffer_iff (h : Readdressed σ x y) :
    ProtocolsDiffer y.http ↔ ProtocolsDiffer x.http := by
  apply Relabelling.exists_iff h.http
  intro a
  apply Relabelling.exists_iff h.http
  intro b
  have hd : σ a.destination = σ b.destination ↔ a.destination = b.destination :=
    σ.injective.eq_iff
  rw [← hd]
  rfl

lemma familyStatus_perm (h : Readdressed σ x y) (ipv4 : Bool) :
    (familyStatus y.http ipv4).Perm (familyStatus x.http ipv4) := by
  have hfilter : (y.http.filter (fun b => b.failure.isNone && b.destination.isIpv4 == ipv4)).Perm
      ((x.http.filter (fun b => b.failure.isNone && b.destination.isIpv4 == ipv4)).map
        (HttpObservation.readdress σ)) := by
    apply Relabelling.filter_perm h.http
    intro b
    rw [← h.isIpv4 b.destination]
    rfl
  exact Relabelling.filterMap_perm hfilter (fun _ => rfl)

lemma familiesDiffer_iff (h : Readdressed σ x y) :
    FamiliesDiffer y.http ↔ FamiliesDiffer x.http := by
  simp only [FamiliesDiffer, (h.familyStatus_perm _).mem_iff]

lemma nodup_http (h : Readdressed σ x y)
    (hnodup : (x.http.map (fun b => (b.destination, b.protocol))).Nodup) :
    (y.http.map (fun b => (b.destination, b.protocol))).Nodup := by
  have hmap := h.http.map (fun b => (b.destination, b.protocol))
  rw [hmap.nodup_iff, List.map_map]
  have hinj : Function.Injective (Prod.map σ (id : Option String → Option String)) :=
    σ.injective.prodMap Function.injective_id
  have hrenamed := hnodup.map hinj
  rwa [List.map_map] at hrenamed

lemma addressesDiffer_iff (h : Readdressed σ x y)
    (hnodup : (x.http.map (fun b => (b.destination, b.protocol))).Nodup) :
    AddressesDiffer y.http ↔ AddressesDiffer x.http := by
  rw [IpTools.addressesDiffer_iff hnodup, IpTools.addressesDiffer_iff (h.nodup_http hnodup)]
  apply Relabelling.exists_iff h.http
  intro a
  apply Relabelling.exists_iff h.http
  intro b
  rw [← h.isIpv4 a.destination, ← h.isIpv4 b.destination]
  rfl

lemma reportOnce_perm (h : Readdressed σ x y) {guard : ProbeResult → Bool}
    {diagnosis : ProbeResult → Diagnosis} {v : Verdict}
    (hguard : ∀ p, guard (p.readdress σ) = guard p) (hverdict : ∀ p, (diagnosis p).verdict = v) :
    ((reportOnce guard diagnosis [] y.probes).map Diagnosis.verdict).Perm
      ((reportOnce guard diagnosis [] x.probes).map Diagnosis.verdict) := by
  have hprobes : (y.probes.filter guard).Perm
      ((x.probes.filter guard).map (ProbeResult.readdress σ)) :=
    Relabelling.filter_perm h.probes hguard
  rw [reportOnce_eq, reportOnce_eq, List.map_map, List.map_map]
  apply RunningDedup.firsts_map_perm σ.injective
  · intro d
    simp only [List.mem_map, hprobes.mem_iff, exists_exists_and_eq_and]
    rfl
  · intro p _ q _ _
    exact (hverdict q).trans (hverdict p).symm

lemma hasTlsFail_eq (h : Readdressed σ x y) : hasTlsFail y = hasTlsFail x := by
  apply Relabelling.any_eq h.tls
  intro t
  have hany : y.tcp.any (fun o => o.destination = σ t.destination && o.success) =
      x.tcp.any (fun o => o.destination = t.destination && o.success) := by
    apply Relabelling.any_eq h.tcp
    intro o
    have hd : σ o.destination = σ t.destination ↔ o.destination = t.destination :=
      σ.injective.eq_iff
    simp only [TcpObservation.readdress, hd]
  rw [← hany]
  rfl

lemma hasRepeatFail_eq (h : Readdressed σ x y) : hasRepeatFail y = hasRepeatFail x := by
  have hcontains : ∀ d, ((y.tcp.filter TcpObservation.pathFailure).map
      (fun o => o.destination)).contains (σ d) =
        ((x.tcp.filter TcpObservation.pathFailure).map (fun o => o.destination)).contains d := by
    intro d
    have hperm : (y.tcp.filter TcpObservation.pathFailure).Perm
        ((x.tcp.filter TcpObservation.pathFailure).map (TcpObservation.readdress σ)) :=
      Relabelling.filter_perm h.tcp (fun _ => rfl)
    rw [Bool.eq_iff_iff, List.contains_iff_mem, List.contains_iff_mem]
    simp only [List.mem_map, hperm.mem_iff, exists_exists_and_eq_and]
    simp only [TcpObservation.readdress, σ.injective.eq_iff]
  apply Relabelling.any_eq h.probes
  intro p
  rw [← hcontains]
  rfl

lemma signals_eq (h : Readdressed σ x y) (d : Bool) : signals y d = signals x d := by
  have haddress : hasAddressSpecific y = hasAddressSpecific x := by
    unfold hasAddressSpecific
    rw [Relabelling.any_eq h.tcp (fun _ => rfl), Relabelling.any_eq h.tcp (fun _ => rfl)]
    rfl
  have hreset : hasReset y = hasReset x := Relabelling.any_eq h.tcp (fun _ => rfl)
  have hquic : hasQuicOnly y = hasQuicOnly x := by
    unfold hasQuicOnly
    rw [Relabelling.any_eq h.http (fun _ => rfl), Relabelling.any_eq h.http (fun _ => rfl),
      Relabelling.any_eq h.http (fun _ => rfl)]
    rfl
  unfold signals
  rw [haddress, hreset, h.hasTlsFail_eq, hquic, h.hasRepeatFail_eq]

end Readdressed

lemma rules_readdressed {σ : SocketAddr ≃ SocketAddr} {x y : DiagnosticInput} {now : Clock}
    (hnodup : (x.http.map (fun b => (b.destination, b.protocol))).Nodup) (h : Readdressed σ x y) :
    ∀ r ∈ rules now, ((r y).map Diagnosis.verdict).Perm ((r x).map Diagnosis.verdict) := by
  simp only [rules, List.forall_mem_cons, List.not_mem_nil, false_implies, implies_true, and_true,
    dnsRules_verdict, connectivityRules_verdict, familyRules_verdict, tlsLayerRules_verdict,
    httpLayerRules_verdict, redirectRules_verdict, httpConsistencyRules_verdict,
    truncatedBodyRules_verdict, quicRules_verdict, filteringRules_verdict, signalCount,
    h.nothingResolved_iff, h.resolversDisagree_iff, h.failedOnPath_iff, h.reached_iff,
    h.lossConfidence_eq, h.familySplit_iff, h.loneFamilyUnroutable_iff, h.handshakeFailed_iff,
    h.httpLayerFailed_iff, h.redirected_iff, h.protocolsDiffer_iff, h.familiesDiffer_iff,
    h.addressesDiffer_iff hnodup, h.bodyTruncated_iff, h.quicBlocked_iff, h.dnsRules_flag,
    h.signals_eq, List.Perm.refl, true_and]
  exact ⟨h.certificateLifetimeRules_perm now, h.certificateCoverageRules_perm,
    h.reportOnce_perm (fun _ => rfl) intermittentDiagnosis_verdict,
    h.reportOnce_perm (fun _ => rfl) flappingDiagnosis_verdict,
    h.reportOnce_perm (fun _ => rfl) unstableDiagnosis_verdict, List.Perm.refl _⟩

/-- Rearranged and readdressed inputs get the same verdicts, each as often. -/
theorem diagnose_readdressed (σ : SocketAddr ≃ SocketAddr) (now : Clock) (x y : DiagnosticInput)
    (hnodup : (x.http.map (fun b => (b.destination, b.protocol))).Nodup) (h : Readdressed σ x y) :
    (↑((diagnose now y).map Diagnosis.verdict) : Multiset Verdict) =
      ↑((diagnose now x).map Diagnosis.verdict) := by
  rw [Multiset.coe_eq_coe, diagnose_eq_run, diagnose_eq_run]
  exact RuleEngine.run_map_perm rfl (rules_readdressed hnodup h)

/-- A response of one of two servers. -/
def responds (d : SocketAddr) (status : UInt16) : HttpObservation :=
  { HttpObservation.base d "example.com" "GET" "/" with
    protocol := some "HTTP/1.1", status := some status, bodyBytes := some 0 }

/-- Two servers that do not respond alike, and a third address where nothing does. -/
def twoServersInput (first second : UInt16) : DiagnosticInput :=
  { tcpOnly [connected (sampleV4 1), connected (sampleV4 2), unconnected (sampleV6 1) .timeout] with
    http := [responds (sampleV4 1) first, responds (sampleV4 2) second] }

lemma swapped_servers : Readdressed (Equiv.swap (sampleV4 1) (sampleV4 2))
    (twoServersInput 200 503) (twoServersInput 503 200) where
  isIpv4 d := by
    rw [Equiv.swap_apply_def]
    split
    · next hd => rw [hd]; rfl
    · split
      · next hd => rw [hd]; rfl
      · rfl
  hostname := rfl
  dns := List.Perm.refl _
  tcp := by
    have hthird : Equiv.swap (sampleV4 1) (sampleV4 2) (sampleV6 1) = sampleV6 1 :=
      Equiv.swap_apply_of_ne_of_ne (by decide) (by decide)
    simp only [twoServersInput, tcpOnly, List.map_cons, List.map_nil, TcpObservation.readdress,
      connected, unconnected, Equiv.swap_apply_left, Equiv.swap_apply_right, hthird]
    exact List.Perm.swap _ _ _
  tls := List.Perm.refl _
  http := by
    simp only [twoServersInput, List.map_cons, List.map_nil, HttpObservation.readdress, responds,
      HttpObservation.base, Equiv.swap_apply_left, Equiv.swap_apply_right]
    exact List.Perm.swap _ _ _
  probes := List.Perm.refl _

theorem diagnose_readdressed_swap :
    (↑((diagnose none (twoServersInput 503 200)).map Diagnosis.verdict) : Multiset Verdict) =
      ↑((diagnose none (twoServersInput 200 503)).map Diagnosis.verdict) :=
  diagnose_readdressed (Equiv.swap (sampleV4 1) (sampleV4 2)) none _ _ (by decide) swapped_servers

end IpTools
