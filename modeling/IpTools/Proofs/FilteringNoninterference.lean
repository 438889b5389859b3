import IpTools.Proofs.Completeness

/-!
# Locally unreachable destinations carry no filtering signal

A host that has no route to some further destinations sees every probe of them fail. None of the
signals of the filtering analysis reads these failures.
-/

namespace IpTools

/-- The destinations an input mentions. -/
def DiagnosticInput.destinations (input : DiagnosticInput) : List SocketAddr :=
  input.tcp.map TcpObservation.destination ++ input.tls.map TlsObservation.destination ++
    input.http.map HttpObservation.destination ++ input.probes.map ProbeResult.destination

/-- Observations of destinations new to the input, which the host has no route to. -/
structure Unrouted (input : DiagnosticInput) where
  tcp : List TcpObservation
  tls : List TlsObservation
  probes : List ProbeResult
  fresh : ∀ o ∈ tcp, o.destination ∉ input.destinations
  tcp_failed : ∀ o ∈ tcp, o.success = false ∧
    ∃ e, o.failure = some e ∧ e.kind.isLocalUnreachability = true
  tls_failed : ∀ t ∈ tls, t.success = false ∧ t.destination ∈ tcp.map TcpObservation.destination
  probes_failed : ∀ p ∈ probes,
    p.successes = 0 ∧ p.destination ∈ tcp.map TcpObservation.destination

/-- The further observations are mixed into the lists of the input in any order. -/
structure Unrouted.Extends {input : DiagnosticInput} (new : Unrouted input)
    (input' : DiagnosticInput) : Prop where
  hostname : input'.hostname = input.hostname
  dns : input'.dns = input.dns
  tcp : input'.tcp.Perm (input.tcp ++ new.tcp)
  tls : input'.tls.Perm (input.tls ++ new.tls)
  http : input'.http = input.http
  probes : input'.probes.Perm (input.probes ++ new.probes)

variable {input input' : DiagnosticInput} {new : Unrouted input}

/-- Items without a property do not change whether some item has it. -/
lemma any_of_perm_append {α : Type*} {l' l extra : List α} {p : α → Bool}
    (hperm : l'.Perm (l ++ extra)) (hextra : ∀ a ∈ extra, p a = false) : l'.any p = l.any p := by
  have hnone : extra.any p = false := by
    rw [List.any_eq_false]
    intro a ha
    rw [hextra a ha]
    exact Bool.false_ne_true
  rw [hperm.any_eq, List.any_append, hnone, Bool.or_false]

lemma Unrouted.not_pathFailure {o : TcpObservation} (ho : o ∈ new.tcp) :
    o.pathFailure = false := by
  obtain ⟨-, e, he, hlocal⟩ := new.tcp_failed o ho
  rw [TcpObservation.pathFailure, he, Option.any_some, hlocal]
  rfl

lemma Unrouted.not_reset {o : TcpObservation} (ho : o ∈ new.tcp) :
    o.failure.any (fun e => e.kind = .connectionReset) = false := by
  obtain ⟨-, e, he, hlocal⟩ := new.tcp_failed o ho
  rw [he, Option.any_some, decide_eq_false_iff_not]
  intro hreset
  rw [hreset] at hlocal
  exact absurd hlocal (by decide)

/-- The input connects to none of the new destinations. -/
lemma Unrouted.not_connected {d : SocketAddr}
    (hd : d ∈ new.tcp.map TcpObservation.destination) :
    input.tcp.any (fun t => t.destination = d && t.success) = false := by
  obtain ⟨o, ho, rfl⟩ := List.mem_map.mp hd
  rw [List.any_eq_false]
  intro t ht hc
  simp only [Bool.and_eq_true, decide_eq_true_eq] at hc
  apply new.fresh o ho
  unfold DiagnosticInput.destinations
  simp only [List.mem_append]
  exact Or.inl (Or.inl (Or.inl (hc.1 ▸ List.mem_map_of_mem ht)))

namespace Unrouted.Extends

lemma connected_eq (h : new.Extends input') (d : SocketAddr) :
    input'.tcp.any (fun t => t.destination = d && t.success) =
      input.tcp.any (fun t => t.destination = d && t.success) := by
  apply any_of_perm_append h.tcp
  intro o ho
  rw [(new.tcp_failed o ho).1, Bool.and_false]

lemma hasAddressSpecific_eq (h : new.Extends input') :
    hasAddressSpecific input' = hasAddressSpecific input := by
  unfold hasAddressSpecific
  rw [any_of_perm_append h.tcp (fun o ho => new.not_pathFailure ho),
    any_of_perm_append h.tcp (fun o ho => (new.tcp_failed o ho).1)]

lemma hasReset_eq (h : new.Extends input') : hasReset input' = hasReset input :=
  any_of_perm_append h.tcp (fun _ ho => new.not_reset ho)

lemma hasTlsFail_eq (h : new.Extends input') : hasTlsFail input' = hasTlsFail input := by
  unfold hasTlsFail
  simp only [h.connected_eq]
  apply any_of_perm_append h.tls
  intro t ht
  rw [new.not_connected (new.tls_failed t ht).2, Bool.and_false]

lemma hasQuicOnly_eq (h : new.Extends input') : hasQuicOnly input' = hasQuicOnly input := by
  unfold hasQuicOnly
  rw [h.http]

lemma specificFailing_perm (h : new.Extends input') :
    (input'.tcp.filter TcpObservation.pathFailure).Perm
      (input.tcp.filter TcpObservation.pathFailure) := by
  have hnone : new.tcp.filter TcpObservation.pathFailure = [] := by
    rw [List.filter_eq_nil_iff]
    intro o ho
    rw [new.not_pathFailure ho]
    exact Bool.false_ne_true
  have hfilter := h.tcp.filter TcpObservation.pathFailure
  rwa [List.filter_append, hnone, List.append_nil] at hfilter

lemma hasRepeatFail_eq (h : new.Extends input') : hasRepeatFail input' = hasRepeatFail input := by
  have hcontains : ∀ d, ((input'.tcp.filter TcpObservation.pathFailure).map
      (fun o => o.destination)).contains d =
        ((input.tcp.filter TcpObservation.pathFailure).map (fun o => o.destination)).contains d :=
    fun d => (h.specificFailing_perm.map _).contains_eq
  unfold hasRepeatFail
  dsimp only
  simp only [hcontains]
  apply any_of_perm_append h.probes
  intro p hp
  rw [(new.probes_failed p hp).1]
  rfl

end Unrouted.Extends

/-- The filtering analysis says the same before and after the extension: it fires on both inputs
or on neither, with the same confidence and evidence. -/
theorem filteringRules_extends (input input' : DiagnosticInput) (new : Unrouted input)
    (h : new.Extends input') (dnsDisagreement : Bool) :
    filteringRules input' dnsDisagreement = filteringRules input dnsDisagreement := by
  apply filteringRules_congr h.hostname
  unfold signals
  rw [h.hasAddressSpecific_eq, h.hasReset_eq, h.hasTlsFail_eq, h.hasQuicOnly_eq,
    h.hasRepeatFail_eq]

/-- An IPv6 address without a route, beside two IPv4 addresses of which one times out. -/
def unroutedV6 :
    Unrouted (tcpOnly [connected (sampleV4 1), unconnected (sampleV4 2) .timeout]) where
  tcp := [unconnected (sampleV6 1) .networkUnreachable]
  tls := [handshakeFailed (sampleV6 1)]
  probes := [probed (sampleV6 1) 0 3]
  fresh := by decide
  tcp_failed := by simp [unconnected, FailureKind.isLocalUnreachability]
  tls_failed := by decide
  probes_failed := by
    intro p hp
    rw [List.mem_singleton] at hp
    rw [hp]
    exact ⟨rfl, by decide⟩

def withUnroutedV6 : DiagnosticInput :=
  { tcpOnly [unconnected (sampleV6 1) .networkUnreachable, connected (sampleV4 1),
      unconnected (sampleV4 2) .timeout] with
    tls := [handshakeFailed (sampleV6 1)]
    probes := [probed (sampleV6 1) 0 3] }

theorem filteringRules_extends_unroutedV6 :
    filteringRules withUnroutedV6 true =
        filteringRules (tcpOnly [connected (sampleV4 1), unconnected (sampleV4 2) .timeout]) true ∧
      filteringRules withUnroutedV6 true ≠ [] := by
  have htcp : withUnroutedV6.tcp.Perm
      ([connected (sampleV4 1), unconnected (sampleV4 2) .timeout] ++ unroutedV6.tcp) :=
    (List.perm_append_comm : (unroutedV6.tcp ++ _).Perm _)
  exact ⟨filteringRules_extends _ withUnroutedV6 unroutedV6
    ⟨rfl, rfl, htcp, List.Perm.refl _, rfl, List.Perm.refl _⟩ true, by decide +kernel⟩

end IpTools
