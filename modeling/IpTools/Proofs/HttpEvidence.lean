import IpTools.Diagnostics.Http
import IpTools.Library.Grouping
import IpTools.Proofs.TcpEvidence

/-!
# What the HTTP and QUIC rules read off the HTTP observations

Each rule is summed up by the condition it fires on. The consistency rule compares responses
pairwise: across the protocols of one destination, across the families, and across the
addresses of one protocol and family.
-/

namespace IpTools
open Std

section Http

variable (http : List HttpObservation)

/-- A response that redirects. -/
def Redirected : Prop := ∃ h ∈ http, h.failure.isNone = true ∧ h.status.any isRedirect = true

/-- A response whose headers arrived and whose body did not. -/
def BodyTruncated : Prop :=
  ∃ h ∈ http, (h.failure.isNone && h.status.isSome && h.bodyBytes.isNone) = true

/-- HTTP/3 was tried and failed throughout, while some response was not an error. -/
def QuicBlocked : Prop :=
  (∃ h ∈ http, h.protocol = some "HTTP/3") ∧
    (∀ h ∈ http, h.protocol = some "HTTP/3" → h.failure.isSome = true) ∧
    ∃ h ∈ http, h.failure.isNone = true ∧ h.status.any (fun s => s < 400) = true

/-- Two protocols of one destination differ in being 2xx. -/
def ProtocolsDiffer : Prop :=
  ∃ h₁ ∈ http, ∃ h₂ ∈ http, h₁.completed = true ∧ h₂.completed = true ∧
    h₁.destination = h₂.destination ∧ h₁.protocol ≠ h₂.protocol ∧
    content h₁.code = true ∧ content h₂.code = false

/-- Both families returned statuses, and only one of them a 2xx. -/
def FamiliesDiffer : Prop :=
  ∃ ipv4, (∃ s ∈ familyStatus http ipv4, content s = true) ∧
    (∃ s, s ∈ familyStatus http (!ipv4)) ∧ ∀ s ∈ familyStatus http (!ipv4), content s = false

/-- The last completed response to the protocol and destination of `h`. -/
def lastResponse (h : HttpObservation) : Option HttpObservation :=
  (http.filter (fun b => b.completed && b.protocol = h.protocol &&
    b.destination = h.destination)).getLast?

/-- Two addresses of one family differ, over one protocol, in their last response being 2xx. -/
def AddressesDiffer : Prop :=
  ∃ h₁ ∈ http, ∃ h₂ ∈ http, h₁.completed = true ∧ h₂.completed = true ∧
    h₁.protocol = h₂.protocol ∧ h₁.destination.isIpv4 = h₂.destination.isIpv4 ∧
    (lastResponse http h₁).any (fun h => content h.code) = true ∧
    (lastResponse http h₂).any (fun h => !content h.code) = true

instance : Decidable (Redirected http) := by unfold Redirected; infer_instance
instance : Decidable (BodyTruncated http) := by unfold BodyTruncated; infer_instance
instance : Decidable (QuicBlocked http) := by unfold QuicBlocked; infer_instance
instance : Decidable (ProtocolsDiffer http) := by unfold ProtocolsDiffer; infer_instance
instance : Decidable (FamiliesDiffer http) :=
  decidable_of_iff
    (∃ ipv4, (familyStatus http ipv4).any content = true ∧
      (familyStatus http (!ipv4)).isEmpty = false ∧
      (familyStatus http (!ipv4)).all (fun s => !content s) = true)
    (by simp only [FamiliesDiffer, List.any_eq_true, List.isEmpty_eq_false_iff_exists_mem,
      List.all_eq_true, Bool.not_eq_true'])
instance : Decidable (AddressesDiffer http) := by unfold AddressesDiffer; infer_instance

end Http

/-- Some failure or error status is the HTTP layer's own. -/
def HttpLayerFailed (input : DiagnosticInput) : Prop :=
  ∃ h ∈ input.http, layerFailed input h = true

instance (input : DiagnosticInput) : Decidable (HttpLayerFailed input) := by
  unfold HttpLayerFailed; infer_instance

theorem httpLayerRules_verdict (input : DiagnosticInput) :
    (httpLayerRules input).map Diagnosis.verdict =
      if HttpLayerFailed input then [(.low, .http, .low)] else [] := by
  unfold httpLayerRules
  refine map_verdict_ite ?_ rfl
  rw [List.isEmpty_map]
  exact not_isEmpty_filter_iff

theorem truncatedBodyRules_verdict (input : DiagnosticInput) :
    (truncatedBodyRules input).map Diagnosis.verdict =
      if BodyTruncated input.http then [(.low, .http, .low)] else [] := by
  unfold truncatedBodyRules
  refine map_verdict_ite ?_ rfl
  rw [List.isEmpty_map]
  exact not_isEmpty_filter_iff

theorem redirectRules_verdict (input : DiagnosticInput) :
    (redirectRules input).map Diagnosis.verdict =
      if Redirected input.http then [(.low, .http, .low)] else [] := by
  unfold redirectRules
  refine map_verdict_ite ?_ rfl
  rw [Bool.not_eq_true', List.isEmpty_eq_false_iff_exists_mem]
  simp only [List.mem_filterMap, List.mem_filter]
  constructor
  · rintro ⟨line, h, ⟨hh, hf⟩, hline⟩
    refine ⟨h, hh, hf, ?_⟩
    cases hs : h.status with
    | none => simp [hs] at hline
    | some s =>
      by_cases hr : isRedirect s = true
      · simpa using hr
      · simp [hs, hr] at hline
  · rintro ⟨h, hh, hf, hr⟩
    cases hs : h.status with
    | none => simp [hs] at hr
    | some s =>
      rw [hs, Option.any_some] at hr
      exact ⟨_, h, ⟨hh, hf⟩, by simp only [hs, hr, if_true]; rfl⟩

theorem quicRules_verdict (input : DiagnosticInput) :
    (quicRules input).map Diagnosis.verdict =
      if QuicBlocked input.http then [(.low, .quic, .medium)] else [] := by
  unfold quicRules
  refine map_verdict_ite ?_ rfl
  simp only [Bool.and_eq_true, Bool.not_eq_true', decide_eq_true_eq, gt_iff_lt,
    List.length_pos_iff_exists_mem, List.mem_filter, List.any_eq_true, List.any_eq_false,
    QuicBlocked]
  constructor
  · rintro ⟨⟨⟨h, hh, hq⟩, hok⟩, hfail⟩
    refine ⟨⟨h, hh, hq⟩, fun b hb hp => ?_, hok⟩
    have := hfail b ⟨hb, hp⟩
    simpa [Option.isSome_iff_ne_none] using this
  · rintro ⟨hq, hfail, hok⟩
    refine ⟨⟨hq, hok⟩, fun b hb => ?_⟩
    have := hfail b hb.1 hb.2
    simpa [Option.isSome_iff_ne_none] using this

lemma not_isEmpty_filterMap_iff {α β : Type*} {l : List α} {f : α → Option β} :
    (!(l.filterMap f).isEmpty) = true ↔ ∃ a ∈ l, (f a).isSome = true := by
  rw [Bool.not_eq_true', List.isEmpty_eq_false_iff_exists_mem]
  simp only [List.mem_filterMap, Option.isSome_iff_exists]
  constructor
  · rintro ⟨b, a, ha, hb⟩
    exact ⟨a, ha, b, hb⟩
  · rintro ⟨a, ha, b, hb⟩
    exact ⟨b, a, ha, hb⟩

lemma HttpObservation.completed.protocol {h : HttpObservation} (hc : h.completed = true) :
    ∃ p, h.protocol = some p := by
  unfold HttpObservation.completed at hc
  simp only [Bool.and_eq_true] at hc
  exact Option.isSome_iff_exists.mp hc.2

lemma HttpObservation.completed.getD_inj {h₁ h₂ : HttpObservation} (h₁c : h₁.completed = true)
    (h₂c : h₂.completed = true) (d : String) :
    h₁.protocol.getD d = h₂.protocol.getD d ↔ h₁.protocol = h₂.protocol := by
  obtain ⟨p, hp⟩ := HttpObservation.completed.protocol h₁c
  obtain ⟨q, hq⟩ := HttpObservation.completed.protocol h₂c
  simp [hp, hq]

lemma perDest_eq (http : List HttpObservation) :
    perDest http = Grouping.group compare HttpObservation.destination []
      (fun obs h => obs ++ [h]) (http.filter HttpObservation.completed) := by
  unfold perDest Grouping.group
  rw [List.foldl_filter]

lemma protoDivergence_isSome {dest : SocketAddr} {obs : List HttpObservation}
    (hobs : ∀ h ∈ obs, h.completed = true) :
    (protoDivergence dest obs).isSome = true ↔
      ∃ h₁ ∈ obs, ∃ h₂ ∈ obs, h₁.protocol ≠ h₂.protocol ∧
        content h₁.code = true ∧ content h₂.code = false := by
  have hsome : (protoDivergence dest obs).isSome = true ↔
      1 < (obs.map (fun h => h.protocol.getD "?")).toFinset.card ∧
        (∃ h ∈ obs, content h.code = true) ∧ ∃ h ∈ obs, content h.code = false := by
    unfold protoDivergence
    by_cases hcard : (obs.map (fun h => h.protocol.getD "?")).toFinset.card < 2
    · simp [hcard, Nat.not_lt.mpr (Nat.le_of_lt_succ hcard)]
    · have hcard' : 1 < (obs.map (fun h => h.protocol.getD "?")).toFinset.card := by omega
      simp [hcard, hcard']
  rw [hsome, Finset.one_lt_card]
  constructor
  · rintro ⟨⟨p, hp, q, hq, hpq⟩, ⟨c, hc, hcc⟩, ⟨d, hd, hdc⟩⟩
    by_cases hcd : c.protocol = d.protocol
    · -- a response over another protocol takes the place of one of the two
      obtain ⟨e, he, hne⟩ : ∃ e ∈ obs, e.protocol ≠ c.protocol := by
        simp only [List.mem_toFinset, List.mem_map] at hp hq
        obtain ⟨a, ha, rfl⟩ := hp
        obtain ⟨b, hb, rfl⟩ := hq
        by_cases hac : a.protocol = c.protocol
        · refine ⟨b, hb, fun hbc => hpq ?_⟩
          rw [hac, hbc]
        · exact ⟨a, ha, hac⟩
      cases hec : content e.code
      · exact ⟨c, hc, e, he, hne.symm, hcc, hec⟩
      · exact ⟨e, he, d, hd, hcd ▸ hne, hec, hdc⟩
    · exact ⟨c, hc, d, hd, hcd, hcc, hdc⟩
  · rintro ⟨a, ha, b, hb, hne, hac, hbc⟩
    have hne' : a.protocol.getD "?" ≠ b.protocol.getD "?" := fun he =>
      hne ((HttpObservation.completed.getD_inj (hobs a ha) (hobs b hb) "?").mp he)
    exact ⟨⟨_, List.mem_toFinset.mpr (List.mem_map_of_mem ha), _,
      List.mem_toFinset.mpr (List.mem_map_of_mem hb), hne'⟩, ⟨a, ha, hac⟩, ⟨b, hb, hbc⟩⟩

/-- The completed responses of one destination. -/
def responsesAt (http : List HttpObservation) (dest : SocketAddr) : List HttpObservation :=
  (http.filter HttpObservation.completed).filter (fun b => b.destination = dest)

lemma mem_responsesAt {http : List HttpObservation} {dest : SocketAddr} {h : HttpObservation} :
    h ∈ responsesAt http dest ↔ h ∈ http ∧ h.completed = true ∧ h.destination = dest := by
  unfold responsesAt
  simp only [List.mem_filter, decide_eq_true_eq, and_assoc]

/-- The group of a destination. -/
lemma foldl_responsesAt (http : List HttpObservation) (dest : SocketAddr) :
    ((http.filter HttpObservation.completed).filter (fun b => b.destination = dest)).foldl
      (fun obs h => obs ++ [h]) [] = responsesAt http dest := by
  rw [List.foldl_append_eq_append, List.nil_append, ← List.flatMap_def, List.flatMap_singleton']
  rfl

theorem protoDivergences_iff (http : List HttpObservation) :
    (!((perDest http).toList.filterMap (fun e => protoDivergence e.1 e.2)).isEmpty) = true ↔
      ProtocolsDiffer http := by
  rw [not_isEmpty_filterMap_iff, perDest_eq]
  refine (Grouping.exists_toList_group
    (P := fun dest obs => (protoDivergence dest obs).isSome = true)).trans ?_
  simp only [foldl_responsesAt]
  have hcompleted : ∀ dest, ∀ h ∈ responsesAt http dest, h.completed = true :=
    fun dest h hh => (mem_responsesAt.mp hh).2.1
  constructor
  · rintro ⟨a, -, ha⟩
    obtain ⟨h₁, hm₁, h₂, hm₂, hne, hs₁, hs₂⟩ := (protoDivergence_isSome (hcompleted _)).mp ha
    obtain ⟨hh₁, hc₁, hd₁⟩ := mem_responsesAt.mp hm₁
    obtain ⟨hh₂, hc₂, hd₂⟩ := mem_responsesAt.mp hm₂
    exact ⟨h₁, hh₁, h₂, hh₂, hc₁, hc₂, hd₁.trans hd₂.symm, hne, hs₁, hs₂⟩
  · rintro ⟨h₁, hh₁, h₂, hh₂, hc₁, hc₂, hd, hne, hs₁, hs₂⟩
    refine ⟨h₁, List.mem_filter.mpr ⟨hh₁, hc₁⟩, ?_⟩
    rw [protoDivergence_isSome (hcompleted _)]
    exact ⟨h₁, mem_responsesAt.mpr ⟨hh₁, hc₁, rfl⟩, h₂, mem_responsesAt.mpr ⟨hh₂, hc₂, hd.symm⟩,
      hne, hs₁, hs₂⟩

theorem familyDivergence_iff (http : List HttpObservation) :
    (familyDivergence http).isSome = true ↔ FamiliesDiffer http := by
  have hsome : (familyDivergence http).isSome = true ↔
      (∃ s, s ∈ familyStatus http true) ∧ (∃ s, s ∈ familyStatus http false) ∧
        (familyStatus http true).any content ≠ (familyStatus http false).any content := by
    unfold familyDivergence
    simp only [← List.isEmpty_eq_false_iff_exists_mem]
    split <;> simp_all
  have hpos : ∀ ipv4, (∃ s ∈ familyStatus http ipv4, content s = true) ↔
      (familyStatus http ipv4).any content = true := fun ipv4 => List.any_eq_true.symm
  have hneg : ∀ ipv4, (∀ s ∈ familyStatus http ipv4, content s = false) ↔
      (familyStatus http ipv4).any content = false := by
    intro ipv4
    simp only [List.any_eq_false, Bool.not_eq_true]
  have hmem : ∀ ipv4, (familyStatus http ipv4).any content = true →
      ∃ s, s ∈ familyStatus http ipv4 := by
    intro ipv4 h
    obtain ⟨s, hs, -⟩ := List.any_eq_true.mp h
    exact ⟨s, hs⟩
  rw [hsome]
  simp only [FamiliesDiffer, Bool.exists_bool, Bool.not_false, Bool.not_true, hpos, hneg]
  have h4 := hmem true
  have h6 := hmem false
  cases ha : (familyStatus http true).any content <;>
    cases hb : (familyStatus http false).any content
  · simp
  · simpa using fun _ _ => h6 hb
  · simpa using fun _ _ => h4 ha
  · simp

section Addresses

attribute [local instance] lexOrd

/-- What the responses are grouped by before their addresses are compared. -/
def HttpObservation.pathKey (h : HttpObservation) : String × Bool :=
  (h.protocol.getD "", h.destination.isIpv4)

lemma perProtoFamily_eq (http : List HttpObservation) :
    perProtoFamily http = Grouping.group compare HttpObservation.pathKey ∅
      (fun byAddr h => byAddr.insert h.destination h.code)
      (http.filter HttpObservation.completed) := by
  unfold perProtoFamily Grouping.group
  rw [List.foldl_filter]
  rfl

lemma addressDivergence_isSome {proto : String} {byAddr : ExtTreeMap SocketAddr UInt16} :
    (addressDivergence proto byAddr).isSome = true ↔
      (∃ e ∈ byAddr.toList, content e.2 = true) ∧ ∃ e ∈ byAddr.toList, content e.2 = false := by
  have hsize : (∃ e ∈ byAddr.toList, content e.2 = true) →
      (∃ e ∈ byAddr.toList, content e.2 = false) → ¬byAddr.size < 2 := by
    rintro ⟨e, he, hc⟩ ⟨f, hf, hn⟩ hlt
    rw [← ExtTreeMap.length_toList] at hlt
    have hef : e = f := by
      match hl : byAddr.toList with
      | [] => rw [hl] at he; exact absurd he List.not_mem_nil
      | [x] =>
        rw [hl, List.mem_singleton] at he hf
        rw [he, hf]
      | _ :: _ :: _ =>
        rw [hl, List.length_cons, List.length_cons] at hlt
        omega
    rw [hef, hn] at hc
    exact Bool.false_ne_true hc
  unfold addressDivergence
  by_cases hlt : byAddr.size < 2
  · rw [if_pos hlt]
    simp only [Option.isSome_none, Bool.false_eq_true, false_iff]
    exact fun h => hsize h.1 h.2 hlt
  · rw [if_neg hlt]
    have hpos : (∃ e ∈ byAddr.toList, content e.2 = true) ↔
        byAddr.toList.any (fun e => content e.2) = true := List.any_eq_true.symm
    have hneg : (∃ e ∈ byAddr.toList, content e.2 = false) ↔
        byAddr.toList.any (fun e => !content e.2) = true := by
      simp only [List.any_eq_true, Bool.not_eq_true']
    rw [hpos, hneg]
    cases byAddr.toList.any (fun e => content e.2) <;>
      cases byAddr.toList.any (fun e => !content e.2) <;> simp

/-- The last responses of the addresses of a group. -/
lemma exists_toList_byAddr (http : List HttpObservation) (P : UInt16 → Prop)
    (key : String × Bool) :
    (∃ e ∈ (((http.filter HttpObservation.completed).filter (fun b => b.pathKey = key)).foldl
        (fun byAddr h => byAddr.insert h.destination h.code)
        (∅ : ExtTreeMap SocketAddr UInt16)).toList, P e.2) ↔
      ∃ h ∈ http, h.completed = true ∧ h.pathKey = key ∧
        ∃ b, lastResponse http h = some b ∧ P b.code := by
  -- within its group, a response is overwritten by the later ones of its protocol and destination
  have hlast : ∀ h ∈ http, h.completed = true → h.pathKey = key →
      (((http.filter HttpObservation.completed).filter (fun b => b.pathKey = key)).filter
        (fun b => b.destination = h.destination)).getLast? = lastResponse http h := by
    intro h hh hc hk
    unfold lastResponse
    rw [List.filter_filter, List.filter_filter]
    congr 1
    apply List.filter_congr
    intro b hb
    rw [Bool.eq_iff_iff]
    simp only [Bool.and_eq_true, decide_eq_true_eq, ← hk]
    constructor
    · rintro ⟨⟨hd, hkey⟩, hbc⟩
      have hp := congrArg Prod.fst hkey
      exact ⟨⟨hbc, (HttpObservation.completed.getD_inj hbc hc "").mp hp⟩, hd⟩
    · rintro ⟨⟨hbc, hp⟩, hd⟩
      refine ⟨⟨hd, ?_⟩, hbc⟩
      unfold HttpObservation.pathKey
      rw [hp, hd]
  constructor
  · rintro ⟨⟨dest, status⟩, he, hP⟩
    obtain ⟨b, hb, rfl⟩ := Grouping.mem_toList_overwrite.mp he
    have hm := List.mem_of_getLast? hb
    simp only [List.mem_filter, decide_eq_true_eq] at hm
    obtain ⟨⟨⟨hbh, hbc⟩, hbk⟩, rfl⟩ := hm
    exact ⟨b, hbh, hbc, hbk, b, (hlast b hbh hbc hbk).symm.trans hb, hP⟩
  · rintro ⟨h, hh, hc, hk, b, hb, hP⟩
    exact ⟨(h.destination, b.code),
      Grouping.mem_toList_overwrite.mpr ⟨b, (hlast h hh hc hk).trans hb, rfl⟩, hP⟩

theorem addressDivergences_iff (http : List HttpObservation) :
    (!((perProtoFamily http).toList.filterMap
      (fun e => addressDivergence e.1.1 e.2)).isEmpty) = true ↔ AddressesDiffer http := by
  rw [not_isEmpty_filterMap_iff, perProtoFamily_eq]
  refine (Grouping.exists_toList_group
    (P := fun (key : String × Bool) byAddr =>
      (addressDivergence key.1 byAddr).isSome = true)).trans ?_
  have hpos := exists_toList_byAddr http (fun s => content s = true)
  have hneg := exists_toList_byAddr http (fun s => content s = false)
  simp only [addressDivergence_isSome, hpos, hneg]
  unfold AddressesDiffer
  constructor
  · rintro ⟨a, -, ⟨h₁, hh₁, hc₁, hk₁, b₁, hb₁, hs₁⟩, ⟨h₂, hh₂, hc₂, hk₂, b₂, hb₂, hs₂⟩⟩
    have hk := hk₁.trans hk₂.symm
    have hp := (HttpObservation.completed.getD_inj hc₁ hc₂ "").mp (congrArg Prod.fst hk)
    refine ⟨h₁, hh₁, h₂, hh₂, hc₁, hc₂, hp, congrArg Prod.snd hk, ?_, ?_⟩
    · simp [hb₁, hs₁]
    · simp [hb₂, hs₂]
  · rintro ⟨h₁, hh₁, h₂, hh₂, hc₁, hc₂, hp, hf, hs₁, hs₂⟩
    have hk : h₂.pathKey = h₁.pathKey := by
      unfold HttpObservation.pathKey
      rw [hp, hf]
    obtain ⟨b₁, hb₁, hs₁⟩ := (Option.any_eq_true _ _).mp hs₁
    obtain ⟨b₂, hb₂, hs₂⟩ := (Option.any_eq_true _ _).mp hs₂
    exact ⟨h₁, List.mem_filter.mpr ⟨hh₁, hc₁⟩, ⟨h₁, hh₁, hc₁, rfl, b₁, hb₁, hs₁⟩,
      ⟨h₂, hh₂, hc₂, hk, b₂, hb₂, by simpa using hs₂⟩⟩

end Addresses

/-- A response that no other shares its destination and protocol with is the last of them. -/
lemma lastResponse_eq_self {http : List HttpObservation}
    (hnodup : (http.map (fun h => (h.destination, h.protocol))).Nodup) {h : HttpObservation}
    (hh : h ∈ http) (hc : h.completed = true) : lastResponse http h = some h := by
  have hmem : h ∈ http.filter (fun b => b.completed && b.protocol = h.protocol &&
      b.destination = h.destination) := by
    rw [List.mem_filter]
    exact ⟨hh, by simp [hc]⟩
  cases hl : lastResponse http h with
  | none =>
    rw [List.getLast?_eq_none_iff.mp hl] at hmem
    exact absurd hmem List.not_mem_nil
  | some b =>
    have hb := List.mem_of_getLast? hl
    simp only [List.mem_filter, Bool.and_eq_true, decide_eq_true_eq] at hb
    obtain ⟨hbh, ⟨-, hp⟩, hd⟩ := hb
    have hkey : (b.destination, b.protocol) = (h.destination, h.protocol) := by rw [hp, hd]
    rw [List.inj_on_of_nodup_map hnodup hbh hh hkey]

theorem addressesDiffer_iff {http : List HttpObservation}
    (hnodup : (http.map (fun h => (h.destination, h.protocol))).Nodup) :
    AddressesDiffer http ↔ ∃ h₁ ∈ http, ∃ h₂ ∈ http, h₁.completed = true ∧ h₂.completed = true ∧
      h₁.protocol = h₂.protocol ∧ h₁.destination.isIpv4 = h₂.destination.isIpv4 ∧
      content h₁.code = true ∧ content h₂.code = false := by
  unfold AddressesDiffer
  constructor
  · rintro ⟨h₁, hh₁, h₂, hh₂, hc₁, hc₂, hp, hf, hs₁, hs₂⟩
    rw [lastResponse_eq_self hnodup hh₁ hc₁, Option.any_some] at hs₁
    rw [lastResponse_eq_self hnodup hh₂ hc₂, Option.any_some, Bool.not_eq_true'] at hs₂
    exact ⟨h₁, hh₁, h₂, hh₂, hc₁, hc₂, hp, hf, hs₁, hs₂⟩
  · rintro ⟨h₁, hh₁, h₂, hh₂, hc₁, hc₂, hp, hf, hs₁, hs₂⟩
    refine ⟨h₁, hh₁, h₂, hh₂, hc₁, hc₂, hp, hf, ?_, ?_⟩
    · rw [lastResponse_eq_self hnodup hh₁ hc₁, Option.any_some, hs₁]
    · rw [lastResponse_eq_self hnodup hh₂ hc₂, Option.any_some, hs₂, Bool.not_false]

theorem httpConsistencyRules_verdict (input : DiagnosticInput) :
    (httpConsistencyRules input).map Diagnosis.verdict =
      (if ProtocolsDiffer input.http then [(.low, .http, .medium)] else []) ++
      (if FamiliesDiffer input.http then [(.low, .http, .medium)] else []) ++
      (if AddressesDiffer input.http then [(.low, .http, .medium)] else []) := by
  unfold httpConsistencyRules
  dsimp only
  rw [List.map_append, List.map_append]
  congr 1
  · congr 1
    · exact map_verdict_ite (protoDivergences_iff input.http) rfl
    · have hfam := familyDivergence_iff input.http
      cases hd : familyDivergence input.http with
      | none =>
        rw [hd] at hfam
        rw [if_neg (fun hc => by simpa using hfam.mpr hc)]
        rfl
      | some detail =>
        rw [hd] at hfam
        rw [if_pos (hfam.mp rfl)]
        rfl
  · exact map_verdict_ite (addressDivergences_iff input.http) rfl

end IpTools
