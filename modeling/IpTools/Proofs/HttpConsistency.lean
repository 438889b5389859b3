import IpTools.Proofs.HttpEvidence

/-!
# Consistency across paths

The three verdicts of the consistency rule, each with the conflicts that it stands for and one row
of evidence for each of them.
-/

namespace IpTools
open Std

section Conflicts

variable (http : List HttpObservation)

/-- Two completed responses of a destination over different protocols differ in being 2xx. -/
def ProtocolConflict (dest : SocketAddr) : Prop :=
  ∃ h₁ ∈ http, ∃ h₂ ∈ http, h₁.completed = true ∧ h₂.completed = true ∧
    h₁.destination = dest ∧ h₂.destination = dest ∧ h₁.protocol ≠ h₂.protocol ∧
    content h₁.code ≠ content h₂.code

/-- Two completed responses over a protocol and a family, from different destinations, differ in
being 2xx. -/
def AddressConflict (path : String × Bool) : Prop :=
  ∃ h₁ ∈ http, ∃ h₂ ∈ http, h₁.completed = true ∧ h₂.completed = true ∧
    h₁.protocol = some path.1 ∧ h₂.protocol = some path.1 ∧
    h₁.destination.isIpv4 = path.2 ∧ h₂.destination.isIpv4 = path.2 ∧
    h₁.destination ≠ h₂.destination ∧ content h₁.code ≠ content h₂.code

/-- Some completed response of a family has a property. -/
def FamilyResponse (ipv4 : Bool) (P : HttpObservation → Prop) : Prop :=
  ∃ h ∈ http, h.completed = true ∧ h.destination.isIpv4 = ipv4 ∧ P h

/-- Both families have completed responses, and exactly one of them a 2xx. -/
def FamilyConflict : Prop :=
  FamilyResponse http true (fun _ => True) ∧ FamilyResponse http false (fun _ => True) ∧
    Xor (FamilyResponse http true (fun h => content h.code = true))
      (FamilyResponse http false (fun h => content h.code = true))

end Conflicts

/-- One row for each key with a conflict, and no other row. -/
def OneRowEach {κ : Type} (label : κ → String) (conflict : κ → Prop) (rows : List Evidence) :
    Prop :=
  ∃ (keys : List κ) (joined : κ → String), keys.Nodup ∧ (∀ k, k ∈ keys ↔ conflict k) ∧
    rows = keys.map (fun k => ⟨s!"{label k}: {joined k}"⟩)

lemma OneRowEach.ne_nil_iff {κ : Type} {label : κ → String} {conflict : κ → Prop}
    {rows : List Evidence} (h : OneRowEach label conflict rows) :
    rows ≠ [] ↔ ∃ k, conflict k := by
  obtain ⟨keys, joined, -, hkeys, rfl⟩ := h
  rw [ne_eq, List.map_eq_nil_iff, List.eq_nil_iff_forall_not_mem, not_forall]
  simp only [hkeys, not_not]

/-- The entries that are kept, where the text of an entry is determined by its key. -/
lemma filterMap_eq_map_filter {κ γ : Type} {f : κ → Option γ} {text : κ → γ}
    (h : ∀ k c, f k = some c → c = text k) (keys : List κ) :
    keys.filterMap f = (keys.filter (fun k => (f k).isSome)).map text := by
  induction keys with
  | nil => rfl
  | cons k keys ih =>
    cases hk : f k with
    | none => rw [List.filterMap_cons_none hk, List.filter_cons_of_neg (by simp [hk]), ih]
    | some c =>
      rw [List.filterMap_cons_some hk, List.filter_cons_of_pos (by simp [hk]), ih, List.map_cons,
        h k c hk]

/-- The rows of a group by key: each entry is judged by the items of its key. -/
lemma oneRowEach_group {α κ β : Type} [DecidableEq κ] {cmp : κ → κ → Ordering} [TransCmp cmp]
    [LawfulEqCmp cmp] {key : α → κ} {zero : β} {add : β → α → β} {l : List α}
    {conflict : κ → Prop} (label : String) (name : κ → String)
    (divergence : κ → β → Option String) (joined : β → String)
    (htext : ∀ k b d, divergence k b = some d → d = s!"{name k}: {joined b}")
    (hconflict : ∀ k, conflict k ↔ k ∈ l.map key ∧
      (divergence k ((l.filter (fun a => key a = k)).foldl add zero)).isSome = true) :
    OneRowEach (fun k => label ++ name k) conflict
      (((Grouping.group cmp key zero add l).toList.filterMap
        (fun e => divergence e.1 e.2)).map (fun d => ⟨label ++ d⟩)) := by
  have htext' : ∀ k d, divergence k ((l.filter (fun a => key a = k)).foldl add zero) = some d →
      d = (fun k => s!"{name k}: {joined ((l.filter (fun a => key a = k)).foldl add zero)}") k :=
    fun k d hd => htext k _ d hd
  refine ⟨(Grouping.group cmp key zero add l).keys.filter (fun k =>
      (divergence k ((l.filter (fun a => key a = k)).foldl add zero)).isSome),
    fun k => joined ((l.filter (fun a => key a = k)).foldl add zero),
    ExtTreeMap.nodup_keys.filter _, fun k => ?_, ?_⟩
  · rw [List.mem_filter, Grouping.mem_keys_group, hconflict]
  · rw [Grouping.toList_group, List.filterMap_map]
    refine (congrArg (List.map _) (filterMap_eq_map_filter htext' _)).trans ?_
    rw [List.map_map]
    refine List.map_congr_left (fun k _ => ?_)
    refine congrArg Evidence.mk ?_
    change label ++ (name k ++ ": " ++ _) = label ++ name k ++ ": " ++ _
    rw [String.append_assoc, String.append_assoc, String.append_assoc]

/-- The responses of a destination, as a row lists them. -/
def protocolStatuses (obs : List HttpObservation) : String :=
  ", ".intercalate (obs.map (fun h =>
    let protocol := h.protocol.getD "?"
    s!"{protocol} -> {h.code.toNat}"))

lemma protoDivergence_text {dest : SocketAddr} {obs : List HttpObservation} {d : String}
    (h : protoDivergence dest obs = some d) : d = s!"{dest}: {protocolStatuses obs}" := by
  unfold protoDivergence at h
  split at h
  · cases h
  · split at h
    · exact (Option.some.inj h).symm
    · cases h

lemma content_ne_iff {s t : UInt16} : content s ≠ content t ↔
    content s = true ∧ content t = false ∨ content s = false ∧ content t = true := by
  cases content s <;> cases content t <;> simp

lemma protocolConflict_iff {http : List HttpObservation} {dest : SocketAddr} :
    ProtocolConflict http dest ↔
      dest ∈ (http.filter HttpObservation.completed).map HttpObservation.destination ∧
      (protoDivergence dest (responsesAt http dest)).isSome = true := by
  rw [protoDivergence_isSome (fun h hh => (mem_responsesAt.mp hh).2.1)]
  constructor
  · rintro ⟨h₁, hh₁, h₂, hh₂, hc₁, hc₂, hd₁, hd₂, hne, hcontent⟩
    have hm₁ : h₁ ∈ responsesAt http dest := mem_responsesAt.mpr ⟨hh₁, hc₁, hd₁⟩
    have hm₂ : h₂ ∈ responsesAt http dest := mem_responsesAt.mpr ⟨hh₂, hc₂, hd₂⟩
    refine ⟨List.mem_map.mpr ⟨h₁, List.mem_filter.mpr ⟨hh₁, hc₁⟩, hd₁⟩, ?_⟩
    rcases content_ne_iff.mp hcontent with ⟨hs₁, hs₂⟩ | ⟨hs₁, hs₂⟩
    · exact ⟨h₁, hm₁, h₂, hm₂, hne, hs₁, hs₂⟩
    · exact ⟨h₂, hm₂, h₁, hm₁, hne.symm, hs₂, hs₁⟩
  · rintro ⟨-, h₁, hm₁, h₂, hm₂, hne, hs₁, hs₂⟩
    obtain ⟨hh₁, hc₁, hd₁⟩ := mem_responsesAt.mp hm₁
    obtain ⟨hh₂, hc₂, hd₂⟩ := mem_responsesAt.mp hm₂
    exact ⟨h₁, hh₁, h₂, hh₂, hc₁, hc₂, hd₁, hd₂, hne, content_ne_iff.mpr (.inl ⟨hs₁, hs₂⟩)⟩

lemma protocolRows (http : List HttpObservation) :
    OneRowEach (fun dest => "cross-protocol: " ++ toString dest) (ProtocolConflict http)
      (((perDest http).toList.filterMap (fun e => protoDivergence e.1 e.2)).map
        (fun d => ⟨"cross-protocol: " ++ d⟩)) := by
  rw [perDest_eq]
  refine oneRowEach_group "cross-protocol: " (fun dest => toString dest) protoDivergence
    protocolStatuses (fun dest obs d => protoDivergence_text) (fun dest => ?_)
  rw [protocolConflict_iff, foldl_responsesAt]

section Addresses

attribute [local instance] lexOrd

/-- The addresses of a protocol and a family, as a row lists them. -/
def addressStatuses (byAddr : ExtTreeMap SocketAddr UInt16) : String :=
  ", ".intercalate (byAddr.toList.map (fun e => s!"{e.1} -> {e.2.toNat}"))

lemma addressDivergence_text {proto : String} {byAddr : ExtTreeMap SocketAddr UInt16} {d : String}
    (h : addressDivergence proto byAddr = some d) : d = s!"{proto}: {addressStatuses byAddr}" := by
  unfold addressDivergence at h
  split at h
  · cases h
  · split at h
    · cases h
    · exact (Option.some.inj h).symm

lemma pathKey_eq_iff {h : HttpObservation} (hc : h.completed = true) {path : String × Bool} :
    h.pathKey = path ↔ h.protocol = some path.1 ∧ h.destination.isIpv4 = path.2 := by
  obtain ⟨p, hp⟩ := HttpObservation.completed.protocol hc
  unfold HttpObservation.pathKey
  rw [Prod.ext_iff, hp, Option.getD_some, Option.some_inj]

variable {http : List HttpObservation}

/-- Where no two responses share a destination and a protocol, none is overwritten. -/
lemma exists_byAddr_iff (hnodup : (http.map (fun h => (h.destination, h.protocol))).Nodup)
    (P : UInt16 → Prop) (path : String × Bool) :
    (∃ e ∈ (((http.filter HttpObservation.completed).filter (fun b => b.pathKey = path)).foldl
        (fun byAddr h => byAddr.insert h.destination h.code)
        (∅ : ExtTreeMap SocketAddr UInt16)).toList, P e.2) ↔
      ∃ h ∈ http, h.completed = true ∧ (h.protocol = some path.1 ∧
        h.destination.isIpv4 = path.2) ∧ P h.code := by
  rw [exists_toList_byAddr]
  refine exists_congr (fun h => and_congr_right (fun hh => and_congr_right (fun hc => ?_)))
  rw [pathKey_eq_iff hc, lastResponse_eq_self hnodup hh hc]
  simp only [Option.some_inj, exists_eq_left']

lemma addressConflict_iff (hnodup : (http.map (fun h => (h.destination, h.protocol))).Nodup)
    {path : String × Bool} :
    AddressConflict http path ↔
      path ∈ (http.filter HttpObservation.completed).map HttpObservation.pathKey ∧
      (addressDivergence path.1 (((http.filter HttpObservation.completed).filter
        (fun b => b.pathKey = path)).foldl
          (fun byAddr h => byAddr.insert h.destination h.code) ∅)).isSome = true := by
  rw [addressDivergence_isSome, exists_byAddr_iff hnodup (fun s => content s = true),
    exists_byAddr_iff hnodup (fun s => content s = false)]
  constructor
  · rintro ⟨h₁, hh₁, h₂, hh₂, hc₁, hc₂, hp₁, hp₂, hf₁, hf₂, -, hcontent⟩
    refine ⟨List.mem_map.mpr ⟨h₁, List.mem_filter.mpr ⟨hh₁, hc₁⟩,
      (pathKey_eq_iff hc₁).mpr ⟨hp₁, hf₁⟩⟩, ?_⟩
    rcases content_ne_iff.mp hcontent with ⟨hs₁, hs₂⟩ | ⟨hs₁, hs₂⟩
    · exact ⟨⟨h₁, hh₁, hc₁, ⟨hp₁, hf₁⟩, hs₁⟩, h₂, hh₂, hc₂, ⟨hp₂, hf₂⟩, hs₂⟩
    · exact ⟨⟨h₂, hh₂, hc₂, ⟨hp₂, hf₂⟩, hs₂⟩, h₁, hh₁, hc₁, ⟨hp₁, hf₁⟩, hs₁⟩
  · rintro ⟨-, ⟨h₁, hh₁, hc₁, ⟨hp₁, hf₁⟩, hs₁⟩, h₂, hh₂, hc₂, ⟨hp₂, hf₂⟩, hs₂⟩
    refine ⟨h₁, hh₁, h₂, hh₂, hc₁, hc₂, hp₁, hp₂, hf₁, hf₂, fun hd => ?_,
      content_ne_iff.mpr (.inl ⟨hs₁, hs₂⟩)⟩
    have hkey : (h₁.destination, h₁.protocol) = (h₂.destination, h₂.protocol) := by
      rw [hd, hp₁, hp₂]
    rw [List.inj_on_of_nodup_map hnodup hh₁ hh₂ hkey, hs₂] at hs₁
    exact Bool.false_ne_true hs₁

lemma addressRows (hnodup : (http.map (fun h => (h.destination, h.protocol))).Nodup) :
    OneRowEach (fun path : String × Bool => "cross-address: " ++ path.1) (AddressConflict http)
      (((perProtoFamily http).toList.filterMap (fun e => addressDivergence e.1.1 e.2)).map
        (fun d => ⟨"cross-address: " ++ d⟩)) := by
  rw [perProtoFamily_eq]
  exact oneRowEach_group "cross-address: " Prod.fst
    (fun path byAddr => addressDivergence path.1 byAddr) addressStatuses
    (fun path byAddr d => addressDivergence_text) (fun path => addressConflict_iff hnodup)

end Addresses

lemma familyResponse_iff {http : List HttpObservation}
    (hproto : ∀ h ∈ http, h.status.isSome = true → h.protocol.isSome = true) (ipv4 : Bool)
    (P : UInt16 → Prop) :
    FamilyResponse http ipv4 (fun h => P h.code) ↔ ∃ s ∈ familyStatus http ipv4, P s := by
  unfold FamilyResponse familyStatus HttpObservation.completed HttpObservation.code
  simp only [List.mem_filterMap, List.mem_filter, Bool.and_eq_true, beq_iff_eq]
  constructor
  · rintro ⟨h, hh, ⟨⟨hfailure, hstatus⟩, -⟩, hf, hP⟩
    obtain ⟨s, hs⟩ := Option.isSome_iff_exists.mp hstatus
    rw [hs, Option.getD_some] at hP
    exact ⟨s, ⟨h, ⟨hh, hfailure, hf⟩, hs⟩, hP⟩
  · rintro ⟨s, ⟨h, ⟨hh, hfailure, hf⟩, hs⟩, hP⟩
    have hstatus : h.status.isSome = true := Option.isSome_of_eq_some hs
    refine ⟨h, hh, ⟨⟨hfailure, hstatus⟩, hproto h hh hstatus⟩, hf, ?_⟩
    rw [hs, Option.getD_some]
    exact hP

lemma familyConflict_iff {http : List HttpObservation}
    (hproto : ∀ h ∈ http, h.status.isSome = true → h.protocol.isSome = true) :
    FamilyConflict http ↔ FamiliesDiffer http := by
  unfold FamilyConflict FamiliesDiffer
  rw [familyResponse_iff hproto true (fun _ => True),
    familyResponse_iff hproto false (fun _ => True),
    familyResponse_iff hproto true (fun s => content s = true),
    familyResponse_iff hproto false (fun s => content s = true)]
  have hneg : ∀ ipv4, (∀ s ∈ familyStatus http ipv4, content s = false) ↔
      ¬∃ s ∈ familyStatus http ipv4, content s = true := by
    intro ipv4
    simp only [not_exists, not_and, Bool.not_eq_true]
  have hsome : ∀ ipv4, (∃ s ∈ familyStatus http ipv4, content s = true) →
      ∃ s, s ∈ familyStatus http ipv4 := fun ipv4 ⟨s, hs, _⟩ => ⟨s, hs⟩
  simp only [Bool.exists_bool, Bool.not_false, Bool.not_true, hneg, and_true, Xor]
  have hprop : ∀ A B X Y : Prop, (X → A) → (Y → B) →
      (A ∧ B ∧ (X ∧ ¬Y ∨ Y ∧ ¬X) ↔ (Y ∧ A ∧ ¬X) ∨ (X ∧ B ∧ ¬Y)) := by
    intro A B X Y hA hB
    tauto
  exact hprop _ _ _ _ (hsome true) (hsome false)

def protocolSummary (hostname : String) : String :=
  s!"HTTP status differs across protocols for {hostname}"

def familySummary (hostname : String) : String :=
  s!"HTTP behavior differs between IPv4 and IPv6 for {hostname}"

def addressSummary (hostname : String) : String :=
  s!"HTTP status differs across {hostname}'s addresses"

/-- A verdict is raised, once, exactly where there is evidence. -/
structure Backed (part : List Diagnosis) (summary : String) (evidence : List Evidence) : Prop where
  length : part.length ≤ 1
  all : ∀ d ∈ part, d.summary = summary ∧ d.evidence = evidence
  nonempty : part ≠ [] ↔ evidence ≠ []

lemma backed_ite {c : Bool} {d : Diagnosis} {evidence : List Evidence}
    (hevidence : d.evidence = evidence) (hc : c = true ↔ evidence ≠ []) :
    Backed (if c then [d] else []) d.summary evidence := by
  cases c with
  | true =>
    refine ⟨Nat.le_refl 1, fun e he => ?_, iff_of_true (List.cons_ne_nil _ _) (hc.mp rfl)⟩
    rw [List.mem_singleton.mp he]
    exact ⟨rfl, hevidence⟩
  | false =>
    refine ⟨Nat.zero_le 1, fun e he => ?_, iff_of_false (fun h => h rfl) (fun h => ?_)⟩
    · cases he
    · cases hc.mpr h

lemma httpConsistencyRules_backed (input : DiagnosticInput) :
    ∃ protocols families addresses,
      httpConsistencyRules input = protocols ++ families ++ addresses ∧
      Backed protocols (protocolSummary input.hostname)
        (((perDest input.http).toList.filterMap (fun e => protoDivergence e.1 e.2)).map
          (fun d => ⟨"cross-protocol: " ++ d⟩)) ∧
      Backed families (familySummary input.hostname)
        ((familyDivergence input.http).toList.map (fun d => ⟨"cross-address-family: " ++ d⟩)) ∧
      Backed addresses (addressSummary input.hostname)
        (((perProtoFamily input.http).toList.filterMap
          (fun e => addressDivergence e.1.1 e.2)).map (fun d => ⟨"cross-address: " ++ d⟩)) := by
  have hrows : ∀ {ds : List String} {f : String → Evidence},
      (!ds.isEmpty) = true ↔ ds.map f ≠ [] := by
    intro ds f
    cases ds <;> simp
  refine ⟨_, _, _, rfl, backed_ite rfl hrows, ?_, backed_ite rfl hrows⟩
  cases familyDivergence input.http with
  | none =>
    refine ⟨Nat.zero_le 1, fun e he => ?_, iff_of_false (fun h => h rfl) (fun h => h rfl)⟩
    cases he
  | some detail =>
    refine ⟨Nat.le_refl 1, fun e he => ?_, iff_of_true (List.cons_ne_nil _ _) (by simp)⟩
    rw [List.mem_singleton.mp he]
    exact ⟨rfl, rfl⟩

/-- The output raises a verdict at most once, exactly on a conflict, and with the rows it stands
for. -/
structure RaisedOn (out : List Diagnosis) (summary : String) (conflict : Prop)
    (rows : List Evidence → Prop) : Prop where
  iff : (∃ d ∈ out, d.summary = summary) ↔ conflict
  once : out.countP (fun d => d.summary = summary) ≤ 1
  rows : ∀ d ∈ out, d.summary = summary → rows d.evidence

lemma Backed.raisedOn {part out : List Diagnosis} {summary : String} {evidence : List Evidence}
    {conflict : Prop} {rows : List Evidence → Prop} (h : Backed part summary evidence)
    (hout : out.filter (fun d => d.summary = summary) = part)
    (hconflict : evidence ≠ [] ↔ conflict) (hrows : evidence ≠ [] → rows evidence) :
    RaisedOn out summary conflict rows := by
  have hmem : ∀ d, d ∈ part ↔ d ∈ out ∧ d.summary = summary := by
    intro d
    rw [← hout, List.mem_filter, decide_eq_true_eq]
  refine ⟨?_, ?_, fun d hd hs => ?_⟩
  · rw [← hconflict, ← h.nonempty, ne_eq, List.eq_nil_iff_forall_not_mem, not_forall]
    simp only [hmem, not_not]
  · rw [List.countP_eq_length_filter, hout]
    exact h.length
  · have hpart : d ∈ part := (hmem d).mpr ⟨hd, hs⟩
    rw [(h.all d hpart).2]
    exact hrows (h.nonempty.mp (List.ne_nil_of_mem hpart))

lemma Backed.filter_self {part : List Diagnosis} {summary : String} {evidence : List Evidence}
    (h : Backed part summary evidence) :
    part.filter (fun d => d.summary = summary) = part :=
  List.filter_eq_self.mpr (fun d hd => decide_eq_true (h.all d hd).1)

lemma Backed.filter_other {part : List Diagnosis} {summary other : String}
    {evidence : List Evidence} (h : Backed part summary evidence) (hne : summary ≠ other) :
    part.filter (fun d => d.summary = other) = [] := by
  refine List.filter_eq_nil_iff.mpr (fun d hd => ?_)
  rw [(h.all d hd).1, decide_eq_true_eq]
  exact hne

/-- The summaries differ in their lengths. -/
lemma summaries_ne (hostname : String) :
    protocolSummary hostname ≠ familySummary hostname ∧
    protocolSummary hostname ≠ addressSummary hostname ∧
    familySummary hostname ≠ addressSummary hostname := by
  have hprotocol : (protocolSummary hostname).length = 41 + hostname.length :=
    String.length_append _ _
  have hfamily : (familySummary hostname).length = 48 + hostname.length :=
    String.length_append _ _
  have haddress : (addressSummary hostname).length = 27 + hostname.length + 12 := by
    unfold addressSummary
    rw [String.length_append, String.length_append]
    rfl
  refine ⟨fun h => ?_, fun h => ?_, fun h => ?_⟩ <;>
  · have hlength := congrArg String.length h
    omega

/-- The rule raises each verdict exactly on the conflicts it stands for. -/
theorem httpConsistencyRules_conflicts (input : DiagnosticInput)
    (hnodup : (input.http.map (fun h => (h.destination, h.protocol))).Nodup)
    (hproto : ∀ h ∈ input.http, h.status.isSome = true → h.protocol.isSome = true) :
    RaisedOn (httpConsistencyRules input) (protocolSummary input.hostname)
      (∃ dest, ProtocolConflict input.http dest)
      (OneRowEach (fun dest => "cross-protocol: " ++ toString dest)
        (ProtocolConflict input.http)) ∧
    RaisedOn (httpConsistencyRules input) (familySummary input.hostname)
      (FamilyConflict input.http) (fun rows => rows.length = 1) ∧
    RaisedOn (httpConsistencyRules input) (addressSummary input.hostname)
      (∃ path, AddressConflict input.http path)
      (OneRowEach (fun path => "cross-address: " ++ path.1) (AddressConflict input.http)) := by
  obtain ⟨protocols, families, addresses, hout, hprotocols, hfamilies, haddresses⟩ :=
    httpConsistencyRules_backed input
  obtain ⟨hpf, hpa, hfa⟩ := summaries_ne input.hostname
  have hprotocolRows := protocolRows input.http
  have haddressRows := addressRows hnodup
  rw [hout]
  have hfamily : (familyDivergence input.http).toList.map
      (fun d => Evidence.mk ("cross-address-family: " ++ d)) ≠ [] ↔ FamilyConflict input.http := by
    rw [familyConflict_iff hproto, ← familyDivergence_iff]
    cases familyDivergence input.http <;> simp
  refine ⟨hprotocols.raisedOn ?_ hprotocolRows.ne_nil_iff (fun _ => hprotocolRows),
    hfamilies.raisedOn ?_ hfamily (fun hne => ?_),
    haddresses.raisedOn ?_ haddressRows.ne_nil_iff (fun _ => haddressRows)⟩
  · rw [List.filter_append, List.filter_append, hprotocols.filter_self,
      hfamilies.filter_other hpf.symm, haddresses.filter_other hpa.symm, List.append_nil,
      List.append_nil]
  · rw [List.filter_append, List.filter_append, hfamilies.filter_self,
      hprotocols.filter_other hpf, haddresses.filter_other hfa.symm, List.append_nil]
    rfl
  · cases hfd : familyDivergence input.http with
    | none =>
      rw [hfd] at hne
      exact absurd rfl hne
    | some detail => rfl
  · rw [List.filter_append, List.filter_append, haddresses.filter_self,
      hprotocols.filter_other hpa, hfamilies.filter_other hfa]
    rfl

/-- A completed response of the web server at an address. -/
def servedBy (ip : Ipv4Addr) (protocol : String) (status : UInt16) : HttpObservation :=
  { HttpObservation.base (.v4 ⟨ip, 443⟩) "www.invalid" "GET" "/" with
    protocol := some protocol, status := some status }

/-- An edge that serves one protocol only, next to one that serves neither. -/
def edges : DiagnosticInput :=
  { hostname := "www.invalid", dns := [], tcp := [], tls := [], probes := []
    http := [servedBy (.new 192 0 2 1) "HTTP/1.1" 200, servedBy (.new 192 0 2 1) "HTTP/2" 503,
      servedBy (.new 192 0 2 2) "HTTP/1.1" 503] }

theorem httpConsistencyRules_conflicts_edges :
    (∃ d ∈ httpConsistencyRules edges, d.summary = protocolSummary "www.invalid") ∧
    ∃ d ∈ httpConsistencyRules edges, d.summary = addressSummary "www.invalid" := by
  obtain ⟨hprotocols, -, haddresses⟩ :=
    httpConsistencyRules_conflicts edges (by decide +kernel) (by decide +kernel)
  refine ⟨hprotocols.iff.mpr ⟨.v4 ⟨.new 192 0 2 1, 443⟩, ?_⟩,
    haddresses.iff.mpr ⟨("HTTP/1.1", true), ?_⟩⟩
  · unfold ProtocolConflict
    decide +kernel
  · unfold AddressConflict
    decide +kernel

end IpTools
