import IpTools.Probes.Repeat

/-!
# Accounting of repeated probes

The counters of a repeated probe account for every attempt, and neither they nor the statistics
depend on the order of the outcomes. The exception is the jitter, a sum of `f64`.
-/

namespace IpTools

/-- The failure an outcome is counted under. -/
def Outcome.failureKind (o : Outcome) : Option FailureKind := if o.ok then none else o.kind

/-- The latency sample of a successful outcome. -/
def Outcome.sample (o : Outcome) : Option UInt64 := if o.ok then some (o.latencyMs.getD 0) else none

/-- What the loop has recorded of the outcomes so far. -/
structure Recorded (os : List Outcome) (state : RepeatState) : Prop where
  latency : state.latency.samples = os.filterMap Outcome.sample
  ttfb : state.ttfb.samples = os.filterMap Outcome.ttfbMs
  failures : state.failures = Tally.tally (os.filterMap Outcome.failureKind)
  statuses : state.statuses = Tally.tally (os.filterMap Outcome.status)
  successes : state.successes = os.countP Outcome.ok

/-- What one outcome adds. -/
lemma RepeatState.record_eq (state : RepeatState) (o : Outcome) : state.record o = {
    latency := ⟨state.latency.samples ++ o.sample.toList⟩
    ttfb := ⟨state.ttfb.samples ++ o.ttfbMs.toList⟩
    failures := o.failureKind.elim state.failures (fun kind => Tally.bump kind state.failures)
    statuses := o.status.elim state.statuses (fun status => Tally.bump status state.statuses)
    successes := state.successes + if o.ok then 1 else 0 } := by
  rcases o with ⟨ok, latencyMs, kind, status, ttfbMs⟩
  cases ok <;> cases kind <;> cases status <;> cases ttfbMs <;>
    simp [RepeatState.record, LatencyStats.push, Outcome.sample, Outcome.failureKind]

lemma Recorded.record {os : List Outcome} {state : RepeatState} (h : Recorded os state)
    (o : Outcome) : Recorded (os ++ [o]) (state.record o) := by
  rw [state.record_eq o]
  constructor <;> dsimp only
  case latency => rw [h.latency, Tally.filterMap_concat]
  case ttfb => rw [h.ttfb, Tally.filterMap_concat]
  case failures => rw [h.failures, Tally.tally_filterMap_concat]
  case statuses => rw [h.statuses, Tally.tally_filterMap_concat]
  case successes => rw [h.successes, List.countP_append, List.countP_singleton]

lemma recorded_foldl (os : List Outcome) :
    Recorded os (os.foldl RepeatState.record RepeatState.start) := by
  induction os using List.reverseRecOn with
  | nil => exact ⟨rfl, rfl, rfl, rfl, rfl⟩
  | append_singleton os o ih =>
    rw [List.foldl_concat]
    exact ih.record o

lemma Recorded.failures_of {os : List Outcome} {state : RepeatState} (h : Recorded os state)
    (order : HashOrder) :
    Tally.Of (os.filterMap Outcome.failureKind) (order.entries state.failures) := by
  rw [h.failures]
  exact (Tally.tally_of _).of_perm_map (order.perm _).symm

lemma Recorded.statuses_of {os : List Outcome} {state : RepeatState} (h : Recorded os state)
    (order : HashOrder) :
    Tally.Of (os.filterMap Outcome.status) (order.entries state.statuses) := by
  rw [h.statuses]
  exact (Tally.tally_of _).of_perm_map (order.perm _).symm

/-- The outcomes that the wrappers of the three protocols make of an attempt. -/
inductive Wrapped [DebugTables] : Outcome → Prop
  | tcp (destination : SocketAddr) (timeout : Duration) (connect : Connect) :
    Wrapped (tcpOutcome (tcpProbe destination timeout connect))
  | tls (destination : SocketAddr) (sni : String) (timeout : Duration) (transport : TlsTransport)
      (total : Duration) : Wrapped (tlsOutcome (tlsProbe destination sni timeout transport total))
  | http (obs : HttpObservation) : Wrapped (httpOutcome obs)

/-- A wrapper classifies what it does not count as a success. -/
lemma Wrapped.kind_isSome [DebugTables] {o : Outcome} (h : Wrapped o) (hok : o.ok = false) :
    o.kind.isSome = true := by
  cases h with
  | tcp destination timeout connect =>
    revert hok
    unfold tcpProbe tcpOutcome
    cases connect.outcome <;> simp
  | tls destination sni timeout transport total =>
    revert hok
    unfold tlsProbe tlsOutcome
    dsimp only
    cases connectTo destination sni timeout transport <;> simp
  | http obs =>
    revert hok
    unfold httpOutcome
    cases obs.failure <;> cases obs.bodyBytes <;> simp

lemma countP_ok_add_failures [DebugTables] {os : List Outcome} (h : ∀ o ∈ os, Wrapped o) :
    os.countP Outcome.ok + (os.filterMap Outcome.failureKind).length = os.length := by
  refine Tally.countP_add_length_filterMap (fun o ho => ?_)
  unfold Outcome.failureKind
  cases hok : o.ok with
  | true => rfl
  | false => exact (h o ho).kind_isSome hok

lemma length_samples (os : List Outcome) :
    (os.filterMap Outcome.sample).length = os.countP Outcome.ok := by
  have hsample : ∀ o : Outcome, o.sample.isSome = o.ok := by
    intro o
    unfold Outcome.sample
    cases o.ok <;> rfl
  rw [List.length_filterMap_eq_countP]
  exact List.countP_congr (fun o _ => by rw [hsample])

/-- The accounts of a repeated probe are in order. -/
structure Accounted (os : List Outcome) (r : ProbeResult) : Prop where
  attempts : r.attempts = os.length
  total : r.successes + r.failures = r.attempts
  latency : r.latency.count = r.successes
  failures : (r.failureCounts.map FailureCount.count).sum = r.failures
  statuses : (r.statusCounts.map StatusCount.count).sum = os.countP (fun o => o.status.isSome)
  carried : (r.statusCounts.map StatusCount.count).sum ≤ r.attempts
  failuresSorted : r.failureCounts.Pairwise (fun a b =>
    b.count < a.count ∨ a.count = b.count ∧ a.kind.discriminant < b.kind.discriminant)
  failuresDistinct : (r.failureCounts.map FailureCount.kind).Nodup
  failuresPositive : ∀ f ∈ r.failureCounts, 0 < f.count
  statusesSorted : r.statusCounts.Pairwise (fun a b =>
    b.count < a.count ∨ a.count = b.count ∧ a.status < b.status)
  statusesDistinct : (r.statusCounts.map StatusCount.status).Nodup
  statusesPositive : ∀ s ∈ r.statusCounts, 0 < s.count

lemma discriminant_injective : Function.Injective FailureKind.discriminant := by
  intro a b h
  unfold FailureKind.discriminant at h
  cases a <;> cases b <;> first | rfl | cases h

/-- What the sorted counts of a map keep of it. -/
lemma counts_spec {α β : Type} [DecidableEq α] {key : α → Nat} (hkey : Function.Injective key)
    {ks : List α} {m : List (α × Nat)} (hm : Tally.Of ks m) (entry : α × Nat → β)
    (count : β → Nat) (name : β → α) (hcount : ∀ e, count (entry e) = e.2)
    (hname : ∀ e, name (entry e) = e.1) :
    (((Tally.sortByCount key m).map entry).map count).sum = ks.length ∧
    ((Tally.sortByCount key m).map entry).Pairwise
      (fun a b => count b < count a ∨ count a = count b ∧ key (name a) < key (name b)) ∧
    (((Tally.sortByCount key m).map entry).map name).Nodup ∧
    ∀ b ∈ (Tally.sortByCount key m).map entry, 0 < count b := by
  have hsorted : Tally.Of ks (Tally.sortByCount key m) :=
    hm.of_perm_map (Tally.sortByCount_perm m).symm
  have hcounts : count ∘ entry = Prod.snd := funext hcount
  have hnames : name ∘ entry = Prod.fst := funext hname
  refine ⟨?_, ?_, ?_, ?_⟩
  · rw [List.map_map, hcounts]
    exact hsorted.sum_eq
  · rw [List.pairwise_map]
    refine (Tally.sortByCount_pairwise hkey hm.nodup).imp ?_
    intro a b hab
    rw [hcount, hcount, hname, hname]
    exact hab
  · rw [List.map_map, hnames]
    exact hsorted.nodup
  · intro b hb
    obtain ⟨⟨k, n⟩, he, rfl⟩ := List.mem_map.mp hb
    rw [hcount]
    exact ((hsorted.mem_iff k n).mp he).1

lemma length_statuses (os : List Outcome) :
    (os.filterMap Outcome.status).length = os.countP (fun o => o.status.isSome) := by
  rw [List.length_filterMap_eq_countP]

/-- Two summaries of the same samples. The deviation is only known to be given by both. -/
structure SameSummary (a b : LatencySummary) : Prop where
  count : a.count = b.count
  min : a.min = b.min
  p50 : a.p50 = b.p50
  p90 : a.p90 = b.p90
  p95 : a.p95 = b.p95
  p99 : a.p99 = b.p99
  max : a.max = b.max
  mean : a.mean = b.mean
  jitter : a.jitter.isSome = b.jitter.isSome
  samples : a.samples.Perm b.samples

/-- Two results that differ in the order of the raw samples and in the deviations only. -/
structure SameResult (r r' : ProbeResult) : Prop where
  destination : r.destination = r'.destination
  attempts : r.attempts = r'.attempts
  successes : r.successes = r'.successes
  failures : r.failures = r'.failures
  successRate : r.successRate = r'.successRate
  latency : SameSummary r.latency r'.latency
  ttfb : SameSummary r.ttfb r'.ttfb
  failureCounts : r.failureCounts = r'.failureCounts
  statusCounts : r.statusCounts = r'.statusCounts

lemma pairwise_mergeSort_samples (xs : List UInt64) :
    (xs.mergeSort (fun a b => decide (a ≤ b))).Pairwise (fun a b => a ≤ b) := by
  have htrans : ∀ a b c : UInt64,
      decide (a ≤ b) = true → decide (b ≤ c) = true → decide (a ≤ c) = true := by
    intro a b c hab hbc
    simp only [decide_eq_true_eq] at *
    exact UInt64.le_trans hab hbc
  have htotal : ∀ a b : UInt64, (decide (a ≤ b) || decide (b ≤ a)) = true := by
    intro a b
    simp only [Bool.or_eq_true, decide_eq_true_eq]
    exact UInt64.le_total a b
  exact (List.pairwise_mergeSort htrans htotal xs).imp (fun hab => of_decide_eq_true hab)

lemma mergeSort_samples_eq {xs ys : List UInt64} (h : xs.Perm ys) :
    xs.mergeSort (fun a b => decide (a ≤ b)) = ys.mergeSort (fun a b => decide (a ≤ b)) := by
  refine List.Perm.eq_of_pairwise (fun a b _ _ hab hba => UInt64.le_antisymm hab hba)
    (pairwise_mergeSort_samples xs) (pairwise_mergeSort_samples ys) ?_
  exact (List.mergeSort_perm _ _).trans (h.trans (List.mergeSort_perm _ _).symm)

lemma jitterOf_isSome (samples : List UInt64) :
    (jitterOf samples).isSome = decide (samples.length ≠ 0) := by
  unfold jitterOf
  by_cases h : samples.length = 0
  · rw [if_pos h, Option.isSome_none, decide_eq_false (not_not_intro h)]
  · rw [if_neg h, decide_eq_true h]
    exact Option.isSome_some

lemma summarize_perm {a b : LatencyStats} (h : a.samples.Perm b.samples) :
    SameSummary a.summarize b.summarize := by
  have hsorted := mergeSort_samples_eq h
  have hlength := h.length_eq
  have hsum : (a.samples.map UInt64.toNat).sum = (b.samples.map UInt64.toNat).sum :=
    (h.map _).sum_eq
  unfold LatencyStats.summarize
  dsimp only
  refine ⟨hlength, ?_, ?_, ?_, ?_, ?_, ?_, ?_, ?_, h⟩ <;> dsimp only
  · rw [hsorted]
  · rw [hsorted]
  · rw [hsorted]
  · rw [hsorted]
  · rw [hsorted]
  · rw [hsorted]
  · unfold meanOf
    rw [hlength, hsum]
  · rw [jitterOf_isSome, jitterOf_isSome, hlength]

lemma repeatImpl_accounted [DebugTables]
    (order : HashOrder) (destination : SocketAddr) (attempts : Nat)
    (attempt : Nat → Outcome) (h : ∀ i < attempts, Wrapped (attempt i)) :
    Accounted ((List.range attempts).map attempt)
      (repeatImpl order destination attempts attempt) := by
  have hwrapped : ∀ o ∈ (List.range attempts).map attempt, Wrapped o := by
    intro o ho
    obtain ⟨i, hi, rfl⟩ := List.mem_map.mp ho
    exact h i (List.mem_range.mp hi)
  have hlength : ((List.range attempts).map attempt).length = attempts := by simp
  unfold repeatImpl
  dsimp only
  generalize (List.range attempts).map attempt = os at hwrapped hlength
  have hstate := recorded_foldl os
  generalize os.foldl RepeatState.record RepeatState.start = state at hstate
  have hfailuresOf := hstate.failures_of order
  have hstatusesOf := hstate.statuses_of order
  have htotal := countP_ok_add_failures hwrapped
  obtain ⟨hfsum, hfsorted, hfnodup, hfpos⟩ := counts_spec discriminant_injective hfailuresOf
    (fun e => FailureCount.mk e.1 e.2) FailureCount.count FailureCount.kind (fun _ => rfl)
    (fun _ => rfl)
  obtain ⟨hssum, hssorted, hsnodup, hspos⟩ := counts_spec (fun _ _ => UInt16.toNat_inj.mp)
    hstatusesOf (fun e => StatusCount.mk e.1 e.2) StatusCount.count StatusCount.status
    (fun _ => rfl) (fun _ => rfl)
  have hcount := length_statuses os
  have hcarried := List.countP_le_length (p := fun o : Outcome => o.status.isSome) (l := os)
  constructor <;> dsimp only
  case attempts => exact hlength.symm
  case total => rw [hstate.successes, hfailuresOf.sum_eq, htotal, hlength]
  case latency =>
    unfold LatencyStats.summarize
    dsimp only
    rw [hstate.latency, length_samples, hstate.successes]
  case failures => rw [hfsum, hfailuresOf.sum_eq]
  case statuses => rw [hssum, hcount]
  case carried =>
    rw [hssum, hcount, ← hlength]
    exact hcarried
  case failuresSorted => exact hfsorted
  case failuresDistinct => exact hfnodup
  case failuresPositive => exact hfpos
  case statusesSorted => exact hssorted.imp (fun hab => hab)
  case statusesDistinct => exact hsnodup
  case statusesPositive => exact hspos

lemma repeatImpl_perm (order order' : HashOrder) (destination : SocketAddr) (attempts : Nat)
    (attempt attempt' : Nat → Outcome)
    (h : ((List.range attempts).map attempt).Perm ((List.range attempts).map attempt')) :
    SameResult (repeatImpl order destination attempts attempt)
      (repeatImpl order' destination attempts attempt') := by
  unfold repeatImpl
  dsimp only
  generalize (List.range attempts).map attempt = os at h
  generalize (List.range attempts).map attempt' = os' at h
  have hstate := recorded_foldl os
  have hstate' := recorded_foldl os'
  generalize os.foldl RepeatState.record RepeatState.start = state at hstate
  generalize os'.foldl RepeatState.record RepeatState.start = state' at hstate'
  have hsucc : state.successes = state'.successes := by
    rw [hstate.successes, hstate'.successes, h.countP_eq]
  have hfailuresOf := hstate.failures_of order
  have hfailuresOf' := (hstate'.failures_of order').of_perm_keys (h.symm.filterMap _)
  have hstatusesOf := hstate.statuses_of order
  have hstatusesOf' := (hstate'.statuses_of order').of_perm_keys (h.symm.filterMap _)
  constructor <;> dsimp only
  case failures => rw [hfailuresOf.sum_eq, hfailuresOf'.sum_eq]
  case successes => exact hsucc
  case successRate => rw [hsucc]
  case latency =>
    refine summarize_perm ?_
    rw [hstate.latency, hstate'.latency]
    exact h.filterMap _
  case ttfb =>
    refine summarize_perm ?_
    rw [hstate.ttfb, hstate'.ttfb]
    exact h.filterMap _
  case failureCounts => rw [Tally.sortByCount_eq discriminant_injective hfailuresOf hfailuresOf']
  case statusCounts =>
    rw [Tally.sortByCount_eq (fun _ _ => UInt16.toNat_inj.mp) hstatusesOf hstatusesOf']

/-- A repeated probe accounts for every attempt, in every order of the outcomes and in every order
in which the maps are read. -/
theorem repeat_accounted [DebugTables]
    (order : HashOrder) (destination : SocketAddr) (attempts : Nat)
    (attempt : Nat → Outcome) (h : ∀ i < attempts, Wrapped (attempt i)) :
    Accounted ((List.range attempts).map attempt)
      (repeatImpl order destination attempts attempt) ∧
    ∀ (order' : HashOrder) (attempt' : Nat → Outcome),
      ((List.range attempts).map attempt').Perm ((List.range attempts).map attempt) →
      SameResult (repeatImpl order destination attempts attempt)
        (repeatImpl order' destination attempts attempt') :=
  ⟨repeatImpl_accounted order destination attempts attempt h,
    fun order' attempt' hperm =>
      repeatImpl_perm order order' destination attempts attempt attempt' hperm.symm⟩

/-- An attempt that got a status but not its whole body. -/
def stalledAttempt : HttpObservation :=
  { HttpObservation.base (.v4 ⟨.new 192 0 2 1, 443⟩) "stall.invalid" "GET" "/" with
    status := some 200, ttfbMs := some 0, latencyMs := some 801 }

theorem repeat_accounted_stalled :
    let r := repeatImpl ⟨fun m => m, fun m => .refl m⟩ (.v4 ⟨.new 192 0 2 1, 443⟩) 3
      (fun _ => httpOutcome stalledAttempt)
    r.successes + r.failures = 3 ∧ r.latency.count = r.successes := by
  let := DebugTables.none
  have haccounts := (repeat_accounted ⟨fun m => m, fun m => .refl m⟩
    (.v4 ⟨.new 192 0 2 1, 443⟩) 3 (fun _ => httpOutcome stalledAttempt)
    (fun _ _ => Wrapped.http stalledAttempt)).1
  exact ⟨haccounts.total, haccounts.latency⟩

/-- The outcomes of connects that took the given milliseconds. -/
def connectOutcome (latencies : List Nat) (i : Nat) : Outcome :=
  tcpOutcome (tcpProbe (.v4 ⟨.new 192 0 2 1, 443⟩) ⟨2000000000⟩
    ⟨.ok (), ⟨latencies.getD i 0 * 1000000⟩⟩)

/-- The same latencies in two orders: the variance is 4, and a sum rounded on the way is below
it. -/
theorem jitter_depends_on_order :
    let r := repeatImpl ⟨fun m => m, fun m => .refl m⟩ (.v4 ⟨.new 192 0 2 1, 443⟩) 9
      (connectOutcome [0, 4, 0, 2, 0, 4, 0, 5, 0])
    let r' := repeatImpl ⟨fun m => m, fun m => .refl m⟩ (.v4 ⟨.new 192 0 2 1, 443⟩) 9
      (connectOutcome [0, 0, 0, 0, 5, 2, 4, 4, 0])
    ((List.range 9).map (connectOutcome [0, 4, 0, 2, 0, 4, 0, 5, 0])).Perm
      ((List.range 9).map (connectOutcome [0, 0, 0, 0, 5, 2, 4, 4, 0])) ∧
    r.latency.jitter = some 2 ∧ r'.latency.jitter = some 1 := by
  decide +kernel

end IpTools
