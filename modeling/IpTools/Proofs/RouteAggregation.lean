import IpTools.Library.BoundedLoop
import IpTools.Library.Grouping
import IpTools.Proofs.RepeatAccounting
import IpTools.Route.Aggregate

/-!
# Route aggregation

The aggregate of repeated traceroutes is the union of their hops. It is the same in every order of
the runs, except for the order of the addresses, the choice of a host name and the jitter, a sum of
`f64`.
-/

namespace IpTools

open BoundedLoop

/-- What an entry has of the hops folded into it. -/
structure Gathered (hops : List RouteHop) (entry : HopEntry) : Prop where
  answered : entry.answered.toNat = min 65535 (hops.countP (fun h => !h.lost))
  nodup : entry.addrs.Nodup
  addrs : ∀ addr, addr ∈ entry.addrs ↔ ∃ h ∈ hops, h.lost = false ∧ h.addr = some addr
  latency : entry.latency.samples = (hops.filter (fun h => !h.lost)).filterMap RouteHop.rttMs
  hostname : entry.hostname =
    ((hops.filter (fun h => !h.lost)).filterMap RouteHop.hostname).find? (fun n => !n.isEmpty)

lemma gathered_start : Gathered [] .start :=
  ⟨rfl, List.nodup_nil, by simp [HopEntry.start], rfl, rfl⟩

lemma toNat_saturatingSucc (n : UInt16) : (saturatingSucc n).toNat = min 65535 (n.toNat + 1) := by
  unfold saturatingSucc
  rw [UInt16.toNat_ofNat', Nat.mod_eq_of_lt (by omega)]

lemma Gathered.add_lost {hops : List RouteHop} {entry : HopEntry} (h : Gathered hops entry)
    {hop : RouteHop} (hlost : hop.lost = true) : Gathered (hops ++ [hop]) (entry.add hop) := by
  have hfilter : (hops ++ [hop]).filter (fun h => !h.lost) = hops.filter (fun h => !h.lost) := by
    simp [hlost]
  unfold HopEntry.add
  rw [if_pos hlost]
  refine ⟨?_, h.nodup, fun addr => ?_, ?_, ?_⟩
  · rw [h.answered, List.countP_append, List.countP_singleton, if_neg (by simp [hlost]),
      Nat.add_zero]
  · rw [h.addrs]
    simp [hlost]
  · rw [h.latency, hfilter]
  · rw [h.hostname, hfilter]

lemma Gathered.add_answered {hops : List RouteHop} {entry : HopEntry} (h : Gathered hops entry)
    {hop : RouteHop} (hlost : hop.lost = false) : Gathered (hops ++ [hop]) (entry.add hop) := by
  have hfilter : (hops ++ [hop]).filter (fun h => !h.lost) =
      hops.filter (fun h => !h.lost) ++ [hop] := by
    simp [hlost]
  have haddrs : ∀ addr, (∃ h ∈ hops ++ [hop], h.lost = false ∧ h.addr = some addr) ↔
      addr ∈ entry.addrs ∨ hop.addr = some addr := by
    intro addr
    rw [h.addrs]
    simp [hlost, or_and_right, exists_or]
  unfold HopEntry.add
  rw [if_neg (by simp [hlost])]
  constructor <;> dsimp only
  case answered =>
    rw [toNat_saturatingSucc, h.answered, List.countP_append, List.countP_singleton,
      if_pos (by simp [hlost])]
    omega
  case nodup =>
    cases hop.addr with
    | none => exact h.nodup
    | some addr =>
      dsimp only
      by_cases hmem : addr ∈ entry.addrs
      · rw [if_pos hmem]
        exact h.nodup
      · rw [if_neg hmem]
        exact h.nodup.append (List.nodup_singleton _) (List.disjoint_singleton.mpr hmem)
  case addrs =>
    intro addr
    rw [haddrs]
    cases hop.addr with
    | none => simp
    | some other =>
      dsimp only
      by_cases hmem : other ∈ entry.addrs
      · rw [if_pos hmem]
        refine ⟨Or.inl, fun hor => hor.elim id (fun he => ?_)⟩
        rw [← Option.some.inj he]
        exact hmem
      · rw [if_neg hmem]
        simp [eq_comm]
  case latency =>
    rw [hfilter, List.filterMap_append]
    cases hrtt : hop.rttMs with
    | none => simp [hrtt, h.latency]
    | some ms => simp [hrtt, h.latency, LatencyStats.push]
  case hostname =>
    rw [hfilter, List.filterMap_append, List.find?_append, ← h.hostname]
    cases hname : hop.hostname with
    | none => simp [hname]
    | some name =>
      cases entry.hostname with
      | none => cases hempty : name.isEmpty <;> simp [hname, hempty]
      | some first => simp

/-- The fold of the hops of one TTL. -/
lemma gathered_foldl (hops : List RouteHop) : Gathered hops (hops.foldl HopEntry.add .start) := by
  induction hops using List.reverseRecOn with
  | nil => exact gathered_start
  | append_singleton hops hop ih =>
    rw [List.foldl_concat]
    cases hlost : hop.lost with
    | true => exact ih.add_lost hlost
    | false => exact ih.add_answered hlost

/-- The entry of one TTL. -/
def entryAt (runs : List (List RouteHop)) (ttl : UInt8) : HopEntry :=
  (runs.flatten.filter (fun h => h.ttl = ttl)).foldl HopEntry.add .start

/-- The TTLs in the order of the map. -/
def ttlsOf (runs : List (List RouteHop)) : List UInt8 :=
  (Grouping.group compare RouteHop.ttl .start HopEntry.add runs.flatten).keys

lemma hops_aggregateRuns (runs : List (List RouteHop)) :
    (aggregateRuns runs).hops = (ttlsOf runs).map (fun ttl => (entryAt runs ttl).stats ttl) := by
  have hgroup : runs.foldl (fun byTtl run => run.foldl addHop byTtl) ∅ =
      Grouping.group compare RouteHop.ttl .start HopEntry.add runs.flatten := by
    unfold Grouping.group
    rw [List.foldl_flatten]
    rfl
  unfold aggregateRuns
  dsimp only
  rw [hgroup, Grouping.toList_group, List.map_map]
  rfl

lemma mem_ttlsOf {runs : List (List RouteHop)} {ttl : UInt8} :
    ttl ∈ ttlsOf runs ↔ ∃ run ∈ runs, ∃ h ∈ run, h.ttl = ttl := by
  unfold ttlsOf
  rw [Grouping.mem_keys_group]
  simp only [List.mem_map, List.mem_flatten]
  constructor
  · rintro ⟨h, ⟨run, hrun, hh⟩, rfl⟩
    exact ⟨run, hrun, h, hh, rfl⟩
  · rintro ⟨run, hrun, h, hh, rfl⟩
    exact ⟨h, ⟨run, hrun, hh⟩, rfl⟩

lemma pairwise_ttlsOf (runs : List (List RouteHop)) : (ttlsOf runs).Pairwise (· < ·) :=
  Std.ExtTreeMap.ordered_keys.imp (fun h => Std.compare_eq_lt.mp h)

/-- Where a run has at most one item of a kind, the items are counted by their runs. -/
lemma countP_flatten_eq_countP_any {α : Type} {p : α → Bool} {runs : List (List α)}
    (h : ∀ run ∈ runs, run.countP p ≤ 1) :
    runs.flatten.countP p = runs.countP (fun run => run.any p) := by
  induction runs with
  | nil => rfl
  | cons run runs ih =>
    obtain ⟨hrun, hruns⟩ := List.forall_mem_cons.mp h
    rw [List.flatten_cons, List.countP_append, ih hruns, List.countP_cons, Nat.add_comm]
    cases hany : run.any p with
    | true =>
      have hpos : 0 < run.countP p := List.countP_pos_iff.mpr (List.any_eq_true.mp hany)
      rw [if_pos rfl]
      omega
    | false =>
      have hzero : run.countP p = 0 :=
        List.countP_eq_zero.mpr (fun a ha hp => by simp [List.any_eq_false.mp hany a ha] at hp)
      rw [if_neg (by simp), hzero]

lemma countP_ttl_le {run : List RouteHop} (h : (run.map RouteHop.ttl).Nodup) (ttl : UInt8) :
    run.countP (fun h => !h.lost && h.ttl = ttl) ≤ 1 := by
  have hmono : run.countP (fun h => !h.lost && h.ttl = ttl) ≤
      run.countP (fun h => h.ttl = ttl) := by
    refine List.countP_mono_left (fun h _ hh => ?_)
    exact (Bool.and_eq_true_iff.mp hh).2
  have hcount : run.countP (fun h => h.ttl = ttl) = (run.map RouteHop.ttl).count ttl := by
    rw [List.count_eq_countP, List.countP_map]
    rfl
  rw [hcount] at hmono
  exact Nat.le_trans hmono (List.nodup_iff_count_le_one.mp h ttl)

lemma one_lt_length_iff {α : Type} {l : List α} (h : l.Nodup) :
    1 < l.length ↔ ∃ a ∈ l, ∃ b ∈ l, a ≠ b := by
  rcases l with - | ⟨a, - | ⟨b, l⟩⟩
  · simp
  · simp
  · have hne : a ≠ b := fun hab =>
      (List.nodup_cons.mp h).1 (hab ▸ List.mem_cons_self)
    exact iff_of_true (by simp)
      ⟨a, List.mem_cons_self, b, List.mem_cons_of_mem a List.mem_cons_self, hne⟩

/-- The samples of the hops of one TTL that are not lost. -/
def samplesAt (runs : List (List RouteHop)) (ttl : UInt8) : List UInt64 :=
  (runs.flatten.filter (fun h => !h.lost && h.ttl = ttl)).filterMap RouteHop.rttMs

/-- What the statistics of a hop are of the runs. -/
structure UnionHop (runs : List (List RouteHop)) (s : RouteHopStats) : Prop where
  answered : s.answered.toNat =
    min 65535 (runs.countP (fun run => run.any (fun h => !h.lost && h.ttl = s.ttl)))
  answered_le : s.answered.toNat ≤ runs.length
  nodup : s.addrs.Nodup
  addrs : ∀ addr, addr ∈ s.addrs ↔
    ∃ run ∈ runs, ∃ h ∈ run, h.ttl = s.ttl ∧ h.lost = false ∧ h.addr = some addr
  pathChanged : s.pathChanged = true ↔ ∃ a ∈ s.addrs, ∃ b ∈ s.addrs, a ≠ b
  rtt : s.rtt = (LatencyStats.mk (samplesAt runs s.ttl)).summarize

/-- The aggregate is the union of the runs. -/
structure UnionOf (runs : List (List RouteHop)) (r : RouteRepeat) : Prop where
  length : r.runs = runs.length
  sorted : (r.hops.map RouteHopStats.ttl).Pairwise (· < ·)
  ttls : ∀ ttl, ttl ∈ r.hops.map RouteHopStats.ttl ↔ ∃ run ∈ runs, ∃ h ∈ run, h.ttl = ttl
  hops : ∀ s ∈ r.hops, UnionHop runs s

lemma unionHop_stats {runs : List (List RouteHop)}
    (hdistinct : ∀ run ∈ runs, (run.map RouteHop.ttl).Nodup) (ttl : UInt8) :
    UnionHop runs ((entryAt runs ttl).stats ttl) := by
  have h := gathered_foldl (runs.flatten.filter (fun h => h.ttl = ttl))
  change Gathered _ (entryAt runs ttl) at h
  have hanswered : (entryAt runs ttl).answered.toNat =
      min 65535 (runs.countP (fun run => run.any (fun h => !h.lost && h.ttl = ttl))) := by
    rw [h.answered, List.countP_filter,
      countP_flatten_eq_countP_any (fun run hrun => countP_ttl_le (hdistinct run hrun) ttl)]
  refine ⟨hanswered, ?_, h.nodup, fun addr => ?_, ?_, ?_⟩
  · have hle := List.countP_le_length
      (p := fun run : List RouteHop => run.any (fun h => !h.lost && h.ttl = ttl)) (l := runs)
    change (entryAt runs ttl).answered.toNat ≤ runs.length
    omega
  · change addr ∈ (entryAt runs ttl).addrs ↔ _
    rw [h.addrs]
    simp only [List.mem_filter, List.mem_flatten, decide_eq_true_eq]
    constructor
    · rintro ⟨hop, ⟨⟨run, hrun, hhop⟩, httl⟩, hlost, haddr⟩
      exact ⟨run, hrun, hop, hhop, httl, hlost, haddr⟩
    · rintro ⟨run, hrun, hop, hhop, httl, hlost, haddr⟩
      exact ⟨hop, ⟨⟨run, hrun, hhop⟩, httl⟩, hlost, haddr⟩
  · change decide (1 < (entryAt runs ttl).addrs.length) = true ↔ _
    rw [decide_eq_true_eq]
    exact one_lt_length_iff h.nodup
  · have hsamples : (entryAt runs ttl).latency.samples = samplesAt runs ttl := by
      rw [h.latency, List.filter_filter]
      rfl
    change (entryAt runs ttl).latency.summarize = (LatencyStats.mk (samplesAt runs ttl)).summarize
    rw [← hsamples]

lemma unionOf_aggregateRuns {runs : List (List RouteHop)}
    (hdistinct : ∀ run ∈ runs, (run.map RouteHop.ttl).Nodup) :
    UnionOf runs (aggregateRuns runs) := by
  have httls : (aggregateRuns runs).hops.map RouteHopStats.ttl = ttlsOf runs := by
    rw [hops_aggregateRuns, List.map_map]
    exact List.map_id _
  refine ⟨rfl, ?_, fun ttl => ?_, fun s hs => ?_⟩
  · rw [httls]
    exact pairwise_ttlsOf runs
  · rw [httls]
    exact mem_ttlsOf
  · rw [hops_aggregateRuns] at hs
    obtain ⟨ttl, -, rfl⟩ := List.mem_map.mp hs
    exact unionHop_stats hdistinct ttl

/-- Two statistics of a hop that differ in the order of the addresses and of the raw samples, in the
host name and in the jitter only. -/
structure SameHop (s s' : RouteHopStats) : Prop where
  ttl : s.ttl = s'.ttl
  answered : s.answered = s'.answered
  addrs : s.addrs.Perm s'.addrs
  rtt : SameSummary s.rtt s'.rtt
  pathChanged : s.pathChanged = s'.pathChanged

structure SameRoute (r r' : RouteRepeat) : Prop where
  runs : r.runs = r'.runs
  hops : List.Forall₂ SameHop r.hops r'.hops

lemma sameHop_of_gathered {hops hops' : List RouteHop} {entry entry' : HopEntry}
    (h : Gathered hops entry) (h' : Gathered hops' entry') (hperm : hops.Perm hops')
    (ttl : UInt8) : SameHop (entry.stats ttl) (entry'.stats ttl) := by
  have haddrs : entry.addrs.Perm entry'.addrs := by
    rw [List.perm_ext_iff_of_nodup h.nodup h'.nodup]
    intro addr
    rw [h.addrs, h'.addrs]
    simp only [hperm.mem_iff]
  have hanswered : entry.answered = entry'.answered := by
    rw [← UInt16.toNat_inj, h.answered, h'.answered, hperm.countP_eq]
  have hsamples : entry.latency.samples.Perm entry'.latency.samples := by
    rw [h.latency, h'.latency]
    exact (hperm.filter _).filterMap _
  refine ⟨rfl, hanswered, haddrs, summarize_perm hsamples, ?_⟩
  change decide (1 < entry.addrs.length) = decide (1 < entry'.addrs.length)
  rw [haddrs.length_eq]

lemma aggregateRuns_perm {runs runs' : List (List RouteHop)} (hperm : runs.Perm runs') :
    SameRoute (aggregateRuns runs) (aggregateRuns runs') := by
  have httls : ttlsOf runs = ttlsOf runs' := Grouping.keys_group_of_perm hperm.flatten
  refine ⟨hperm.length_eq, ?_⟩
  rw [hops_aggregateRuns, hops_aggregateRuns, httls, List.forall₂_map_left_iff,
    List.forall₂_map_right_iff]
  refine List.forall₂_same.mpr (fun ttl _ => ?_)
  exact sameHop_of_gathered (gathered_foldl _) (gathered_foldl _) (hperm.flatten.filter _) ttl

/-- Aggregation is the union of the runs, whatever their order. -/
theorem aggregateRuns_union (runs : List (List RouteHop))
    (hdistinct : ∀ run ∈ runs, (run.map RouteHop.ttl).Nodup) :
    UnionOf runs (aggregateRuns runs) ∧
    ∀ other : List (List RouteHop), other.Perm runs →
      SameRoute (aggregateRuns other) (aggregateRuns runs) :=
  ⟨unionOf_aggregateRuns hdistinct, fun _ hperm => aggregateRuns_perm hperm⟩

/-- A run of one hop. -/
def oneHop (ms : UInt64) : List RouteHop :=
  [⟨1, some (.v4 (.new 192 0 2 1)), none, some ms, false⟩]

theorem aggregateRuns_union_oneHop :
    UnionOf [oneHop 3, oneHop 5] (aggregateRuns [oneHop 3, oneHop 5]) :=
  (aggregateRuns_union [oneHop 3, oneHop 5] (by decide)).1

/-- The same runs in two orders: the variance of the samples is 4, and a sum rounded on the way is
below it. -/
theorem aggregateRuns_jitter_depends_on_order :
    let runs := [0, 4, 0, 2, 0, 4, 0, 5, 0].map oneHop
    let runs' := [0, 0, 0, 0, 5, 2, 4, 4, 0].map oneHop
    runs.Perm runs' ∧ (∀ run ∈ runs, (run.map RouteHop.ttl).Nodup) ∧
    (aggregateRuns runs).hops.map (fun s => s.rtt.jitter) = [some 2] ∧
    (aggregateRuns runs').hops.map (fun s => s.rtt.jitter) = [some 1] := by
  decide +kernel

lemma probeHop_ttl {target : IpAddr} {cfg : TracerouteConfig} {io : Nat → ProbeIo} {ttl : UInt8}
    {probes : List Nat} {hop : RouteHop} (h : Ends (probeHop target cfg io ttl probes) (.ok hop)) :
    hop.ttl = ttl := by
  induction probes with
  | nil => rw [← ends_pure_ok_iff.mp h]
  | cons probe probes ih =>
    obtain ⟨localPort, -, h⟩ := h.ok_of_bind
    dsimp only at h
    split at h
    case h_1 => exact absurd h not_ends_none
    case h_2 reply _ => rw [← ends_pure_ok_iff.mp h]
    case h_3 => exact ih h

/-- The hops have the TTLs that were tried, in their order. -/
lemma traceHops_ttls {target : IpAddr} {cfg : TracerouteConfig} {io : UInt8 → Nat → ProbeIo}
    {ttls : List UInt8} {hops : List RouteHop}
    (h : Ends (traceHops target cfg io ttls) (.ok hops)) : hops.map RouteHop.ttl <+: ttls := by
  induction ttls generalizing hops with
  | nil =>
    obtain rfl := ends_pure_ok_iff.mp h
    exact List.prefix_rfl
  | cons ttl ttls ih =>
    obtain ⟨hop, hhop, h⟩ := h.ok_of_bind
    have httl := probeHop_ttl hhop
    by_cases hstop : hop.addr = some target ∧ hop.lost = false
    · rw [if_pos hstop] at h
      rw [← ends_pure_ok_iff.mp h, List.map_singleton, httl]
      exact List.prefix_append [ttl] ttls
    · rw [if_neg hstop] at h
      obtain ⟨rest, hrest, h⟩ := h.ok_of_bind
      rw [← ends_pure_ok_iff.mp h, List.map_cons, httl]
      exact List.cons_prefix_cons.mpr ⟨rfl, ih hrest⟩

lemma nodup_ttls (n : UInt8) : ((List.range' 1 n.toNat).map UInt8.ofNat).Nodup := by
  refine List.Nodup.map_on (fun a ha b hb hab => ?_) List.nodup_range'
  have hn := n.toNat_lt
  obtain ⟨-, ha⟩ := List.mem_range'_1.mp ha
  obtain ⟨-, hb⟩ := List.mem_range'_1.mp hb
  have hnat := congrArg UInt8.toNat hab
  rw [UInt8.toNat_ofNat', UInt8.toNat_ofNat'] at hnat
  omega

theorem tracerouteLinux_distinct {target : IpAddr} {cfg : TracerouteConfig}
    {socket : Except String Unit} {io : UInt8 → Nat → ProbeIo} {hops : List RouteHop}
    (h : Ends (tracerouteLinux target cfg socket io) (.ok hops)) :
    (hops.map RouteHop.ttl).Nodup := by
  cases target with
  | v6 ip => cases h
  | v4 ip =>
    obtain ⟨_, -, h⟩ := h.ok_of_bind
    exact (nodup_ttls cfg.maxHops).sublist (traceHops_ttls h).sublist

lemma ends_mapM {α β ε : Type} {f : α → ExceptT ε Option β} {l : List α} {bs : List β}
    (h : Ends (l.mapM f) (.ok bs)) : List.Forall₂ (fun a b => Ends (f a) (.ok b)) l bs := by
  induction l generalizing bs with
  | nil =>
    rw [List.mapM_nil] at h
    rw [← ends_pure_ok_iff.mp h]
    exact .nil
  | cons a l ih =>
    rw [List.mapM_cons] at h
    obtain ⟨b, hb, h⟩ := h.ok_of_bind
    obtain ⟨rest, hrest, h⟩ := h.ok_of_bind
    rw [← ends_pure_ok_iff.mp h]
    exact .cons hb (ih hrest)

/-- A repeated traceroute reports the union of its traces. -/
theorem tracerouteRepeat_union {target : IpAddr} {cfg : TracerouteConfig}
    {socket : Nat → Except String Unit} {io : Nat → UInt8 → Nat → ProbeIo} {count : Nat}
    {r : RouteRepeat} (h : Ends (tracerouteRepeat
      (fun i => tracerouteLinux target cfg (socket i) (io i)) count) (.ok r)) :
    ∃ runs, List.Forall₂ (fun i run => Ends (tracerouteLinux target cfg (socket i) (io i))
      (.ok run)) (List.range (max count 1)) runs ∧ UnionOf runs r := by
  obtain ⟨runs, hruns, h⟩ := h.ok_of_bind
  have hall := ends_mapM hruns
  refine ⟨runs, hall, ?_⟩
  rw [← ends_pure_ok_iff.mp h]
  refine unionOf_aggregateRuns (fun run hrun => ?_)
  obtain ⟨i, hi, hget⟩ := List.mem_iff_getElem.mp hrun
  have hi' : i < (List.range (max count 1)).length := by
    rw [hall.length_eq]
    exact hi
  have htrace := List.forall₂_iff_get.mp hall
  rw [← hget]
  exact tracerouteLinux_distinct (htrace.2 i hi' hi)

end IpTools
