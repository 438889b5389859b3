import IpTools.Cli.DiagnoseOne
import IpTools.Cli.RunProbeFlow

/-!
# The order of completion

Neither the probe flow nor the collection of a diagnosed target depends on the order in which
tasks complete: results are tagged with their places, and sorted by keys that are distinct.
-/

namespace IpTools

open StableSort TaskPool

variable {O : Type}

section Places

variable {α β : Type} {l : List (Nat × α)}

lemma sortByIdx_eq_sortByKey (l : List (Nat × α)) : sortByIdx l = sortByKey Prod.fst l := by
  unfold sortByIdx sortByKey
  congr 1
  funext a b
  exact Bool.eq_iff_iff.mpr (decide_eq_true_iff.trans Nat.isLE_compare.symm)

/-- The entry of a place that is held once. -/
lemma filter_place (hnodup : (l.map Prod.fst).Nodup) {e : Nat × α} (he : e ∈ l) :
    l.filter (fun a => a.1 = e.1) = [e] := by
  induction l with
  | nil => cases he
  | cons a l ih =>
    rw [List.map_cons, List.nodup_cons] at hnodup
    rcases List.mem_cons.mp he with rfl | he
    · have hrest : l.filter (fun a => a.1 = e.1) = [] := by
        refine List.filter_eq_nil_iff.mpr (fun a ha hae => hnodup.1 ?_)
        rw [← of_decide_eq_true hae]
        exact List.mem_map_of_mem ha
      rw [List.filter_cons_of_pos (by simp), hrest]
    · have hne : a.1 ≠ e.1 := fun hae => hnodup.1 (hae ▸ List.mem_map_of_mem he)
      rw [List.filter_cons_of_neg (by simp [hne]), ih hnodup.2 he]

lemma map_fst_resolveItems (targets : List Target) :
    (resolveItems targets).map Prod.fst = List.range' 0 targets.length := by
  unfold resolveItems
  rw [List.map_map]
  exact List.zipIdx_map_snd 0 targets

lemma mem_resolveItems {targets : List Target} {i : Nat} {target : Target} :
    (i, target) ∈ resolveItems targets ↔ targets[i]? = some target := by
  unfold resolveItems
  rw [List.mem_map]
  constructor
  · rintro ⟨t, ht, heq⟩
    cases heq
    exact List.mem_zipIdx_iff_getElem?.mp ht
  · intro h
    exact ⟨(target, i), List.mem_zipIdx_iff_getElem?.mpr h, rfl⟩

lemma ascending_of_places (h : ∃ n, l.map Prod.fst = List.range' 0 n) :
    Ascending Prod.fst l := by
  obtain ⟨n, hn⟩ := h
  have hlt : (l.map Prod.fst).Pairwise (· < ·) := by
    rw [hn]
    exact List.pairwise_lt_range'
  exact (List.pairwise_map.mp hlt).imp (fun h => Nat.isLE_compare.mpr (Nat.le_of_lt h))

/-- The sort by places undoes every order of completion. -/
lemma sortByIdx_order {f : Nat × β → Nat × α} (hf : ∀ item, (f item).1 = item.1)
    {items order : List (Nat × β)} (hperm : order.Perm items)
    (hplaces : ∃ n, items.map Prod.fst = List.range' 0 n) :
    sortByIdx (order.map f) = items.map f := by
  have hnodup : (items.map Prod.fst).Nodup := by
    obtain ⟨n, hn⟩ := hplaces
    rw [hn]
    exact List.nodup_range'
  rw [sortByIdx_eq_sortByKey, sortByKey_map]
  simp only [hf]
  rw [sortByKey_eq_of_perm hperm hnodup, sortByKey_of_ascending (ascending_of_places hplaces)]

end Places

/-- The results that are held for a target. -/
def resultsAt (perTarget : List (Option (List O))) (i : Nat) : List O :=
  (perTarget[i]?.join).getD []

lemma resultsAt_pushResult {perTarget : List (Option (List O))} {item : ProbeItem × O}
    (h : item.1.idx < perTarget.length) (i : Nat) :
    resultsAt (pushResult perTarget item) i =
      resultsAt perTarget i ++ if item.1.idx = i then [item.2] else [] := by
  unfold resultsAt pushResult
  rw [List.getElem?_modify]
  by_cases hi : item.1.idx = i
  · subst hi
    rw [List.getElem?_eq_getElem h]
    simp
  · simp [hi]

/-- The results of a target are grouped in the order they came in. -/
lemma resultsAt_groupResults {n : Nat} {probed : List (ProbeItem × O)}
    (h : ∀ item ∈ probed, item.1.idx < n) (i : Nat) :
    resultsAt (groupResults n probed) i =
      (probed.filter (fun item => item.1.idx = i)).map Prod.snd := by
  have hlength : (groupResults n probed).length = n ∧ resultsAt (groupResults n probed) i =
      (probed.filter (fun item => item.1.idx = i)).map Prod.snd := by
    induction probed using List.reverseRecOn with
    | nil =>
      refine ⟨List.length_replicate, ?_⟩
      unfold resultsAt groupResults
      rw [List.foldl_nil, List.getElem?_replicate]
      split <;> rfl
    | append_singleton probed item ih =>
      obtain ⟨hlength, hresults⟩ := ih (fun item hitem => h item (List.mem_append_left _ hitem))
      have hgroup : groupResults n (probed ++ [item]) =
          pushResult (groupResults n probed) item := List.foldl_concat ..
      rw [hgroup]
      constructor
      · exact (List.length_modify _ _ _).trans hlength
      · rw [resultsAt_pushResult (by rw [hlength]; exact h item (by simp)), hresults,
          List.filter_append, List.map_append]
        by_cases hi : item.1.idx = i <;> simp [hi]
  exact hlength.2

lemma resultsAt_set (perTarget : List (Option (List O))) {i j : Nat} (h : i ≠ j) :
    resultsAt (perTarget.set i none) j = resultsAt perTarget j := by
  unfold resultsAt
  rw [List.getElem?_set_ne h]

/-- Taking the results of one target leaves those of the others. -/
lemma collectTargets_eq (sortKey : O → SocketAddr) {resolved : List ResolvedTarget}
    (hnodup : (resolved.map Prod.fst).Nodup) (perTarget : List (Option (List O))) :
    collectTargets sortKey perTarget resolved = resolved.map (fun r =>
      (r.1, r.2.map (fun t => (t.1, sortByAddr sortKey (resultsAt perTarget r.1))))) := by
  induction resolved generalizing perTarget with
  | nil => rfl
  | cons r resolved ih =>
    rw [List.map_cons, List.nodup_cons] at hnodup
    obtain ⟨idx, output⟩ := r
    cases output with
    | none =>
      rw [collectTargets, ih hnodup.2]
      rfl
    | some t =>
      obtain ⟨host, dests⟩ := t
      rw [collectTargets, ih hnodup.2, List.map_cons]
      refine congrArg₂ List.cons rfl (List.map_congr_left (fun r hr => ?_))
      have hne : idx ≠ r.1 := by
        have hmem := List.mem_map_of_mem (f := Prod.fst) hr
        rintro rfl
        exact hnodup.1 hmem
      rw [resultsAt_set perTarget hne]

lemma SocketAddr.new_injective (port : UInt16) :
    Function.Injective (fun ip => SocketAddr.new ip port) := by
  rintro (ip | ip) (ip' | ip') h
  · cases h
    rfl
  · cases h
  · cases h
  · cases h
    rfl

lemma retainFirst_nodup (addrs : List IpAddr) : (retainFirst addrs).Nodup :=
  RunningDedup.nodup_firsts id [] addrs

/-- No destination of a target is probed twice. -/
lemma resolveTarget_nodup {resolvers : Resolvers} {flags : FamilyFlags} {target : Target}
    {host : List Char} {dests : List SocketAddr}
    (h : resolveTarget resolvers flags target = some (host, dests)) : dests.Nodup := by
  have haddrs : ∀ addrs, resolveForTcpServers resolvers target.host = .ok addrs →
      addrs.Nodup := by
    intro addrs haddrs
    unfold resolveForTcpServers at haddrs
    dsimp only at haddrs
    split at haddrs
    · cases haddrs
      exact List.nodup_singleton _
    · split at haddrs
      · cases haddrs
      · cases haddrs
        exact retainFirst_nodup _
  unfold resolveTarget at h
  split at h
  · cases h
  · rename_i addrs hok
    dsimp only at h
    split at h
    · cases h
    · cases h
      exact ((haddrs addrs hok).filter _).map (SocketAddr.new_injective target.port)

lemma addresses_ne_nil {resolvers : Resolvers} {host : List Char} {addrs : List IpAddr}
    (h : resolveForTcpServers resolvers host = .ok addrs) : addrs ≠ [] := by
  unfold resolveForTcpServers at h
  dsimp only at h
  split at h
  · cases h
    exact List.cons_ne_nil _ _
  · split at h
    case isTrue => cases h
    case isFalse hne =>
      cases h
      exact fun hnil => hne (List.isEmpty_iff.mpr (RunningDedup.firsts_eq_nil_iff.mp hnil))

/-- A target that is resolved has a destination. -/
lemma resolveTarget_ne_nil {resolvers : Resolvers} {flags : FamilyFlags} {target : Target}
    {host : List Char} {dests : List SocketAddr}
    (h : resolveTarget resolvers flags target = some (host, dests)) : dests ≠ [] := by
  unfold resolveTarget at h
  split at h
  case h_1 => cases h
  case h_2 addrs hok =>
    dsimp only at h
    split at h
    case isTrue => cases h
    case isFalse hscope =>
      cases h
      intro hnil
      rw [hnil, List.isEmpty_nil, Bool.true_and, Bool.or_eq_true, not_or] at hscope
      have hkeeps : addrs.filter flags.keeps = addrs := by
        refine List.filter_eq_self.mpr (fun ip _ => ?_)
        unfold FamilyFlags.keeps
        rw [if_neg hscope.1, if_neg hscope.2]
      rw [hkeeps] at hnil
      exact addresses_ne_nil hok (List.map_eq_nil_iff.mp hnil)

/-! ### The flow -/

/-- The targets with what they resolve to, in input order. -/
def ProbeFlow.resolvedTargets (flow : ProbeFlow O) (targets : List Target) :
    List ResolvedTarget :=
  (resolveItems targets).map flow.resolveTask

/-- What one target resolves to. -/
def ProbeFlow.destinations (flow : ProbeFlow O) (targets : List Target) (i : Nat) :
    List SocketAddr :=
  (targets[i]?.bind (resolveTarget (flow.resolvers i) flow.flags)).elim [] Prod.snd

/-- The report as a function of the targets: for each one that resolves, in input order, the
results of its own destinations in their order, and the number of the others. -/
def ProbeFlow.expected (flow : ProbeFlow O) (targets : List Target) : FlowResult O where
  perTarget := (flow.resolvedTargets targets).filterMap (fun r =>
    r.2.map (fun t =>
      (t.1, (sortByKey id t.2).map (flow.probe r.1 (flow.sni.getD t.1)))))
  unresolved := (flow.resolvedTargets targets).countP (fun r => r.2.isNone)

section Flow

variable {flow : ProbeFlow O} {targets : List Target}

lemma map_fst_resolvedTargets (flow : ProbeFlow O) (targets : List Target) :
    (flow.resolvedTargets targets).map Prod.fst = List.range' 0 targets.length := by
  unfold ProbeFlow.resolvedTargets
  rw [List.map_map]
  exact map_fst_resolveItems targets

lemma nodup_places (flow : ProbeFlow O) (targets : List Target) :
    ((flow.resolvedTargets targets).map Prod.fst).Nodup := by
  rw [map_fst_resolvedTargets]
  exact List.nodup_range'

lemma mem_resolvedTargets {i : Nat} {output : Option (List Char × List SocketAddr)} :
    (i, output) ∈ flow.resolvedTargets targets ↔
      ∃ target, targets[i]? = some target ∧
        resolveTarget (flow.resolvers i) flow.flags target = output := by
  unfold ProbeFlow.resolvedTargets
  rw [List.mem_map]
  constructor
  · rintro ⟨⟨j, target⟩, hmem, heq⟩
    cases heq
    exact ⟨target, mem_resolveItems.mp hmem, rfl⟩
  · rintro ⟨target, hget, rfl⟩
    exact ⟨(i, target), mem_resolveItems.mpr hget, rfl⟩

/-- However the first map completes, its results are sorted into the order of the targets. -/
lemma sortByIdx_resolved {resolved : List ResolvedTarget}
    (h : ParallelMapped flow.resolveTask flow.concurrency (resolveItems targets) resolved) :
    sortByIdx resolved = flow.resolvedTargets targets := by
  obtain ⟨s, n, hcompleted, rfl⟩ := h
  obtain ⟨order, hperm, hreturned⟩ := hcompleted.exists_order
  rw [hreturned]
  exact sortByIdx_order (f := flow.resolveTask) (fun _ => rfl) hperm
    ⟨_, map_fst_resolveItems targets⟩

lemma filter_probeItems (resolved : List ResolvedTarget) (i : Nat) :
    (probeItems resolved).filter (fun item => item.idx = i) =
      probeItems (resolved.filter (fun r => r.1 = i)) := by
  unfold probeItems
  induction resolved with
  | nil => rfl
  | cons r resolved ih =>
    rw [List.flatMap_cons, List.filter_append, ih]
    obtain ⟨idx, output⟩ := r
    by_cases hi : idx = i
    · rw [List.filter_cons_of_pos (by simp [hi]), List.flatMap_cons]
      congr 1
      cases output with
      | none => rfl
      | some t => exact List.filter_eq_self.mpr (fun item hitem => by
          obtain ⟨d, -, rfl⟩ := List.mem_map.mp hitem
          exact decide_eq_true hi)
    · rw [List.filter_cons_of_neg (by simp [hi])]
      cases output with
      | none => rfl
      | some t =>
        rw [List.filter_eq_nil_iff.mpr (fun item hitem => by
          obtain ⟨d, -, rfl⟩ := List.mem_map.mp hitem
          simpa using hi)]
        rfl

/-- The items of one target are its destinations. -/
lemma filter_probeItems_of_mem {i : Nat} {host : List Char} {dests : List SocketAddr}
    (h : (i, some (host, dests)) ∈ flow.resolvedTargets targets) :
    (probeItems (flow.resolvedTargets targets)).filter (fun item => item.idx = i) =
      dests.map (fun d => ⟨i, host, d⟩) := by
  rw [filter_probeItems, filter_place (nodup_places flow targets) h]
  exact List.append_nil _

lemma idx_lt_of_mem_probeItems {item : ProbeItem}
    (h : item ∈ probeItems (flow.resolvedTargets targets)) : item.idx < targets.length := by
  obtain ⟨⟨idx, output⟩, hr, hitem⟩ := List.mem_flatMap.mp h
  cases output with
  | none => cases hitem
  | some t =>
    obtain ⟨d, -, rfl⟩ := List.mem_map.mp hitem
    obtain ⟨target, hget, -⟩ := mem_resolvedTargets.mp hr
    exact (List.getElem?_eq_some_iff.mp hget).1

/-- However the second map completes, the results of a target are sorted into the order of its
destinations. -/
lemma sortByAddr_results (hkey : ∀ i host d, flow.sortKey (flow.probe i host d) = d) {i : Nat}
    {host : List Char} {dests : List SocketAddr}
    (hmem : (i, some (host, dests)) ∈ flow.resolvedTargets targets) {order : List ProbeItem}
    (hperm : order.Perm (probeItems (flow.resolvedTargets targets))) :
    sortByAddr flow.sortKey
        (resultsAt (groupResults targets.length (order.map flow.probeTask)) i) =
      (sortByKey id dests).map (flow.probe i (flow.sni.getD host)) := by
  have hidx : ∀ e ∈ order.map flow.probeTask, e.1.idx < targets.length := by
    intro e he
    obtain ⟨item, hitem, rfl⟩ := List.mem_map.mp he
    exact idx_lt_of_mem_probeItems (hperm.mem_iff.mp hitem)
  have hnodup : dests.Nodup := by
    obtain ⟨target, -, htarget⟩ := mem_resolvedTargets.mp hmem
    exact resolveTarget_nodup htarget
  have hitems : (order.filter (fun item => item.idx = i)).Perm
      (dests.map (fun d => ⟨i, host, d⟩)) := by
    rw [← filter_probeItems_of_mem hmem]
    exact hperm.filter _
  rw [resultsAt_groupResults hidx, List.filter_map, List.map_map]
  have hsort : ∀ l : List O, sortByAddr flow.sortKey l = sortByKey flow.sortKey l := fun _ => rfl
  rw [hsort, sortByKey_map]
  have hdest : (fun item : ProbeItem => flow.sortKey ((Prod.snd ∘ flow.probeTask) item)) =
      ProbeItem.dest := by
    funext item
    exact hkey item.idx _ item.dest
  have hfilter : ((fun e : ProbeItem × O => decide (e.1.idx = i)) ∘ flow.probeTask) =
      fun item => decide (item.idx = i) := rfl
  rw [hdest, hfilter, sortByKey_eq_of_perm hitems (by
    rw [List.map_map]
    exact hnodup.map (fun _ _ h => h)), sortByKey_map, List.map_map]
  rfl

/-- The report does not depend on the completion of the maps. -/
lemma regroup_eq (hkey : ∀ i host d, flow.sortKey (flow.probe i host d) = d)
    {probed : List (ProbeItem × O)}
    (h : ParallelMapped flow.probeTask flow.concurrency
      (probeItems (flow.resolvedTargets targets)) probed) :
    regroup flow.sortKey targets.length (flow.resolvedTargets targets) probed =
      flow.expected targets := by
  obtain ⟨s, n, hcompleted, rfl⟩ := h
  obtain ⟨order, hperm, hreturned⟩ := hcompleted.exists_order
  rw [hreturned]
  have hcollect : collectTargets flow.sortKey
      (groupResults targets.length (order.map flow.probeTask)) (flow.resolvedTargets targets) =
      (flow.resolvedTargets targets).map (fun r =>
        (r.1, r.2.map (fun t =>
          (t.1, (sortByKey id t.2).map (flow.probe r.1 (flow.sni.getD t.1)))))) := by
    rw [collectTargets_eq _ (nodup_places flow targets)]
    refine List.map_congr_left (fun r hr => ?_)
    obtain ⟨i, output⟩ := r
    cases output with
    | none => rfl
    | some t => rw [Option.map_some, Option.map_some, sortByAddr_results hkey hr hperm]
  have hsorted := sortByIdx_order (f := fun r : ResolvedTarget =>
      (r.1, r.2.map (fun t =>
        (t.1, (sortByKey id t.2).map (flow.probe r.1 (flow.sni.getD t.1))))))
    (fun _ => rfl) (List.Perm.refl (flow.resolvedTargets targets))
    ⟨_, map_fst_resolvedTargets flow targets⟩
  unfold regroup ProbeFlow.expected
  dsimp only
  rw [hcollect, hsorted, List.filterMap_map, List.countP_map]
  congr 2
  funext r
  exact Option.isNone_map

lemma exists_parallelMapped {ι τ : Type} (f : ι → τ) (concurrency : Nat) (items : List ι) :
    ∃ out, ParallelMapped f concurrency items out := by
  obtain ⟨s, hs⟩ := exists_completed f (sharedSemaphore_pos concurrency) items
  exact ⟨_, s, 0, hs, rfl⟩

/-- What a run comes to, as a function of the targets. -/
def ProbeFlow.outcome (flow : ProbeFlow O) (targets : List Target) : Option (FlowResult O) :=
  if flow.refusesTargets targets || flow.refusesDestinations (flow.resolvedTargets targets) then
    none
  else some (flow.expected targets)

theorem runProbeFlow_iff (hkey : ∀ i host d, flow.sortKey (flow.probe i host d) = d)
    (result : Option (FlowResult O)) :
    RunProbeFlow flow targets result ↔ result = flow.outcome targets := by
  unfold ProbeFlow.outcome
  constructor
  · intro h
    cases h with
    | refusedTargets h => rw [h, Bool.true_or, if_pos rfl]
    | refusedDestinations h hresolved hrefused =>
      rw [sortByIdx_resolved hresolved] at hrefused
      rw [hrefused, Bool.or_true, if_pos rfl]
    | report h hresolved haccepted hprobed =>
      rw [sortByIdx_resolved hresolved] at haccepted hprobed ⊢
      rw [h, haccepted, Bool.or_false, if_neg Bool.false_ne_true, regroup_eq hkey hprobed]
  · rintro rfl
    obtain ⟨resolved, hresolved⟩ :=
      exists_parallelMapped flow.resolveTask flow.concurrency (resolveItems targets)
    have hsorted := sortByIdx_resolved hresolved
    cases h : flow.refusesTargets targets with
    | true => exact .refusedTargets h
    | false =>
      cases hrefused : flow.refusesDestinations (flow.resolvedTargets targets) with
      | true => exact .refusedDestinations h hresolved (by rw [hsorted, hrefused])
      | false =>
        obtain ⟨probed, hprobed⟩ := exists_parallelMapped flow.probeTask flow.concurrency
          (probeItems (flow.resolvedTargets targets))
        rw [← hsorted] at hprobed hrefused
        have hreport := RunProbeFlow.report h hresolved hrefused hprobed
        rw [hsorted] at hreport hprobed
        rwa [regroup_eq hkey hprobed] at hreport

/-- Each destination of a target is probed once. -/
lemma startsOf_probed {s : Pool ProbeItem (ProbeItem × O)} {n : Nat}
    (h : Completed flow.probeTask (sharedSemaphore flow.concurrency) s n
      (probeItems (flow.resolvedTargets targets))) (i : Nat) (d : SocketAddr) :
    s.startsOf n (fun item => item.idx = i && item.dest = d) =
      if d ∈ flow.destinations targets i then 1 else 0 := by
  have hsplit : (probeItems (flow.resolvedTargets targets)).countP
      (fun item => item.idx = i && item.dest = d) =
      ((probeItems (flow.resolvedTargets targets)).filter (fun item => item.idx = i)).countP
        (fun item => item.dest = d) := by
    rw [List.countP_filter]
    simp only [Bool.and_comm]
  rw [h.startsOf_eq, hsplit]
  cases htarget : targets[i]? with
  | none =>
    have hnone : flow.destinations targets i = [] := by
      rw [ProbeFlow.destinations, htarget]
      rfl
    rw [hnone, List.filter_eq_nil_iff.mpr, if_neg List.not_mem_nil]
    · rfl
    · intro item hitem hidx
      have hlt := idx_lt_of_mem_probeItems hitem
      rw [of_decide_eq_true hidx] at hlt
      rw [List.getElem?_eq_getElem hlt] at htarget
      cases htarget
  | some target =>
    have hmem : (i, resolveTarget (flow.resolvers i) flow.flags target) ∈
        flow.resolvedTargets targets := mem_resolvedTargets.mpr ⟨target, htarget, rfl⟩
    have hdests : flow.destinations targets i =
        (resolveTarget (flow.resolvers i) flow.flags target).elim [] Prod.snd := by
      rw [ProbeFlow.destinations, htarget]
      rfl
    rw [hdests]
    cases hresolve : resolveTarget (flow.resolvers i) flow.flags target with
    | none =>
      rw [hresolve] at hmem
      rw [filter_probeItems, filter_place (nodup_places flow targets) hmem]
      rfl
    | some t =>
      obtain ⟨host, dests⟩ := t
      rw [hresolve] at hmem
      rw [filter_probeItems_of_mem hmem, List.countP_map]
      exact (resolveTarget_nodup hresolve).count

/-- The results of a target are sorted by the key. -/
lemma ascending_expected (hkey : ∀ i host d, flow.sortKey (flow.probe i host d) = d)
    {t : List Char × List O} (ht : t ∈ (flow.expected targets).perTarget) :
    Ascending flow.sortKey t.2 := by
  obtain ⟨⟨i, output⟩, -, houtput⟩ := List.mem_filterMap.mp ht
  cases output with
  | none => cases houtput
  | some r =>
    cases houtput
    refine List.pairwise_map.mpr ((ascending_sortByKey id r.2).imp ?_)
    intro d d' hle
    rw [hkey, hkey]
    exact hle

end Flow

/-! ### A diagnosed target -/

lemma compare_append {l l' : List Nat} (h : l.length = l'.length) (s s' : List Nat) :
    compare (l ++ s) (l' ++ s') = (compare l l').then (compare s s') := by
  induction l generalizing l' with
  | nil =>
    rw [List.length_nil] at h
    rw [List.length_eq_zero_iff.mp h.symm]
    rfl
  | cons a l ih =>
    cases l' with
    | nil => cases h
    | cons b l' =>
      have htail := ih (Nat.succ.inj h)
      change List.compareLex compare (a :: (l ++ s)) (b :: (l' ++ s')) =
        (List.compareLex compare (a :: l) (b :: l')).then _
      rw [List.compareLex_cons_cons, List.compareLex_cons_cons, Ordering.then_assoc]
      exact congrArg _ htail

/-- Destinations of one port are ordered as their addresses. -/
lemma SocketAddr.compare_new (ip ip' : IpAddr) (port : UInt16) :
    compare (SocketAddr.new ip port) (SocketAddr.new ip' port) = compare ip ip' := by
  have hsame : ∀ (k k' s : List Nat), k.length = k'.length →
      compare (k ++ s) (k' ++ s) = compare k k' := by
    intro k k' s hlength
    rw [compare_append hlength, Std.ReflOrd.compare_self, Ordering.then_eq]
  cases ip with
  | v4 ip =>
    cases ip' with
    | v4 ip' => exact hsame _ _ [port.toNat] (by simp)
    | v6 ip' => rfl
  | v6 ip =>
    cases ip' with
    | v4 ip' => rfl
    | v6 ip' => exact hsame _ _ [port.toNat, 0, 0] (by simp)

lemma diagnoseAddresses_nodup (resolvers : Resolvers) (target : Target) :
    (diagnoseAddresses resolvers target).Nodup := by
  unfold diagnoseAddresses
  split
  · exact List.nodup_singleton _
  · exact retainFirst_nodup _

lemma diagnoseDestinations_sorted {resolvers : Resolvers} {family : FamilyScope}
    {target : Target} {dests : List SocketAddr}
    (h : diagnoseDestinations resolvers family target = some dests) :
    dests.Nodup ∧ Ascending id dests := by
  unfold diagnoseDestinations at h
  dsimp only at h
  split at h
  · cases h
  · cases h
    constructor
    · refine List.Nodup.map (SocketAddr.new_injective target.port) ?_
      exact (sortByKey_perm id _).nodup_iff.mpr
        ((diagnoseAddresses_nodup resolvers target).filter _)
    · refine List.pairwise_map.mpr ((ascending_sortByKey id _).imp ?_)
      intro ip ip' hle
      rw [id, id, SocketAddr.compare_new]
      exact hle

/-- The lists in the order of the destinations. -/
def DiagnoseProbes.expected [DebugTables]
    (probes : DiagnoseProbes) (destinations : List SocketAddr) :
    DiagnoseLists where
  tcp := destinations.map probes.tcpTask
  tls := if probes.plain then [] else destinations.map probes.tlsTask
  probes := destinations.flatMap probes.repeatTask

section Diagnose

variable {destinations : List SocketAddr} (hnodup : destinations.Nodup)
  (hsorted : Ascending id destinations)

include hnodup hsorted

lemma sortByKey_order {order : List SocketAddr} (hperm : order.Perm destinations) :
    sortByKey id order = destinations := by
  rw [sortByKey_eq_of_perm hperm (by rwa [List.map_id]), sortByKey_of_ascending hsorted]

lemma sortByKey_parallelMapped {α : Type} {f : SocketAddr → α} {key : α → SocketAddr}
    (hkey : ∀ d, key (f d) = d) {concurrency : Nat} {out : List α}
    (h : ParallelMapped f concurrency destinations out) :
    sortByKey key out = destinations.map f := by
  obtain ⟨s, n, hcompleted, rfl⟩ := h
  obtain ⟨order, hperm, hreturned⟩ := hcompleted.exists_order
  rw [hreturned, sortByKey_map]
  simp only [hkey]
  exact congrArg (List.map f) (sortByKey_order hnodup hsorted hperm)

lemma sortByKey_groups {α : Type} {f : SocketAddr → List α} {key : α → SocketAddr}
    (hkey : ∀ d, ∀ a ∈ f d, key a = d) {concurrency : Nat} {groups : List (List α)}
    (h : ParallelMapped f concurrency destinations groups) :
    sortByKey key groups.flatten = destinations.flatMap f := by
  obtain ⟨s, n, hcompleted, rfl⟩ := h
  obtain ⟨order, hperm, hreturned⟩ := hcompleted.exists_order
  rw [hreturned, ← List.flatMap_def, sortByKey_flatMap f hkey,
    sortByKey_order hnodup hsorted hperm]

end Diagnose

lemma destination_tcpProbe (d : SocketAddr) (timeout : Duration) (connect : Connect) :
    (tcpProbe d timeout connect).destination = d := by
  unfold tcpProbe
  split <;> rfl

lemma destination_tlsProbe [DebugTables] (d : SocketAddr) (sni : String) (timeout : Duration)
    (transport : TlsTransport) (total : Duration) :
    (tlsProbe d sni timeout transport total).destination = d := by
  unfold tlsProbe
  dsimp only
  split <;> rfl

lemma destination_repeatTask (probes : DiagnoseProbes) (d : SocketAddr) :
    ∀ r ∈ probes.repeatTask d, r.destination = d := by
  intro r hr
  unfold DiagnoseProbes.repeatTask at hr
  rcases List.mem_cons.mp hr with rfl | hr
  · rfl
  · rw [List.mem_singleton.mp hr]
    rfl

/-- The lists of a diagnosed target are in the order of its destinations. -/
theorem diagnoseOne_iff [DebugTables] {destinations : List SocketAddr} (hnodup : destinations.Nodup)
    (hsorted : Ascending id destinations) (probes : DiagnoseProbes) (lists : DiagnoseLists) :
    DiagnoseOne probes destinations lists ↔ lists = probes.expected destinations := by
  have htcpKey : ∀ d, (probes.tcpTask d).destination = d := fun d => destination_tcpProbe d _ _
  have htlsKey : ∀ d, (probes.tlsTask d).destination = d :=
    fun d => destination_tlsProbe d _ _ _ _
  have hcollected : ∀ {tcp tls groups},
      ParallelMapped probes.tcpTask probes.concurrency destinations tcp →
      (if probes.plain then tls = []
        else ParallelMapped probes.tlsTask probes.concurrency destinations tls) →
      ParallelMapped probes.repeatTask probes.concurrency destinations groups →
      ({ tcp := sortByKey TcpObservation.destination tcp
         tls := sortByKey TlsObservation.destination tls
         probes := sortByKey ProbeResult.destination groups.flatten } : DiagnoseLists) =
        probes.expected destinations := by
    intro tcp tls groups htcp htls hprobes
    unfold DiagnoseProbes.expected
    rw [sortByKey_parallelMapped hnodup hsorted htcpKey htcp,
      sortByKey_groups hnodup hsorted (destination_repeatTask probes) hprobes]
    cases hplain : probes.plain with
    | true =>
      rw [hplain, if_pos rfl] at htls
      have hnil : sortByKey TlsObservation.destination [] = [] := List.mergeSort_nil
      rw [htls, hnil]
      rfl
    | false =>
      rw [hplain, if_neg Bool.false_ne_true] at htls
      rw [sortByKey_parallelMapped hnodup hsorted htlsKey htls]
      rfl
  constructor
  · intro h
    cases h with
    | collected htcp htls hprobes => exact hcollected htcp htls hprobes
  · rintro rfl
    obtain ⟨tcp, htcp⟩ := exists_parallelMapped probes.tcpTask probes.concurrency destinations
    obtain ⟨groups, hprobes⟩ :=
      exists_parallelMapped probes.repeatTask probes.concurrency destinations
    have htls : ∃ tls, if probes.plain then tls = []
        else ParallelMapped probes.tlsTask probes.concurrency destinations tls := by
      cases probes.plain with
      | true => exact ⟨[], rfl⟩
      | false => exact exists_parallelMapped _ _ _
    obtain ⟨tls, htls⟩ := htls
    rw [← hcollected htcp htls hprobes]
    exact .collected htcp htls hprobes

/-- Reports and lists are functions of the targets, whatever the order of completion, and no
destination of a target is left out or probed twice. -/
theorem completion_order_irrelevant [DebugTables] (flow : ProbeFlow O)
    (hkey : ∀ i host d, flow.sortKey (flow.probe i host d) = d) (targets : List Target) :
    (∀ result, RunProbeFlow flow targets result ↔ result = flow.outcome targets) ∧
    (∀ resolved s n,
      ParallelMapped flow.resolveTask flow.concurrency (resolveItems targets) resolved →
      Completed flow.probeTask (sharedSemaphore flow.concurrency) s n
        (probeItems (sortByIdx resolved)) →
      ∀ i d, s.startsOf n (fun item => item.idx = i && item.dest = d) =
        if d ∈ flow.destinations targets i then 1 else 0) ∧
    (∀ t ∈ (flow.expected targets).perTarget, Ascending flow.sortKey t.2) ∧
    ∀ (resolvers : Resolvers) (family : FamilyScope) (target : Target)
      (destinations : List SocketAddr) (probes : DiagnoseProbes) (lists : DiagnoseLists),
      diagnoseDestinations resolvers family target = some destinations →
        (DiagnoseOne probes destinations lists ↔ lists = probes.expected destinations) := by
  refine ⟨fun result => runProbeFlow_iff hkey result, ?_,
    fun t ht => ascending_expected hkey ht, ?_⟩
  · intro resolved s n hresolved hprobed i d
    rw [sortByIdx_resolved hresolved] at hprobed
    exact startsOf_probed hprobed i d
  · intro resolvers family target destinations probes lists h
    obtain ⟨hnodup, hsorted⟩ := diagnoseDestinations_sorted h
    exact diagnoseOne_iff hnodup hsorted probes lists

/-- Two targets of one host, and a host diagnosed over its only address. -/
theorem completion_order_irrelevant_twice :
    letI := DebugTables.none
    let flow : ProbeFlow TcpObservation :=
      { concurrency := 4
        resolvers := fun _ =>
          ⟨fun _ _ => [], [], fun _ _ rt => ⟨"", .system, rt, [], none, none, none⟩,
            [], fun _ _ rt => ⟨"", .system, rt, [], none, none, none⟩⟩
        flags := ⟨false, false⟩
        sni := none
        outputBody := none
        probe := fun _ _ d => ⟨d, true, some 1, none⟩
        sortKey := TcpObservation.destination }
    let target : Target := ⟨"127.0.0.1".toList, 443⟩
    let dest : SocketAddr := .v4 ⟨.new 127 0 0 1, 443⟩
    RunProbeFlow flow [target, target] (some ⟨[(target.host, [⟨dest, true, some 1, none⟩]),
      (target.host, [⟨dest, true, some 1, none⟩])], 0⟩) ∧
    ∀ probes, DiagnoseOne probes [dest] (probes.expected [dest]) := by
  intro flow target dest
  let := DebugTables.none
  obtain ⟨hflow, -, -, hdiagnose⟩ :=
    completion_order_irrelevant flow (fun _ _ _ => rfl) [target, target]
  refine ⟨(hflow _).mpr (by decide +kernel), fun probes => ?_⟩
  exact (hdiagnose (flow.resolvers 0) .both target [dest] probes _ (by decide +kernel)).mpr rfl

end IpTools
