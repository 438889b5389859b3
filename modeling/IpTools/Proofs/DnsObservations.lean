import IpTools.Dns.Repeat
import IpTools.Proofs.MessageSafety
import IpTools.Proofs.RepeatAccounting

/-!
# DNS observations

Every path of a query ends in an observation with either a latency or an error, and the rows of
repeated queries account for every attempt by that shape.
-/

namespace IpTools

open StableSort

/-- An observation has either a latency or an error, and with an error neither records nor TTL. -/
structure DnsObservation.WellFormed (obs : DnsObservation) : Prop where
  exclusive : obs.latencyMs.isSome = !obs.error.isSome
  bare : obs.error.isSome = true → obs.records = [] ∧ obs.ttl = none

theorem wellFormed_query (outcome : Timed NetError (List LookupAnswer))
    (elapsed timeout : Duration) (kind : ResolverKind) (host : String)
    (recordType : DnsRecordType) :
    (query outcome elapsed timeout kind host recordType).WellFormed := by
  unfold query
  cases outcome with
  | ok answers => exact ⟨rfl, fun h => absurd h Bool.false_ne_true⟩
  | err e => exact ⟨rfl, fun _ => ⟨rfl, rfl⟩⟩
  | elapsed => exact ⟨rfl, fun _ => ⟨rfl, rfl⟩⟩

/-- An observation before any step. -/
structure DnsObservation.Blank (base : DnsObservation) : Prop where
  records : base.records = []
  ttl : base.ttl = none
  latencyMs : base.latencyMs = none
  error : base.error = none

lemma blank_base (host : String) (resolver : ResolverKind) (recordType : DnsRecordType) :
    (DnsObservation.base host resolver recordType).Blank := ⟨rfl, rfl, rfl, rfl⟩

/-- An observation without the label of its resolver and the text of its error. -/
def DnsObservation.unlabelled (obs : DnsObservation) : DnsObservation :=
  { obs with
    resolver := .system
    error := obs.error.map (fun e => { e with message := "" }) }

lemma unlabelled_failed (base : DnsObservation) (kind : FailureKind) (message : String) :
    (base.failed kind message).unlabelled = { base with
      resolver := .system
      error := some ⟨kind, ""⟩ } := by
  simp [DnsObservation.unlabelled, DnsObservation.failed]

lemma fields_of_unlabelled {obs obs' : DnsObservation} (h : obs.unlabelled = obs'.unlabelled) :
    obs.records = obs'.records ∧ obs.ttl = obs'.ttl ∧ obs.latencyMs = obs'.latencyMs ∧
      obs.error.isSome = obs'.error.isSome := by
  have herror := congrArg (fun o => o.error.isSome) h
  simp only [DnsObservation.unlabelled, Option.isSome_map] at herror
  exact ⟨(congrArg DnsObservation.records h :), (congrArg DnsObservation.ttl h :),
    (congrArg DnsObservation.latencyMs h :), herror⟩

lemma wellFormed_of_unlabelled {obs obs' : DnsObservation}
    (h : obs.unlabelled = obs'.unlabelled) (hobs : obs.WellFormed) : obs'.WellFormed := by
  obtain ⟨hrecords, httl, hlatency, herror⟩ := fields_of_unlabelled h
  obtain ⟨hexclusive, hbare⟩ := hobs
  rw [hlatency, herror] at hexclusive
  rw [herror, hrecords, httl] at hbare
  exact ⟨hexclusive, hbare⟩

lemma error_of_unlabelled {obs obs' : DnsObservation} (h : obs.unlabelled = obs'.unlabelled) :
    obs.error = none ↔ obs'.error = none := by
  obtain ⟨-, -, -, herror⟩ := fields_of_unlabelled h
  rw [← Option.not_isSome_iff_eq_none, ← Option.not_isSome_iff_eq_none, herror]

/-- A response that answers its question. -/
def Answered (bytes : List UInt8) (recordType : DnsRecordType) : Prop :=
  ∃ parsed, parseDnsResponse bytes recordType = .ok parsed ∧ parsed.rcode = 0 ∧
    parsed.records ≠ []

/-- The two encrypted paths make the same of a response. -/
theorem unlabelled_answers (base : DnsObservation) (resolver : ResolverKind)
    (dohEndpoint dotEndpoint host : String) (recordType : DnsRecordType) (bytes : List UInt8)
    (elapsed : Duration) :
    (dohAnswer base dohEndpoint host recordType bytes elapsed).map DnsObservation.unlabelled =
      (dotAnswer { base with resolver := resolver } dotEndpoint host recordType bytes elapsed).map
        DnsObservation.unlabelled := by
  unfold dohAnswer dotAnswer
  cases parseDnsResponse bytes recordType with
  | error e =>
    cases e with
    | panic => rfl
    | message msg => simp only [Option.map_some, unlabelled_failed]
  | ok parsed =>
    dsimp only
    split
    · split <;> simp only [Option.map_some, unlabelled_failed]
    · split <;> rfl

section Wire

variable {base : DnsObservation} (hbase : base.Blank)

include hbase

lemma wellFormed_failed (error : ProbeError) :
    ({ base with error := some error } : DnsObservation).WellFormed :=
  ⟨by rw [hbase.latencyMs]; rfl, fun _ => ⟨hbase.records, hbase.ttl⟩⟩

lemma wellFormed_dohAnswer (endpoint host : String) (recordType : DnsRecordType)
    (bytes : List UInt8) (elapsed : Duration) :
    ∃ obs, dohAnswer base endpoint host recordType bytes elapsed = some obs ∧ obs.WellFormed := by
  have hsafe := safe_parseDnsResponse bytes recordType
  unfold dohAnswer
  cases hparsed : parseDnsResponse bytes recordType with
  | error e =>
    cases e with
    | panic => exact absurd hparsed hsafe
    | message msg => exact ⟨_, rfl, wellFormed_failed hbase _⟩
  | ok parsed =>
    dsimp only
    split
    · split
      · exact ⟨_, rfl, wellFormed_failed hbase _⟩
      · exact ⟨_, rfl, wellFormed_failed hbase _⟩
    · split
      · exact ⟨_, rfl, rfl, fun _ => ⟨rfl, hbase.ttl⟩⟩
      · exact ⟨_, rfl, by rw [hbase.error]; rfl, fun h => absurd h (by simp [hbase.error])⟩

/-- A response becomes a success exactly where it answers its question. -/
theorem dohAnswer_success_iff (endpoint host : String) (recordType : DnsRecordType)
    (bytes : List UInt8) (elapsed : Duration) :
    (∃ obs, dohAnswer base endpoint host recordType bytes elapsed = some obs ∧
      obs.error = none) ↔ Answered bytes recordType := by
  unfold dohAnswer Answered
  cases parseDnsResponse bytes recordType with
  | error e => cases e <;> simp [DnsObservation.failed]
  | ok parsed =>
    simp only [Except.ok.injEq, exists_eq_left', ne_eq, ← List.isEmpty_iff]
    by_cases hrcode : parsed.rcode = 0
    · cases hrecords : parsed.records.isEmpty with
      | true => cases parsed.sawCname <;> simp [hrcode, DnsObservation.failed]
      | false => simp [hrcode, hbase.error]
    · simp [hrcode]

/-- What the HTTPS path makes of a response, the TLS path makes of it up to labels. -/
lemma exists_dotAnswer (endpoint host : String) (recordType : DnsRecordType)
    (bytes : List UInt8) (elapsed : Duration) :
    ∃ doh dot, dohAnswer base endpoint host recordType bytes elapsed = some doh ∧
      dotAnswer base endpoint host recordType bytes elapsed = some dot ∧
      doh.unlabelled = dot.unlabelled := by
  obtain ⟨doh, hdoh, -⟩ := wellFormed_dohAnswer hbase endpoint host recordType bytes elapsed
  have hsame := unlabelled_answers base base.resolver endpoint endpoint host recordType bytes
    elapsed
  rw [hdoh] at hsame
  obtain ⟨dot, hdot, hunlabelled⟩ := Option.map_eq_some_iff.mp hsame.symm
  exact ⟨doh, dot, hdoh, hdot, hunlabelled.symm⟩

lemma wellFormed_dotAnswer (endpoint host : String) (recordType : DnsRecordType)
    (bytes : List UInt8) (elapsed : Duration) :
    ∃ obs, dotAnswer base endpoint host recordType bytes elapsed = some obs ∧ obs.WellFormed := by
  obtain ⟨doh, dot, hdoh, hdot, hsame⟩ :=
    exists_dotAnswer hbase endpoint host recordType bytes elapsed
  obtain ⟨obs, hobs, hwell⟩ := wellFormed_dohAnswer hbase endpoint host recordType bytes elapsed
  cases hdoh.symm.trans hobs
  exact ⟨dot, hdot, wellFormed_of_unlabelled hsame hwell⟩

theorem dotAnswer_success_iff (endpoint host : String) (recordType : DnsRecordType)
    (bytes : List UInt8) (elapsed : Duration) :
    (∃ obs, dotAnswer base endpoint host recordType bytes elapsed = some obs ∧
      obs.error = none) ↔ Answered bytes recordType := by
  obtain ⟨doh, dot, hdoh, hdot, hsame⟩ :=
    exists_dotAnswer hbase endpoint host recordType bytes elapsed
  rw [← dohAnswer_success_iff hbase endpoint host recordType bytes elapsed, hdoh, hdot]
  simp only [Option.some.injEq, exists_eq_left']
  exact (error_of_unlabelled hsame).symm

lemma wellFormed_dohExchange (endpoint host : String) (recordType : DnsRecordType)
    (timeout : Duration) (request : DohRequest) (transport : DohTransport) :
    ∃ obs, dohExchange base endpoint host recordType timeout request transport = some obs ∧
      obs.WellFormed := by
  unfold dohExchange
  dsimp only
  split
  · exact ⟨_, rfl, wellFormed_failed hbase _⟩
  · exact ⟨_, rfl, wellFormed_failed hbase _⟩
  · split
    · exact ⟨_, rfl, wellFormed_failed hbase _⟩
    · split
      · exact ⟨_, rfl, wellFormed_failed hbase _⟩
      · exact ⟨_, rfl, wellFormed_failed hbase _⟩
      · split
        · exact ⟨_, rfl, wellFormed_failed hbase _⟩
        · exact ⟨_, rfl, wellFormed_failed hbase _⟩
        · split
          · exact ⟨_, rfl, wellFormed_failed hbase _⟩
          · exact wellFormed_dohAnswer hbase _ _ _ _ _

lemma wellFormed_dotExchange (endpoint host : String) (recordType : DnsRecordType)
    (timeout : Duration) (query : List UInt8) (transport : DotTransport) :
    ∃ obs, dotExchange base endpoint host recordType timeout query transport = some obs ∧
      obs.WellFormed := by
  unfold dotExchange
  dsimp only
  split
  · exact ⟨_, rfl, wellFormed_failed hbase _⟩
  · split
    · exact ⟨_, rfl, wellFormed_failed hbase _⟩
    · exact ⟨_, rfl, wellFormed_failed hbase _⟩
    · split
      · exact ⟨_, rfl, wellFormed_failed hbase _⟩
      · exact ⟨_, rfl, wellFormed_failed hbase _⟩
      · split
        · exact ⟨_, rfl, wellFormed_failed hbase _⟩
        · exact ⟨_, rfl, wellFormed_failed hbase _⟩
        · exact wellFormed_dotAnswer hbase _ _ _ _ _

end Wire

theorem wellFormed_dohQuery [DebugTables] (endpoint host : String) (recordType : DnsRecordType)
    (timeout : Duration) (transport : DohTransport) :
    ∃ obs, dohQuery endpoint host recordType timeout transport = some obs ∧ obs.WellFormed := by
  have hbase := blank_base host (.doh endpoint) recordType
  unfold dohQuery
  dsimp only
  split
  · exact ⟨_, rfl, wellFormed_failed hbase _⟩
  · split
    · exact ⟨_, rfl, wellFormed_failed hbase _⟩
    · split
      · exact ⟨_, rfl, wellFormed_failed hbase _⟩
      · split
        · exact ⟨_, rfl, wellFormed_failed hbase _⟩
        · exact wellFormed_dohExchange hbase _ _ _ _ _ _

theorem wellFormed_dotQuery [DebugTables] (endpoint host : String) (recordType : DnsRecordType)
    (timeout : Duration) (transport : DotTransport) :
    ∃ obs, dotQuery endpoint host recordType timeout transport = some obs ∧ obs.WellFormed := by
  have hbase := blank_base host (.dot endpoint) recordType
  unfold dotQuery
  dsimp only
  split
  · exact ⟨_, rfl, wellFormed_failed hbase _⟩
  · split
    · exact ⟨_, rfl, wellFormed_failed hbase _⟩
    · split
      · exact ⟨_, rfl, wellFormed_failed hbase _⟩
      · split
        · exact ⟨_, rfl, wellFormed_failed hbase _⟩
        · exact wellFormed_dotExchange hbase _ _ _ _ _ _

/-! ### Rows -/

/-- Whether an attempt was answered: it has a latency. -/
def DnsObservation.measured (obs : DnsObservation) : Bool := obs.latencyMs.isSome

/-- The failure an observation is counted under. -/
def DnsObservation.failureKind (obs : DnsObservation) : Option FailureKind :=
  if obs.measured then none else obs.error.map ProbeError.kind

/-- What the loop has recorded of the observations so far. -/
structure DnsRecorded (bucket : List DnsObservation) (state : DnsRepeatState) : Prop where
  latency : state.latency.samples = bucket.filterMap DnsObservation.latencyMs
  failures : state.failures = Tally.tally (bucket.filterMap DnsObservation.failureKind)
  successes : state.successes = bucket.countP DnsObservation.measured
  ttl : state.minTtl = (bucket.filterMap DnsObservation.ttl).min?

lemma min?_concat (l : List UInt32) (t : UInt32) :
    (l ++ [t]).min? = some ((l.min?.map (fun m => min m t)).getD t) := by
  cases l with
  | nil => rfl
  | cons a l =>
    rw [List.cons_append, List.min?_cons', List.min?_cons', List.foldl_concat]
    rfl

/-- What one observation adds. -/
lemma DnsRepeatState.record_eq (state : DnsRepeatState) (obs : DnsObservation) :
    state.record obs = {
      latency := ⟨state.latency.samples ++ obs.latencyMs.toList⟩
      failures :=
        obs.failureKind.elim state.failures (fun kind => Tally.bump kind state.failures)
      successes := state.successes + if obs.measured then 1 else 0
      minTtl := obs.ttl.elim state.minTtl
        (fun t => some ((state.minTtl.map (fun m => min m t)).getD t)) } := by
  obtain ⟨hostname, resolver, recordType, records, ttl, latencyMs, error⟩ := obs
  cases ttl <;> cases latencyMs <;> cases error <;>
    simp [DnsRepeatState.record, LatencyStats.push, DnsObservation.failureKind,
      DnsObservation.measured]

lemma DnsRecorded.record {bucket : List DnsObservation} {state : DnsRepeatState}
    (h : DnsRecorded bucket state) (obs : DnsObservation) :
    DnsRecorded (bucket ++ [obs]) (state.record obs) := by
  rw [state.record_eq obs]
  constructor <;> dsimp only
  case latency => rw [h.latency, Tally.filterMap_concat]
  case failures => rw [h.failures, Tally.tally_filterMap_concat]
  case successes => rw [h.successes, List.countP_append, List.countP_singleton]
  case ttl =>
    rw [h.ttl, Tally.filterMap_concat]
    cases obs.ttl with
    | some t => exact (min?_concat _ t).symm
    | none => exact congrArg List.min? (List.append_nil _).symm

lemma dnsRecorded_foldl (bucket : List DnsObservation) :
    DnsRecorded bucket (bucket.foldl DnsRepeatState.record DnsRepeatState.start) := by
  induction bucket using List.reverseRecOn with
  | nil => exact ⟨rfl, rfl, rfl, rfl⟩
  | append_singleton bucket obs ih =>
    rw [List.foldl_concat]
    exact ih.record obs

/-- The row of some observations accounts for them. -/
structure DnsAccounted (bucket : List DnsObservation) (row : DnsRepeatResult) : Prop where
  attempts : row.attempts = bucket.length
  successes : row.successes = bucket.countP DnsObservation.measured
  total : row.successes + row.failures = row.attempts
  failures : (row.failureCounts.map FailureCount.count).sum = row.failures
  latency : row.latency.count = row.successes
  ttl : row.ttl =
    ((bucket.filter DnsObservation.measured).filterMap DnsObservation.ttl).min?

/-- An attempt that was not answered has an error and no TTL. -/
lemma DnsObservation.WellFormed.of_unmeasured {obs : DnsObservation} (h : obs.WellFormed)
    (hmeasured : obs.measured = false) : (∃ e, obs.error = some e) ∧ obs.ttl = none := by
  have hexclusive := h.exclusive
  unfold DnsObservation.measured at hmeasured
  rw [hmeasured] at hexclusive
  have herror : obs.error.isSome = true := by simpa using hexclusive.symm
  exact ⟨Option.isSome_iff_exists.mp herror, (h.bare herror).2⟩

lemma countP_measured_add_failures {bucket : List DnsObservation}
    (h : ∀ o ∈ bucket, o.WellFormed) :
    bucket.countP DnsObservation.measured +
      (bucket.filterMap DnsObservation.failureKind).length = bucket.length := by
  refine Tally.countP_add_length_filterMap (fun o ho => ?_)
  unfold DnsObservation.failureKind
  cases hmeasured : o.measured with
  | true => rfl
  | false =>
    obtain ⟨⟨e, he⟩, -⟩ := (h o ho).of_unmeasured hmeasured
    rw [he]
    rfl

/-- Only attempts that were answered have a TTL. -/
lemma filterMap_ttl {bucket : List DnsObservation} (h : ∀ o ∈ bucket, o.WellFormed) :
    (bucket.filter DnsObservation.measured).filterMap DnsObservation.ttl =
      bucket.filterMap DnsObservation.ttl := by
  rw [List.filterMap_filter]
  refine List.filterMap_congr (fun o ho => ?_)
  cases hmeasured : o.measured with
  | true => rfl
  | false =>
    rw [((h o ho).of_unmeasured hmeasured).2]
    rfl

theorem aggregateRepeat_accounted (order : HashOrder) (recordType : DnsRecordType)
    {bucket : List DnsObservation} (h : ∀ o ∈ bucket, o.WellFormed) :
    DnsAccounted bucket (aggregateRepeat order bucket recordType bucket.length) := by
  unfold aggregateRepeat
  dsimp only
  have hstate := dnsRecorded_foldl bucket
  generalize bucket.foldl DnsRepeatState.record DnsRepeatState.start = state at hstate
  have hfailuresOf : Tally.Of (bucket.filterMap DnsObservation.failureKind)
      (order.entries state.failures) := by
    rw [hstate.failures]
    exact (Tally.tally_of _).of_perm_map (order.perm _).symm
  have htotal := countP_measured_add_failures h
  obtain ⟨hsum, -, -, -⟩ := counts_spec discriminant_injective hfailuresOf
    (fun e => FailureCount.mk e.1 e.2) FailureCount.count FailureCount.kind (fun _ => rfl)
    (fun _ => rfl)
  have hsuccesses := hstate.successes
  have hlatency : state.latency.summarize.count = state.successes := by
    unfold LatencyStats.summarize
    dsimp only
    rw [hstate.latency, hsuccesses, List.length_filterMap_eq_countP]
    rfl
  exact {
    attempts := rfl
    successes := hsuccesses
    total := by
      dsimp only
      omega
    failures := by
      dsimp only
      rw [hsum]
      omega
    latency := hlatency
    ttl := hstate.ttl.trans (by rw [filterMap_ttl h]) }

/-- The observations of a resolver in a list of buckets. -/
def bucketOf (kind : ResolverKind) :
    List (ResolverKind × List DnsObservation) → List DnsObservation
  | [] => []
  | (r, bucket) :: rest => if r = kind then bucket else bucketOf kind rest

lemma bucketOf_pushBucket (kind : ResolverKind) (o : DnsObservation)
    (m : List (ResolverKind × List DnsObservation)) :
    bucketOf kind (pushBucket o m) =
      bucketOf kind m ++ if o.resolver = kind then [o] else [] := by
  induction m with
  | nil => rfl
  | cons e m ih =>
    obtain ⟨r, bucket⟩ := e
    rw [pushBucket]
    by_cases hr : r = o.resolver
    · rw [if_pos hr, bucketOf, bucketOf, hr]
      by_cases hkind : o.resolver = kind <;> simp [hkind]
    · rw [if_neg hr, bucketOf, bucketOf, ih]
      by_cases hkind : r = kind
      · rw [if_pos hkind, if_pos hkind, if_neg (fun h => hr (hkind.trans h.symm)),
          List.append_nil]
      · rw [if_neg hkind, if_neg hkind]

lemma keys_pushBucket (o : DnsObservation) (m : List (ResolverKind × List DnsObservation)) :
    (pushBucket o m).map Prod.fst =
      if o.resolver ∈ m.map Prod.fst then m.map Prod.fst else m.map Prod.fst ++ [o.resolver] := by
  induction m with
  | nil => rfl
  | cons e m ih =>
    obtain ⟨r, bucket⟩ := e
    rw [pushBucket]
    by_cases hr : r = o.resolver
    · simp [hr]
    · rw [if_neg hr, List.map_cons, List.map_cons, ih]
      have hne : o.resolver ≠ r := fun h => hr h.symm
      by_cases hmem : o.resolver ∈ m.map Prod.fst
      · rw [if_pos hmem, if_pos (List.mem_cons_of_mem _ hmem)]
      · rw [if_neg hmem, if_neg (by simpa [hne] using hmem)]
        rfl

lemma eq_bucketOf {m : List (ResolverKind × List DnsObservation)}
    (hnodup : (m.map Prod.fst).Nodup) {e : ResolverKind × List DnsObservation} (he : e ∈ m) :
    e.2 = bucketOf e.1 m := by
  induction m with
  | nil => cases he
  | cons a m ih =>
    rw [List.map_cons, List.nodup_cons] at hnodup
    obtain ⟨r, bucket⟩ := a
    rw [bucketOf]
    rcases List.mem_cons.mp he with rfl | he
    · rw [if_pos rfl]
    · have hmem := List.mem_map_of_mem (f := Prod.fst) he
      have hne : r ≠ e.1 := by
        rintro rfl
        exact hnodup.1 hmem
      rw [if_neg hne, ih hnodup.2 he]

/-- Grouping keeps the observations of each resolver in their order. -/
lemma buckets_spec (observations : List DnsObservation) :
    ((buckets observations).map Prod.fst).Nodup ∧
    (∀ k, k ∈ (buckets observations).map Prod.fst ↔
      k ∈ observations.map DnsObservation.resolver) ∧
    ∀ k, bucketOf k (buckets observations) = observations.filter (fun o => o.resolver = k) := by
  induction observations using List.reverseRecOn with
  | nil => exact ⟨List.nodup_nil, fun k => Iff.rfl, fun k => rfl⟩
  | append_singleton observations o ih =>
    obtain ⟨hnodup, hkeys, hbuckets⟩ := ih
    have hpush : buckets (observations ++ [o]) = pushBucket o (buckets observations) :=
      List.foldl_concat ..
    rw [hpush, keys_pushBucket]
    refine ⟨?_, fun k => ?_, fun k => ?_⟩
    · by_cases hmem : o.resolver ∈ (buckets observations).map Prod.fst
      · rwa [if_pos hmem]
      · rw [if_neg hmem]
        exact List.nodup_append_comm.mp (List.nodup_cons.mpr ⟨hmem, hnodup⟩)
    · rw [List.map_append, List.mem_append, ← hkeys k]
      by_cases hmem : o.resolver ∈ (buckets observations).map Prod.fst
      · rw [if_pos hmem]
        refine ⟨.inl, ?_⟩
        rintro (h | h)
        · exact h
        · rwa [List.mem_singleton.mp h]
      · rw [if_neg hmem, List.mem_append]
        rfl
    · rw [bucketOf_pushBucket, hbuckets k, List.filter_append]
      by_cases hk : o.resolver = k <;> simp [hk]

lemma kinds_nodup (client : DnsClient) : client.kinds.Nodup := by
  have hcustom : (client.custom.map ResolverKind.custom).Nodup :=
    client.nodup.map (fun _ _ h => by cases h; rfl)
  unfold DnsClient.kinds
  cases client.system with
  | true =>
    refine List.nodup_cons.mpr ⟨fun h => ?_, hcustom⟩
    obtain ⟨addr, -, haddr⟩ := List.mem_map.mp h
    cases haddr
  | false => exact hcustom

/-- Each round asks each resolver once. -/
lemma filter_resolve {client : DnsClient} (round : DnsRound client) (timeout : Duration)
    (host : String) (recordType : DnsRecordType) {kind : ResolverKind}
    (hkind : kind ∈ client.kinds) :
    (client.resolve round timeout host recordType).filter (fun o => o.resolver = kind) =
      [query (round.outcome kind) (round.elapsed kind) timeout kind host recordType] := by
  have hperm := ((sortByKey_perm (fun o : DnsObservation => o.resolver.label) _).trans
    (round.complete.map (fun kind =>
      query (round.outcome kind) (round.elapsed kind) timeout kind host recordType))).filter
    (fun o => o.resolver = kind)
  have hone : (client.kinds.filter (fun k => k = kind)) = [kind] := by
    have hcount := (kinds_nodup client).count (a := kind)
    rw [if_pos hkind] at hcount
    rw [List.filter_eq, hcount]
    rfl
  rw [List.filter_map] at hperm
  have hresolver : ((fun o : DnsObservation => decide (o.resolver = kind)) ∘ fun kind =>
      query (round.outcome kind) (round.elapsed kind) timeout kind host recordType) =
      fun k => decide (k = kind) := rfl
  rw [hresolver, hone] at hperm
  exact List.perm_singleton.mp hperm

/-- Each row of repeated queries is made from one observation of one resolver for each round. -/
theorem resolveRepeat_rows (client : DnsClient) (order : HashOrder)
    (rounds : List (DnsRound client)) (timeout : Duration) (host : String)
    (recordType : DnsRecordType) :
    ∀ row ∈ client.resolveRepeat order rounds timeout host recordType, ∃ kind ∈ client.kinds,
      row = aggregateRepeat order (rounds.map (fun round =>
        query (round.outcome kind) (round.elapsed kind) timeout kind host recordType))
        recordType rounds.length := by
  intro row hrow
  obtain ⟨entry, hentry, rfl⟩ := List.mem_map.mp ((sortByKey_perm _ _).mem_iff.mp hrow)
  obtain ⟨hnodup, hkeys, hbuckets⟩ := buckets_spec
    (rounds.flatMap (fun round => client.resolve round timeout host recordType))
  have hkind : entry.1 ∈ client.kinds := by
    have hmem := (hkeys entry.1).mp (List.mem_map_of_mem hentry)
    obtain ⟨o, ho, hresolver⟩ := List.mem_map.mp hmem
    obtain ⟨round, -, ho⟩ := List.mem_flatMap.mp ho
    obtain ⟨kind, hkind, rfl⟩ := List.mem_map.mp ((sortByKey_perm _ _).mem_iff.mp ho)
    rw [← hresolver]
    exact round.complete.mem_iff.mp hkind
  refine ⟨entry.1, hkind, congrArg (fun b => aggregateRepeat order b recordType _) ?_⟩
  rw [eq_bucketOf hnodup hentry, hbuckets, List.filter_flatMap]
  simp only [filter_resolve _ _ _ _ hkind]
  exact List.map_eq_flatMap.symm

lemma exists_mapM {α β : Type} {f : α → Option β} {P : β → Prop} {l : List α}
    (h : ∀ a ∈ l, ∃ b, f a = some b ∧ P b) :
    ∃ bs, l.mapM f = some bs ∧ bs.length = l.length ∧ ∀ b ∈ bs, P b := by
  induction l with
  | nil => exact ⟨[], rfl, rfl, by simp⟩
  | cons a l ih =>
    obtain ⟨b, hb, hPb⟩ := h a List.mem_cons_self
    obtain ⟨bs, hbs, hlength, hPbs⟩ := ih (fun a' ha' => h a' (List.mem_cons_of_mem _ ha'))
    refine ⟨b :: bs, ?_, by simp [hlength], ?_⟩
    · rw [List.mapM_cons, hb, hbs]
      rfl
    · intro b' hb'
      rcases List.mem_cons.mp hb' with rfl | hb'
      · exact hPb
      · exact hPbs b' hb'

lemma repeatEndpoint_accounted (order : HashOrder) (recordType : DnsRecordType) (count : Nat)
    {attempt : Nat → Option DnsObservation}
    (h : ∀ i, ∃ obs, attempt i = some obs ∧ obs.WellFormed) :
    ∃ row, repeatEndpoint order recordType count attempt = some row ∧
      ∃ bucket, bucket.length = count ∧ DnsAccounted bucket row := by
  obtain ⟨bucket, hbucket, hlength, hwell⟩ :=
    exists_mapM (f := attempt) (l := List.range count) (fun i _ => h i)
  rw [List.length_range] at hlength
  refine ⟨_, by rw [repeatEndpoint, hbucket]; rfl, bucket, hlength, ?_⟩
  have haccounted := aggregateRepeat_accounted order recordType hwell
  rwa [hlength] at haccounted

/-- Each endpoint has a row that accounts for its attempts. -/
theorem encryptedRepeat_rows [DebugTables]
    (order : HashOrder) (dohEndpoints dotEndpoints : List String)
    (host : String) (recordType : DnsRecordType) (count : Nat) (timeout : Duration)
    (net : EncryptedNetwork) :
    ∃ rows, encryptedRepeat order dohEndpoints dotEndpoints host recordType count timeout net =
        some rows ∧
      rows.length = dohEndpoints.length + dotEndpoints.length ∧
      ∀ row ∈ rows, ∃ bucket, bucket.length = count ∧ DnsAccounted bucket row := by
  obtain ⟨doh, hdoh, hdohLength, hdohRows⟩ := exists_mapM (l := dohEndpoints)
    (fun endpoint _ => repeatEndpoint_accounted order recordType count
      (fun i => wellFormed_dohQuery endpoint host recordType timeout (net.doh endpoint i)))
  obtain ⟨dot, hdot, hdotLength, hdotRows⟩ := exists_mapM (l := dotEndpoints)
    (fun endpoint _ => repeatEndpoint_accounted order recordType count
      (fun i => wellFormed_dotQuery endpoint host recordType timeout (net.dot endpoint i)))
  refine ⟨doh ++ dot, by rw [encryptedRepeat, hdoh, hdot]; rfl, ?_, ?_⟩
  · rw [List.length_append, hdohLength, hdotLength]
  · intro row hrow
    rcases List.mem_append.mp hrow with hrow | hrow
    · exact hdohRows row hrow
    · exact hdotRows row hrow

/-- Observations are well formed on every path, the encrypted paths agree on every response, and
rows account for every attempt. -/
theorem dns_attempts_accounted [DebugTables] :
    (∀ outcome elapsed timeout kind host recordType,
      (query outcome elapsed timeout kind host recordType).WellFormed) ∧
    (∀ endpoint host recordType timeout transport, ∃ obs,
      dohQuery endpoint host recordType timeout transport = some obs ∧ obs.WellFormed) ∧
    (∀ endpoint host recordType timeout transport, ∃ obs,
      dotQuery endpoint host recordType timeout transport = some obs ∧ obs.WellFormed) ∧
    (∀ dohEndpoint dotEndpoint host recordType bytes elapsed,
      let doh := dohAnswer (.base host (.doh dohEndpoint) recordType) dohEndpoint host recordType
        bytes elapsed
      let dot := dotAnswer (.base host (.dot dotEndpoint) recordType) dotEndpoint host recordType
        bytes elapsed
      doh.map DnsObservation.unlabelled = dot.map DnsObservation.unlabelled ∧
        ((∃ obs, doh = some obs ∧ obs.error = none) ↔ Answered bytes recordType) ∧
        ((∃ obs, dot = some obs ∧ obs.error = none) ↔ Answered bytes recordType)) ∧
    (∀ order recordType (bucket : List DnsObservation), (∀ o ∈ bucket, o.WellFormed) →
      DnsAccounted bucket (aggregateRepeat order bucket recordType bucket.length)) ∧
    (∀ (client : DnsClient) order (rounds : List (DnsRound client)) timeout host recordType,
      ∀ row ∈ client.resolveRepeat order rounds timeout host recordType,
        ∃ bucket, bucket.length = rounds.length ∧ DnsAccounted bucket row) ∧
    (∀ order dohEndpoints dotEndpoints host recordType count timeout net, ∃ rows,
      encryptedRepeat order dohEndpoints dotEndpoints host recordType count timeout net =
        some rows ∧ rows.length = dohEndpoints.length + dotEndpoints.length ∧
      ∀ row ∈ rows, ∃ bucket, bucket.length = count ∧ DnsAccounted bucket row) := by
  refine ⟨wellFormed_query, wellFormed_dohQuery, wellFormed_dotQuery, ?_, ?_, ?_,
    encryptedRepeat_rows⟩
  · intro dohEndpoint dotEndpoint host recordType bytes elapsed
    exact ⟨unlabelled_answers _ (.dot dotEndpoint) _ _ _ _ _ _,
      dohAnswer_success_iff (blank_base _ _ _) _ _ _ _ _,
      dotAnswer_success_iff (blank_base _ _ _) _ _ _ _ _⟩
  · intro order recordType bucket h
    exact aggregateRepeat_accounted order recordType h
  · intro client order rounds timeout host recordType row hrow
    obtain ⟨kind, -, rfl⟩ := resolveRepeat_rows client order rounds timeout host recordType row hrow
    have hwell : ∀ o ∈ rounds.map (fun round =>
        query (round.outcome kind) (round.elapsed kind) timeout kind host recordType),
        o.WellFormed := by
      intro o ho
      obtain ⟨round, -, rfl⟩ := List.mem_map.mp ho
      exact wellFormed_query _ _ _ _ _ _
    have haccounted := aggregateRepeat_accounted order recordType hwell
    rw [List.length_map] at haccounted
    exact ⟨_, List.length_map _, haccounted⟩

/-- A lookup that answered and one that timed out. -/
theorem dns_attempts_accounted_twice :
    let answered := query (.ok [⟨.a (.new 192 0 2 1), 300⟩]) ⟨7000000⟩ ⟨1000000000⟩ .system
      "host.invalid" .a
    let timedOut := query .elapsed ⟨0⟩ ⟨1000000000⟩ .system "host.invalid" .a
    DnsAccounted [answered, timedOut]
      (aggregateRepeat ⟨fun m => m, fun m => .refl m⟩ [answered, timedOut] .a 2) := by
  intro answered timedOut
  let := DebugTables.none
  obtain ⟨hquery, -, -, -, hrows, -⟩ := dns_attempts_accounted
  refine hrows ⟨fun m => m, fun m => .refl m⟩ .a [answered, timedOut] (fun o ho => ?_)
  rcases List.mem_pair.mp ho with rfl | rfl
  · exact hquery _ _ _ _ _ _
  · exact hquery _ _ _ _ _ _

end IpTools
