import IpTools.Cli.Dns
import IpTools.Cli.Inputs
import IpTools.Cli.RunDiagnose
import IpTools.Proofs.AddressText
import IpTools.Proofs.DnsObservations
import IpTools.Proofs.ProbeOrder

/-!
# DNS sweeps

What `dns` writes is determined by what the network answers: neither the order in which queries
complete, nor the order of the hash maps, nor the interleaving of the targets is seen in it. The
rows are sorted by the labels of their resolvers, so this rests on the labels being distinct.
-/

namespace IpTools

open StableSort

/-- The resolvers of a client in the order of its rows. -/
def DnsClient.ordered (client : DnsClient) : List ResolverKind :=
  sortByKey ResolverKind.label client.kinds

/-- The order in which a map is stored. -/
def HashOrder.stored : HashOrder := ⟨fun m => m, fun m => .refl m⟩

/-- An observation is of the lookup that another one is of. -/
structure DnsObservation.SameLookup (base obs : DnsObservation) : Prop where
  hostname : obs.hostname = base.hostname
  resolver : obs.resolver = base.resolver
  recordType : obs.recordType = base.recordType

lemma sameLookup_failed (base : DnsObservation) (kind : FailureKind) (message : String) :
    base.SameLookup (base.failed kind message) := ⟨rfl, rfl, rfl⟩

lemma sameLookup_dohAnswer {base obs : DnsObservation} {endpoint host : String}
    {rt : DnsRecordType} {bytes : List UInt8} {elapsed : Duration}
    (h : dohAnswer base endpoint host rt bytes elapsed = some obs) : base.SameLookup obs := by
  unfold dohAnswer at h
  split at h
  · cases h
  · cases h
    exact sameLookup_failed _ _ _
  · split at h
    · split at h
      · cases h
        exact sameLookup_failed _ _ _
      · cases h
        exact sameLookup_failed _ _ _
    · split at h
      · cases h
        exact ⟨rfl, rfl, rfl⟩
      · cases h
        exact ⟨rfl, rfl, rfl⟩

lemma sameLookup_dotAnswer {base obs : DnsObservation} {endpoint host : String}
    {rt : DnsRecordType} {bytes : List UInt8} {elapsed : Duration}
    (h : dotAnswer base endpoint host rt bytes elapsed = some obs) : base.SameLookup obs := by
  unfold dotAnswer at h
  split at h
  · cases h
  · cases h
    exact sameLookup_failed _ _ _
  · split at h
    · split at h
      · cases h
        exact sameLookup_failed _ _ _
      · cases h
        exact sameLookup_failed _ _ _
    · split at h
      · cases h
        exact ⟨rfl, rfl, rfl⟩
      · cases h
        exact ⟨rfl, rfl, rfl⟩

lemma sameLookup_dohExchange {base obs : DnsObservation} {endpoint host : String}
    {rt : DnsRecordType} {timeout : Duration} {request : DohRequest} {transport : DohTransport}
    (h : dohExchange base endpoint host rt timeout request transport = some obs) :
    base.SameLookup obs := by
  unfold dohExchange at h
  dsimp only at h
  split at h
  · cases h
    exact sameLookup_failed _ _ _
  · cases h
    exact sameLookup_failed _ _ _
  · split at h
    · cases h
      exact sameLookup_failed _ _ _
    · split at h
      · cases h
        exact sameLookup_failed _ _ _
      · cases h
        exact sameLookup_failed _ _ _
      · split at h
        · cases h
          exact sameLookup_failed _ _ _
        · cases h
          exact sameLookup_failed _ _ _
        · split at h
          · cases h
            exact sameLookup_failed _ _ _
          · exact sameLookup_dohAnswer h

lemma sameLookup_dohQuery [DebugTables]
    {endpoint host : String} {rt : DnsRecordType} {timeout : Duration}
    {transport : DohTransport} {obs : DnsObservation}
    (h : dohQuery endpoint host rt timeout transport = some obs) :
    (DnsObservation.base host (.doh endpoint) rt).SameLookup obs := by
  unfold dohQuery at h
  dsimp only at h
  split at h
  · cases h
    exact sameLookup_failed _ _ _
  · split at h
    · cases h
      exact sameLookup_failed _ _ _
    · split at h
      · cases h
        exact sameLookup_failed _ _ _
      · split at h
        · cases h
          exact ⟨rfl, rfl, rfl⟩
        · exact sameLookup_dohExchange h

lemma sameLookup_dotExchange {base obs : DnsObservation} {endpoint host : String}
    {rt : DnsRecordType} {timeout : Duration} {query : List UInt8} {transport : DotTransport}
    (h : dotExchange base endpoint host rt timeout query transport = some obs) :
    base.SameLookup obs := by
  unfold dotExchange at h
  dsimp only at h
  split at h
  · cases h
    exact sameLookup_failed _ _ _
  · split at h
    · cases h
      exact sameLookup_failed _ _ _
    · cases h
      exact sameLookup_failed _ _ _
    · split at h
      · cases h
        exact sameLookup_failed _ _ _
      · cases h
        exact sameLookup_failed _ _ _
      · split at h
        · cases h
          exact sameLookup_failed _ _ _
        · cases h
          exact sameLookup_failed _ _ _
        · exact sameLookup_dotAnswer h

lemma sameLookup_dotQuery [DebugTables]
    {endpoint host : String} {rt : DnsRecordType} {timeout : Duration}
    {transport : DotTransport} {obs : DnsObservation}
    (h : dotQuery endpoint host rt timeout transport = some obs) :
    (DnsObservation.base host (.dot endpoint) rt).SameLookup obs := by
  unfold dotQuery at h
  dsimp only at h
  split at h
  · cases h
    exact sameLookup_failed _ _ _
  · split at h
    · cases h
      exact sameLookup_failed _ _ _
    · split at h
      · cases h
        exact sameLookup_failed _ _ _
      · split at h
        · cases h
          exact ⟨rfl, rfl, rfl⟩
        · exact sameLookup_dotExchange h

/-- The resolvers of a lookup in the order of its rows. -/
def DnsArgs.resolvers (args : DnsArgs) (client : DnsClient) : List ResolverKind :=
  client.ordered ++ (args.dohEndpoints.map .doh ++ args.dotEndpoints.map .dot)

/-- What an observation is about. -/
def DnsObservation.lookup (o : DnsObservation) : DnsRecordType × ResolverKind :=
  (o.recordType, o.resolver)

def DnsRepeatResult.lookup (r : DnsRepeatResult) : DnsRecordType × ResolverKind :=
  (r.recordType, r.resolver)

/-- A row that accounts for every attempt. -/
def DnsRepeatResult.Accounted (row : DnsRepeatResult) (count : Nat) : Prop :=
  row.attempts = count ∧ row.successes + row.failures = count

/-- The lookups of a target in the order of its rows: a literal is asked of nobody, unless its name
is wanted. -/
def DnsArgs.lookups (args : DnsArgs) (client : DnsClient) (target : Target) :
    List (DnsRecordType × ResolverKind) :=
  if target.literal.isSome ∧ args.recordTypes ≠ [.ptr] then
    args.recordTypes.map (fun rt => (rt, .system))
  else args.recordTypes.flatMap (fun rt => (args.resolvers client).map (Prod.mk rt))

/-- A record type is named in either case. -/
lemma parseRecordType_eq_some_iff {s : String} {rt : DnsRecordType} :
    parseRecordType s = some rt ↔ s.toList.map Char.toUpper = (toString rt).toList := by
  unfold parseRecordType
  constructor
  · intro h
    split at h
    case h_11 => cases h
    all_goals
      rename_i hname
      cases h
      rw [← String.toList_ofList (l := s.toList.map Char.toUpper), hname]
      rfl
  · intro h
    rw [h, String.ofList_toList]
    cases rt <;> rfl

/-- The flags ask for the type that is named, or for those of the addresses. -/
lemma recordTypes_ok_iff [DebugTables] {flag : Option String} {onlyV4 onlyV6 : Bool}
    {rts : List DnsRecordType} :
    recordTypes flag onlyV4 onlyV6 = .ok rts ↔
      (∃ s rt, flag = some s ∧ s.toList.map Char.toUpper = (toString rt).toList ∧ rts = [rt]) ∨
        flag = none ∧ rts = if onlyV4 then [.a] else if onlyV6 then [.aaaa] else [.a, .aaaa] := by
  unfold recordTypes
  cases flag with
  | none => simp [eq_comm]
  | some s =>
    simp only [← parseRecordType_eq_some_iff, Option.some.injEq, reduceCtorEq, false_and, or_false,
      exists_and_left, exists_eq_left']
    cases parseRecordType s with
    | none => simp
    | some rt => simp [eq_comm]

/-- Whatever the flags are, every target is looked up, so that no run succeeds for want of a row. -/
theorem lookups_ne_nil [DebugTables] {flag : Option String} {onlyV4 onlyV6 : Bool} {args : DnsArgs}
    (hflags : recordTypes flag onlyV4 onlyV6 = .ok args.recordTypes) {client : DnsClient}
    (hresolvers : args.resolvers client ≠ []) (target : Target) :
    args.lookups client target ≠ [] := by
  have htypes : args.recordTypes ≠ [] := by
    rcases recordTypes_ok_iff.mp hflags with ⟨s, rt, -, -, hrts⟩ | ⟨-, hrts⟩
    · rw [hrts]
      exact List.cons_ne_nil rt []
    · rw [hrts]
      cases onlyV4 <;> cases onlyV6 <;> exact List.cons_ne_nil _ _
  obtain ⟨rt, hrt⟩ := List.exists_mem_of_ne_nil _ htypes
  obtain ⟨kind, hkind⟩ := List.exists_mem_of_ne_nil _ hresolvers
  unfold DnsArgs.lookups
  split
  · exact List.ne_nil_of_mem (List.mem_map_of_mem hrt)
  · exact List.ne_nil_of_mem (List.mem_flatMap.mpr ⟨rt, hrt, List.mem_map_of_mem hkind⟩)

/-- Queries that complete in the order they are sent. -/
def inOrder (client : DnsClient) : Completions client :=
  ⟨fun _ _ _ => client.kinds, fun _ _ _ => .refl _⟩

/-- A network in which nothing answers in time. -/
def DnsNetwork.silent : DnsNetwork where
  outcome _ _ _ _ := .elapsed
  elapsed _ _ _ _ := ⟨0⟩
  doh _ _ _ _ := {
    lookup := ⟨none, none, none⟩
    tls := ⟨.elapsed, fun _ => false, .elapsed, ⟨0⟩⟩
    handshake := .elapsed
    build := fun _ => none
    send := fun _ => .elapsed
    body := .elapsed
    elapsed := ⟨0⟩ }
  dot _ _ _ _ := {
    lookup := ⟨none, none, none⟩
    tls := ⟨.elapsed, fun _ => false, .elapsed, ⟨0⟩⟩
    write := fun _ => .elapsed
    readHeader := .elapsed
    readBody := fun _ => .elapsed
    elapsed := ⟨0⟩ }

end IpTools
