import IpTools.Proofs.DiagnoseSweep
import IpTools.Proofs.DnsDisagreement

/-!
# The flags of diagnose

What `--reverse`, `--plain` and the family flags do to the reports of a sweep. Each theorem is about
every run: reverse lookups only add rows, a plain sweep sees nothing of TLS, and a sweep of one
family draws no conclusion from the other.
-/

namespace IpTools

open StableSort

lemma exists_of_mem_sweep [DebugTables] {args : DiagnoseArgs} {net : Nat → DiagnoseNetwork}
    {targets : List Target} {report : DiagnoseReport}
    (h : report ∈ (args.sweep net targets).reports) :
    ∃ i target destinations, targets[i]? = some target ∧
      diagnoseDestinations (net i).resolvers args.family target = some destinations ∧
      report = .of (net i).now (args.evidence (net i) target destinations) := by
  obtain ⟨output, houtput, hreport⟩ := List.mem_filterMap.mp h
  obtain ⟨⟨i, target⟩, hmem, hitem⟩ := List.mem_map.mp houtput
  rw [← hitem] at hreport
  obtain ⟨destinations, hdestinations, rfl⟩ := Option.map_eq_some_iff.mp hreport
  exact ⟨i, target, destinations, mem_resolveItems.mp hmem, hdestinations, rfl⟩

section Lookups

variable {resolvers : Resolvers} {client : DnsClient} {dns : DnsNetwork}
  {completions : Completions client} {timeout : Duration}

/-- The rows of a lookup are of the type that was asked for. -/
lemma recordType_of_mem_lookups [DebugTables] (h : resolvers.AnsweredBy dns completions timeout)
    {host : List Char} {rt : DnsRecordType} {o : DnsObservation}
    (ho : o ∈ resolvers.lookups host rt) : o.recordType = rt := by
  unfold Resolvers.lookups at ho
  rcases List.mem_append.mp ho with ho | ho
  · rcases List.mem_append.mp ho with ho | ho
    · rw [h.resolve] at ho
      obtain ⟨kind, -, rfl⟩ := List.mem_map.mp ((sortByKey_perm _ _).mem_iff.mp ho)
      rfl
    · obtain ⟨endpoint, hendpoint, rfl⟩ := List.mem_map.mp ho
      exact (sameLookup_dohQuery (h.doh endpoint hendpoint host rt)).recordType
  · obtain ⟨endpoint, hendpoint, rfl⟩ := List.mem_map.mp ho
    exact (sameLookup_dotQuery (h.dot endpoint hendpoint host rt)).recordType

lemma recordType_of_mem_reverseRows [DebugTables] (h : resolvers.AnsweredBy dns completions timeout)
    {target : Target} {addresses : List IpAddr} {o : DnsObservation}
    (ho : o ∈ reverseRows resolvers target addresses) : o.recordType = .ptr := by
  obtain ⟨ip, -, ho⟩ := List.mem_flatMap.mp ho
  obtain ⟨o, hmem, rfl⟩ := List.mem_map.mp ho
  have htype := recordType_of_mem_lookups h hmem
  exact htype

lemma not_isForward_of_ptr {o : DnsObservation} (h : o.recordType = .ptr) :
    o.isForward = false := by
  unfold DnsObservation.isForward
  rw [h]
  rfl

/-- A target with an address is a literal, or some forward lookup of it gave the address. -/
lemma exists_forward_of_mem_addresses [DebugTables]
    (h : resolvers.AnsweredBy dns completions timeout)
    {target : Target} {ip : IpAddr} (hip : ip ∈ diagnoseAddresses resolvers target) :
    forwardRows resolvers target = [] ∨
      ∃ o ∈ forwardRows resolvers target, o.isForward = true ∧ o.error = none := by
  unfold diagnoseAddresses at hip
  unfold forwardRows Target.literal
  cases hliteral : parseIpAddr (trimEndMatches ']' (trimStartMatches '[' target.host)) with
  | some literal => exact .inl rfl
  | none =>
    rw [hliteral] at hip
    dsimp only at hip ⊢
    obtain ⟨rt, hrt, hip⟩ := List.mem_flatMap.mp (RunningDedup.mem_of_mem_firsts hip).1
    obtain ⟨o, ho, hip⟩ := List.mem_flatMap.mp hip
    refine .inr ⟨o, List.mem_flatMap.mpr ⟨rt, hrt, ho⟩, ?_, ?_⟩
    · have htype := recordType_of_mem_lookups h ho
      unfold DnsObservation.isForward
      rw [htype]
      rcases List.mem_pair.mp hrt with rfl | rfl <;> rfl
    · unfold answeredAddresses at hip
      split at hip
      · rename_i hnone
        exact Option.isNone_iff_eq_none.mp hnone
      · cases hip

lemma not_nothingResolved [DebugTables]
    {args : DiagnoseArgs} {net : DiagnoseNetwork} {target : Target}
    {destinations : List SocketAddr} (h : net.resolvers.AnsweredBy dns completions timeout)
    (hreaches : args.Reaches net target destinations) :
    ¬NothingResolved (args.dnsRows net target) := by
  rintro ⟨⟨o, ho, hforward, herror⟩, hall⟩
  obtain ⟨d, hd⟩ := List.exists_mem_of_ne_nil _ hreaches.nonempty
  obtain ⟨ip, hip, -, -⟩ := (hreaches.mem_iff d).mp hd
  rcases exists_forward_of_mem_addresses h hip with hnil | ⟨o', ho', hforward', hnone⟩
  · -- a literal has reverse rows at most, which are no forward ones
    unfold DiagnoseArgs.dnsRows at ho
    rw [hnil, List.nil_append] at ho
    split at ho
    · rw [not_isForward_of_ptr (recordType_of_mem_reverseRows h ho)] at hforward
      cases hforward
    · cases ho
  · have hfailed := hall o' (List.mem_append_left _ ho') hforward'
    rw [hnone] at hfailed
    cases hfailed

end Lookups

/-- The resolvers of a client, without an encrypted endpoint. -/
def DnsClient.resolvers (client : DnsClient) (dns : DnsNetwork) (timeout : Duration) :
    Resolvers where
  resolve host rt := client.resolve
    (dns.round (inOrder client) (String.ofList host) rt 0) timeout (String.ofList host) rt
  dohEndpoints := []
  dohQuery endpoint host rt := .base (String.ofList host) (.doh endpoint) rt
  dotEndpoints := []
  dotQuery endpoint host rt := .base (String.ofList host) (.dot endpoint) rt

lemma resolvers_answeredBy [DebugTables]
    (client : DnsClient) (dns : DnsNetwork) (timeout : Duration) :
    (client.resolvers dns timeout).AnsweredBy dns (inOrder client) timeout :=
  ⟨fun _ _ => rfl, fun _ h => absurd h List.not_mem_nil, fun _ h => absurd h List.not_mem_nil⟩

/-- The system resolver alone. -/
def systemClient : DnsClient := ⟨true, [], List.nodup_nil⟩

/-- A network in which nothing answers in time. -/
def DiagnoseNetwork.silent (timeout : Duration) : DiagnoseNetwork where
  resolvers := systemClient.resolvers .silent timeout
  now := none
  connect _ := ⟨.elapsed, timeout⟩
  handshake _ := (⟨.elapsed, fun _ => true, .elapsed, timeout⟩, timeout)
  http1 _ := (⟨.elapsed, fun _ => true, .elapsed, timeout⟩,
    ⟨.elapsed, fun _ => none, .elapsed, timeout, [], .stalled, timeout⟩)
  http2 _ := (⟨.elapsed, fun _ => true, .elapsed, timeout⟩,
    ⟨.elapsed, fun _ => none, .ok (), .ok (), .ok (), .elapsed, timeout, [], .stalled, timeout⟩)
  http3 _ := ⟨.ok (), .ok (), .ok (), .elapsed, .elapsed, fun _ => none, .elapsed, .elapsed,
    .elapsed, .elapsed, timeout, [], .stalled, timeout⟩
  reconnect _ _ := ⟨.elapsed, timeout⟩
  request _ _ := (⟨.elapsed, fun _ => true, .elapsed, timeout⟩,
    ⟨.elapsed, fun _ => none, .elapsed, timeout, [], .stalled, timeout⟩)
  order _ := .stored

lemma silent_answeredBy [DebugTables] (timeout : Duration) :
    (DiagnoseNetwork.silent timeout).resolvers.AnsweredBy DnsNetwork.silent
      (inOrder systemClient) timeout :=
  resolvers_answeredBy systemClient .silent timeout

/-- A strict look at IPv4, twice at each address and in cleartext. -/
def plainArgs : DiagnoseArgs where
  concurrency := 4
  family := .v4
  sni := none
  method := "GET"
  path := "/"
  headers := []
  body := none
  maxBodyBytes := 65536
  count := 2
  timeout := ⟨5000000000⟩
  plain := true
  reverse := false
  strict := true

/-- A literal and a name. -/
def twoTargets : List Target := [⟨"192.0.2.1".toList, 80⟩, ⟨"host.invalid".toList, 80⟩]

/-- A target that was diagnosed did resolve, so that a report has a DNS diagnosis exactly where its
resolvers disagree. -/
theorem diagnose_dns_iff [DebugTables] {client : Nat → DnsClient} {dns : Nat → DnsNetwork}
    {completions : ∀ i, Completions (client i)} {args : DiagnoseArgs}
    {net : Nat → DiagnoseNetwork}
    (hresolvers : ∀ i, (net i).resolvers.AnsweredBy (dns i) (completions i) args.timeout)
    {targets : List Target} {sweep : DiagnoseSweep} (h : RunDiagnose args net targets sweep) :
    ∀ report ∈ sweep.reports, Raises report.diagnoses .dns ↔ ResolversDisagree report.dns := by
  rw [runDiagnose_iff] at h
  subst h
  intro report hreport
  obtain ⟨i, target, destinations, -, hdestinations, rfl⟩ := exists_of_mem_sweep hreport
  have hresolved := not_nothingResolved (hresolvers i) (reaches_of_eq_some hdestinations)
  rw [diagnoses_of, diagnose_raises_iff (by decide)]
  constructor
  · intro hdns
    cases hdns with
    | nothingResolved hnothing => exact absurd hnothing hresolved
    | resolversDisagree hdisagree => exact hdisagree
  · exact fun hdisagree => .resolversDisagree hdisagree

/-- Two name servers. -/
def twoServers : DnsClient :=
  ⟨false, [.v4 ⟨.new 192 0 2 53, 53⟩, .v4 ⟨.new 192 0 2 54, 53⟩], by decide⟩

/-- The first name server has an address of its own for every name. -/
def DnsNetwork.split : DnsNetwork :=
  { DnsNetwork.silent with
    outcome := fun _ rt _ kind => .ok (if rt = .a then
      [⟨.a (if kind.label = "192.0.2.53:53" then .new 10 0 0 1 else .new 192 0 2 1), 60⟩] else []) }

def DiagnoseNetwork.split (timeout : Duration) : DiagnoseNetwork :=
  { DiagnoseNetwork.silent timeout with resolvers := twoServers.resolvers .split timeout }

/-- The rows of a lookup by the two servers, in the order of their labels. -/
lemma lookups_split (timeout : Duration) (host : List Char) (rt : DnsRecordType) :
    (DiagnoseNetwork.split timeout).resolvers.lookups host rt = twoServers.kinds.map (fun kind =>
      query (DnsNetwork.split.outcome (String.ofList host) rt 0 kind) ⟨0⟩ timeout kind
        (String.ofList host) rt) := by
  have hlabels : Ascending ResolverKind.label twoServers.kinds := by
    unfold Ascending
    decide
  unfold Resolvers.lookups
  refine (List.append_nil _).trans ((List.append_nil _).trans ?_)
  refine (sortByKey_map (fun o : DnsObservation => o.resolver.label) _ _).trans ?_
  exact congrArg _ (sortByKey_of_ascending hlabels)

/-- A target for the name servers. -/
def namedTarget : Target := ⟨"host.invalid".toList, 80⟩

lemma dnsRows_split : plainArgs.dnsRows (.split plainArgs.timeout) namedTarget =
    [DnsRecordType.a, .aaaa].flatMap (fun rt => twoServers.kinds.map (fun kind =>
      query (DnsNetwork.split.outcome "host.invalid" rt 0 kind) ⟨0⟩ plainArgs.timeout kind
        "host.invalid" rt)) := by
  have hliteral : namedTarget.literal = none := by decide
  unfold DiagnoseArgs.dnsRows forwardRows
  rw [hliteral]
  exact (List.append_nil _).trans
    (List.flatMap_congr (fun rt _ => lookups_split plainArgs.timeout namedTarget.host rt))

lemma exists_destinations_split : ∃ destinations, diagnoseDestinations
    (DiagnoseNetwork.split plainArgs.timeout).resolvers plainArgs.family namedTarget =
      some destinations := by
  have hliteral : namedTarget.literal = none := by decide
  have haddresses : diagnoseAddresses (DiagnoseNetwork.split plainArgs.timeout).resolvers
      namedTarget = [.v4 (.new 10 0 0 1), .v4 (.new 192 0 2 1)] := by
    unfold diagnoseAddresses
    rw [Target.literal] at hliteral
    rw [hliteral]
    simp only [lookups_split]
    decide
  unfold diagnoseDestinations
  rw [haddresses]
  exact ⟨_, rfl⟩

/-- Two name servers at odds about a name. -/
theorem diagnose_dns_iff_split :
    letI := DebugTables.none
    let net : Nat → DiagnoseNetwork := fun _ => .split plainArgs.timeout
    ∃ report ∈ (plainArgs.sweep net [namedTarget]).reports,
      ResolversDisagree report.dns ∧ Raises report.diagnoses .dns := by
  let := DebugTables.none
  obtain ⟨destinations, hdestinations⟩ := exists_destinations_split
  have hdisagree : ResolversDisagree
      (plainArgs.dnsRows (.split plainArgs.timeout) namedTarget) := by
    rw [dnsRows_split]
    decide
  have hreport : DiagnoseReport.of none
      (plainArgs.evidence (.split plainArgs.timeout) namedTarget destinations) ∈
        (plainArgs.sweep (fun _ => .split plainArgs.timeout) [namedTarget]).reports := by
    refine List.mem_filterMap.mpr ⟨_, List.mem_singleton_self _, ?_⟩
    exact congrArg (Option.map _) hdestinations
  refine ⟨_, hreport, hdisagree, ?_⟩
  exact (diagnose_dns_iff (fun _ => resolvers_answeredBy twoServers .split plainArgs.timeout)
    ((runDiagnose_iff _ _ _ _).mpr rfl) _ hreport).mpr hdisagree

/-! ### Reverse lookups -/

def DiagnoseArgs.reversing (args : DiagnoseArgs) (reverse : Bool) : DiagnoseArgs :=
  { args with reverse := reverse }

/-- The engine passes over rows that are no forward lookups. -/
lemma diagnose_append_dns (now : Clock) (input : DiagnosticInput) {rows : List DnsObservation}
    (h : ∀ o ∈ rows, o.isForward = false) :
    diagnose now { input with dns := input.dns ++ rows } = diagnose now input := by
  have hnone : rows.filter DnsObservation.isForward = [] :=
    List.filter_eq_nil_iff.mpr (fun o ho => by simp [h o ho])
  have hfilter : (input.dns ++ rows).filter DnsObservation.isForward =
      input.dns.filter DnsObservation.isForward := by
    rw [List.filter_append, hnone, List.append_nil]
  have hdns : dnsRules { input with dns := input.dns ++ rows } = dnsRules input :=
    dnsRules_congr hfilter
  unfold diagnose
  rw [hdns]
  rfl

lemma of_append_dns (now : Clock) (input : DiagnosticInput) {rows : List DnsObservation}
    (h : ∀ o ∈ rows, o.isForward = false) :
    DiagnoseReport.of now { input with dns := input.dns ++ rows } =
      { DiagnoseReport.of now input with dns := input.dns ++ rows } := by
  unfold DiagnoseReport.of
  rw [diagnose_append_dns now input h]

/-- A report that differs from another one in further PTR rows of its resolvers at most. -/
def DiagnoseReport.Extends (report report' : DiagnoseReport) : Prop :=
  ∃ rows, report' = { report with dns := report.dns ++ rows } ∧ ∀ o ∈ rows, o.recordType = .ptr

section Reverse

variable {args : DiagnoseArgs}

lemma evidence_reverse [DebugTables] (net : DiagnoseNetwork) (target : Target)
    (destinations : List SocketAddr) :
    (args.reversing true).evidence net target destinations =
      { (args.reversing false).evidence net target destinations with
        dns := ((args.reversing false).evidence net target
          destinations).dns ++ reverseRows net.resolvers target
            (diagnosePool net.resolvers args.family target) } := by
  have hrows : (args.reversing true).dnsRows net target =
      (args.reversing false).dnsRows net target ++
        reverseRows net.resolvers target (diagnosePool net.resolvers args.family target) := by
    unfold DiagnoseArgs.dnsRows DiagnoseArgs.reversing
    simp
  unfold DiagnoseArgs.evidence
  dsimp only
  rw [hrows]
  rfl

lemma report_reverse [DebugTables]
    {client : DnsClient} {dns : DnsNetwork} {completions : Completions client}
    {net : DiagnoseNetwork} (h : net.resolvers.AnsweredBy dns completions args.timeout)
    (target : Target) :
    Option.Rel DiagnoseReport.Extends
      ((args.reversing false).report net target)
      ((args.reversing true).report net target) := by
  have hfamily : ∀ reverse, (args.reversing reverse).family = args.family := fun _ => rfl
  unfold DiagnoseArgs.report
  rw [hfamily, hfamily]
  cases diagnoseDestinations net.resolvers args.family target with
  | none => exact .none
  | some destinations =>
    refine .some ⟨reverseRows net.resolvers target
      (diagnosePool net.resolvers args.family target), ?_,
      fun o ho => recordType_of_mem_reverseRows h ho⟩
    dsimp only
    rw [evidence_reverse]
    exact of_append_dns _ _
      (fun o ho => not_isForward_of_ptr (recordType_of_mem_reverseRows h ho))

end Reverse

section Outputs

variable {outputs outputs' : List (Option DiagnoseReport)}
  (h : List.Forall₂ (Option.Rel DiagnoseReport.Extends) outputs outputs')

include h

lemma filterMap_extends :
    List.Forall₂ DiagnoseReport.Extends (outputs.filterMap id) (outputs'.filterMap id) := by
  induction h with
  | nil => exact .nil
  | cons hrel _ ih =>
    cases hrel with
    | none => exact ih
    | some hextends => exact .cons hextends ih

lemma countP_isNone_extends : outputs'.countP Option.isNone = outputs.countP Option.isNone := by
  induction h with
  | nil => rfl
  | cons hrel _ ih =>
    cases hrel with
    | none => rw [List.countP_cons, List.countP_cons, ih]
    | some => rw [List.countP_cons, List.countP_cons, ih]; rfl

end Outputs

lemma flatMap_diagnoses_extends {reports reports' : List DiagnoseReport}
    (h : List.Forall₂ DiagnoseReport.Extends reports reports') :
    reports'.flatMap DiagnoseReport.diagnoses = reports.flatMap DiagnoseReport.diagnoses := by
  induction h with
  | nil => rfl
  | cons hextends _ ih =>
    obtain ⟨rows, rfl, -⟩ := hextends
    rw [List.flatMap_cons, List.flatMap_cons, ih]

/-- `--reverse` only adds PTR rows to the reports: no diagnosis and no exit code depends on it. -/
theorem reverse_only_adds [DebugTables] {client : Nat → DnsClient} {dns : Nat → DnsNetwork}
    {completions : ∀ i, Completions (client i)} {args : DiagnoseArgs}
    {net : Nat → DiagnoseNetwork}
    (hresolvers : ∀ i, (net i).resolvers.AnsweredBy (dns i) (completions i) args.timeout)
    {targets : List Target} {sweep sweep' : DiagnoseSweep}
    (h : RunDiagnose (args.reversing false) net targets sweep)
    (h' : RunDiagnose (args.reversing true) net targets sweep') :
    List.Forall₂ DiagnoseReport.Extends sweep.reports sweep'.reports ∧
      sweep'.unresolved = sweep.unresolved ∧
      ∀ written, sweep'.exitCode (args.reversing true) targets written =
        sweep.exitCode (args.reversing false) targets written := by
  rw [runDiagnose_iff] at h h'
  have houtputs : List.Forall₂ (Option.Rel DiagnoseReport.Extends)
      ((resolveItems targets).map (fun item =>
        (args.reversing false).report (net item.1) item.2))
      ((resolveItems targets).map (fun item =>
        (args.reversing true).report (net item.1) item.2)) := by
    rw [List.forall₂_map_left_iff, List.forall₂_map_right_iff, List.forall₂_same]
    exact fun item _ => report_reverse (hresolvers item.1) item.2
  have hreports : List.Forall₂ DiagnoseReport.Extends sweep.reports sweep'.reports := by
    rw [h, h']
    unfold DiagnoseArgs.sweep
    exact filterMap_extends houtputs
  have hunresolved : sweep'.unresolved = sweep.unresolved := by
    rw [h, h']
    unfold DiagnoseArgs.sweep
    exact countP_isNone_extends houtputs
  refine ⟨hreports, hunresolved, fun written => ?_⟩
  have hstrict : ∀ reverse, (args.reversing reverse).strict = args.strict := fun _ => rfl
  unfold DiagnoseSweep.exitCode DiagnoseSweep.anomalies
  rw [hunresolved, flatMap_diagnoses_extends hreports, hstrict, hstrict]

theorem reverse_only_adds_silent :
    letI := DebugTables.none
    let net : Nat → DiagnoseNetwork := fun _ => .silent plainArgs.timeout
    let sweep := (plainArgs.reversing false).sweep net twoTargets
    let sweep' := (plainArgs.reversing true).sweep net twoTargets
    List.Forall₂ DiagnoseReport.Extends sweep.reports sweep'.reports ∧
      sweep'.unresolved = sweep.unresolved ∧
      ∀ written, sweep'.exitCode (plainArgs.reversing true) twoTargets written =
        sweep.exitCode (plainArgs.reversing false) twoTargets written := by
  let := DebugTables.none
  exact reverse_only_adds (fun _ => silent_answeredBy plainArgs.timeout)
    ((runDiagnose_iff _ _ _ _).mpr rfl) ((runDiagnose_iff _ _ _ _).mpr rfl)

/-! ### Plain sweeps -/

section Plain

variable {args : DiagnoseArgs} (hplain : args.plain = true)

include hplain

end Plain

section PlainEvidence

variable {args : DiagnoseArgs} (hplain : args.plain = true) {net : DiagnoseNetwork}
  {target : Target} {destinations : List SocketAddr}

include hplain

end PlainEvidence

section Family

variable {args : DiagnoseArgs} {net : DiagnoseNetwork} {target : Target}
  {destinations : List SocketAddr}

/-- Under a family flag every destination is of one family. -/
lemma exists_family (hfamily : args.family ≠ .both)
    (h : args.Reaches net target destinations) :
    ∃ ipv4, ∀ d ∈ destinations, d.isIpv4 = ipv4 := by
  have hnew : ∀ (ip : IpAddr) (port : UInt16), (SocketAddr.new ip port).isIpv4 = ip.isIpv4 := by
    intro ip port
    cases ip <;> rfl
  cases hscope : args.family with
  | both => exact absurd hscope hfamily
  | v4 =>
    refine ⟨true, fun d hd => ?_⟩
    obtain ⟨ip, -, hkeeps, rfl⟩ := (h.mem_iff d).mp hd
    rw [hscope] at hkeeps
    rw [hnew]
    exact hkeeps
  | v6 =>
    refine ⟨false, fun d hd => ?_⟩
    obtain ⟨ip, -, hkeeps, rfl⟩ := (h.mem_iff d).mp hd
    rw [hscope] at hkeeps
    rw [hnew]
    exact (Bool.not_eq_true' _).mp hkeeps

lemma mem_of_mem_tcp [DebugTables] {o : TcpObservation}
    (ho : o ∈ (args.evidence net target destinations).tcp) : o.destination ∈ destinations := by
  have hmem := List.mem_map_of_mem (f := TcpObservation.destination) ho
  rwa [map_destination_tcp] at hmem

lemma mem_of_mem_http [DebugTables] {o : HttpObservation}
    (ho : o ∈ (args.evidence net target destinations).http) : o.destination ∈ destinations := by
  have hmem := List.mem_map_of_mem (f := HttpObservation.destination) ho
  rw [map_destination_http] at hmem
  split at hmem
  · exact hmem
  · simpa using hmem

variable {ipv4 : Bool} (hall : ∀ d ∈ destinations, d.isIpv4 = ipv4)

include hall

lemma not_familyProbed [DebugTables]
    : ¬FamilyProbed (args.evidence net target destinations).tcp (!ipv4) := by
  rintro ⟨o, ho, hother⟩
  rw [hall _ (mem_of_mem_tcp ho)] at hother
  cases ipv4 <;> cases hother

lemma not_familiesDiffer [DebugTables]
    : ¬FamiliesDiffer (args.evidence net target destinations).http := by
  have hstatus : ∀ family s,
      s ∈ familyStatus (args.evidence net target destinations).http family → ipv4 = family := by
    intro family s hs
    obtain ⟨o, ho, -⟩ := List.mem_filterMap.mp hs
    obtain ⟨hmem, hfamily⟩ := List.mem_filter.mp ho
    rw [Bool.and_eq_true, beq_iff_eq] at hfamily
    exact (hall _ (mem_of_mem_http hmem)).symm.trans hfamily.2
  rintro ⟨family, ⟨s, hs, -⟩, ⟨s', hs'⟩, -⟩
  have hsame := (hstatus family s hs).symm.trans (hstatus (!family) s' hs')
  cases family <;> cases hsame

end Family

/-- A sweep of one family is never told of a split between the families, and what it says of the
address family is that no address of it can be reached from this host. -/
theorem one_family_alone [DebugTables] {args : DiagnoseArgs} (hfamily : args.family ≠ .both)
    {net : Nat → DiagnoseNetwork} {targets : List Target} {sweep : DiagnoseSweep}
    (h : RunDiagnose args net targets sweep) :
    ∀ report ∈ sweep.reports, ¬FamilySplit report.tcp ∧ ¬FamiliesDiffer report.http ∧
      (Raises report.diagnoses .addressFamily ↔
        ¬Reached report.tcp ∧ ¬FailedOnPath report.tcp) := by
  rw [runDiagnose_iff] at h
  subst h
  intro report hreport
  obtain ⟨i, target, destinations, -, hdestinations, rfl⟩ := exists_of_mem_sweep hreport
  have hreaches := reaches_of_eq_some hdestinations
  obtain ⟨ipv4, hall⟩ := exists_family hfamily hreaches
  have hother : ¬FamilyProbed (args.evidence (net i) target destinations).tcp (!ipv4) :=
    not_familyProbed hall
  have hprobed : FamilyProbed (args.evidence (net i) target destinations).tcp ipv4 := by
    have hmap : (args.evidence (net i) target destinations).tcp.map TcpObservation.destination =
        destinations := map_destination_tcp
    obtain ⟨d, hd⟩ := List.exists_mem_of_ne_nil _ hreaches.nonempty
    rw [← hmap] at hd
    obtain ⟨o, ho, rfl⟩ := List.mem_map.mp hd
    exact ⟨o, ho, hall _ (mem_of_mem_tcp ho)⟩
  refine ⟨not_familySplit hother, not_familiesDiffer hall, ?_⟩
  rw [diagnoses_of, diagnose_raises_iff (by decide)]
  constructor
  · intro hindicates
    cases hindicates with
    | familySplit hsplit => exact absurd hsplit (not_familySplit hother)
    | familyUnroutable hlone => exact ⟨hlone.2.1, hlone.2.2⟩
  · rintro ⟨hreached, hfailed⟩
    exact .familyUnroutable ⟨⟨ipv4, hprobed, hother⟩, hreached, hfailed⟩

theorem one_family_alone_silent :
    letI := DebugTables.none
    let net : Nat → DiagnoseNetwork := fun _ => .silent plainArgs.timeout
    ∀ report ∈ (plainArgs.sweep net twoTargets).reports,
      ¬FamilySplit report.tcp ∧ ¬FamiliesDiffer report.http ∧
        (Raises report.diagnoses .addressFamily ↔
          ¬Reached report.tcp ∧ ¬FailedOnPath report.tcp) := by
  let := DebugTables.none
  exact one_family_alone (by decide) ((runDiagnose_iff _ _ _ _).mpr rfl)

end IpTools
