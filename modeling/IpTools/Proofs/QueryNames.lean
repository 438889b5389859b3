import IpTools.Proofs.MessageRoundTrip

/-!
# Queries and the message parser

What the query builder writes is read by the parsers of messages: the name that was asked for, its
end, and the type that is then wanted. The builder looks at each label and not at the whole name.
-/

namespace IpTools

open Placement

/-- The name that is asked for: the host without one trailing dot. -/
def queryName (host : List Char) : List Char := (stripSuffix '.' host).getD host

/-- The builder writes the labels as the reference encoder does. -/
lemma queryLabels_eq [DebugTables]
    {host : List Char} {chunks : List (List Char)} {bytes : List UInt8}
    (h : queryLabels host chunks = .ok bytes) :
    ∃ labels : List Label, labels.map Label.text = chunks ∧
      bytes = labels.flatMap Label.bytes := by
  induction chunks generalizing bytes with
  | nil =>
    cases h
    exact ⟨[], rfl, rfl⟩
  | cons chunk chunks ih =>
    rw [queryLabels] at h
    dsimp only at h
    split at h
    · cases h
    · rename_i hsize
      cases hrest : queryLabels host chunks with
      | error e =>
        rw [hrest] at h
        cases h
      | ok rest =>
        rw [hrest] at h
        cases h
        obtain ⟨labels, htexts, rfl⟩ := ih hrest
        simp only [Bool.or_eq_true, List.isEmpty_iff, decide_eq_true_eq, not_or] at hsize
        have hnonempty : 0 < (Utf8.encode chunk).length := List.length_pos_iff.mpr hsize.1
        exact ⟨⟨chunk, hnonempty, by omega⟩ :: labels, by rw [List.map_cons, htexts], rfl⟩

/-- The labels of a name spell it. -/
lemma nameText_splitOn {labels : List Label} {name : List Char}
    (h : labels.map Label.text = name.splitOn '.') : nameText labels = String.ofList name := by
  have htexts : labels.map (fun l => String.ofList l.text) =
      (name.splitOn '.').map String.ofList := by
    rw [← h, List.map_map]
    rfl
  have hjoin : ".".intercalate ((name.splitOn '.').map String.ofList) = String.ofList name := by
    rw [← String.toList_inj, String.toList_intercalate, List.map_map]
    have hid : String.toList ∘ String.ofList = id := funext fun _ => String.toList_ofList
    rw [hid, List.map_id]
    exact (List.intercalate_splitOn '.').trans String.toList_ofList.symm
  cases labels with
  | nil => exact absurd h.symm (List.splitOn_ne_nil _ _)
  | cons l labels => exact (congrArg _ htexts).trans hjoin

/-- What a query says. -/
structure QueryRead (q : List UInt8) (name : List Char) (recordType : DnsRecordType) : Prop where
  readName : readName q 12 = .ok (String.ofList name, q.length - 4)
  skipName : skipName q 12 = .ok (q.length - 4)
  qdcount : u16At q 4 = .ok 1
  ancount : u16At q 6 = .ok 0
  nscount : u16At q 8 = .ok 0
  arcount : u16At q 10 = .ok 0
  qtype : ∃ qtype, u16At q (q.length - 4) = .ok qtype ∧
    ∀ want, isWanted want qtype = true ↔ want = recordType
  qclass : u16At q (q.length - 2) = .ok 1

/-- The type code of a query is the one that is wanted of the answers, and of no other type. -/
lemma isWanted_queryType (recordType want : DnsRecordType) :
    isWanted want (queryType recordType).toNat = true ↔ want = recordType := by
  cases recordType <;> cases want <;> decide

def queryHeader : List UInt8 := be16 0 ++ be16 0x0100 ++ be16 1 ++ [0, 0, 0, 0, 0, 0]

/-- The builder writes the header, the name and the type and class of the question. -/
lemma buildQuery_eq [DebugTables] {host : List Char} {recordType : DnsRecordType} {q : List UInt8}
    (h : buildQuery host recordType = .ok q) :
    ∃ labels : List Label, labels.map Label.text = (queryName host).splitOn '.' ∧
      q = queryHeader ++ (WireName.mk labels none).bytes ++
        (be16 (queryType recordType) ++ be16 1) := by
  unfold buildQuery at h
  cases hlabels : queryLabels host ((queryName host).splitOn '.') with
  | error e =>
    unfold queryName at hlabels
    dsimp only at h
    rw [hlabels] at h
    cases h
  | ok bytes =>
    obtain ⟨labels, htexts, rfl⟩ := queryLabels_eq hlabels
    unfold queryName at hlabels
    dsimp only at h
    rw [hlabels] at h
    cases h
    refine ⟨labels, htexts, ?_⟩
    simp [queryHeader, WireName.bytes]

lemma queryRead [DebugTables] {host : List Char} {recordType : DnsRecordType} {q : List UInt8}
    (h : buildQuery host recordType = .ok q) : QueryRead q (queryName host) recordType := by
  obtain ⟨labels, htexts, hq⟩ := buildQuery_eq h
  have hself := at_self q
  have hlength := congrArg List.length hq
  nth_rewrite 2 [hq] at hself
  obtain ⟨hfront, hback⟩ := at_append_iff.mp hself
  obtain ⟨hheader, hname⟩ := at_append_iff.mp hfront
  obtain ⟨htype, hclass⟩ := at_append_iff.mp hback
  simp only [List.length_append, length_be16, queryHeader, List.length_cons, List.length_nil,
    Nat.zero_add] at hlength htype hclass hname
  have hwalk : NameAt q 12 labels 0 (12 + (WireName.mk labels none).bytes.length) := by
    have hfits : (WireName.mk labels none).Fits [] := by
      intro p hp
      cases hp
    have hread := (WireName.nameAt hfits (fun s hs => absurd hs List.not_mem_nil) hname).1
    simpa [WireName.labels, WireName.hops] using hread
  have hend : q.length - 4 = 12 + (WireName.mk labels none).bytes.length := by omega
  have hlast : q.length - 2 = 12 + (WireName.mk labels none).bytes.length + 2 := by omega
  obtain ⟨hcounts, hzeros⟩ := at_append_iff.mp hheader
  obtain ⟨-, hquestions⟩ := at_append_iff.mp hcounts
  obtain ⟨hanswers, hrest⟩ := at_append_iff (a := be16 0) (b := be16 0 ++ be16 0).mp hzeros
  obtain ⟨hauthority, hadditional⟩ := at_append_iff.mp hrest
  constructor
  case readName =>
    rw [readName_nameAt hwalk (by omega), nameText_splitOn htexts, hend]
  case skipName => rw [skipName_nameAt hwalk (by omega), hend]
  case qdcount => exact u16At_be16 hquestions
  case ancount => exact u16At_be16 hanswers
  case nscount => exact u16At_be16 hauthority
  case arcount => exact u16At_be16 hadditional
  case qtype =>
    rw [hend]
    exact ⟨_, u16At_be16 htype, isWanted_queryType recordType⟩
  case qclass =>
    rw [hlast]
    exact u16At_be16 hclass

theorem buildQuery_read [DebugTables]
    {host : List Char} {recordType : DnsRecordType} {q : List UInt8}
    (h : buildQuery host recordType = .ok q) :
    QueryRead q (queryName host) recordType ∧
      ∀ (host' : List Char) (recordType' : DnsRecordType) (q' : List UInt8),
        buildQuery host' recordType' = .ok q' → q'.drop 12 = q.drop 12 →
          queryName host' = queryName host ∧ recordType' = recordType := by
  have hread := queryRead h
  refine ⟨hread, fun host' recordType' q' h' hquestion => ?_⟩
  have hread' := queryRead h'
  -- all queries have one header, so the question decides the whole query
  have hsame : q' = q := by
    obtain ⟨labels, -, hq⟩ := buildQuery_eq h
    obtain ⟨labels', -, hq'⟩ := buildQuery_eq h'
    have hheader : q.take 12 = queryHeader := by
      rw [hq, List.append_assoc]
      exact List.take_left' rfl
    have hheader' : q'.take 12 = queryHeader := by
      rw [hq', List.append_assoc]
      exact List.take_left' rfl
    rw [← List.take_append_drop 12 q', ← List.take_append_drop 12 q, hheader, hheader', hquestion]
  subst hsame
  constructor
  · have hname := hread'.readName.symm.trans hread.readName
    exact String.ofList_injective (congrArg Prod.fst (Except.ok.inj hname))
  · obtain ⟨qtype, hqtype, hwanted⟩ := hread.qtype
    obtain ⟨qtype', hqtype', hwanted'⟩ := hread'.qtype
    obtain rfl := Except.ok.inj (hqtype.symm.trans hqtype')
    exact (hwanted recordType').mp ((hwanted' recordType').mpr rfl)

/-- The host `a.b.` is asked for as `a.b`. -/
theorem buildQuery_read_dotted :
    readName [0, 0, 1, 0, 0, 1, 0, 0, 0, 0, 0, 0, 1, 97, 1, 98, 0, 0, 28, 0, 1] 12 =
      .ok ("a.b", 17) :=
  (@buildQuery_read .none "a.b.".toList .aaaa _ (by decide +kernel)).1.readName

/-- The labels of the name that is asked for, as bytes. -/
def queryParts (host : List Char) : List (List UInt8) :=
  ((queryName host).splitOn '.').map Utf8.encode

/-- Every label has 1 to 63 bytes. -/
def LabelsFit (host : List Char) : Prop :=
  ∀ label ∈ queryParts host, 1 ≤ label.length ∧ label.length ≤ 63

/-- The length of the name on the wire: the length bytes, the labels and the final zero. -/
def encodedLength (host : List Char) : Nat :=
  ((queryParts host).map (fun label => 1 + label.length)).sum + 1

/-- Whether a host has the form of a domain name: labels of 1 to 63 bytes, and at most 255 bytes
in all. -/
def Encodable (host : List Char) : Prop := LabelsFit host ∧ encodedLength host ≤ 255

lemma queryLabels_ok_iff [DebugTables] (host : List Char) (chunks : List (List Char)) :
    (∃ bytes, queryLabels host chunks = .ok bytes) ↔
      ∀ chunk ∈ chunks, 1 ≤ (Utf8.encode chunk).length ∧ (Utf8.encode chunk).length ≤ 63 := by
  induction chunks with
  | nil => exact iff_of_true ⟨[], rfl⟩ (by simp)
  | cons chunk chunks ih =>
    have hsize : ((Utf8.encode chunk).isEmpty || decide ((Utf8.encode chunk).length > 63)) =
        true ↔ ¬(1 ≤ (Utf8.encode chunk).length ∧ (Utf8.encode chunk).length ≤ 63) := by
      rw [Bool.or_eq_true, List.isEmpty_iff_length_eq_zero, decide_eq_true_eq]
      omega
    rw [List.forall_mem_cons, ← ih, queryLabels]
    dsimp only
    split
    · rename_i hbad
      exact iff_of_false (fun ⟨bytes, h⟩ => by cases h) (fun h => hsize.mp hbad h.1)
    · rename_i hgood
      rw [hsize, not_not] at hgood
      rw [and_iff_right hgood]
      cases queryLabels host chunks with
      | error e => exact iff_of_false (fun ⟨bytes, h⟩ => by cases h) (fun ⟨bytes, h⟩ => by cases h)
      | ok rest => exact iff_of_true ⟨_, rfl⟩ ⟨_, rfl⟩

lemma buildQuery_ok_iff [DebugTables] (host : List Char) (recordType : DnsRecordType) :
    (∃ q, buildQuery host recordType = .ok q) ↔ LabelsFit host := by
  have hlabels := queryLabels_ok_iff host ((queryName host).splitOn '.')
  rw [LabelsFit, queryParts, List.forall_mem_map, ← hlabels, buildQuery]
  unfold queryName
  cases queryLabels host (((stripSuffix '.' host).getD host).splitOn '.') with
  | error e => exact iff_of_false (fun ⟨q, h⟩ => by cases h) (fun ⟨bytes, h⟩ => by cases h)
  | ok bytes => exact iff_of_true ⟨_, rfl⟩ ⟨_, rfl⟩

/-- A query is its header, the name, and the type and class. -/
lemma length_query [DebugTables] {host : List Char} {recordType : DnsRecordType} {q : List UInt8}
    (h : buildQuery host recordType = .ok q) : q.length = 12 + encodedLength host + 4 := by
  obtain ⟨labels, htexts, rfl⟩ := buildQuery_eq h
  have hname : (labels.flatMap Label.bytes).length + 1 = encodedLength host := by
    rw [encodedLength, queryParts, ← htexts, List.map_map, List.map_map, List.length_flatMap]
    congr 3
    funext l
    simp [Label.bytes, Nat.add_comm]
  simp only [List.length_append, queryHeader, length_be16, WireName.bytes, Option.elim_none,
    List.length_cons, List.length_nil]
  omega

/-- A host is accepted for its labels, whatever their number: the builder and the limits of a
domain name part where the labels fit and the whole name does not. -/
theorem buildQuery_accepts_iff [DebugTables] (host : List Char) (recordType : DnsRecordType) :
    (((∃ q, buildQuery host recordType = .ok q) ↔ Encodable host) ↔
      ¬(LabelsFit host ∧ 255 < encodedLength host)) ∧
    ∀ q, buildQuery host recordType = .ok q → q.length = 12 + encodedLength host + 4 := by
  refine ⟨?_, fun q => length_query⟩
  rw [buildQuery_ok_iff, Encodable, ← not_le, not_and_not_right, iff_self_and]

/-- Four labels of 63 bytes each. -/
def longName : List Char :=
  ['.'].intercalate (List.replicate 4 (List.replicate 63 'a'))

/-- The longest labels make a name of 257 bytes, which is accepted. -/
theorem long_name_is_accepted :
    letI := DebugTables.none
    encodedLength longName = 257 ∧
      ¬((∃ q, buildQuery longName .a = .ok q) ↔ Encodable longName) := by
  let := DebugTables.none
  have hlength : encodedLength longName = 257 := by decide +kernel
  have hfit : LabelsFit longName := by
    unfold LabelsFit
    decide +kernel
  refine ⟨hlength, fun h => ?_⟩
  have hlimit : encodedLength longName ≤ 255 := (h.mp ((buildQuery_ok_iff _ _).mpr hfit)).2
  omega

end IpTools
