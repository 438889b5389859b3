import Mathlib.Tactic.Common
import IpTools.Proofs.MessageNames

/-!
# The parser undoes the encoder

The parser follows a message piece by piece. Where the pieces of a question or of an answer stand,
it ends at their end, and so the next ones are read from where they start.
-/

namespace IpTools

open Placement

variable {bytes : List UInt8} {pos : Nat} {starts : List NameStart}

lemma byteAt_at {b : UInt8} {rest : List UInt8} (h : At bytes pos (b :: rest)) :
    byteAt bytes pos = .ok b := by
  rw [byteAt, (at_cons_iff.mp h).1]

lemma slice_at {chunk : List UInt8} (h : At bytes pos chunk) :
    slice bytes pos (pos + chunk.length) = .ok chunk := by
  rw [slice_eq (Nat.le_add_right _ _) h.length_le, Nat.add_sub_cancel_left, h.take_drop]

lemma length_be16 (n : UInt16) : (be16 n).length = 2 := rfl

lemma u16At_be16 {n : UInt16} (h : At bytes pos (be16 n)) : u16At bytes pos = .ok n.toNat := by
  have hlow := byteAt_at (at_cons_iff.mp h).2
  have hn := n.toNat_lt
  have hhigh : (UInt8.ofNat (n.toNat / 2 ^ 8)).toNat = n.toNat / 2 ^ 8 :=
    ByteBits.toNat_ofNat (by omega)
  have hmod : (UInt8.ofNat n.toNat).toNat = n.toNat % 2 ^ 8 := UInt8.toNat_ofNat
  rw [u16At, byteAt_at h, ok_bind, hlow, ok_bind, hhigh, hmod]
  exact congrArg Except.ok (Nat.div_add_mod' n.toNat (2 ^ 8))

lemma length_be32 (n : UInt32) : (be32 n).length = 4 := by simp [be32, be16]

lemma u32At_be32 {n : UInt32} (h : At bytes pos (be32 n)) : u32At bytes pos = .ok n.toNat := by
  obtain ⟨hhigh, hlow⟩ := at_append_iff.mp h
  have hn := n.toNat_lt
  have hdiv : (UInt16.ofNat (n.toNat / 2 ^ 16)).toNat = n.toNat / 2 ^ 16 :=
    UInt16.toNat_ofNat_of_lt' (by show _ < 2 ^ 16; omega)
  have hmod : (UInt16.ofNat n.toNat).toNat = n.toNat % 2 ^ 16 := UInt16.toNat_ofNat
  rw [length_be16] at hlow
  rw [u32At, u16At_be16 hhigh, ok_bind, u16At_be16 hlow, ok_bind, hdiv, hmod]
  exact congrArg Except.ok (Nat.div_add_mod' n.toNat (2 ^ 16))

lemma piecesBytes_cons (piece : Piece) (rest : List Piece) :
    piecesBytes (piece :: rest) = piece.bytes ++ piecesBytes rest := List.flatMap_cons

lemma piecesBytes_raw (chunk : List UInt8) : piecesBytes [.raw chunk] = chunk :=
  List.append_nil chunk

lemma piecesBytes_append (a b : List Piece) :
    piecesBytes (a ++ b) = piecesBytes a ++ piecesBytes b := List.flatMap_append

/-- The pieces stand at a position, after names of which the starts are known. -/
structure Standing (bytes : List UInt8) (pos : Nat) (starts : List NameStart)
    (pieces : List Piece) : Prop where
  place : At bytes pos (piecesBytes pieces)
  fits : PiecesFit pieces pos starts
  known : StartsHold bytes starts

lemma Standing.raw {chunk : List UInt8} {rest : List Piece}
    (h : Standing bytes pos starts (.raw chunk :: rest)) :
    At bytes pos chunk ∧ Standing bytes (pos + chunk.length) starts rest := by
  obtain ⟨place, fits, known⟩ := h
  rw [piecesBytes_cons, at_append_iff] at place
  exact ⟨place.1, place.2, fits, known⟩

lemma Standing.name {w : WireName} {rest : List Piece}
    (h : Standing bytes pos starts (.name w :: rest)) :
    NameAt bytes pos w.labels w.hops (pos + w.bytes.length) ∧ w.hops ≤ 8 ∧
      Standing bytes (pos + w.bytes.length) (starts ++ w.starts pos) rest := by
  obtain ⟨place, fits, known⟩ := h
  rw [piecesBytes_cons, at_append_iff] at place
  obtain ⟨hname, hhops, hknown⟩ := WireName.nameAt fits.1 known place.1
  exact ⟨hname, hhops, place.2, fits.2, hknown⟩

lemma PiecesFit.left {a b : List Piece} (h : PiecesFit (a ++ b) pos starts) :
    PiecesFit a pos starts := by
  induction a generalizing pos starts with
  | nil => trivial
  | cons piece a ih =>
    cases piece with
    | raw chunk => exact ih h
    | name w => exact ⟨h.1, ih h.2⟩

lemma Standing.left {a b : List Piece} (h : Standing bytes pos starts (a ++ b)) :
    Standing bytes pos starts a := by
  have hplace := h.place
  rw [piecesBytes_append, at_append_iff] at hplace
  exact ⟨hplace.1, h.fits.left, h.known⟩

lemma Standing.right {a b : List Piece} (h : Standing bytes pos starts (a ++ b)) :
    ∃ starts', Standing bytes (pos + (piecesBytes a).length) starts' b := by
  induction a generalizing pos starts with
  | nil => exact ⟨starts, h⟩
  | cons piece a ih =>
    rw [piecesBytes_cons, List.length_append, ← Nat.add_assoc]
    cases piece with
    | raw chunk => exact ih h.raw.2
    | name w => exact ih h.name.2.2

lemma Standing.skipQuestion {q : Question} (h : Standing bytes pos starts q.pieces) :
    skipName bytes pos = .ok (pos + q.name.bytes.length) :=
  skipName_nameAt h.name.1 h.name.2.1

/-- The loop over the questions ends where they end. -/
lemma skipQuestions_standing {questions : List Question}
    (h : Standing bytes pos starts (questions.flatMap Question.pieces)) :
    skipQuestions bytes questions.length pos =
      .ok (pos + (piecesBytes (questions.flatMap Question.pieces)).length) := by
  induction questions generalizing pos starts with
  | nil => rfl
  | cons q questions ih =>
    rw [List.flatMap_cons] at h
    obtain ⟨starts', hrest⟩ := h.right
    have hlength : (piecesBytes q.pieces).length = q.name.bytes.length + 4 := by
      rw [Question.pieces, piecesBytes_cons, List.length_append]
      rfl
    rw [hlength, ← Nat.add_assoc] at hrest
    rw [List.length_cons, skipQuestions, h.left.skipQuestion, ok_bind, ih hrest,
      List.flatMap_cons, piecesBytes_append, List.length_append, hlength]
    congr 1
    omega

section RecordData

variable {want : DnsRecordType} {rdataStart : Nat}

lemma readRecord_unwanted {rtype : Nat} (h : isWanted want rtype = false)
    (bytes rdata : List UInt8) : readRecord bytes want rtype rdataStart rdata = .ok none := by
  unfold readRecord
  cases want <;> simp_all [isWanted]

/-- The parser wants a record of the type exactly where the encoder wrote one. -/
lemma isWanted_iff {rdata : Rdata} (hwell : rdata.WellFormed) :
    isWanted want rdata.rtype.toNat = true ↔ rdata.recordType = some want := by
  cases rdata with
  | other rtype chunk => simp [Rdata.rtype, Rdata.recordType, hwell.2 want]
  | _ => cases want <;> simp [isWanted, Rdata.rtype, Rdata.recordType]

lemma Standing.readName {w : WireName} {rest : List Piece}
    (h : Standing bytes pos starts (.name w :: rest)) :
    readName bytes pos = .ok (w.text, pos + w.bytes.length) :=
  readName_nameAt h.name.1 h.name.2.1

lemma readTxtLoop_at {rdata : List UInt8} {strings : List (List UInt8)} {off : Nat}
    (hshort : ∀ s ∈ strings, s.length < 2 ^ 8) (h : At rdata off (strings.flatMap charString))
    (hend : off + (strings.flatMap charString).length = rdata.length) (out : String) :
    readTxtLoop rdata off out = .ok (out ++ String.join (strings.map fromUtf8Lossy)) := by
  induction strings generalizing off out with
  | nil =>
    rw [readTxtLoop, if_neg (by simp_all)]
    simp
  | cons s strings ih =>
    rw [List.flatMap_cons] at h hend
    rw [List.length_append] at hend
    obtain ⟨hs, hrest⟩ := at_append_iff.mp h
    obtain ⟨-, htext⟩ := at_cons_iff.mp hs
    have hlen : (UInt8.ofNat s.length).toNat = s.length :=
      ByteBits.toNat_ofNat (hshort s List.mem_cons_self)
    have hlength : (charString s).length = s.length + 1 := rfl
    have hnext : off + 1 + s.length = off + (charString s).length := by omega
    rw [readTxtLoop, if_pos (by omega), byteAt_at hs]
    dsimp only
    rw [hlen, if_neg (by omega), slice_at htext]
    dsimp only
    rw [hnext, ih (fun t ht => hshort t (List.mem_cons_of_mem s ht)) hrest (by omega),
      List.map_cons, String.join_cons, String.append_assoc]

lemma WireName.bytes_pos (w : WireName) : 0 < w.bytes.length := by
  rw [WireName.bytes, List.length_append]
  cases w.pointer with
  | none => exact Nat.le_add_left 1 _
  | some p => exact Nat.lt_of_lt_of_le Nat.two_pos (Nat.le_add_left 2 _)

lemma readRecord_a (bytes : List UInt8) (ip : Ipv4Addr) :
    readRecord bytes .a 1 rdataStart ip.octets.toList = .ok (some (.a ip)) := by
  obtain ⟨⟨⟨octets⟩, hsize⟩⟩ := ip
  obtain ⟨b0, b1, b2, b3, rfl⟩ : ∃ b0 b1 b2 b3, octets = [b0, b1, b2, b3] :=
    List.length_eq_four.mp hsize
  rfl

lemma readRecord_aaaa (bytes : List UInt8) (ip : Ipv6Addr) :
    readRecord bytes .aaaa 28 rdataStart ip.octets.toList = .ok (some (.aaaa ip)) := by
  have hlength : ip.octets.toList.length = 16 := ip.octets.length_toList
  have hsize : ip.octets.toList.toArray.size = 16 := hlength
  rw [readRecord]
  dsimp only
  rw [if_neg (by simp), if_pos ⟨rfl, rfl, hlength⟩, dif_pos hsize]
  rfl

lemma readRecord_txt (bytes : List UInt8) {strings : List (List UInt8)}
    (hshort : ∀ s ∈ strings, s.length < 2 ^ 8) :
    readRecord bytes .txt 16 rdataStart (strings.flatMap charString) =
      .ok (some (.txt (String.join (strings.map fromUtf8Lossy)))) := by
  have htxt : readTxt (strings.flatMap charString) = _ :=
    readTxtLoop_at hshort (at_self _) (Nat.zero_add _) ""
  change (readTxt (strings.flatMap charString) >>= fun text =>
    .ok (some (DnsRecord.txt text))) = _
  rw [htxt, String.empty_append, ok_bind]

lemma readSoa_standing {mname rname : WireName} {serial refresh retry expire minimum : UInt32}
    (h : Standing bytes pos starts
      (Rdata.soa mname rname serial refresh retry expire minimum).pieces) :
    readSoa bytes pos = .ok (.soa (soaText mname.text rname.text serial.toNat refresh.toNat
      retry.toNat expire.toNat minimum.toNat)) := by
  have hr := h.name.2.2
  have hfields := hr.name.2.2.raw.1
  have hend : pos + mname.bytes.length + rname.bytes.length + 20 ≤ bytes.length :=
    hfields.length_le
  iterate 4 rw [at_append_iff] at hfields
  obtain ⟨⟨⟨⟨hserial, hrefresh⟩, hretry⟩, hexpire⟩, hminimum⟩ := hfields
  have hsecond := u32At_be32 hrefresh
  have hthird := u32At_be32 hretry
  have hfourth := u32At_be32 hexpire
  have hfifth := u32At_be32 hminimum
  simp only [List.length_append, length_be32] at hsecond hthird hfourth hfifth
  rw [readSoa, h.readName, ok_bind]
  dsimp only
  rw [hr.readName, ok_bind]
  dsimp only
  rw [if_neg (Nat.not_lt.mpr hend), u32At_be32 hserial, ok_bind, hsecond, ok_bind, hthird,
    ok_bind, hfourth, ok_bind, hfifth, ok_bind]
  rfl

lemma readCaa_bytes (flags : UInt8) {tag : List UInt8} (value : List UInt8)
    (h : tag.length < 2 ^ 8) :
    readCaa (flags :: charString tag ++ value) =
      .ok (.caa flags (fromUtf8Lossy tag) (fromUtf8Lossy value)) := by
  have hflags : At (flags :: charString tag ++ value) 0 (flags :: charString tag ++ value) :=
    at_self _
  obtain ⟨htag, hvalue⟩ := at_append_iff.mp (at_cons_iff.mp hflags).2
  have hlen : (UInt8.ofNat tag.length).toNat = tag.length := ByteBits.toNat_ofNat h
  have hend : 0 + 1 + (charString tag).length = 2 + tag.length := by
    rw [charString, List.length_cons]
    omega
  have hlength : (flags :: charString tag ++ value).length = 2 + tag.length + value.length := by
    rw [List.length_append, List.length_cons, ← hend]
    omega
  have htagLen : byteAt (flags :: charString tag ++ value) 1 = .ok (UInt8.ofNat tag.length) :=
    byteAt_at htag
  have htext : slice (flags :: charString tag ++ value) 2 (2 + tag.length) = .ok tag :=
    slice_at (at_cons_iff.mp htag).2
  have hrest := slice_at hvalue
  rw [hend] at hrest
  rw [readCaa, byteAt_at hflags, ok_bind, htagLen, ok_bind]
  dsimp only
  rw [hlen, hlength, if_neg (by omega), htext, ok_bind, hrest, ok_bind]
  rfl

lemma readName_record (record : String → DnsRecord) {w : WireName}
    (h : Standing bytes pos starts [.name w]) :
    (do return some (record (← readName bytes pos).1)) =
      (.ok (some (record w.text)) : Parsed (Option DnsRecord)) := by
  rw [h.readName, ok_bind]
  rfl

lemma readRecord_mx (preference : UInt16) {exchange : WireName}
    (h : Standing bytes pos starts (Rdata.mx preference exchange).pieces) :
    readRecord bytes .mx 15 pos (piecesBytes (Rdata.mx preference exchange).pieces) =
      .ok (some (.mx preference exchange.text)) := by
  have hself := at_self (piecesBytes (Rdata.mx preference exchange).pieces)
  have hlength : (piecesBytes (Rdata.mx preference exchange).pieces).length ≥ 3 := by
    have hpos := exchange.bytes_pos
    simp only [Rdata.pieces, piecesBytes_cons, Piece.bytes, List.length_append, length_be16]
    omega
  have hexchange : readName bytes (pos + 2) =
      .ok (exchange.text, pos + 2 + exchange.bytes.length) := h.raw.2.readName
  rw [Rdata.pieces, piecesBytes_cons, at_append_iff] at hself
  rw [readRecord]
  dsimp only
  iterate 5 rw [if_neg (by simp)]
  rw [if_pos ⟨rfl, rfl, hlength⟩, Rdata.pieces, piecesBytes_cons, u16At_be16 hself.1, ok_bind,
    hexchange, ok_bind]
  dsimp only
  rw [UInt16.ofNat_toNat]
  rfl

lemma readRecord_caa (bytes : List UInt8) (flags : UInt8) {tag : List UInt8}
    (value : List UInt8) (h : tag.length < 2 ^ 8) :
    readRecord bytes .caa 257 pos (flags :: charString tag ++ value) =
      .ok (some (.caa flags (fromUtf8Lossy tag) (fromUtf8Lossy value))) := by
  have hlength : (flags :: charString tag ++ value).length ≥ 2 := by
    rw [charString, List.length_append, List.length_cons, List.length_cons]
    omega
  rw [readRecord]
  dsimp only
  iterate 8 rw [if_neg (by simp)]
  rw [if_pos ⟨rfl, rfl, hlength⟩, readCaa_bytes flags value h, ok_bind]
  rfl

lemma readRecord_srv (priority weight port : UInt16) {target : WireName}
    (h : Standing bytes pos starts (Rdata.srv priority weight port target).pieces) :
    readRecord bytes .srv 33 pos (piecesBytes (Rdata.srv priority weight port target).pieces) =
      .ok (some (.srv priority weight port target.text)) := by
  have hself := at_self (piecesBytes (Rdata.srv priority weight port target).pieces)
  have hlength : (piecesBytes (Rdata.srv priority weight port target).pieces).length ≥ 6 := by
    simp only [Rdata.pieces, piecesBytes_cons, Piece.bytes, List.length_append, length_be16]
    omega
  rw [Rdata.pieces, piecesBytes_cons, at_append_iff] at hself
  obtain ⟨hfields, hport⟩ := at_append_iff.mp hself.1
  obtain ⟨hpriority, hweight⟩ := at_append_iff.mp hfields
  rw [List.length_append, length_be16, length_be16] at hport
  rw [length_be16] at hweight
  have htarget : readName bytes (pos + 6) = .ok (target.text, pos + 6 + target.bytes.length) :=
    h.raw.2.readName
  rw [readRecord]
  dsimp only
  iterate 9 rw [if_neg (by simp)]
  rw [if_pos ⟨rfl, rfl, hlength⟩, Rdata.pieces, piecesBytes_cons, u16At_be16 hpriority, ok_bind,
    u16At_be16 hweight, ok_bind, u16At_be16 hport, ok_bind, htarget, ok_bind]
  dsimp only
  iterate 3 rw [UInt16.ofNat_toNat]
  rfl

/-- The record data of a type that is wanted is read as what it says. -/
lemma readRecord_wanted {rdata : Rdata} (hwell : rdata.WellFormed)
    (hwant : rdata.recordType = some want) (h : Standing bytes pos starts rdata.pieces) :
    readRecord bytes want rdata.rtype.toNat pos (piecesBytes rdata.pieces) = .ok rdata.value := by
  cases rdata with
  | a ip =>
    cases hwant
    rw [Rdata.pieces, piecesBytes_raw]
    exact readRecord_a bytes ip
  | aaaa ip =>
    cases hwant
    rw [Rdata.pieces, piecesBytes_raw]
    exact readRecord_aaaa bytes ip
  | cname name =>
    cases hwant
    exact readName_record .cname h
  | ns name =>
    cases hwant
    exact readName_record .ns h
  | ptr name =>
    cases hwant
    exact readName_record .ptr h
  | mx preference exchange =>
    cases hwant
    exact readRecord_mx preference h
  | txt strings =>
    cases hwant
    rw [Rdata.pieces, piecesBytes_raw]
    exact readRecord_txt bytes hwell.2
  | soa mname rname serial refresh retry expire minimum =>
    cases hwant
    exact congrArg (Except.map some) (readSoa_standing h)
  | caa flags tag value =>
    cases hwant
    rw [Rdata.pieces, piecesBytes_raw]
    exact readRecord_caa bytes flags value hwell.2
  | srv priority weight port target =>
    cases hwant
    exact readRecord_srv priority weight port h
  | other rtype chunk => cases hwant

/-- The record data of any type is read as what it says, if its type is wanted. -/
lemma readRecord_standing (want : DnsRecordType) {rdata : Rdata} (hwell : rdata.WellFormed)
    (h : Standing bytes pos starts rdata.pieces) :
    readRecord bytes want rdata.rtype.toNat pos (piecesBytes rdata.pieces) =
      .ok (if rdata.recordType = some want then rdata.value else none) := by
  by_cases hwant : rdata.recordType = some want
  · rw [if_pos hwant]
    exact readRecord_wanted hwell hwant h
  · have hunwanted : isWanted want rdata.rtype.toNat = false :=
      Bool.eq_false_iff.mpr (fun hw => hwant ((isWanted_iff hwell).mp hw))
    rw [if_neg hwant]
    exact readRecord_unwanted hunwanted bytes _

end RecordData

/-- What the loop carries after some more answers, which end at a position. -/
def Answers.extend (state : Answers) (want : DnsRecordType) (answers : List Answer)
    (ending : Nat) : Answers where
  pos := ending
  ttl := state.ttl.or ((wantedAnswers want answers).head?.map Answer.ttl)
  records := state.records ++ (wantedAnswers want answers).filterMap (fun a => a.rdata.value)
  sawCname := state.sawCname || answers.any (fun a => a.rdata.rtype = 5)

lemma wantedAnswers_cons (want : DnsRecordType) (a : Answer) (answers : List Answer) :
    wantedAnswers want (a :: answers) = wantedAnswers want [a] ++ wantedAnswers want answers := by
  unfold wantedAnswers
  exact List.filter_append [a] answers

lemma wantedAnswers_singleton (want : DnsRecordType) (a : Answer) :
    wantedAnswers want [a] = if a.rdata.recordType = some want then [a] else [] := by
  unfold wantedAnswers
  by_cases h : a.rdata.recordType = some want
  · rw [if_pos h, List.filter_cons_of_pos (by simpa using h), List.filter_nil]
  · rw [if_neg h, List.filter_cons_of_neg (by simpa using h), List.filter_nil]

lemma Answers.extend_extend (state : Answers) (want : DnsRecordType) (a : Answer)
    (answers : List Answer) (middle ending : Nat) :
    (state.extend want [a] middle).extend want answers ending =
      state.extend want (a :: answers) ending := by
  unfold Answers.extend
  rw [wantedAnswers_cons want a answers, List.filterMap_append, List.head?_append, Option.map_or,
    List.append_assoc, Option.or_assoc, Bool.or_assoc, List.any_cons, List.any_cons, List.any_nil,
    Bool.or_false]

/-- What stands in an answer before its data. -/
structure AnswerRead (bytes : List UInt8) (pos : Nat) (starts : List NameStart) (a : Answer) :
    Prop where
  skip : skipName bytes pos = .ok (pos + a.name.bytes.length)
  inside : pos + a.name.bytes.length + 10 + (piecesBytes a.rdata.pieces).length ≤ bytes.length
  rtype : u16At bytes (pos + a.name.bytes.length) = .ok a.rdata.rtype.toNat
  ttl : u32At bytes (pos + a.name.bytes.length + 4) = .ok a.ttl.toNat
  rdlen : u16At bytes (pos + a.name.bytes.length + 8) = .ok (piecesBytes a.rdata.pieces).length
  rdata : Standing bytes (pos + a.name.bytes.length + 10) (starts ++ a.name.starts pos)
    a.rdata.pieces

lemma answerRead {a : Answer} (hwell : a.rdata.WellFormed)
    (h : Standing bytes pos starts a.pieces) : AnswerRead bytes pos starts a := by
  obtain ⟨hname, hhops, hfixed⟩ := h.name
  obtain ⟨hfields, hrdata⟩ := hfixed.raw
  obtain ⟨hfields, hrdlen⟩ := at_append_iff.mp hfields
  obtain ⟨hfields, httl⟩ := at_append_iff.mp hfields
  obtain ⟨hrtype, -⟩ := at_append_iff.mp hfields
  have hlen : (UInt16.ofNat (piecesBytes a.rdata.pieces).length).toNat =
      (piecesBytes a.rdata.pieces).length := UInt16.toNat_ofNat_of_lt' hwell.1
  constructor
  case skip => exact skipName_nameAt hname hhops
  case inside => exact hrdata.place.length_le
  case rtype => exact u16At_be16 hrtype
  case ttl => exact u32At_be32 httl
  case rdlen => exact (u16At_be16 hrdlen).trans (congrArg _ hlen)
  case rdata => exact hrdata

lemma answerTtl_standing {a : Answer} (want : DnsRecordType) (hwell : a.rdata.WellFormed)
    {ttlPos : Nat} (h : u32At bytes (ttlPos + 4) = .ok a.ttl.toNat) (ttl : Option UInt32) :
    answerTtl bytes want a.rdata.rtype.toNat ttlPos ttl =
      .ok (ttl.or ((wantedAnswers want [a]).head?.map Answer.ttl)) := by
  rw [answerTtl, wantedAnswers_singleton]
  by_cases hwant : a.rdata.recordType = some want
  · rw [(isWanted_iff hwell).mpr hwant, if_pos hwant, h]
    cases ttl with
    | none => exact congrArg (fun n => Except.ok (some n)) UInt32.ofNat_toNat
    | some n => rfl
  · have hunwanted : isWanted want a.rdata.rtype.toNat = false :=
      Bool.eq_false_iff.mpr (fun hw => hwant ((isWanted_iff hwell).mp hw))
    rw [hunwanted, if_neg hwant]
    exact congrArg Except.ok Option.or_none.symm

/-- An answer adds what it says. -/
lemma parseAnswer_standing (want : DnsRecordType) {a : Answer} (hwell : a.rdata.WellFormed)
    (state : Answers) (h : Standing bytes state.pos starts a.pieces) :
    parseAnswer bytes want state =
      .ok (state.extend want [a] (state.pos + (piecesBytes a.pieces).length)) := by
  obtain ⟨hskip, hinside, hrtype, httl, hrdlen, hrdata⟩ := answerRead hwell h
  have hcname : decide (a.rdata.rtype.toNat = 5) = decide (a.rdata.rtype = 5) :=
    decide_eq_decide.mpr (UInt16.toNat_inj (b := 5))
  have hlength : (piecesBytes a.pieces).length =
      a.name.bytes.length + 10 + (piecesBytes a.rdata.pieces).length := by
    rw [Answer.pieces, piecesBytes_cons, piecesBytes_cons, List.length_append,
      List.length_append, ← Nat.add_assoc]
    rfl
  rw [parseAnswer, hskip, ok_bind, if_neg (by omega), hrtype, ok_bind]
  dsimp only
  rw [answerTtl_standing want hwell httl, ok_bind, hrdlen, ok_bind, if_neg (by omega),
    slice_at hrdata.place, ok_bind, readRecord_standing want hwell hrdata, ok_bind]
  unfold Answers.extend
  rw [hlength, hcname, wantedAnswers_singleton, ← Nat.add_assoc, ← Nat.add_assoc, List.any_cons,
    List.any_nil, Bool.or_false]
  by_cases hwant : a.rdata.recordType = some want
  · rw [if_pos hwant, if_pos hwant, List.filterMap_cons]
    cases a.rdata.value <;> rfl
  · rw [if_neg hwant, if_neg hwant]
    rfl

/-- The loop over the answers adds what they say. -/
lemma parseAnswers_standing (want : DnsRecordType) {answers : List Answer}
    (hwell : ∀ a ∈ answers, a.rdata.WellFormed) (state : Answers)
    (h : Standing bytes state.pos starts (answers.flatMap Answer.pieces)) :
    parseAnswers bytes want answers.length state =
      .ok (state.extend want answers
        (state.pos + (piecesBytes (answers.flatMap Answer.pieces)).length)) := by
  induction answers generalizing state starts with
  | nil =>
    unfold Answers.extend
    simp [parseAnswers, wantedAnswers, piecesBytes]
  | cons a answers ih =>
    rw [List.flatMap_cons] at h
    obtain ⟨starts', hrest⟩ := h.right
    rw [List.length_cons, parseAnswers,
      parseAnswer_standing want (hwell a List.mem_cons_self) state h.left, ok_bind,
      ih (fun b hb => hwell b (List.mem_cons_of_mem a hb)) _ hrest, Answers.extend_extend,
      List.flatMap_cons, piecesBytes_append, List.length_append, ← Nat.add_assoc]
    rfl

lemma low_nibble (n : UInt16) :
    UInt8.ofNat n.toNat &&& 0x0f = UInt8.ofNat (n.toNat % 2 ^ 4) := by
  apply UInt8.toNat_inj.mp
  rw [UInt8.toNat_and]
  change _ &&& (2 ^ 4 - 1) = _
  rw [Nat.and_two_pow_sub_one_eq_mod, UInt8.toNat_ofNat', UInt8.toNat_ofNat']
  omega

/-- The parser returns what the message says of the wanted type. -/
theorem parseDnsResponse_bytes (m : Message) (want : DnsRecordType) :
    parseDnsResponse m.bytes want = .ok (m.response want) := by
  have hself := at_self m.bytes
  obtain ⟨hheader, hbody⟩ := at_append_iff.mp hself
  have hlength : ¬m.bytes.length < 12 := Nat.not_lt.mpr hheader.length_le
  have hqdcount := UInt16.toNat_ofNat_of_lt' m.qdcount_lt
  have hancount := UInt16.toNat_ofNat_of_lt' m.ancount_lt
  obtain ⟨hheader, -⟩ := at_append_iff.mp hheader
  obtain ⟨hheader, -⟩ := at_append_iff.mp hheader
  obtain ⟨hheader, han⟩ := at_append_iff.mp hheader
  obtain ⟨hheader, hqd⟩ := at_append_iff.mp hheader
  obtain ⟨-, hflags⟩ := at_append_iff.mp hheader
  have hcode : byteAt m.bytes 3 = .ok (UInt8.ofNat m.flags.toNat) :=
    byteAt_at (at_cons_iff.mp hflags).2
  have hquestions : u16At m.bytes 4 = .ok (UInt16.ofNat m.questions.length).toNat :=
    u16At_be16 hqd
  have hanswerCount : u16At m.bytes 6 = .ok (UInt16.ofNat m.answers.length).toNat :=
    u16At_be16 han
  rw [← List.append_assoc, ← piecesBytes_append] at hbody
  have hpieces : Standing m.bytes 12 []
      (m.questions.flatMap Question.pieces ++ m.answers.flatMap Answer.pieces) :=
    ⟨(at_append_iff.mp hbody).1, m.fits, fun s hs => absurd hs List.not_mem_nil⟩
  obtain ⟨starts', hanswers⟩ := hpieces.right
  rw [parseDnsResponse, if_neg hlength, hcode, ok_bind, hquestions, ok_bind, hanswerCount, ok_bind,
    hqdcount, hancount, skipQuestions_standing hpieces.left, ok_bind,
    parseAnswers_standing want m.wellFormed ⟨_, none, [], false⟩ hanswers, ok_bind, low_nibble]
  rfl

/-- An alias of the name that was asked for, and an address under the alias. -/
example : ∃ m : Message,
    m.bytes = [0, 7, 0x81, 0x80, 0, 1, 0, 2, 0, 0, 0, 0, 1, 97, 0, 0, 1, 0, 1,
      0xc0, 12, 0, 5, 0, 1, 0, 0, 0, 60, 0, 4, 1, 98, 0xc0, 12,
      0xc0, 31, 0, 1, 0, 1, 0, 0, 0, 30, 0, 4, 1, 2, 3, 4, 255] ∧
    m.response .a = ⟨0, some 30, [.a (.new 1 2 3 4)], true⟩ ∧
    m.response .cname = ⟨0, some 60, [.cname "b.a"], true⟩ := by
  let a : Label := ⟨['a'], by decide, by decide⟩
  let b : Label := ⟨['b'], by decide, by decide⟩
  refine ⟨{
    id := 7
    flags := 0x8180
    questions := [⟨⟨[a], none⟩, 1, 1⟩]
    answers := [⟨⟨[], some ⟨12, [a], 0⟩⟩, 1, 60, .cname ⟨[b], some ⟨12, [a], 0⟩⟩⟩,
      ⟨⟨[], some ⟨31, [b, a], 1⟩⟩, 1, 30, .a (.new 1 2 3 4)⟩]
    nscount := 0
    arcount := 0
    trailing := [255]
    qdcount_lt := by decide
    ancount_lt := by decide
    wellFormed := by
      intro x hx
      rcases List.mem_cons.mp hx with rfl | hx
      · exact ⟨by decide, trivial⟩
      · rw [List.mem_singleton.mp hx]
        exact ⟨by decide, trivial⟩
    fits := by
      refine ⟨?_, ?_, ?_, ?_, trivial⟩ <;> intro p hp <;> cases hp
      · exact ⟨.head _, by decide, by decide⟩
      · exact ⟨.head _, by decide, by decide⟩
      · exact ⟨.tail _ (.tail _ (.tail _ (.head _))), by decide, by decide⟩ }, ?_, ?_, ?_⟩
  · decide
  · decide
  · decide
end IpTools
