import IpTools.Dns.Frames
import IpTools.Proofs.MessageRoundTrip

/-!
# A response is what its answers decode to

The loop over the answers accepts a message exactly where all its answers are framed and decoded,
and what it returns is then determined by them.
-/

namespace IpTools

open Placement

variable {bytes : List UInt8} {want : DnsRecordType}

lemma bind_map {α β γ : Type} (x : Parsed α) (f : α → Parsed β) (g : β → γ) :
    (x >>= f).map g = x >>= fun a => (f a).map g := by
  cases x <;> rfl

lemma map_map {α β γ : Type} (x : Parsed α) (f : α → β) (g : β → γ) :
    (f <$> x).map g = (fun a => g (f a)) <$> x := by
  cases x <;> rfl

/-- A record is decoded where its type is wanted and its length fits. -/
theorem readRecord_eq (bytes : List UInt8) (want : DnsRecordType) (rtype rdataStart : Nat)
    (rdata : List UInt8) : readRecord bytes want rtype rdataStart rdata =
      if isWanted want rtype && lengthFits want rdata.length then
        (decodeWanted bytes rdataStart rdata want).map some
      else .ok none := by
  unfold readRecord
  cases want with
  | aaaa =>
    simp only [isWanted, lengthFits, decodeWanted, Bool.and_eq_true, decide_eq_true_eq]
    by_cases h : rdata.length = 16
    · simp [h]
      rfl
    · simp [h]
  | soa | caa =>
    simp [isWanted, lengthFits, decodeWanted]
    rfl
  | _ => simp [isWanted, lengthFits, decodeWanted, bind_map, map_map]

/-- What an answer adds to what the loop carries. -/
def Answers.add (state : Answers) (want : DnsRecordType) (a : DecodedAnswer) : Answers where
  pos := a.frame.rdataEnd
  ttl := state.ttl.or (if isWanted want a.frame.rtype then some a.frame.ttl else none)
  records := state.records ++ a.record.toList
  sawCname := state.sawCname || a.frame.rtype = 5

lemma answerTtl_eq {pos rtype n : Nat} (h : u32At bytes (pos + 4) = .ok n) (ttl : Option UInt32) :
    answerTtl bytes want rtype pos ttl =
      .ok (ttl.or (if isWanted want rtype then some (UInt32.ofNat n) else none)) := by
  unfold answerTtl
  cases hwanted : isWanted want rtype with
  | false => exact congrArg Except.ok Option.or_none.symm
  | true =>
    cases ttl with
    | none =>
      rw [h]
      rfl
    | some t => rfl

/-- The loop body frames an answer and decodes it. -/
theorem parseAnswer_eq (bytes : List UInt8) (want : DnsRecordType) (state : Answers) :
    parseAnswer bytes want state = (do
      let f ← frameAt bytes state.pos
      let record ← f.decode bytes want
      return state.add want ⟨f, record⟩) := by
  unfold parseAnswer frameAt
  cases skipName bytes state.pos with
  | error e => rfl
  | ok fields =>
    rw [ok_bind, ok_bind]
    by_cases hheader : fields + 10 > bytes.length
    · rw [if_pos hheader, if_pos hheader]
      rfl
    · obtain ⟨rtype, hrtype⟩ := exists_u16At (show fields + 2 ≤ bytes.length by omega)
      obtain ⟨ttl, httl⟩ := exists_u32At (show fields + 4 + 4 ≤ bytes.length by omega)
      obtain ⟨rdlen, hrdlen⟩ := exists_u16At (show fields + 8 + 2 ≤ bytes.length by omega)
      rw [if_neg hheader, if_neg hheader, hrtype, httl, hrdlen]
      simp only [ok_bind]
      rw [answerTtl_eq httl, ok_bind]
      by_cases hdata : fields + 10 + rdlen > bytes.length
      · rw [if_pos hdata, if_pos hdata]
        rfl
      · rw [if_neg hdata, if_neg hdata, slice_eq (by omega) (by omega), Nat.add_sub_cancel_left]
        rfl

lemma parseAnswer_eq_ok_iff {state state' : Answers} :
    parseAnswer bytes want state = .ok state' ↔
      ∃ a : DecodedAnswer, frameAt bytes state.pos = .ok a.frame ∧
        a.frame.decode bytes want = .ok a.record ∧ state' = state.add want a := by
  rw [parseAnswer_eq, bind_eq_ok_iff]
  constructor
  · rintro ⟨f, hframe, h⟩
    obtain ⟨record, hrecord, h⟩ := bind_eq_ok_iff.mp h
    cases h
    exact ⟨⟨f, record⟩, hframe, hrecord, rfl⟩
  · rintro ⟨a, hframe, hrecord, rfl⟩
    exact ⟨a.frame, hframe, bind_eq_ok_iff.mpr ⟨a.record, hrecord, rfl⟩⟩

/-- All the answers are decoded. -/
def AllDecoded (bytes : List UInt8) (want : DnsRecordType) (answers : List DecodedAnswer) : Prop :=
  ∀ a ∈ answers, a.frame.decode bytes want = .ok a.record

/-- The loop accepts the answers it frames and decodes one after the other. -/
theorem parseAnswers_eq_ok_iff {n : Nat} {state state' : Answers} :
    parseAnswers bytes want n state = .ok state' ↔
      ∃ answers, frames bytes n state.pos = .ok (answers.map DecodedAnswer.frame) ∧
        AllDecoded bytes want answers ∧ state' = answers.foldl (fun s a => s.add want a) state := by
  induction n generalizing state with
  | zero =>
    constructor
    · intro h
      cases h
      exact ⟨[], rfl, fun a ha => absurd ha List.not_mem_nil, rfl⟩
    · rintro ⟨answers, hframes, -, rfl⟩
      rw [List.map_eq_nil_iff.mp (Except.ok.inj hframes).symm]
      rfl
  | succ n ih =>
    rw [parseAnswers, bind_eq_ok_iff]
    constructor
    · rintro ⟨middle, hfirst, hrest⟩
      obtain ⟨a, hframe, hrecord, rfl⟩ := parseAnswer_eq_ok_iff.mp hfirst
      obtain ⟨answers, hframes, hdecoded, rfl⟩ := ih.mp hrest
      refine ⟨a :: answers, ?_, ?_, rfl⟩
      · rw [frames, hframe, ok_bind]
        change frames bytes n a.frame.rdataEnd = _ at hframes
        rw [hframes, ok_bind]
        rfl
      · intro b hb
        rcases List.mem_cons.mp hb with rfl | hb
        · exact hrecord
        · exact hdecoded b hb
    · rintro ⟨answers, hframes, hdecoded, rfl⟩
      obtain ⟨f, hframe, hframes⟩ := bind_eq_ok_iff.mp hframes
      obtain ⟨rest, hrest, hlist⟩ := bind_eq_ok_iff.mp hframes
      cases answers with
      | nil => cases hlist
      | cons a answers =>
        obtain ⟨rfl, rfl⟩ := List.cons.inj (Except.ok.inj hlist)
        have hrecord := hdecoded a List.mem_cons_self
        refine ⟨state.add want a, parseAnswer_eq_ok_iff.mpr ⟨a, hframe, hrecord, rfl⟩, ?_⟩
        exact ih.mpr ⟨answers, hrest, fun b hb => hdecoded b (List.mem_cons_of_mem a hb), rfl⟩

/-- What the answers come to. -/
def responseOf (rcode : UInt8) (want : DnsRecordType) (answers : List DecodedAnswer) :
    ParsedDnsResponse where
  rcode := rcode
  ttl := (answers.find? (fun a => isWanted want a.frame.rtype)).map (fun a => a.frame.ttl)
  records := answers.filterMap DecodedAnswer.record
  sawCname := answers.any (fun a => a.frame.rtype = 5)

lemma foldl_add (want : DnsRecordType) (answers : List DecodedAnswer) (state : Answers) :
    let state' := answers.foldl (fun s a => s.add want a) state
    state'.ttl = state.ttl.or
        ((answers.find? (fun a => isWanted want a.frame.rtype)).map (fun a => a.frame.ttl)) ∧
      state'.records = state.records ++ answers.filterMap DecodedAnswer.record ∧
      state'.sawCname = (state.sawCname || answers.any (fun a => a.frame.rtype = 5)) := by
  induction answers generalizing state with
  | nil => simp
  | cons a answers ih =>
    obtain ⟨httl, hrecords, hcname⟩ := ih (state.add want a)
    dsimp only at httl hrecords hcname ⊢
    rw [List.foldl_cons, httl, hrecords, hcname]
    refine ⟨?_, ?_, ?_⟩
    · unfold Answers.add
      cases hwanted : isWanted want a.frame.rtype with
      | false => simp [hwanted]
      | true => simp [hwanted]
    · cases hrecord : a.record <;> simp [Answers.add, hrecord]
    · simp [Answers.add, Bool.or_assoc]

/-- The parser accepts a message exactly where all its answers are framed and decoded. -/
theorem parseDnsResponse_eq_ok_iff {r : ParsedDnsResponse} :
    parseDnsResponse bytes want = .ok r ↔
      12 ≤ bytes.length ∧ ∃ rcode answers, byteAt bytes 3 = .ok rcode ∧
        messageFrames bytes = .ok (answers.map DecodedAnswer.frame) ∧
        AllDecoded bytes want answers ∧ r = responseOf (rcode &&& 0x0f) want answers := by
  unfold parseDnsResponse messageFrames
  by_cases hshort : bytes.length < 12
  · rw [if_pos hshort]
    exact iff_of_false (fun h => by cases h) (fun h => absurd h.1 (Nat.not_le.mpr hshort))
  · obtain ⟨qdcount, hqdcount⟩ := exists_u16At (show 4 + 2 ≤ bytes.length by omega)
    obtain ⟨ancount, hancount⟩ := exists_u16At (show 6 + 2 ≤ bytes.length by omega)
    rw [if_neg hshort, byteAt_eq (show 3 < bytes.length by omega), hqdcount, hancount]
    simp only [ok_bind, bind_eq_ok_iff, parseAnswers_eq_ok_iff]
    constructor
    · rintro ⟨pos, hpos, state, ⟨answers, hframes, hdecoded, rfl⟩, hr⟩
      obtain ⟨httl, hrecords, hcname⟩ := foldl_add want answers ⟨pos, none, [], false⟩
      dsimp only at httl hrecords hcname
      rw [httl, hrecords, hcname] at hr
      cases hr
      exact ⟨Nat.not_lt.mp hshort, _, answers, rfl, ⟨pos, hpos, hframes⟩, hdecoded, rfl⟩
    · rintro ⟨-, rcode, answers, hrcode, ⟨pos, hpos, hframes⟩, hdecoded, rfl⟩
      obtain ⟨httl, hrecords, hcname⟩ := foldl_add want answers ⟨pos, none, [], false⟩
      dsimp only at httl hrecords hcname
      cases hrcode
      refine ⟨pos, hpos, _, ⟨answers, hframes, hdecoded, rfl⟩, ?_⟩
      rw [httl, hrecords, hcname]
      rfl

/-- Where an answer stands. -/
structure Framed (bytes : List UInt8) (f : AnswerFrame) : Prop where
  rtype : u16At bytes f.fields = .ok f.rtype
  ttl : ∃ n, u32At bytes (f.fields + 4) = .ok n ∧ f.ttl = UInt32.ofNat n
  rdlen : u16At bytes (f.fields + 8) = .ok f.rdlen
  inside : f.rdataEnd ≤ bytes.length

lemma framed_of_frameAt {pos : Nat} {f : AnswerFrame} (h : frameAt bytes pos = .ok f) :
    Framed bytes f := by
  obtain ⟨fields, -, h⟩ := bind_eq_ok_iff.mp h
  split at h
  · cases h
  · obtain ⟨rtype, hrtype, h⟩ := bind_eq_ok_iff.mp h
    obtain ⟨ttl, httl, h⟩ := bind_eq_ok_iff.mp h
    obtain ⟨rdlen, hrdlen, h⟩ := bind_eq_ok_iff.mp h
    split at h
    · cases h
    · rename_i hinside
      cases h
      exact ⟨hrtype, ⟨ttl, httl, rfl⟩, hrdlen, Nat.not_lt.mp hinside⟩

lemma framed_of_frames {n pos : Nat} {fs : List AnswerFrame} (h : frames bytes n pos = .ok fs) :
    ∀ f ∈ fs, Framed bytes f := by
  induction n generalizing pos fs with
  | zero =>
    cases h
    exact fun f hf => absurd hf List.not_mem_nil
  | succ n ih =>
    obtain ⟨f, hframe, h⟩ := bind_eq_ok_iff.mp h
    obtain ⟨rest, hrest, h⟩ := bind_eq_ok_iff.mp h
    cases h
    intro g hg
    rcases List.mem_cons.mp hg with rfl | hg
    · exact framed_of_frameAt hframe
    · exact ih hrest g hg

lemma Framed.length_rdata {f : AnswerFrame} (h : Framed bytes f) :
    (f.rdata bytes).length = f.rdlen := by
  have hinside := h.inside
  unfold AnswerFrame.rdataEnd at hinside
  rw [AnswerFrame.rdata, List.length_take, List.length_drop]
  omega

/-- What an answer of an accepted message decodes to. -/
structure Decodes (bytes : List UInt8) (want : DnsRecordType) (a : DecodedAnswer) : Prop where
  framed : Framed bytes a.frame
  isSome : a.record.isSome = (isWanted want a.frame.rtype && lengthFits want a.frame.rdlen)
  decoded : ∀ d, a.record = some d →
    decodeWanted bytes a.frame.rdataStart (a.frame.rdata bytes) want = .ok d

lemma Framed.decodes {a : DecodedAnswer} (h : Framed bytes a.frame)
    (hdecode : a.frame.decode bytes want = .ok a.record) : Decodes bytes want a := by
  rw [AnswerFrame.decode, readRecord_eq, h.length_rdata] at hdecode
  by_cases hfits : (isWanted want a.frame.rtype && lengthFits want a.frame.rdlen) = true
  · rw [if_pos hfits] at hdecode
    cases hrecord : decodeWanted bytes a.frame.rdataStart (a.frame.rdata bytes) want with
    | error e =>
      rw [hrecord] at hdecode
      cases hdecode
    | ok d =>
      rw [hrecord] at hdecode
      have hsome : some d = a.record := Except.ok.inj hdecode
      refine ⟨h, by rw [← hsome, hfits]; rfl, fun d' hd' => ?_⟩
      rw [hrecord, Option.some.inj (hsome.trans hd')]
  · rw [if_neg hfits] at hdecode
    have hnone : none = a.record := Except.ok.inj hdecode
    refine ⟨h, by rw [← hnone, Bool.eq_false_iff.mpr hfits]; rfl, fun d hd => ?_⟩
    rw [← hnone] at hd
    cases hd

/-- An accepted message returns what its answers decode to. -/
theorem accepted {r : ParsedDnsResponse} (h : parseDnsResponse bytes want = .ok r) :
    (∃ rcode, r = responseOf rcode want (decodedAnswers bytes want)) ∧
      ∀ a ∈ decodedAnswers bytes want, Decodes bytes want a := by
  obtain ⟨-, rcode, answers, -, hframes, hdecoded, rfl⟩ := parseDnsResponse_eq_ok_iff.mp h
  have hanswers : decodedAnswers bytes want = answers := by
    unfold decodedAnswers answerFrames
    rw [hframes]
    change (answers.map DecodedAnswer.frame).map (AnswerFrame.decoded bytes want) = answers
    rw [List.map_map]
    refine (List.map_congr_left fun a ha => ?_).trans (List.map_id answers)
    change DecodedAnswer.mk a.frame (a.frame.decode bytes want).toOption.join = a
    rw [hdecoded a ha]
    rfl
  rw [hanswers]
  refine ⟨⟨_, rfl⟩, fun a ha => ?_⟩
  obtain ⟨qdcount, -, h⟩ := bind_eq_ok_iff.mp hframes
  obtain ⟨ancount, -, h⟩ := bind_eq_ok_iff.mp h
  obtain ⟨pos, -, h⟩ := bind_eq_ok_iff.mp h
  exact (framed_of_frames h a.frame (List.mem_map_of_mem ha)).decodes (hdecoded a ha)

/-- A message of one answer, which has the root as its name and the TTL 60, and some bytes that
belong to no part of it. -/
def oneAnswer (rtype : UInt16) (rdata trailing : List UInt8) : List UInt8 :=
  [0, 7, 0x81, 0x80, 0, 0, 0, 1, 0, 0, 0, 0, 0] ++ (be16 rtype ++ (be16 1 ++ (be32 60 ++
    (be16 (UInt16.ofNat rdata.length) ++ (rdata ++ trailing)))))

lemma frameAt_oneAnswer (rtype : UInt16) {rdata : List UInt8} (trailing : List UInt8)
    (h : rdata.length < 2 ^ 16) :
    frameAt (oneAnswer rtype rdata trailing) 12 = .ok ⟨13, rtype.toNat, 60, rdata.length⟩ := by
  have hskip : skipName (oneAnswer rtype rdata trailing) 12 = .ok 13 :=
    skipName_walk (.root rfl) (by omega)
  obtain ⟨-, hfields⟩ := at_append_iff.mp (at_self (oneAnswer rtype rdata trailing))
  obtain ⟨hrtype, hfields⟩ := at_append_iff.mp hfields
  obtain ⟨-, hfields⟩ := at_append_iff.mp hfields
  obtain ⟨httl, hfields⟩ := at_append_iff.mp hfields
  obtain ⟨hrdlen, hfields⟩ := at_append_iff.mp hfields
  obtain ⟨hrdata, -⟩ := at_append_iff.mp hfields
  have hlength := hrdata.length_le
  simp only [List.length_cons, List.length_nil, length_be16, length_be32] at hlength
  have hrdlen : u16At (oneAnswer rtype rdata trailing) (13 + 8) = .ok rdata.length := by
    rw [← UInt16.toNat_ofNat_of_lt' h]
    exact u16At_be16 hrdlen
  have hrtype : u16At (oneAnswer rtype rdata trailing) 13 = .ok rtype.toNat := u16At_be16 hrtype
  have httl : u32At (oneAnswer rtype rdata trailing) (13 + 4) = .ok 60 := u32At_be32 httl
  rw [frameAt, hskip, ok_bind, if_neg (by omega), hrtype, ok_bind, httl, ok_bind, hrdlen, ok_bind,
    if_neg (by omega)]
  rfl

lemma messageFrames_oneAnswer (rtype : UInt16) {rdata : List UInt8} (trailing : List UInt8)
    (h : rdata.length < 2 ^ 16) : messageFrames (oneAnswer rtype rdata trailing) =
      .ok [⟨13, rtype.toNat, 60, rdata.length⟩] := by
  have hqdcount : u16At (oneAnswer rtype rdata trailing) 4 = .ok 0 := rfl
  have hancount : u16At (oneAnswer rtype rdata trailing) 6 = .ok 1 := rfl
  rw [messageFrames, hqdcount, ok_bind, hancount, ok_bind, skipQuestions, ok_bind, frames,
    frameAt_oneAnswer rtype trailing h]
  rfl

lemma decode_oneAnswer (rtype : UInt16) {rdata : List UInt8} (trailing : List UInt8) :
    (AnswerFrame.mk 13 rtype.toNat 60 rdata.length).decode (oneAnswer rtype rdata trailing) want =
      readRecord (oneAnswer rtype rdata trailing) want rtype.toNat 23 rdata := by
  have hplace : At (oneAnswer rtype rdata trailing) 23 rdata :=
    ⟨(oneAnswer rtype rdata trailing).take 23, trailing, rfl, rfl⟩
  rw [AnswerFrame.decode]
  change readRecord _ want rtype.toNat 23 (((oneAnswer rtype rdata trailing).drop 23).take
    rdata.length) = _
  rw [hplace.take_drop]

section OneAnswer

variable (rtype : UInt16) {rdata : List UInt8} (trailing : List UInt8)
  (h : rdata.length < 2 ^ 16) {record : Option DnsRecord}
  (hrecord : readRecord (oneAnswer rtype rdata trailing) want rtype.toNat 23 rdata = .ok record)

include h hrecord

lemma decodedAnswers_oneAnswer : decodedAnswers (oneAnswer rtype rdata trailing) want =
    [⟨⟨13, rtype.toNat, 60, rdata.length⟩, record⟩] := by
  rw [decodedAnswers, answerFrames, messageFrames_oneAnswer rtype trailing h]
  change [AnswerFrame.decoded _ want _] = _
  rw [AnswerFrame.decoded, decode_oneAnswer, hrecord]
  rfl

lemma parse_oneAnswer : parseDnsResponse (oneAnswer rtype rdata trailing) want =
    .ok (responseOf 0 want [⟨⟨13, rtype.toNat, 60, rdata.length⟩, record⟩]) := by
  have hlength : 12 ≤ (oneAnswer rtype rdata trailing).length := by
    simp only [oneAnswer, List.length_append, List.length_cons]
    omega
  refine parseDnsResponse_eq_ok_iff.mpr ⟨hlength, 0x80,
    [⟨⟨13, rtype.toNat, 60, rdata.length⟩, record⟩], rfl,
    messageFrames_oneAnswer rtype trailing h, fun a ha => ?_, rfl⟩
  rw [List.mem_singleton.mp ha]
  exact (decode_oneAnswer rtype trailing).trans hrecord

end OneAnswer

end IpTools
