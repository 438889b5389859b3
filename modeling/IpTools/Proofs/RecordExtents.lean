import IpTools.Proofs.MessageFrames

/-!
# The extent of a record

The data of a record that embeds names are read from the message, so that its names can be
compressed, and nothing keeps the reader inside the data of the answer.
-/

namespace IpTools

variable {bytes : List UInt8} {want : DnsRecordType}

/-- The extents are those of the record that the parser decodes. -/
theorem decodeExtents_fst (bytes : List UInt8) (rdataStart : Nat) (rdata : List UInt8)
    (want : DnsRecordType) : (decodeExtents bytes rdataStart rdata want).map Prod.fst =
      decodeWanted bytes rdataStart rdata want := by
  cases want with
  | cname | ns | ptr | mx | srv =>
    simp [decodeExtents, decodeWanted, readNameExtent, bind_map, map_map]
  | soa =>
    simp only [decodeExtents, decodeWanted, readNameExtent, readSoa, bind_map, bind_assoc,
      pure_bind]
    refine bind_congr fun first => bind_congr fun second => ?_
    by_cases h : second.2 + 20 > bytes.length
    · rw [if_pos h, if_pos h]
      rfl
    · rw [if_neg h, if_neg h]
      simp only [bind_map]
      rfl
  | a | aaaa | txt | caa =>
    simp only [decodeExtents]
    cases decodeWanted bytes rdataStart rdata _ <;> rfl

/-- The bytes from a position up to another one. -/
def between (bytes : List UInt8) (start ending : Nat) : List UInt8 :=
  (bytes.drop start).take (ending - start)

lemma between_eq_cons {start ending : Nat} {b : UInt8} (hb : bytes[start]? = some b)
    (hlt : start < ending) :
    between bytes start ending = b :: between bytes (start + 1) ending := by
  obtain ⟨hlength, hget⟩ := List.getElem?_eq_some_iff.mp hb
  unfold between
  rw [List.drop_eq_getElem_cons hlength, hget, show ending - start = ending - (start + 1) + 1 by
    omega]
  rfl

lemma between_eq_nil {start ending : Nat} (h : ending ≤ start) :
    between bytes start ending = [] := by
  rw [between, Nat.sub_eq_zero_of_le h, List.take_zero]

lemma length_between {start ending : Nat} (h : ending ≤ bytes.length) :
    (between bytes start ending).length = ending - start := by
  rw [between, List.length_take, List.length_drop]
  omega

lemma drop_between (start ending n : Nat) :
    (between bytes start ending).drop n = between bytes (start + n) ending := by
  rw [between, between, List.drop_take, List.drop_drop, Nat.sub_add_eq]

/-- Some data that start with a name of the message hold it where they go up to its end. -/
theorem afterName_between {pos hops ending limit : Nat} {labels : List (List UInt8)}
    (h : NameWalk bytes pos labels hops ending) (hlimit : limit ≤ bytes.length) :
    afterName (between bytes pos limit) =
      if ending ≤ limit then some (between bytes ending limit) else none := by
  -- data that end before the name starts are a case of data that end within it
  by_cases hlt : limit ≤ pos
  · have hending := h.lt_ending
    rw [between_eq_nil hlt, afterName, if_neg (by omega)]
  rw [Nat.not_le] at hlt
  induction h with
  | root hb => rw [between_eq_cons hb hlt, afterName, if_pos rfl,
      if_pos (Nat.succ_le_of_lt hlt)]
  | @label pos b text labels hops ending hb hne hshort htext rest ih =>
    have hending := rest.lt_ending
    rw [between_eq_cons hb hlt, afterName, if_neg hne, if_neg (by simp [isPointer_of_le hshort]),
      length_between hlimit, drop_between]
    by_cases hwhole : pos + 1 + b.toNat < limit
    · rw [if_neg (by omega), ih hwhole]
    · rw [if_neg (show ¬ending ≤ limit by omega), between_eq_nil (Nat.not_lt.mp hwhole), afterName,
        ite_self]
  | @pointer pos b low labels hops ending hb hlow hpointer target ih =>
    rw [between_eq_cons hb hlt, afterName, if_neg (ne_zero_of_isPointer hpointer), if_pos hpointer]
    by_cases hwhole : pos + 1 < limit
    · rw [between_eq_cons hlow hwhole, if_pos (show pos + 2 ≤ limit from hwhole)]
      rfl
    · rw [between_eq_nil (Nat.not_lt.mp hwhole), if_neg (show ¬pos + 2 ≤ limit from hwhole)]
      rfl

lemma readNameExtent_spec {start : Nat} {name : String} {s : Extent}
    (h : readNameExtent bytes start = .ok (name, s)) :
    s.start = start ∧ start < s.ending ∧ ∀ limit ≤ bytes.length,
      afterName (between bytes start limit) =
        if s.ending ≤ limit then some (between bytes s.ending limit) else none := by
  obtain ⟨⟨name', ending⟩, hname, h⟩ := bind_eq_ok_iff.mp h
  cases h
  obtain ⟨labels, hops, hwalk, -, -⟩ := readName_eq_ok_iff.mp hname
  exact ⟨rfl, hwalk.lt_ending, fun limit hlimit => afterName_between hwalk hlimit⟩

/-- A name after some fixed fields. -/
lemma name_after_fields_iff {start limit fields : Nat} {name : String} {s : Extent}
    (hlimit : limit ≤ bytes.length)
    (h : readNameExtent bytes (start + fields) = .ok (name, s)) :
    (∀ s' ∈ [⟨start, start + fields⟩, s], Extent.Inside s' start limit) ↔
      (afterName ((between bytes start limit).drop fields)).isSome := by
  obtain ⟨hs, hlt, hafter⟩ := readNameExtent_spec h
  rw [drop_between, hafter limit hlimit]
  by_cases hend : s.ending ≤ limit <;> simp [Extent.Inside, hend, hs]
  omega

/-- All the bytes that a record is decoded from are in the data of its answer where these hold all
of them. -/
theorem extents_inside_iff {start limit : Nat} {d : DnsRecord} {extents : List Extent}
    (hstart : start ≤ limit) (hlimit : limit ≤ bytes.length)
    (hfits : lengthFits want (limit - start))
    (h : decodeExtents bytes start (between bytes start limit) want = .ok (d, extents)) :
    (∀ s ∈ extents, s.Inside start limit) ↔ holdsRecord (between bytes start limit) want := by
  cases want with
  | cname | ns | ptr =>
    obtain ⟨⟨name, s⟩, hname, h⟩ := bind_eq_ok_iff.mp h
    cases h
    obtain ⟨rfl, hlt, hafter⟩ := readNameExtent_spec hname
    rw [holdsRecord, hafter limit hlimit]
    by_cases hend : s.ending ≤ limit <;> simp [Extent.Inside, hend]
  | mx =>
    obtain ⟨preference, -, h⟩ := bind_eq_ok_iff.mp h
    obtain ⟨⟨name, s⟩, hname, h⟩ := bind_eq_ok_iff.mp h
    cases h
    exact name_after_fields_iff hlimit hname
  | srv =>
    obtain ⟨priority, -, h⟩ := bind_eq_ok_iff.mp h
    obtain ⟨weight, -, h⟩ := bind_eq_ok_iff.mp h
    obtain ⟨port, -, h⟩ := bind_eq_ok_iff.mp h
    obtain ⟨⟨name, s⟩, hname, h⟩ := bind_eq_ok_iff.mp h
    cases h
    exact name_after_fields_iff hlimit hname
  | soa =>
    obtain ⟨⟨mname, s1⟩, hmname, h⟩ := bind_eq_ok_iff.mp h
    obtain ⟨⟨rname, s2⟩, hrname, h⟩ := bind_eq_ok_iff.mp h
    obtain ⟨hs1, hlt1, hafter1⟩ := readNameExtent_spec hmname
    obtain ⟨hs2, hlt2, hafter2⟩ := readNameExtent_spec hrname
    dsimp only at h hs2 hlt2 hafter2
    split at h
    · cases h
    · simp only [bind_eq_ok_iff] at h
      obtain ⟨serial, -, refresh, -, retry, -, expire, -, minimum, -, h⟩ := h
      cases h
      rw [holdsRecord, hafter1 limit hlimit]
      by_cases hend1 : s1.ending ≤ limit
      · rw [if_pos hend1, Option.bind_some, hafter2 limit hlimit]
        by_cases hend2 : s2.ending ≤ limit
        · simp [Extent.Inside, hend1, hend2, hs1, hs2, length_between hlimit]
          omega
        · simp [Extent.Inside, hend2]
      · simp [Extent.Inside, hend1]
  | a | aaaa | txt | caa =>
    obtain ⟨record, -, h⟩ := bind_eq_ok_iff.mp h
    cases h
    simp [Extent.Inside, holdsRecord, length_between hlimit]
    omega

/-- The record of an answer is decoded from bytes of its own data, as far as they are in place. -/
def OwnData (bytes : List UInt8) (want : DnsRecordType) (a : DecodedAnswer) : Prop :=
  ∃ d extents, a.record = some d ∧
    decodeExtents bytes a.frame.rdataStart (a.frame.rdata bytes) want = .ok (d, extents) ∧
    ∀ s ∈ extents, s.Inside a.frame.rdataStart a.frame.rdataEnd

lemma Decodes.ownData_iff {a : DecodedAnswer} (h : Decodes bytes want a)
    (hsome : a.record.isSome) : OwnData bytes want a ↔ holdsRecord (a.frame.rdata bytes) want := by
  obtain ⟨d, hd⟩ := Option.isSome_iff_exists.mp hsome
  obtain ⟨extents, hextents⟩ : ∃ extents,
      decodeExtents bytes a.frame.rdataStart (a.frame.rdata bytes) want = .ok (d, extents) := by
    have hdecoded := h.decoded d hd
    rw [← decodeExtents_fst] at hdecoded
    cases hall : decodeExtents bytes a.frame.rdataStart (a.frame.rdata bytes) want with
    | error e =>
      rw [hall] at hdecoded
      cases hdecoded
    | ok out =>
      rw [hall] at hdecoded
      cases hdecoded
      exact ⟨out.2, rfl⟩
  have hrdata : a.frame.rdata bytes = between bytes a.frame.rdataStart a.frame.rdataEnd := by
    rw [AnswerFrame.rdata, between, AnswerFrame.rdataEnd, Nat.add_sub_cancel_left]
  have hfits : lengthFits want (a.frame.rdataEnd - a.frame.rdataStart) := by
    rw [AnswerFrame.rdataEnd, Nat.add_sub_cancel_left]
    exact (Bool.and_eq_true_iff.mp (h.isSome.symm.trans hsome)).2
  have hle : a.frame.rdataStart ≤ a.frame.rdataEnd := Nat.le_add_right _ _
  unfold OwnData
  rw [hrdata] at hextents ⊢
  rw [← extents_inside_iff hle h.framed.inside hfits hextents]
  constructor
  · rintro ⟨d', extents', -, hextents', hinside⟩
    cases hextents.symm.trans hextents'
    exact hinside
  · exact fun hinside => ⟨d, extents, hd, hextents, hinside⟩

theorem own_data_iff {r : ParsedDnsResponse} (h : parseDnsResponse bytes want = .ok r) :
    r.records = (decodedAnswers bytes want).filterMap DecodedAnswer.record ∧
      ((∀ a ∈ decodedAnswers bytes want, a.record.isSome → OwnData bytes want a) ↔
        ∀ f ∈ wantedFrames want (answerFrames bytes),
          lengthFits want f.rdlen → holdsRecord (f.rdata bytes) want) := by
  obtain ⟨⟨rcode, rfl⟩, hdecodes⟩ := accepted h
  refine ⟨rfl, ?_, ?_⟩
  · intro hown f hf hfits
    obtain ⟨hf, hwanted⟩ := List.mem_filter.mp hf
    have ha : f.decoded bytes want ∈ decodedAnswers bytes want := List.mem_map_of_mem hf
    have hsome : (f.decoded bytes want).record.isSome :=
      (hdecodes _ ha).isSome.trans (Bool.and_eq_true_iff.mpr ⟨hwanted, hfits⟩)
    exact ((hdecodes _ ha).ownData_iff hsome).mp (hown _ ha hsome)
  · intro hholds a ha hsome
    refine ((hdecodes a ha).ownData_iff hsome).mpr ?_
    obtain ⟨hwanted, hfits⟩ := Bool.and_eq_true_iff.mp ((hdecodes a ha).isSome.symm.trans hsome)
    obtain ⟨f, hf, rfl⟩ := List.mem_map.mp ha
    exact hholds f (List.mem_filter.mpr ⟨hf, hwanted⟩) hfits

/-- A mail exchange whose name is a pointer to the root that its answer starts with. -/
theorem own_data_pointer :
    ∃ a ∈ decodedAnswers (oneAnswer 15 [0, 10, 0xc0, 12] []) .mx, a.record = some (.mx 10 ".") ∧
      OwnData (oneAnswer 15 [0, 10, 0xc0, 12] []) .mx a := by
  have hname : readName (oneAnswer 15 [0, 10, 0xc0, 12] []) (23 + 2) = .ok (".", 27) :=
    readName_eq_ok_iff.mpr ⟨[], 1, .pointer rfl rfl rfl (.root rfl), by omega, rfl⟩
  have hrecord : readRecord (oneAnswer 15 [0, 10, 0xc0, 12] []) .mx 15 23 [0, 10, 0xc0, 12] =
      .ok (some (.mx 10 ".")) := by
    rw [readRecord_eq, decodeWanted, hname]
    rfl
  have hanswers := decodedAnswers_oneAnswer 15 [] (by decide) hrecord
  have hholds : ∀ f ∈ wantedFrames .mx (answerFrames (oneAnswer 15 [0, 10, 0xc0, 12] [])),
      lengthFits .mx f.rdlen → holdsRecord (f.rdata (oneAnswer 15 [0, 10, 0xc0, 12] [])) .mx := by
    rw [answerFrames, messageFrames_oneAnswer 15 [] (by decide)]
    intro f hf _
    obtain rfl := List.mem_singleton.mp hf
    change (afterName [0xc0, 12]).isSome
    rw [afterName]
    rfl
  have hown := (own_data_iff (parse_oneAnswer 15 [] (by decide) hrecord)).2.mpr hholds
  rw [hanswers] at hown ⊢
  exact ⟨_, List.mem_singleton.mpr rfl, rfl, hown _ (List.mem_singleton.mpr rfl) rfl⟩

/-- An alias of no data, whose name is read from the bytes after it. -/
theorem alias_of_foreign_bytes :
    (∃ r, parseDnsResponse (oneAnswer 5 [] [1, 97, 0]) .cname = .ok r ∧
      r.records = [.cname "a"]) ∧
    ∃ a ∈ decodedAnswers (oneAnswer 5 [] [1, 97, 0]) .cname, a.record = some (.cname "a") ∧
      ¬OwnData (oneAnswer 5 [] [1, 97, 0]) .cname a := by
  have hname : readName (oneAnswer 5 [] [1, 97, 0]) 23 = .ok ("a", 26) :=
    readName_eq_ok_iff.mpr ⟨[[97]], 0, .label rfl (by decide) (by decide) rfl (.root rfl),
      by omega, by decide +kernel⟩
  have hrecord : readRecord (oneAnswer 5 [] [1, 97, 0]) .cname 5 23 [] =
      .ok (some (.cname "a")) := by
    rw [readRecord_eq, decodeWanted, hname]
    rfl
  refine ⟨⟨_, parse_oneAnswer 5 [1, 97, 0] (by decide) hrecord, rfl⟩, ?_⟩
  rw [decodedAnswers_oneAnswer 5 [1, 97, 0] (by decide) hrecord]
  refine ⟨_, List.mem_singleton.mpr rfl, rfl, ?_⟩
  rintro ⟨d, extents, -, hextents, hinside⟩
  rw [decodeExtents, readNameExtent, show AnswerFrame.rdataStart ⟨13, _, 60, _⟩ = 23 from rfl,
    hname] at hextents
  cases hextents
  exact absurd (hinside _ (List.mem_singleton.mpr rfl)).2 (by decide)

end IpTools
