import IpTools.Proofs.Display
import IpTools.Proofs.MessageFrames

/-!
# The text of the records of a response

The bytes of an answer reach the text of its record unescaped where they are the tag of a CAA
record, and nowhere else.
-/

namespace IpTools

open CharClass

variable {bytes : List UInt8} {want : DnsRecordType}

def IsControlByte (b : UInt8) : Prop := b.toNat < 0x20 ∨ b.toNat = 0x7f

instance : DecidablePred IsControlByte := fun b =>
  inferInstanceAs (Decidable (b.toNat < 0x20 ∨ b.toNat = 0x7f))

/-- The bytes of the tag in the data of a CAA record. -/
def tagBytes (rdata : List UInt8) : List UInt8 :=
  (rdata.drop 2).take (rdata.getD 1 0).toNat

lemma clean_fromUtf8Lossy_iff (text : List UInt8) :
    Clean (fromUtf8Lossy text) ↔ ∀ b ∈ text, ¬IsControlByte b := by
  unfold Clean fromUtf8Lossy
  rw [all_ofList_iff]
  constructor
  · intro h b hb hcontrol
    have hascii : b.toNat < 0x80 := by rcases hcontrol with h | h <;> omega
    have hmem : Char.ofNat b.toNat ∈ Utf8.decodeLossy text := by
      rw [Utf8.mem_decodeLossy_iff hascii, UInt8.ofNat_toNat]
      exact hb
    have hvalue : (Char.ofNat b.toNat).toNat = b.toNat := Utf8.toNat_ofNat_of_valid (by omega)
    refine h _ hmem ?_
    rw [IsAsciiControl, hvalue]
    exact hcontrol
  · intro h c hc hcontrol
    have hascii : c.toNat < 0x80 := by rcases hcontrol with h | h <;> omega
    rw [← Char.ofNat_toNat c, Utf8.mem_decodeLossy_iff hascii] at hc
    refine h _ hc ?_
    rw [IsControlByte, ByteBits.toNat_ofNat (by omega)]
    exact hcontrol

lemma getD_of_byteAt {i : Nat} {b : UInt8} (h : byteAt bytes i = .ok b) : bytes.getD i 0 = b := by
  unfold byteAt at h
  rw [List.getD_eq_getElem?_getD]
  split at h
  · rename_i b' hb
    cases h
    rw [hb]
    rfl
  · cases h

lemma readCaa_eq_ok {rdata : List UInt8} {d : DnsRecord} (h : readCaa rdata = .ok d) :
    ∃ flags value, d = .caa flags (fromUtf8Lossy (tagBytes rdata)) value := by
  obtain ⟨flags, -, h⟩ := bind_eq_ok_iff.mp h
  obtain ⟨tagLen, htagLen, h⟩ := bind_eq_ok_iff.mp h
  dsimp only at h
  split at h
  · cases h
  · obtain ⟨tag, htag, h⟩ := bind_eq_ok_iff.mp h
    obtain ⟨value, -, h⟩ := bind_eq_ok_iff.mp h
    cases h
    have hbounds := slice_bounds htag
    rw [slice_eq hbounds.1 hbounds.2, Nat.add_sub_cancel_left] at htag
    cases htag
    refine ⟨flags, fromUtf8Lossy value, ?_⟩
    rw [tagBytes, getD_of_byteAt htagLen]

def DnsRecord.recordType : DnsRecord → DnsRecordType
  | .a _ => .a
  | .aaaa _ => .aaaa
  | .cname _ => .cname
  | .mx _ _ => .mx
  | .txt _ => .txt
  | .ns _ => .ns
  | .soa _ => .soa
  | .caa _ _ _ => .caa
  | .srv _ _ _ _ => .srv
  | .ptr _ => .ptr

/-- What is decoded has the type that was asked for. -/
theorem recordType_of_decodeWanted {rdataStart : Nat} {rdata : List UInt8} {d : DnsRecord}
    (h : decodeWanted bytes rdataStart rdata want = .ok d) : d.recordType = want := by
  cases want with
  | a =>
    obtain ⟨b0, -, h⟩ := bind_eq_ok_iff.mp h
    obtain ⟨b1, -, h⟩ := bind_eq_ok_iff.mp h
    obtain ⟨b2, -, h⟩ := bind_eq_ok_iff.mp h
    obtain ⟨b3, -, h⟩ := bind_eq_ok_iff.mp h
    cases h
    rfl
  | aaaa =>
    rw [decodeWanted] at h
    by_cases hsize : rdata.toArray.size = 16
    · rw [dif_pos hsize] at h
      cases h
      rfl
    · rw [dif_neg hsize] at h
      cases h
  | cname | ns | ptr | txt =>
    obtain ⟨name, -, h⟩ := bind_eq_ok_iff.mp h
    cases h
    rfl
  | mx =>
    obtain ⟨preference, -, h⟩ := bind_eq_ok_iff.mp h
    obtain ⟨name, -, h⟩ := bind_eq_ok_iff.mp h
    cases h
    rfl
  | srv =>
    obtain ⟨priority, -, h⟩ := bind_eq_ok_iff.mp h
    obtain ⟨weight, -, h⟩ := bind_eq_ok_iff.mp h
    obtain ⟨port, -, h⟩ := bind_eq_ok_iff.mp h
    obtain ⟨name, -, h⟩ := bind_eq_ok_iff.mp h
    cases h
    rfl
  | soa =>
    obtain ⟨⟨mname, p1⟩, -, h⟩ := bind_eq_ok_iff.mp h
    obtain ⟨⟨rname, p2⟩, -, h⟩ := bind_eq_ok_iff.mp h
    dsimp only at h
    split at h
    · cases h
    · simp only [bind_eq_ok_iff] at h
      obtain ⟨serial, -, refresh, -, retry, -, expire, -, minimum, -, h⟩ := h
      cases h
      rfl
  | caa =>
    obtain ⟨flags, value, rfl⟩ := readCaa_eq_ok h
    rfl

/-- The tags of the CAA records that are asked for have no control characters. -/
def TagsClean (bytes : List UInt8) (want : DnsRecordType) : Prop :=
  want = .caa → ∀ f ∈ wantedFrames .caa (answerFrames bytes), 2 ≤ f.rdlen →
    ∀ b ∈ tagBytes (f.rdata bytes), ¬IsControlByte b

theorem records_clean_iff (unprintable : Char → Bool) {r : ParsedDnsResponse}
    (h : parseDnsResponse bytes want = .ok r) :
    (∀ d ∈ r.records, Clean (d.display unprintable)) ↔ TagsClean bytes want := by
  obtain ⟨⟨rcode, rfl⟩, hdecodes⟩ := accepted h
  constructor
  · rintro hclean rfl f hf hlength
    obtain ⟨hf, hwanted⟩ := List.mem_filter.mp hf
    have ha : f.decoded bytes .caa ∈ decodedAnswers bytes .caa := List.mem_map_of_mem hf
    have hsome : (f.decoded bytes .caa).record.isSome :=
      (hdecodes _ ha).isSome.trans (Bool.and_eq_true_iff.mpr ⟨hwanted, decide_eq_true hlength⟩)
    obtain ⟨d, hd⟩ := Option.isSome_iff_exists.mp hsome
    obtain ⟨flags, value, rfl⟩ := readCaa_eq_ok ((hdecodes _ ha).decoded d hd)
    have hdisplay := hclean _ (List.mem_filterMap.mpr ⟨_, ha, hd⟩)
    exact (clean_fromUtf8Lossy_iff _).mp ((clean_display_iff unprintable _).mp hdisplay _ _ _ rfl)
  · intro htags d hmem
    obtain ⟨a, ha, hd⟩ := List.mem_filterMap.mp hmem
    have hdecoded := (hdecodes a ha).decoded d hd
    refine (clean_display_iff unprintable d).mpr ?_
    rintro flags tag value rfl
    have hwant : want = .caa := (recordType_of_decodeWanted hdecoded).symm
    subst hwant
    obtain ⟨flags', value', hcaa⟩ := readCaa_eq_ok hdecoded
    cases hcaa
    have hsome : a.record.isSome := Option.isSome_iff_exists.mpr ⟨_, hd⟩
    obtain ⟨hwanted, hlength⟩ := Bool.and_eq_true_iff.mp ((hdecodes a ha).isSome.symm.trans hsome)
    obtain ⟨f, hf, rfl⟩ := List.mem_map.mp ha
    exact (clean_fromUtf8Lossy_iff _).mpr
      (htags rfl f (List.mem_filter.mpr ⟨hf, hwanted⟩) (of_decide_eq_true hlength))

/-- A record that lets one authority issue certificates. -/
theorem records_clean_issue :
    ∃ r, parseDnsResponse (oneAnswer 257 [0, 5, 105, 115, 115, 117, 101, 27] []) .caa = .ok r ∧
      ∀ d ∈ r.records, Clean (d.display fun _ => false) := by
  have hrecord : readRecord (oneAnswer 257 [0, 5, 105, 115, 115, 117, 101, 27] []) .caa 257 23
      [0, 5, 105, 115, 115, 117, 101, 27] = .ok (some (.caa 0 "issue" "\x1b")) := by
    decide +kernel
  have hparse := parse_oneAnswer 257 [] (by decide) hrecord
  refine ⟨_, hparse, (records_clean_iff _ hparse).mpr ?_⟩
  rintro - f hf -
  rw [answerFrames, messageFrames_oneAnswer 257 [] (by decide)] at hf
  obtain rfl := List.mem_singleton.mp hf
  exact List.all_iff_forall_prop.mp (by decide)

/-- An escape character in the tag of a record reaches its text. -/
theorem tag_is_not_escaped :
    ∃ r, parseDnsResponse (oneAnswer 257 [0, 1, 27] []) .caa = .ok r ∧
      r.records = [.caa 0 "\x1b" ""] ∧ ¬∀ d ∈ r.records, Clean (d.display fun _ => false) := by
  have hrecord : readRecord (oneAnswer 257 [0, 1, 27] []) .caa 257 23 [0, 1, 27] =
      .ok (some (.caa 0 "\x1b" "")) := by
    decide +kernel
  exact ⟨_, parse_oneAnswer 257 [] (by decide) hrecord, rfl,
    fun h => absurd (h _ (List.mem_singleton.mpr rfl)) (by decide +kernel)⟩

end IpTools
