import IpTools.Dns.Machine
import IpTools.Proofs.NameWalk

/-!
# The parser on a machine

No sum of offsets overflows, and the loops of the names end within eight rounds for each byte of
the message. On a machine the parser is then the one that counts in natural numbers.
-/

namespace IpTools

open BoundedLoop

lemma Slice.add_eq (m : Slice) {a b : Nat} (h : a + b < m.bytes.length + 2 ^ 17) :
    m.add a b = .ok (a + b) := by
  have hsmall := m.length_lt
  have hbits : 2 ^ m.usizeBits = 2 * 2 ^ (m.usizeBits - 1) := by
    rw [← Nat.pow_succ']
    congr 1
    have hge := m.usizeBits_ge
    omega
  have hwide : 2 ^ 17 ≤ 2 ^ (m.usizeBits - 1) :=
    Nat.pow_le_pow_right (by omega) (by have hge := m.usizeBits_ge; omega)
  exact if_pos (by omega)

/-- What is left to a name at a position after some pointers, in pairs of bytes: each label and
each pointer takes two at least. -/
def nameMeasure (length hops pos : Nat) : Nat :=
  if hops > 8 then 0 else (8 - hops) * (length / 2) + (length - pos) / 2

lemma nameMeasure_pointer {length hops pos : Nat} (target : Nat) (hhops : ¬hops > 8)
    (hpos : pos + 1 < length) :
    nameMeasure length (hops + 1) target < nameMeasure length hops pos := by
  unfold nameMeasure
  rw [if_neg hhops]
  by_cases hlast : hops + 1 > 8
  · rw [if_pos hlast]
    omega
  · rw [if_neg hlast, show 8 - hops = 8 - (hops + 1) + 1 by omega, Nat.succ_mul]
    omega

lemma nameMeasure_label {length hops pos len : Nat} (hhops : ¬hops > 8) (hlen : len ≠ 0)
    (hend : pos + 1 + len ≤ length) :
    nameMeasure length hops (pos + 1 + len) < nameMeasure length hops pos := by
  unfold nameMeasure
  rw [if_neg hhops, if_neg hhops]
  omega

lemma nameMeasure_lt (m : Slice) (hops pos : Nat) :
    nameMeasure m.bytes.length hops pos < m.rounds := by
  unfold nameMeasure Slice.rounds
  split
  · omega
  · have hle : (8 - hops) * (m.bytes.length / 2) ≤ 8 * (m.bytes.length / 2) :=
      Nat.mul_le_mul_right _ (Nat.sub_le 8 hops)
    omega

lemma getElem?_lt {bytes : List UInt8} {i : Nat} {b : UInt8} (h : bytes[i]? = some b) :
    i < bytes.length :=
  (List.getElem?_eq_some_iff.mp h).1

lemma toNat_ne_zero {b : UInt8} (h : b ≠ 0) : b.toNat ≠ 0 :=
  fun hzero => h (UInt8.toNat_inj.mp hzero)

theorem computes_readName (m : Slice) : Computes m.readNameRound
    (fun s => readNameLoop m.bytes s.pos s.hops s.labels s.ending)
    (fun s => nameMeasure m.bytes.length s.hops s.pos) := by
  intro s
  dsimp only
  rw [readNameLoop, Slice.readNameRound]
  by_cases hhops : s.hops > 8
  · rw [if_pos hhops, if_pos hhops]
    exact ⟨_, rfl, .error _⟩
  rw [if_neg hhops, if_neg hhops]
  cases hb : m.bytes[s.pos]? with
  | none => exact ⟨_, rfl, .error _⟩
  | some b =>
    have hpos := getElem?_lt hb
    have hsmall := b.toNat_lt
    dsimp only
    by_cases hzero : b = 0
    · rw [if_pos hzero, if_pos hzero, m.add_eq (by omega)]
      cases s.ending <;> exact ⟨_, rfl, .done _⟩
    rw [if_neg hzero, if_neg hzero, m.add_eq (show s.pos + 1 < _ by omega)]
    by_cases hpointer : isPointer b = true
    · rw [if_pos hpointer, if_pos hpointer, ok_lift_bind]
      cases hlow : m.bytes[s.pos + 1]? with
      | none => exact ⟨_, rfl, .error _⟩
      | some low =>
        have hnext := nameMeasure_pointer (pointerTarget b low) hhops (getElem?_lt hlow)
        dsimp only
        by_cases htarget : pointerTarget b low ≥ m.bytes.length
        · rw [if_pos htarget, if_pos htarget]
          exact ⟨_, rfl, .error _⟩
        · rw [if_neg htarget, if_neg htarget, m.add_eq (by omega)]
          cases s.ending <;> exact ⟨_, rfl, .next (ReadNameState.mk _ _ _ _) hnext⟩
    rw [if_neg hpointer, if_neg hpointer]
    by_cases hlong : b.toNat > 63
    · rw [if_pos hlong, if_pos hlong]
      exact ⟨_, rfl, .error _⟩
    rw [if_neg hlong, if_neg hlong, ok_lift_bind, m.add_eq (by omega), ok_lift_bind]
    by_cases hend : s.pos + 1 + b.toNat > m.bytes.length
    · rw [if_pos hend, if_pos hend]
      exact ⟨_, rfl, .error _⟩
    · have hnext := nameMeasure_label hhops (toNat_ne_zero hzero) (Nat.not_lt.mp hend)
      rw [if_neg hend, if_neg hend, slice_eq (by omega) (by omega), ok_lift_bind]
      exact ⟨_, rfl, .next (ReadNameState.mk _ _ _ _) hnext⟩

theorem computes_validateName (m : Slice) : Computes m.validateNameRound
    (fun s => validateName m.bytes s.pos s.depth)
    (fun s => nameMeasure m.bytes.length s.depth s.pos) := by
  intro s
  dsimp only
  rw [validateName, Slice.validateNameRound]
  by_cases hdepth : s.depth > 8
  · rw [if_pos hdepth, if_pos hdepth]
    exact ⟨_, rfl, .error _⟩
  rw [if_neg hdepth, if_neg hdepth]
  cases hb : m.bytes[s.pos]? with
  | none => exact ⟨_, rfl, .error _⟩
  | some b =>
    have hpos := getElem?_lt hb
    have hsmall := b.toNat_lt
    dsimp only
    by_cases hzero : b = 0
    · rw [if_pos hzero, if_pos hzero]
      exact ⟨_, rfl, .done _⟩
    rw [if_neg hzero, if_neg hzero]
    by_cases hpointer : isPointer b = true
    · rw [if_pos hpointer, if_pos hpointer, m.add_eq (by omega), ok_lift_bind]
      cases hlow : m.bytes[s.pos + 1]? with
      | none => exact ⟨_, rfl, .error _⟩
      | some low =>
        dsimp only
        by_cases htarget : pointerTarget b low ≥ m.bytes.length
        · rw [if_pos htarget, if_pos htarget]
          exact ⟨_, rfl, .error _⟩
        · rw [if_neg htarget, if_neg htarget]
          exact ⟨_, rfl, .next (ValidateNameState.mk _ _)
            (nameMeasure_pointer _ hdepth (getElem?_lt hlow))⟩
    rw [if_neg hpointer, if_neg hpointer]
    by_cases hlong : b.toNat > 63
    · rw [if_pos hlong, if_pos hlong]
      exact ⟨_, rfl, .error _⟩
    rw [if_neg hlong, if_neg hlong, m.add_eq (by omega), ok_lift_bind, m.add_eq (by omega),
      ok_lift_bind, ← Nat.add_assoc]
    by_cases hend : s.pos + 1 + b.toNat > m.bytes.length
    · rw [if_pos hend, if_pos hend]
      exact ⟨_, rfl, .error _⟩
    · rw [if_neg hend, if_neg hend]
      exact ⟨_, rfl, .next (ValidateNameState.mk _ _)
        (nameMeasure_label hdepth (toNat_ne_zero hzero) (Nat.not_lt.mp hend))⟩

theorem ends_validateName (m : Slice) (start depth : Nat) :
    Ends (m.validateName m.rounds start depth) (validateName m.bytes start depth) :=
  (computes_validateName m).ends (s := ValidateNameState.mk start depth)
    (nameMeasure_lt m depth start)

theorem computes_skipName (m : Slice) : Computes (m.skipNameRound m.rounds) (skipName m.bytes)
    (fun pos => m.bytes.length - pos) := by
  intro pos
  rw [skipName, Slice.skipNameRound]
  cases hb : m.bytes[pos]? with
  | none => exact ⟨_, rfl, .error _⟩
  | some b =>
    have hpos := getElem?_lt hb
    have hsmall := b.toNat_lt
    dsimp only
    by_cases hzero : b = 0
    · rw [if_pos hzero, if_pos hzero, m.add_eq (by omega)]
      exact ⟨_, rfl, .done _⟩
    rw [if_neg hzero, if_neg hzero]
    by_cases hpointer : isPointer b = true
    · rw [if_pos hpointer, if_pos hpointer, m.add_eq (by omega), ok_lift_bind]
      cases hlow : m.bytes[pos + 1]? with
      | none => exact ⟨_, rfl, .error _⟩
      | some low =>
        dsimp only
        by_cases htarget : pointerTarget b low ≥ m.bytes.length
        · rw [if_pos htarget, if_pos htarget]
          exact ⟨_, rfl, .error _⟩
        · rw [if_neg htarget, if_neg htarget, ends_validateName]
          cases validateName m.bytes (pointerTarget b low) 0 with
          | error e => exact ⟨_, rfl, .error _⟩
          | ok u =>
            rw [m.add_eq (by omega)]
            exact ⟨_, rfl, .done _⟩
    rw [if_neg hpointer, if_neg hpointer]
    by_cases hlong : b.toNat > 63
    · rw [if_pos hlong, if_pos hlong]
      exact ⟨_, rfl, .error _⟩
    rw [if_neg hlong, if_neg hlong, m.add_eq (by omega), ok_lift_bind, m.add_eq (by omega),
      ok_lift_bind, ← Nat.add_assoc]
    by_cases hend : pos + 1 + b.toNat > m.bytes.length
    · rw [if_pos hend, if_pos hend]
      exact ⟨_, rfl, .error _⟩
    · rw [if_neg hend, if_neg hend]
      exact ⟨_, rfl, .next _ (by omega)⟩

theorem ends_skipName (m : Slice) (start : Nat) :
    Ends (m.skipName m.rounds start) (skipName m.bytes start) := by
  refine (computes_skipName m).ends ?_
  unfold Slice.rounds
  omega

theorem ends_readName (m : Slice) (start : Nat) :
    Ends (m.readName m.rounds start) (readName m.bytes start) := by
  refine Ends.bind ?_ (fun a _ => Ends.pure _)
  exact (computes_readName m).ends (nameMeasure_lt m 0 start)

lemma readName_le {bytes : List UInt8} {start ending : Nat} {name : String}
    (h : readName bytes start = .ok (name, ending)) : ending ≤ bytes.length := by
  obtain ⟨labels, hops, hwalk, -, -⟩ := readName_eq_ok_iff.mp h
  exact hwalk.ending_le

lemma skipName_le {bytes : List UInt8} {start ending : Nat}
    (h : skipName bytes start = .ok ending) : ending ≤ bytes.length := by
  obtain ⟨labels, hops, hwalk, -⟩ := skipName_eq_ok_iff.mp h
  exact hwalk.ending_le

lemma u16At_lt {bytes : List UInt8} {i n : Nat} (h : u16At bytes i = .ok n) : n < 2 ^ 16 := by
  obtain ⟨b0, -, h⟩ := bind_eq_ok_iff.mp h
  obtain ⟨b1, -, h⟩ := bind_eq_ok_iff.mp h
  cases h
  have hhigh := b0.toNat_lt
  have hlow := b1.toNat_lt
  omega

lemma Slice.u16At_eq (m : Slice) {pos i : Nat} (h : pos + i < m.bytes.length) :
    m.u16At pos i = IpTools.u16At m.bytes (pos + i) := by
  rw [Slice.u16At, m.add_eq (by omega), ok_bind, m.add_eq (by omega)]
  rfl

lemma Slice.u32At_eq (m : Slice) {pos i : Nat} (h : pos + i + 2 < m.bytes.length) :
    m.u32At pos i = IpTools.u32At m.bytes (pos + i) := by
  rw [Slice.u32At, m.u16At_eq (by omega), m.u16At_eq (by omega)]
  rfl

lemma Slice.sub_eq (m : Slice) {start ending : Nat} (hle : start ≤ ending)
    (hend : ending ≤ m.bytes.length) :
    ∃ d : Slice, m.sub start ending = .ok d ∧ slice m.bytes start ending = .ok d.bytes ∧
      d.bytes.length ≤ m.bytes.length := by
  refine ⟨_, if_pos ⟨hle, hend⟩, slice_eq hle hend, ?_⟩
  dsimp only
  rw [List.length_take, List.length_drop]
  omega

theorem computes_readTxt (rdata : Slice) : Computes rdata.readTxtRound
    (fun s => readTxtLoop rdata.bytes s.off s.out) (fun s => rdata.bytes.length - s.off) := by
  intro s
  dsimp only
  rw [readTxtLoop, Slice.readTxtRound]
  by_cases hoff : s.off < rdata.bytes.length
  · rw [if_pos hoff, if_pos hoff, byteAt_eq hoff, ok_lift_bind]
    have hsmall := (rdata.bytes[s.off]).toNat_lt
    dsimp only
    rw [rdata.add_eq (by omega), ok_lift_bind, rdata.add_eq (by omega), ok_lift_bind]
    by_cases hend : s.off + 1 + (rdata.bytes[s.off]).toNat > rdata.bytes.length
    · rw [if_pos hend, if_pos hend]
      exact ⟨_, rfl, .error _⟩
    · rw [if_neg hend, if_neg hend, slice_eq (by omega) (by omega), ok_lift_bind]
      exact ⟨_, rfl, .next (ReadTxtState.mk _ _) (by dsimp only; omega)⟩
  · rw [if_neg hoff, if_neg hoff]
    exact ⟨_, rfl, .done _⟩

theorem ends_readTxt {m rdata : Slice} (h : rdata.bytes.length ≤ m.bytes.length) :
    Ends (rdata.readTxt m.rounds) (readTxt rdata.bytes) := by
  refine (computes_readTxt rdata).ends ?_
  unfold Slice.rounds
  dsimp only
  omega

lemma Slice.soaField_eq (m : Slice) {p2 i : Nat} (h : p2 + i * 4 + 4 ≤ m.bytes.length) :
    m.soaField p2 i = IpTools.u32At m.bytes (p2 + i * 4) := by
  rw [Slice.soaField, m.add_eq (by omega), ok_bind, m.add_eq (by omega), ok_bind,
    slice_eq (by omega) h, ok_bind, Nat.add_sub_cancel_left,
    List.drop_eq_getElem_cons (show p2 + i * 4 < _ by omega),
    List.drop_eq_getElem_cons (show p2 + i * 4 + 1 < _ by omega),
    List.drop_eq_getElem_cons (show p2 + i * 4 + 1 + 1 < _ by omega),
    List.drop_eq_getElem_cons (show p2 + i * 4 + 1 + 1 + 1 < _ by omega)]
  rw [IpTools.u32At, IpTools.u16At, byteAt_eq (by omega), ok_bind, byteAt_eq (by omega), ok_bind,
    IpTools.u16At, byteAt_eq (by omega), ok_bind, byteAt_eq (by omega), ok_bind]
  rfl

theorem ends_readSoa (m : Slice) (rdataStart : Nat) :
    Ends (m.readSoa m.rounds rdataStart) (readSoa m.bytes rdataStart) := by
  refine (ends_readName m rdataStart).bind (fun ⟨mname, p1⟩ _ => ?_)
  refine (ends_readName m p1).bind (fun ⟨rname, p2⟩ hp2 => ?_)
  have hle := readName_le hp2
  dsimp only
  rw [m.add_eq (by omega), ok_lift_bind]
  refine Ends.ite (fun _ => rfl) (fun hend => ?_)
  rw [m.soaField_eq (by omega), m.soaField_eq (by omega), m.soaField_eq (by omega),
    m.soaField_eq (by omega), m.soaField_eq (by omega)]
  refine (Ends.lift _).bind (fun _ _ => (Ends.lift _).bind (fun _ _ => ?_))
  refine (Ends.lift _).bind (fun _ _ => (Ends.lift _).bind (fun _ _ => ?_))
  exact (Ends.lift _).bind (fun _ _ => Ends.pure _)

lemma Slice.readCaa_eq (rdata : Slice) (h : 2 ≤ rdata.bytes.length) :
    rdata.readCaa = IpTools.readCaa rdata.bytes := by
  have hsmall := (rdata.bytes[1]).toNat_lt
  rw [Slice.readCaa, IpTools.readCaa, byteAt_eq (show 0 < _ by omega), ok_bind,
    byteAt_eq (show 1 < _ by omega), ok_bind, rdata.add_eq (by omega)]
  rfl

theorem ends_readRecord {m rdata : Slice} (h : rdata.bytes.length ≤ m.bytes.length)
    (want : DnsRecordType) (rtype : Nat) {rdataStart : Nat} (hstart : rdataStart ≤ m.bytes.length) :
    Ends (m.readRecord m.rounds want rtype rdataStart rdata)
      (readRecord m.bytes want rtype rdataStart rdata.bytes) := by
  have hname : ∀ (f : String → DnsRecord) (pos : Nat),
      Ends (do return some (f (← m.readName m.rounds pos).1))
        (do return some (f (← readName m.bytes pos).1)) :=
    fun f pos => (ends_readName m pos).bind (fun _ _ => Ends.pure _)
  unfold Slice.readRecord readRecord
  dsimp only
  refine Ends.ite (fun h => ?_) (fun _ => ?_)
  · rw [Slice.readAddress, byteAt_eq (show 0 < _ by omega), byteAt_eq (show 1 < _ by omega),
      byteAt_eq (show 2 < _ by omega), byteAt_eq (show 3 < _ by omega)]
    rfl
  refine Ends.ite (fun h => ?_) (fun _ => ?_)
  · have hsize : rdata.bytes.toArray.size = 16 := h.2.2
    rw [Slice.readIpv6Address, dif_pos hsize, dif_pos hsize]
    rfl
  refine Ends.ite (fun _ => hname _ _) (fun _ => Ends.ite (fun _ => hname _ _) (fun _ => ?_))
  refine Ends.ite (fun _ => hname _ _) (fun _ => Ends.ite (fun _ => ?_) (fun _ => ?_))
  · refine (Ends.lift _).bind (fun _ _ => ?_)
    rw [m.add_eq (by omega), ok_lift_bind]
    exact (ends_readName m _).bind (fun _ _ => Ends.pure _)
  refine Ends.ite (fun _ => ?_) (fun _ => Ends.ite (fun _ => ?_) (fun _ => ?_))
  · exact (ends_readTxt h).bind (fun _ _ => Ends.pure _)
  · exact (ends_readSoa m rdataStart).bind (fun _ _ => Ends.pure _)
  refine Ends.ite (fun h => ?_) (fun _ => Ends.ite (fun _ => ?_) (fun _ => Ends.pure _))
  · rw [rdata.readCaa_eq h.2.2]
    exact (Ends.lift _).bind (fun _ _ => Ends.pure _)
  · refine (Ends.lift _).bind (fun _ _ => (Ends.lift _).bind (fun _ _ => ?_))
    refine (Ends.lift _).bind (fun _ _ => ?_)
    rw [m.add_eq (by omega), ok_lift_bind]
    exact (ends_readName m _).bind (fun _ _ => Ends.pure _)

theorem ends_skipQuestions (m : Slice) (n pos : Nat) :
    Ends (m.skipQuestions m.rounds n pos) (skipQuestions m.bytes n pos) := by
  induction n generalizing pos with
  | zero => exact Ends.pure _
  | succ n ih =>
    refine (ends_skipName m pos).bind (fun next hnext => ?_)
    have hle := skipName_le hnext
    rw [m.add_eq (by omega), ok_lift_bind]
    exact ih (next + 4)

theorem ends_parseAnswer (m : Slice) (want : DnsRecordType) (state : Answers) :
    Ends (m.parseAnswer m.rounds want state) (parseAnswer m.bytes want state) := by
  refine (ends_skipName m state.pos).bind (fun pos hpos => ?_)
  have hle := skipName_le hpos
  dsimp only
  rw [m.add_eq (show pos + 10 < _ by omega), ok_lift_bind]
  refine Ends.ite (fun _ => rfl) (fun hheader => ?_)
  rw [m.u16At_eq (by omega), m.u16At_eq (by omega)]
  refine (Ends.lift _).bind (fun rtype _ => ?_)
  have httl : m.answerTtl want rtype pos state.ttl =
      answerTtl m.bytes want rtype pos state.ttl := by
    rw [Slice.answerTtl, IpTools.answerTtl, m.u32At_eq (by omega)]
  rw [httl]
  refine (Ends.lift _).bind (fun ttl _ => (Ends.lift _).bind (fun rdlen hrdlen => ?_))
  have hsmall := u16At_lt hrdlen
  rw [ok_lift_bind, m.add_eq (by omega), ok_lift_bind]
  refine Ends.ite (fun _ => rfl) (fun hend => ?_)
  obtain ⟨rdata, hrdata, hslice, hlength⟩ :=
    m.sub_eq (Nat.le_add_right (pos + 10) rdlen) (Nat.not_lt.mp hend)
  rw [hrdata, ok_lift_bind, hslice, ok_bind]
  exact (ends_readRecord hlength want rtype (by omega)).bind (fun _ _ => Ends.pure _)

theorem ends_parseAnswers (m : Slice) (want : DnsRecordType) (n : Nat) (state : Answers) :
    Ends (m.parseAnswers m.rounds want n state) (parseAnswers m.bytes want n state) := by
  induction n generalizing state with
  | zero => exact Ends.pure _
  | succ n ih => exact (ends_parseAnswer m want state).bind (fun state _ => ih state)

/-- On a machine the parser ends as it does in natural numbers. -/
theorem ends_parseDnsResponse (m : Slice) (want : DnsRecordType) :
    Ends (m.parseDnsResponse m.rounds want) (parseDnsResponse m.bytes want) := by
  refine Ends.ite (fun _ => rfl) (fun _ => ?_)
  refine (Ends.lift _).bind (fun _ _ => (Ends.lift _).bind (fun qdcount _ => ?_))
  refine (Ends.lift _).bind (fun ancount _ => ?_)
  refine (ends_skipQuestions m qdcount 12).bind (fun pos _ => ?_)
  exact (ends_parseAnswers m want ancount _).bind (fun _ _ => Ends.pure _)

/-- A computation ends within its budgets, and with no panic. -/
def EndsSafely {α : Type} (x : Run α) : Prop := ∃ y, Ends x y ∧ Safe y

/-- The parser and its loops end within eight rounds for each byte of the message, in each loop,
with no access out of range, no sum of offsets that overflows and no conversion that panics. -/
theorem parser_ends_safely (m : Slice) :
    (∀ want, EndsSafely (m.parseDnsResponse m.rounds want)) ∧
      (∀ start, EndsSafely (m.readName m.rounds start)) ∧
      (∀ start, EndsSafely (m.skipName m.rounds start)) ∧
      ∀ start depth, EndsSafely (m.validateName m.rounds start depth) :=
  ⟨fun want => ⟨_, ends_parseDnsResponse m want, safe_parseDnsResponse m.bytes want⟩,
    fun start => ⟨_, ends_readName m start, safe_readName m.bytes start⟩,
    fun start => ⟨_, ends_skipName m start, safe_skipName m.bytes start⟩,
    fun start depth => ⟨_, ends_validateName m start depth, safe_validateName m.bytes start depth⟩⟩

end IpTools
