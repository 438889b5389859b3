import IpTools.Dns.Message

/-!
# Safety of the message parser

No access of the parser is out of range, whatever the bytes.
-/

namespace IpTools

/-- A parser goes on with the value that another one ended with. -/
lemma ok_bind {α β : Type} (a : α) (f : α → Parsed β) : ((.ok a : Parsed α) >>= f) = f a := rfl

lemma bind_eq_ok_iff {α β : Type} {x : Parsed α} {f : α → Parsed β} {b : β} :
    (x >>= f) = .ok b ↔ ∃ a, x = .ok a ∧ f a = .ok b := by
  constructor
  · intro h
    cases x with
    | error e => cases h
    | ok a => exact ⟨a, rfl, h⟩
  · rintro ⟨a, rfl, hf⟩
    exact hf

/-- A parser ended with a value or with an error of its own. -/
def Safe {α : Type} (x : Parsed α) : Prop := x ≠ .error .panic

section Safe

variable {α β : Type}

lemma Safe.ok (a : α) : Safe (.ok a : Parsed α) := by
  intro h
  cases h

lemma Safe.fail (text : String) : Safe (fail text : Parsed α) := by
  intro h
  cases h

lemma Safe.bind {x : Parsed α} {f : α → Parsed β} (hx : Safe x)
    (hf : ∀ a, x = .ok a → Safe (f a)) : Safe (x >>= f) := by
  cases x with
  | error e => exact fun h => hx (by cases h; rfl)
  | ok a => exact hf a rfl

lemma Safe.map {x : Parsed α} (f : α → β) (hx : Safe x) : Safe (x.map f) := by
  cases x with
  | error e => exact fun h => hx (by cases h; rfl)
  | ok a => exact Safe.ok (f a)

lemma Safe.ite {c : Prop} [Decidable c] {x y : Parsed α} (hx : c → Safe x) (hy : ¬c → Safe y) :
    Safe (if c then x else y) := by
  by_cases h : c
  · rw [if_pos h]
    exact hx h
  · rw [if_neg h]
    exact hy h

end Safe

lemma byteAt_eq {bytes : List UInt8} {i : Nat} (h : i < bytes.length) :
    byteAt bytes i = .ok bytes[i] := by
  rw [byteAt, List.getElem?_eq_getElem h]

lemma slice_eq {bytes : List UInt8} {start ending : Nat} (hle : start ≤ ending)
    (hlt : ending ≤ bytes.length) :
    slice bytes start ending = .ok ((bytes.drop start).take (ending - start)) :=
  if_pos ⟨hle, hlt⟩

lemma safe_byteAt {bytes : List UInt8} {i : Nat} (h : i < bytes.length) :
    Safe (byteAt bytes i) := by
  rw [byteAt_eq h]
  exact Safe.ok _

lemma safe_u16At {bytes : List UInt8} {i : Nat} (h : i + 2 ≤ bytes.length) :
    Safe (u16At bytes i) :=
  (safe_byteAt (by omega)).bind (fun _ _ => (safe_byteAt (by omega)).bind (fun _ _ => Safe.ok _))

lemma exists_u16At {bytes : List UInt8} {i : Nat} (h : i + 2 ≤ bytes.length) :
    ∃ n, u16At bytes i = .ok n := by
  rw [u16At, byteAt_eq (by omega), ok_bind, byteAt_eq (by omega), ok_bind]
  exact ⟨_, rfl⟩

lemma exists_u32At {bytes : List UInt8} {i : Nat} (h : i + 4 ≤ bytes.length) :
    ∃ n, u32At bytes i = .ok n := by
  obtain ⟨high, hhigh⟩ := exists_u16At (show i + 2 ≤ bytes.length by omega)
  obtain ⟨low, hlow⟩ := exists_u16At (show i + 2 + 2 ≤ bytes.length by omega)
  rw [u32At, hhigh, ok_bind, hlow, ok_bind]
  exact ⟨_, rfl⟩

lemma safe_u32At {bytes : List UInt8} {i : Nat} (h : i + 4 ≤ bytes.length) :
    Safe (u32At bytes i) :=
  (safe_u16At (by omega)).bind (fun _ _ => (safe_u16At (by omega)).bind (fun _ _ => Safe.ok _))

lemma safe_readNameLoop (bytes : List UInt8) (pos hops : Nat) (labels : List String)
    (ending : Option Nat) : Safe (readNameLoop bytes pos hops labels ending) := by
  fun_induction readNameLoop bytes pos hops labels ending with
  | case1 | case2 | case4 | case5 | case7 | case8 => exact Safe.fail _
  | case3 => exact Safe.ok _
  | case6 _ _ _ _ _ _ _ _ _ _ _ _ ih => exact ih
  | case9 pos hops labels ending _ b _ _ _ _ hend e hslice =>
    rw [slice_eq (by omega) (by omega)] at hslice
    cases hslice
  | case10 _ _ _ _ _ _ _ _ _ _ _ _ _ ih => exact ih

lemma safe_readName (bytes : List UInt8) (start : Nat) : Safe (readName bytes start) :=
  (safe_readNameLoop bytes start 0 [] none).bind (fun _ _ => Safe.ok _)

lemma safe_validateName (bytes : List UInt8) (pos depth : Nat) :
    Safe (validateName bytes pos depth) := by
  fun_induction validateName bytes pos depth with
  | case1 | case2 | case4 | case5 | case7 | case8 => exact Safe.fail _
  | case3 => exact Safe.ok _
  | case6 _ _ _ _ _ _ _ _ _ _ ih => exact ih
  | case9 _ _ _ _ _ _ _ _ _ ih => exact ih

lemma safe_skipName (bytes : List UInt8) (pos : Nat) : Safe (skipName bytes pos) := by
  fun_induction skipName bytes pos with
  | case1 | case3 | case4 | case7 | case8 => exact Safe.fail _
  | case2 | case6 => exact Safe.ok _
  | case5 pos b _ _ _ low _ _ e hvalidate =>
    have hsafe := safe_validateName bytes (pointerTarget b low) 0
    rw [hvalidate] at hsafe
    exact fun h => hsafe (by cases h; rfl)
  | case9 _ _ _ _ _ _ _ ih => exact ih

lemma safe_readTxtLoop (rdata : List UInt8) (off : Nat) (out : String) :
    Safe (readTxtLoop rdata off out) := by
  fun_induction readTxtLoop rdata off out with
  | case1 off out hlt e hbyte =>
    rw [byteAt_eq hlt] at hbyte
    cases hbyte
  | case2 => exact Safe.fail _
  | case3 off out hlt len hbyte hend e hslice =>
    rw [slice_eq (by omega) (by omega)] at hslice
    cases hslice
  | case4 _ _ _ _ _ _ _ _ ih => exact ih
  | case5 => exact Safe.ok _

lemma safe_readSoa (bytes : List UInt8) (rdataStart : Nat) : Safe (readSoa bytes rdataStart) := by
  refine (safe_readName bytes rdataStart).bind (fun ⟨mname, p1⟩ _ => ?_)
  refine (safe_readName bytes p1).bind (fun ⟨rname, p2⟩ _ => ?_)
  dsimp only
  split
  · exact Safe.fail _
  · have hfield : ∀ i ≤ 4, Safe (u32At bytes (p2 + 4 * i)) := fun i hi => safe_u32At (by omega)
    refine (hfield 0 (by omega)).bind (fun _ _ => (hfield 1 (by omega)).bind (fun _ _ => ?_))
    refine (hfield 2 (by omega)).bind (fun _ _ => (hfield 3 (by omega)).bind (fun _ _ => ?_))
    exact (hfield 4 (by omega)).bind (fun _ _ => Safe.ok _)

lemma safe_readCaa {rdata : List UInt8} (h : 2 ≤ rdata.length) : Safe (readCaa rdata) := by
  refine (safe_byteAt (by omega)).bind (fun flags _ => ?_)
  refine (safe_byteAt (by omega)).bind (fun tagLen _ => ?_)
  dsimp only
  split
  · exact Safe.fail _
  · rw [slice_eq (by omega) (by omega), slice_eq (by omega) (by omega)]
    exact Safe.ok _

lemma safe_readRecord (bytes : List UInt8) (want : DnsRecordType) (rtype rdataStart : Nat)
    (rdata : List UInt8) : Safe (readRecord bytes want rtype rdataStart rdata) := by
  have hname : ∀ (f : String → DnsRecord) (pos : Nat),
      Safe (do return some (f (← readName bytes pos).1)) :=
    fun f pos => (safe_readName bytes pos).bind (fun _ _ => Safe.ok _)
  unfold readRecord
  dsimp only
  refine Safe.ite (fun h => ?_) (fun _ => ?_)
  · refine (safe_byteAt (by omega)).bind (fun _ _ => (safe_byteAt (by omega)).bind (fun _ _ => ?_))
    exact (safe_byteAt (by omega)).bind (fun _ _ => (safe_byteAt (by omega)).bind
      (fun _ _ => Safe.ok _))
  refine Safe.ite (fun h => ?_) (fun _ => ?_)
  · rw [dif_pos (by rw [List.size_toArray]; exact h.2.2)]
    exact Safe.ok _
  refine Safe.ite (fun _ => hname _ _) (fun _ => Safe.ite (fun _ => hname _ _) (fun _ => ?_))
  refine Safe.ite (fun _ => hname _ _) (fun _ => Safe.ite (fun h => ?_) (fun _ => ?_))
  · exact (safe_u16At (by omega)).bind (fun _ _ => (safe_readName _ _).bind (fun _ _ => Safe.ok _))
  refine Safe.ite (fun _ => ?_) (fun _ => Safe.ite (fun _ => ?_) (fun _ => ?_))
  · exact (safe_readTxtLoop rdata 0 "").bind (fun _ _ => Safe.ok _)
  · exact (safe_readSoa bytes rdataStart).bind (fun _ _ => Safe.ok _)
  refine Safe.ite (fun h => ?_) (fun _ => Safe.ite (fun h => ?_) (fun _ => Safe.ok _))
  · exact (safe_readCaa h.2.2).bind (fun _ _ => Safe.ok _)
  · refine (safe_u16At (by omega)).bind (fun _ _ => (safe_u16At (by omega)).bind (fun _ _ => ?_))
    exact (safe_u16At (by omega)).bind (fun _ _ => (safe_readName _ _).bind (fun _ _ => Safe.ok _))

lemma safe_skipQuestions (bytes : List UInt8) (n pos : Nat) :
    Safe (skipQuestions bytes n pos) := by
  induction n generalizing pos with
  | zero => exact Safe.ok _
  | succ n ih => exact (safe_skipName bytes pos).bind (fun pos _ => ih (pos + 4))

lemma safe_parseAnswer (bytes : List UInt8) (want : DnsRecordType) (state : Answers) :
    Safe (parseAnswer bytes want state) := by
  refine (safe_skipName bytes state.pos).bind (fun pos _ => ?_)
  dsimp only
  split
  · exact Safe.fail _
  · refine (safe_u16At (by omega)).bind (fun rtype _ => ?_)
    have httl : Safe (answerTtl bytes want rtype pos state.ttl) := by
      unfold answerTtl
      split
      · exact (safe_u32At (by omega)).map _
      · exact Safe.ok _
    refine httl.bind (fun ttl _ => (safe_u16At (by omega)).bind (fun rdlen _ => ?_))
    split
    · exact Safe.fail _
    · rw [slice_eq (by omega) (by omega)]
      exact (safe_readRecord _ _ _ _ _).bind (fun _ _ => Safe.ok _)

lemma safe_parseAnswers (bytes : List UInt8) (want : DnsRecordType) (n : Nat) (state : Answers) :
    Safe (parseAnswers bytes want n state) := by
  induction n generalizing state with
  | zero => exact Safe.ok _
  | succ n ih => exact (safe_parseAnswer bytes want state).bind (fun state _ => ih state)

/-- The parser panics on no message. -/
theorem safe_parseDnsResponse (bytes : List UInt8) (want : DnsRecordType) :
    Safe (parseDnsResponse bytes want) := by
  unfold parseDnsResponse
  split
  · exact Safe.fail _
  · refine (safe_byteAt (by omega)).bind (fun rcode _ => ?_)
    refine (safe_u16At (by omega)).bind (fun qdcount _ => (safe_u16At (by omega)).bind
      (fun ancount _ => ?_))
    refine (safe_skipQuestions bytes qdcount 12).bind (fun pos _ => ?_)
    exact (safe_parseAnswers bytes want ancount _).bind (fun _ _ => Safe.ok _)

end IpTools
