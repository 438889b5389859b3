import Mathlib.Algebra.Ring.Nat
import Mathlib.Data.List.Basic
import Mathlib.Data.List.GetD
import Mathlib.Data.List.Nodup
import Mathlib.Tactic.Common

/-!
# Base 64

Bytes as characters of six bits each, without padding, over any alphabet of 64 characters. The
encoder works on groups of three bytes, the decoder on the stream of bits.
-/

namespace Base64

/-- 64 characters, no two of them alike. -/
structure Alphabet where
  chars : List Char
  length_chars : chars.length = 64
  nodup : chars.Nodup

variable (alphabet : Alphabet)

namespace Alphabet

def char (v : Nat) : Char := alphabet.chars.getD v 'A'

def value (c : Char) : Option Nat :=
  if c ∈ alphabet.chars then some (alphabet.chars.idxOf c) else none

variable {alphabet} {v : Nat}

lemma char_eq (h : v < alphabet.chars.length) : alphabet.char v = alphabet.chars[v] :=
  List.getD_eq_getElem _ _ h

lemma char_mem (h : v < 64) : alphabet.char v ∈ alphabet.chars := by
  rw [← alphabet.length_chars] at h
  rw [char_eq h]
  exact List.getElem_mem h

lemma value_char (h : v < 64) : alphabet.value (alphabet.char v) = some v := by
  unfold value
  rw [if_pos (char_mem h)]
  rw [← alphabet.length_chars] at h
  rw [char_eq h, alphabet.nodup.idxOf_getElem v h]

end Alphabet

/-- Groups of three bytes as groups of four characters, and the rest as two or three. -/
def encode : List UInt8 → List Char
  | [] => []
  | [a] => [alphabet.char (a.toNat / 4), alphabet.char (a.toNat % 4 * 16)]
  | [a, b] =>
    [alphabet.char (a.toNat / 4), alphabet.char (a.toNat % 4 * 16 + b.toNat / 16),
      alphabet.char (b.toNat % 16 * 4)]
  | a :: b :: c :: rest =>
    alphabet.char (a.toNat / 4) :: alphabet.char (a.toNat % 4 * 16 + b.toNat / 16) ::
      alphabet.char (b.toNat % 16 * 4 + c.toNat / 64) :: alphabet.char (c.toNat % 64) ::
      encode rest

/-- The bytes of the characters after the `bits` low bits of `acc`: a byte as soon as there are
eight bits. What is left at the end are fewer than six bits, all zero. -/
def decodeFrom (acc bits : Nat) : List Char → Option (List UInt8)
  | [] => if acc = 0 ∧ bits < 6 then some [] else none
  | c :: rest => do
    let v ← alphabet.value c
    let acc := acc * 64 + v
    if bits + 6 < 8 then decodeFrom acc (bits + 6) rest
    else
      let bytes ← decodeFrom (acc % 2 ^ (bits - 2)) (bits - 2) rest
      return UInt8.ofNat (acc / 2 ^ (bits - 2)) :: bytes

def decode (s : List Char) : Option (List UInt8) := decodeFrom alphabet 0 0 s

variable {alphabet}

section Stream

variable {v acc bits : Nat} {rest : List Char}

/-- A character that fills no byte. -/
lemma decodeFrom_keep (hv : v < 64) (hbits : bits < 2) :
    decodeFrom alphabet acc bits (alphabet.char v :: rest) =
      decodeFrom alphabet (acc * 64 + v) (bits + 6) rest := by
  rw [decodeFrom, Alphabet.value_char hv, Option.bind_eq_bind, Option.bind_some,
    if_pos (by omega)]

/-- A character that fills a byte. -/
lemma decodeFrom_emit (hv : v < 64) (hbits : 2 ≤ bits) :
    decodeFrom alphabet acc bits (alphabet.char v :: rest) =
      (decodeFrom alphabet ((acc * 64 + v) % 2 ^ (bits - 2)) (bits - 2) rest).map
        (fun bytes => UInt8.ofNat ((acc * 64 + v) / 2 ^ (bits - 2)) :: bytes) := by
  rw [decodeFrom, Alphabet.value_char hv, Option.bind_eq_bind, Option.bind_some,
    if_neg (by omega)]
  cases decodeFrom alphabet ((acc * 64 + v) % 2 ^ (bits - 2)) (bits - 2) rest <;> rfl

end Stream

section Groups

variable {a b c : UInt8} {rest : List Char}

lemma eq_ofNat {n : Nat} (h : n = a.toNat) : UInt8.ofNat n = a := by
  rw [h, UInt8.ofNat_toNat]

/-- The first two characters of a group carry its first byte. -/
lemma decodeFrom_first {n : Nat} (hn : n < 16) :
    decodeFrom alphabet 0 0
        (alphabet.char (a.toNat / 4) :: alphabet.char (a.toNat % 4 * 16 + n) :: rest) =
      (decodeFrom alphabet n 4 rest).map (a :: ·) := by
  have ha := a.toNat_lt
  rw [decodeFrom_keep (by omega) (by decide), decodeFrom_emit (by omega) (by decide)]
  have hbyte : ((0 * 64 + a.toNat / 4) * 64 + (a.toNat % 4 * 16 + n)) / 2 ^ 4 = a.toNat := by
    omega
  have hleft : ((0 * 64 + a.toNat / 4) * 64 + (a.toNat % 4 * 16 + n)) % 2 ^ 4 = n := by omega
  rw [show 0 + 6 - 2 = 4 from rfl, hleft, eq_ofNat hbyte]

/-- The third completes the second byte. -/
lemma decodeFrom_second {n : Nat} (hn : n < 4) :
    decodeFrom alphabet (b.toNat / 16) 4 (alphabet.char (b.toNat % 16 * 4 + n) :: rest) =
      (decodeFrom alphabet n 2 rest).map (b :: ·) := by
  have hb := b.toNat_lt
  rw [decodeFrom_emit (by omega) (by decide)]
  have hbyte : (b.toNat / 16 * 64 + (b.toNat % 16 * 4 + n)) / 2 ^ 2 = b.toNat := by omega
  have hleft : (b.toNat / 16 * 64 + (b.toNat % 16 * 4 + n)) % 2 ^ 2 = n := by omega
  rw [show 4 - 2 = 2 from rfl, hleft, eq_ofNat hbyte]

/-- The fourth completes the third byte and leaves no bit. -/
lemma decodeFrom_third :
    decodeFrom alphabet (c.toNat / 64) 2 (alphabet.char (c.toNat % 64) :: rest) =
      (decodeFrom alphabet 0 0 rest).map (c :: ·) := by
  have hc := c.toNat_lt
  rw [decodeFrom_emit (by omega) (by decide)]
  have hbyte : (c.toNat / 64 * 64 + c.toNat % 64) / 2 ^ 0 = c.toNat := by omega
  have hleft : (c.toNat / 64 * 64 + c.toNat % 64) % 2 ^ 0 = 0 := by omega
  rw [show 2 - 2 = 0 from rfl, hleft, eq_ofNat hbyte]

end Groups

theorem decode_encode (bytes : List UInt8) :
    decode alphabet (encode alphabet bytes) = some bytes := by
  unfold decode
  induction bytes using encode.induct with
  | case1 => rfl
  | case2 a =>
    rw [encode]
    exact decodeFrom_first (n := 0) (by decide)
  | case3 a b =>
    have hb := b.toNat_lt
    rw [encode, decodeFrom_first (by omega)]
    exact congrArg (Option.map _) (decodeFrom_second (n := 0) (by decide))
  | case4 a b c rest ih =>
    have hb := b.toNat_lt
    have hc := c.toNat_lt
    rw [encode, decodeFrom_first (by omega), decodeFrom_second (by omega), decodeFrom_third, ih]
    rfl

lemma encode_injective : Function.Injective (encode alphabet) := by
  intro x y h
  have hdecode := congrArg (decode alphabet) h
  rw [decode_encode, decode_encode] at hdecode
  exact Option.some.inj hdecode

lemma length_encode (bytes : List UInt8) :
    (encode alphabet bytes).length = (8 * bytes.length + 5) / 6 := by
  induction bytes using encode.induct with
  | case1 => rfl
  | case2 a => simp [encode]
  | case3 a b => simp [encode]
  | case4 a b c rest ih =>
    simp only [encode, List.length_cons, ih]
    omega

lemma mem_chars_of_mem_encode {bytes : List UInt8} :
    ∀ s ∈ encode alphabet bytes, s ∈ alphabet.chars := by
  induction bytes using encode.induct with
  | case1 => simp [encode]
  | case2 a =>
    have ha := a.toNat_lt
    simp only [encode, List.forall_mem_cons]
    exact ⟨Alphabet.char_mem (by omega), Alphabet.char_mem (by omega), by simp⟩
  | case3 a b =>
    have ha := a.toNat_lt
    have hb := b.toNat_lt
    simp only [encode, List.forall_mem_cons]
    exact ⟨Alphabet.char_mem (by omega), Alphabet.char_mem (by omega),
      Alphabet.char_mem (by omega), by simp⟩
  | case4 a b c rest ih =>
    have ha := a.toNat_lt
    have hb := b.toNat_lt
    have hc := c.toNat_lt
    simp only [encode, List.forall_mem_cons]
    exact ⟨Alphabet.char_mem (by omega), Alphabet.char_mem (by omega),
      Alphabet.char_mem (by omega), Alphabet.char_mem (by omega), ih⟩

end Base64
