import IpTools.Dns.Query
import IpTools.Library.Base64
import IpTools.Library.ByteBits
import Mathlib.Algebra.Order.Floor.Div

/-!
# The parameter of a DNS-over-HTTPS request

The encoder of the source is base 64 over the alphabet of URLs, so that a query is read back from
the request it is put into.
-/

namespace IpTools

open Base64 ByteBits

def urlAlphabet : Alphabet where
  chars := base64Alphabet
  length_chars := by decide
  nodup := by decide

lemma base64Char_eq {b : UInt8} {n : Nat} (h : b.toNat = n) :
    base64Char b = urlAlphabet.char n := by
  rw [← h]
  rfl

section Group

variable (a b c : UInt8)

lemma base64Char_first : base64Char (a >>> 2) = urlAlphabet.char (a.toNat / 4) :=
  base64Char_eq (toNat_high a (k := 2) (by decide))

lemma base64Char_second : base64Char (((a &&& 0x03) <<< 4) ||| (b >>> 4)) =
    urlAlphabet.char (a.toNat % 4 * 16 + b.toNat / 16) :=
  base64Char_eq (toNat_joined a b (k := 2) (by decide))

lemma base64Char_second_last :
    base64Char ((a &&& 0x03) <<< 4) = urlAlphabet.char (a.toNat % 4 * 16) :=
  base64Char_eq (toNat_low a (k := 2) (by decide))

lemma base64Char_third : base64Char (((b &&& 0x0f) <<< 2) ||| (c >>> 6)) =
    urlAlphabet.char (b.toNat % 16 * 4 + c.toNat / 64) :=
  base64Char_eq (toNat_joined b c (k := 4) (by decide))

lemma base64Char_third_last :
    base64Char ((b &&& 0x0f) <<< 2) = urlAlphabet.char (b.toNat % 16 * 4) :=
  base64Char_eq (toNat_low b (k := 4) (by decide))

lemma base64Char_fourth : base64Char (c &&& 0x3f) = urlAlphabet.char (c.toNat % 64) :=
  base64Char_eq (toNat_mask c (k := 6) (by decide))

end Group

/-- The groups of the source are those of the encoding. -/
lemma base64url_eq (bytes : List UInt8) : base64url bytes = encode urlAlphabet bytes := by
  induction bytes using base64url.induct with
  | case1 => rfl
  | case2 a => rw [base64url, encode, base64Char_first, base64Char_second_last]
  | case3 a b =>
    rw [base64url, encode, base64Char_first, base64Char_second, base64Char_third_last]
  | case4 a b c rest ih =>
    rw [base64url, encode, base64Char_first, base64Char_second, base64Char_third,
      base64Char_fourth, ih]

/-- The characters of the encoded parameter. -/
def IsUrlSafe (c : Char) : Prop :=
  'A' ≤ c ∧ c ≤ 'Z' ∨ 'a' ≤ c ∧ c ≤ 'z' ∨ '0' ≤ c ∧ c ≤ '9' ∨ c = '-' ∨ c = '_'

instance : DecidablePred IsUrlSafe := fun c => by unfold IsUrlSafe; infer_instance

lemma isUrlSafe_of_mem {c : Char} (h : c ∈ base64Alphabet) : IsUrlSafe c :=
  of_decide_eq_true (List.all_eq_true.mp (show base64Alphabet.all (fun c => IsUrlSafe c) = true by
    decide) c h)

/-- A query is read back from the parameter of its request, which is as short as its bits allow and
has only characters that stand for themselves in a URL. -/
theorem base64url_decode (bytes : List UInt8) :
    (∀ c ∈ base64url bytes, IsUrlSafe c) ∧
      (base64url bytes).length = (8 * bytes.length) ⌈/⌉ 6 ∧
      decode urlAlphabet (base64url bytes) = some bytes ∧
      ∀ (path : List Char) (bytes' : List UInt8),
        path ++ "?dns=".toList ++ base64url bytes' = path ++ "?dns=".toList ++ base64url bytes →
          bytes' = bytes := by
  simp only [base64url_eq]
  refine ⟨fun c hc => isUrlSafe_of_mem (mem_chars_of_mem_encode c hc), length_encode bytes,
    decode_encode bytes, fun path bytes' h => ?_⟩
  exact encode_injective (List.append_cancel_left h)

-- two bytes are 16 bits, of which the third character has the last four
example : base64url [0xfb, 0xff] = "-_8".toList := by decide

end IpTools
