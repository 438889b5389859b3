import IpTools.Library.ByteBits
import Mathlib.Data.List.Basic
import Mathlib.Tactic.Common

/-!
# Reading UTF-8 with replacements

Bytes are read into characters, a maximal part of an ill-formed sequence as one U+FFFD. What a
text is encoded as is read back as the text.
-/

namespace Utf8

def encode (s : List Char) : List UInt8 := s.flatMap String.utf8EncodeChar

def replacement : Char := Char.ofNat 0xfffd

def isContinuation (b : UInt8) : Bool := 0x80 ≤ b && b ≤ 0xbf

/-- The length of the sequence that a byte starts, 0 where it starts none. -/
def charWidth (b : UInt8) : Nat :=
  if b < 0x80 then 1
  else if 0xc2 ≤ b && b ≤ 0xdf then 2
  else if 0xe0 ≤ b && b ≤ 0xef then 3
  else if 0xf0 ≤ b && b ≤ 0xf4 then 4
  else 0

/-- Whether a byte may follow the first byte of a sequence. The overlong forms, the surrogates
and what is past U+10FFFF end here. -/
def secondByte (first second : UInt8) : Bool :=
  if first = 0xe0 then 0xa0 ≤ second && second ≤ 0xbf
  else if first = 0xed then 0x80 ≤ second && second ≤ 0x9f
  else if first = 0xf0 then 0x90 ≤ second && second ≤ 0xbf
  else if first = 0xf4 then 0x80 ≤ second && second ≤ 0x8f
  else isContinuation second

/-- Read continuation bytes onto the bits of the bytes before. -/
def readTail : Nat → Nat → List UInt8 → Option Nat × List UInt8
  | 0, bits, rest => (some bits, rest)
  | _ + 1, _, [] => (none, [])
  | n + 1, bits, b :: rest =>
    if isContinuation b then readTail n (bits * 64 + b.toNat % 64) rest else (none, b :: rest)

/-- The first character and the bytes after it. -/
def readChar (first : UInt8) (rest : List UInt8) : Char × List UInt8 :=
  match charWidth first with
  | 0 => (replacement, rest)
  | 1 => (Char.ofNat first.toNat, rest)
  | width + 2 =>
    if rest.head?.all (secondByte first) then
      match readTail (width + 1) (first.toNat % 2 ^ (5 - width)) rest with
      | (some n, rest) => (Char.ofNat n, rest)
      | (none, rest) => (replacement, rest)
    else (replacement, rest)

def readChars : Nat → List UInt8 → List Char
  | 0, _ => []
  | _ + 1, [] => []
  | fuel + 1, b :: rest => (readChar b rest).1 :: readChars fuel (readChar b rest).2

def decodeLossy (bytes : List UInt8) : List Char := readChars bytes.length bytes

lemma readTail_cons {n bits m : Nat} {rest : List UInt8} (h : m < 64) :
    readTail (n + 1) bits (UInt8.ofNat (m + 0x80) :: rest) = readTail n (bits * 64 + m) rest := by
  have hbyte : (UInt8.ofNat (m + 0x80)).toNat = m + 0x80 := ByteBits.toNat_ofNat (by omega)
  have hcont : isContinuation (UInt8.ofNat (m + 0x80)) = true := by
    simp only [isContinuation, Bool.and_eq_true, decide_eq_true_eq, UInt8.le_iff_toNat_le, hbyte]
    exact ⟨Nat.le_add_left _ _, Nat.le_of_lt_succ (Nat.add_lt_add_right h 0x80)⟩
  rw [readTail, if_pos hcont, hbyte, show (m + 0x80) % 64 = m by omega]

lemma eq_ofNat_iff {f : Nat} (hf : f < 256) (b : UInt8) : UInt8.ofNat f = b ↔ f = b.toNat := by
  rw [← UInt8.toNat_inj, ByteBits.toNat_ofNat hf]

lemma secondByte_ofNat {f s : Nat} (hf : f < 256) (hs : s < 256) (hcont : 0x80 ≤ s ∧ s ≤ 0xbf)
    (he0 : f = 0xe0 → 0xa0 ≤ s) (hed : f = 0xed → s ≤ 0x9f) (hf0 : f = 0xf0 → 0x90 ≤ s)
    (hf4 : f = 0xf4 → s ≤ 0x8f) : secondByte (UInt8.ofNat f) (UInt8.ofNat s) = true := by
  unfold secondByte isContinuation
  simp only [eq_ofNat_iff hf, UInt8.le_iff_toNat_le, ByteBits.toNat_ofNat hs, UInt8.reduceToNat]
  split_ifs with h1 h2 h3 h4 <;> simp only [Bool.and_eq_true, decide_eq_true_eq] <;> omega

lemma charWidth_ofNat {f : Nat} (hf : f < 256) : charWidth (UInt8.ofNat f) =
    if f < 0x80 then 1 else if 0xc2 ≤ f ∧ f ≤ 0xdf then 2 else if 0xe0 ≤ f ∧ f ≤ 0xef then 3
    else if 0xf0 ≤ f ∧ f ≤ 0xf4 then 4 else 0 := by
  unfold charWidth
  simp only [Bool.and_eq_true, decide_eq_true_eq, UInt8.le_iff_toNat_le, UInt8.lt_iff_toNat_lt,
    ByteBits.toNat_ofNat hf]
  rfl

/-- A sequence of several bytes whose second byte is in its range. -/
lemma readChar_cons {f s n : Nat} (width : Nat) {tail rest : List UInt8} (hf : f < 256)
    (hwidth : charWidth (UInt8.ofNat f) = width + 2)
    (hsecond : secondByte (UInt8.ofNat f) (UInt8.ofNat s) = true)
    (htail : readTail (width + 1) (f % 2 ^ (5 - width)) (UInt8.ofNat s :: tail) = (some n, rest)) :
    readChar (UInt8.ofNat f) (UInt8.ofNat s :: tail) = (Char.ofNat n, rest) := by
  unfold readChar
  rw [hwidth]
  dsimp only
  rw [List.head?_cons, Option.all_some, if_pos hsecond, ByteBits.toNat_ofNat hf, htail]

/-- A character is read from its bytes, whatever follows them. -/
theorem readChar_encode (c : Char) (rest : List UInt8) : ∃ first tail,
    String.utf8EncodeChar c ++ rest = first :: tail ∧ readChar first tail = (c, rest) := by
  have hv : Char.ofNat c.val.toNat = c := Char.ofNat_toNat c
  have hvalid : c.val.toNat < 0xd800 ∨ 0xdfff < c.val.toNat ∧ c.val.toNat < 0x110000 := c.valid
  unfold String.utf8EncodeChar
  dsimp only
  generalize c.val.toNat = v at hv hvalid
  rw [← hv]
  split_ifs with h1 h2 h3
  · refine ⟨UInt8.ofNat v, rest, rfl, ?_⟩
    unfold readChar
    rw [charWidth_ofNat (by omega), if_pos (by omega), ByteBits.toNat_ofNat (by omega)]
  · refine ⟨UInt8.ofNat _, UInt8.ofNat _ :: rest, rfl, ?_⟩
    have hhead : v / 64 % 0x20 + 0xc0 < 256 := by omega
    refine readChar_cons 0 hhead ?_ ?_ ?_
    · rw [charWidth_ofNat hhead, if_neg (by omega), if_pos (by omega)]
    · apply secondByte_ofNat hhead <;> omega
    · rw [readTail_cons (by omega), readTail,
        show (v / 64 % 0x20 + 0xc0) % 2 ^ (5 - 0) * 64 + v % 0x40 = v by omega]
  · refine ⟨UInt8.ofNat _, UInt8.ofNat _ :: UInt8.ofNat _ :: rest, rfl, ?_⟩
    have hhead : v / 4096 % 0x10 + 0xe0 < 256 := by omega
    refine readChar_cons 1 hhead ?_ ?_ ?_
    · rw [charWidth_ofNat hhead, if_neg (by omega), if_neg (by omega), if_pos (by omega)]
    · apply secondByte_ofNat hhead <;> omega
    · rw [readTail_cons (by omega), readTail_cons (by omega), readTail,
        show ((v / 4096 % 0x10 + 0xe0) % 2 ^ (5 - 1) * 64 + v / 64 % 0x40) * 64 + v % 0x40 = v by
          omega]
  · refine ⟨UInt8.ofNat _, UInt8.ofNat _ :: UInt8.ofNat _ :: UInt8.ofNat _ :: rest, rfl, ?_⟩
    have hhead : v / 262144 % 0x08 + 0xf0 < 256 := by omega
    refine readChar_cons 2 hhead ?_ ?_ ?_
    · rw [charWidth_ofNat hhead, if_neg (by omega), if_neg (by omega), if_neg (by omega),
        if_pos (by omega)]
    · apply secondByte_ofNat hhead <;> omega
    · rw [readTail_cons (by omega), readTail_cons (by omega), readTail_cons (by omega), readTail,
        show (((v / 262144 % 0x08 + 0xf0) % 2 ^ (5 - 2) * 64 + v / 4096 % 0x40) * 64 +
          v / 64 % 0x40) * 64 + v % 0x40 = v by omega]

/-- Bytes are read to the end when there are characters enough to read. -/
lemma readChars_encode (s : List Char) {fuel : Nat} (h : s.length ≤ fuel) :
    readChars fuel (encode s) = s := by
  induction s generalizing fuel with
  | nil => cases fuel <;> rfl
  | cons c s ih =>
    obtain ⟨first, tail, hbytes, hread⟩ := readChar_encode c (encode s)
    obtain ⟨fuel, rfl⟩ : ∃ n, fuel = n + 1 := ⟨fuel - 1, by rw [List.length_cons] at h; omega⟩
    have hcons : encode (c :: s) = first :: tail := hbytes
    rw [hcons, readChars, hread]
    dsimp only
    rw [ih (Nat.le_of_succ_le_succ h)]

lemma length_le_encode (s : List Char) : s.length ≤ (encode s).length := by
  induction s with
  | nil => exact Nat.le_refl 0
  | cons c s ih =>
    have hcons : encode (c :: s) = String.utf8EncodeChar c ++ encode s := rfl
    rw [hcons, List.length_append, String.length_utf8EncodeChar, List.length_cons]
    have := c.utf8Size_pos
    omega

/-- What a text is encoded as is read back as the text. -/
theorem decodeLossy_encode (s : List Char) : decodeLossy (encode s) = s :=
  readChars_encode s (length_le_encode s)

/-- The bytes of a character that is no ASCII character. -/
lemma encode_several {c : Char} (h : 1 < c.utf8Size) : ∃ width first tail,
    String.utf8EncodeChar c = first :: tail ∧ charWidth first = width + 2 ∧
      tail.length = width + 1 ∧ (∀ b ∈ tail, isContinuation b = true) ∧
      tail.head?.all (secondByte first) = true := by
  have hvalid : c.val.toNat < 0xd800 ∨ 0xdfff < c.val.toNat ∧ c.val.toNat < 0x110000 := c.valid
  have hcont : ∀ m < 64, isContinuation (UInt8.ofNat (m + 0x80)) = true := by
    intro m hm
    simp only [isContinuation, Bool.and_eq_true, decide_eq_true_eq, UInt8.le_iff_toNat_le,
      ByteBits.toNat_ofNat (show m + 0x80 < 256 by omega)]
    exact ⟨Nat.le_add_left _ _, Nat.le_of_lt_succ (Nat.add_lt_add_right hm 0x80)⟩
  rw [← String.length_utf8EncodeChar] at h
  unfold String.utf8EncodeChar at h ⊢
  dsimp only at h ⊢
  generalize c.val.toNat = v at hvalid h
  split_ifs at h ⊢ with h1 h2 h3
  · cases Nat.lt_irrefl 1 h
  · have hhead : v / 64 % 0x20 + 0xc0 < 256 := by omega
    refine ⟨0, _, _, rfl, ?_, rfl, ?_, ?_⟩
    · rw [charWidth_ofNat hhead, if_neg (by omega), if_pos (by omega)]
    · simp only [List.forall_mem_cons]
      exact ⟨hcont _ (by omega), fun _ hb => absurd hb List.not_mem_nil⟩
    · apply secondByte_ofNat hhead <;> omega
  · have hhead : v / 4096 % 0x10 + 0xe0 < 256 := by omega
    refine ⟨1, _, _, rfl, ?_, rfl, ?_, ?_⟩
    · rw [charWidth_ofNat hhead, if_neg (by omega), if_neg (by omega), if_pos (by omega)]
    · simp only [List.forall_mem_cons]
      exact ⟨hcont _ (by omega), hcont _ (by omega), fun _ hb => absurd hb List.not_mem_nil⟩
    · apply secondByte_ofNat hhead <;> omega
  · have hhead : v / 262144 % 0x08 + 0xf0 < 256 := by omega
    refine ⟨2, _, _, rfl, ?_, rfl, ?_, ?_⟩
    · rw [charWidth_ofNat hhead, if_neg (by omega), if_neg (by omega), if_neg (by omega),
        if_pos (by omega)]
    · simp only [List.forall_mem_cons]
      exact ⟨hcont _ (by omega), hcont _ (by omega), hcont _ (by omega),
        fun _ hb => absurd hb List.not_mem_nil⟩
    · apply secondByte_ofNat hhead <;> omega

lemma readTail_short {n bits : Nat} {tail : List UInt8} (hlength : tail.length < n)
    (hcont : ∀ b ∈ tail, isContinuation b = true) : readTail n bits tail = (none, []) := by
  induction tail generalizing n bits with
  | nil =>
    obtain ⟨n, rfl⟩ := Nat.exists_eq_add_of_lt hlength
    rfl
  | cons b tail ih =>
    rw [List.length_cons] at hlength
    obtain ⟨n, rfl⟩ : ∃ m, n = m + 1 := ⟨n - 1, by omega⟩
    rw [readTail, if_pos (hcont b List.mem_cons_self)]
    exact ih (by omega) (fun x hx => hcont x (List.mem_cons_of_mem b hx))

/-- The first bytes of a character are read as one replacement. -/
lemma readChar_cut {c : Char} {n : Nat} (hn : n + 1 < c.utf8Size) : ∃ first tail,
    (String.utf8EncodeChar c).take (n + 1) = first :: tail ∧
      readChar first tail = (replacement, []) := by
  obtain ⟨width, first, tail, hbytes, hwidth, hlength, hcont, hsecond⟩ :=
    encode_several (Nat.lt_of_le_of_lt (Nat.le_add_left 1 n) hn)
  have hsize : c.utf8Size = width + 2 := by
    rw [← String.length_utf8EncodeChar, hbytes, List.length_cons, hlength]
  refine ⟨first, tail.take n, by rw [hbytes, List.take_succ_cons], ?_⟩
  have hhead : (tail.take n).head?.all (secondByte first) = true := by
    cases n with
    | zero => rfl
    | succ n =>
      rw [List.head?_take, if_neg (Nat.succ_ne_zero n)]
      exact hsecond
  have hshort :
      readTail (width + 1) (first.toNat % 2 ^ (5 - width)) (tail.take n) = (none, []) := by
    refine readTail_short ?_ (fun b hb => hcont b (List.mem_of_mem_take hb))
    rw [List.length_take]
    omega
  unfold readChar
  rw [hwidth]
  dsimp only
  rw [if_pos hhead, hshort]

/-- The characters of a text whose bytes are within the first ones. -/
def fitting : Nat → List Char → List Char
  | _, [] => []
  | n, c :: s => if c.utf8Size ≤ n then c :: fitting (n - c.utf8Size) s else []

lemma readChars_take_encode (s : List Char) {n fuel : Nat}
    (h : ((encode s).take n).length ≤ fuel) : ∃ lost, (lost = [] ∨ lost = [replacement]) ∧
      readChars fuel ((encode s).take n) = fitting n s ++ lost := by
  induction s generalizing n fuel with
  | nil =>
    refine ⟨[], .inl rfl, ?_⟩
    have hnil : (encode []).take n = [] := List.take_nil
    rw [hnil]
    cases fuel <;> rfl
  | cons c s ih =>
    have hcons : encode (c :: s) = String.utf8EncodeChar c ++ encode s := rfl
    have hlength := String.length_utf8EncodeChar c
    rw [hcons, List.take_append, hlength] at h ⊢
    rw [fitting]
    by_cases hfits : c.utf8Size ≤ n
    · rw [List.take_of_length_le (by omega)] at h ⊢
      obtain ⟨first, tail, hbytes, hread⟩ :=
        readChar_encode c ((encode s).take (n - c.utf8Size))
      have hpos := c.utf8Size_pos
      rw [List.length_append, hlength] at h
      obtain ⟨fuel, rfl⟩ : ∃ m, fuel = m + 1 := ⟨fuel - 1, by omega⟩
      obtain ⟨lost, hlost, hrest⟩ := @ih (n - c.utf8Size) fuel (by omega)
      refine ⟨lost, hlost, ?_⟩
      rw [if_pos hfits, hbytes, readChars, hread]
      exact congrArg (c :: ·) hrest
    · have hrest : (encode s).take (n - c.utf8Size) = [] := by
        rw [Nat.sub_eq_zero_of_le (Nat.le_of_not_le hfits), List.take_zero]
      rw [hrest, List.append_nil] at h ⊢
      rw [if_neg hfits]
      cases n with
      | zero =>
        refine ⟨[], .inl rfl, ?_⟩
        rw [List.take_zero]
        cases fuel <;> rfl
      | succ n =>
        obtain ⟨first, tail, hbytes, hread⟩ := readChar_cut (Nat.lt_of_not_le hfits)
        rw [hbytes] at h ⊢
        rw [List.length_cons] at h
        obtain ⟨fuel, rfl⟩ : ∃ m, fuel = m + 1 := ⟨fuel - 1, by omega⟩
        refine ⟨[replacement], .inr rfl, ?_⟩
        rw [readChars, hread]
        cases fuel <;> rfl

/-- The first bytes of a text are read as the characters that are wholly in them, and one
replacement where they end within a character. -/
theorem decodeLossy_take_encode (s : List Char) (n : Nat) :
    ∃ lost, (lost = [] ∨ lost = [replacement]) ∧
      decodeLossy ((encode s).take n) = fitting n s ++ lost :=
  readChars_take_encode s (Nat.le_refl _)

/-- The characters that fit are the longest start of the text that does. -/
theorem prefix_fitting_iff {s shown : List Char} {n : Nat} :
    shown <+: fitting n s ↔ shown <+: s ∧ (encode shown).length ≤ n := by
  induction s generalizing n shown with
  | nil =>
    rw [fitting, List.prefix_nil]
    refine ⟨fun h => ⟨h, ?_⟩, fun h => h.1⟩
    rw [h]
    exact Nat.zero_le n
  | cons c s ih =>
    cases shown with
    | nil => exact iff_of_true (List.nil_prefix) ⟨List.nil_prefix, Nat.zero_le n⟩
    | cons d shown =>
      have hlength : (encode (d :: shown)).length = d.utf8Size + (encode shown).length := by
        have hcons : encode (d :: shown) = String.utf8EncodeChar d ++ encode shown := rfl
        rw [hcons, List.length_append, String.length_utf8EncodeChar]
      rw [fitting, hlength, List.cons_prefix_cons]
      by_cases hfits : c.utf8Size ≤ n
      · rw [if_pos hfits, List.cons_prefix_cons, ih]
        constructor
        · rintro ⟨rfl, hstart, hle⟩
          exact ⟨⟨rfl, hstart⟩, by omega⟩
        · rintro ⟨⟨rfl, hstart⟩, hle⟩
          exact ⟨rfl, hstart, by omega⟩
      · rw [if_neg hfits, List.prefix_nil]
        refine iff_of_false (List.cons_ne_nil d shown) ?_
        rintro ⟨⟨rfl, -⟩, hle⟩
        omega

lemma toNat_of_isContinuation {b : UInt8} (h : isContinuation b = true) :
    0x80 ≤ b.toNat ∧ b.toNat ≤ 0xbf := by
  unfold isContinuation at h
  simpa only [Bool.and_eq_true, decide_eq_true_eq, UInt8.le_iff_toNat_le, UInt8.reduceToNat] using h

/-- The bytes that are read onto some bits, and the number they give. -/
lemma readTail_spec (n bits : Nat) (rest : List UInt8) :
    ∃ tail, rest = tail ++ (readTail n bits rest).2 ∧ (∀ b ∈ tail, 0x80 ≤ b.toNat) ∧
      ∀ value, (readTail n bits rest).1 = some value →
        bits * 64 ^ n ≤ value ∧ value < (bits + 1) * 64 ^ n := by
  induction n generalizing bits rest with
  | zero => exact ⟨[], rfl, by simp, fun value h => by cases h; omega⟩
  | succ n ih =>
    cases rest with
    | nil => exact ⟨[], rfl, by simp, fun value h => by cases h⟩
    | cons b rest =>
      rw [readTail]
      by_cases hb : isContinuation b = true
      · rw [if_pos hb]
        obtain ⟨tail, hrest, htail, hvalue⟩ := ih (bits * 64 + b.toNat % 64) rest
        refine ⟨b :: tail, by rw [List.cons_append, ← hrest], ?_, fun value h => ?_⟩
        · exact List.forall_mem_cons.mpr ⟨(toNat_of_isContinuation hb).1, htail⟩
        · obtain ⟨hle, hlt⟩ := hvalue value h
          have hdigit : b.toNat % 64 + 1 ≤ 64 := Nat.mod_lt _ (by omega)
          have hpow : 64 ^ (n + 1) = 64 * 64 ^ n := Nat.pow_succ'
          rw [hpow]
          constructor
          · calc bits * (64 * 64 ^ n) = bits * 64 * 64 ^ n := (Nat.mul_assoc _ _ _).symm
              _ ≤ (bits * 64 + b.toNat % 64) * 64 ^ n :=
                Nat.mul_le_mul_right _ (Nat.le_add_right _ _)
              _ ≤ value := hle
          · calc value < (bits * 64 + b.toNat % 64 + 1) * 64 ^ n := hlt
              _ ≤ (bits + 1) * 64 * 64 ^ n := Nat.mul_le_mul_right _ (by omega)
              _ = (bits + 1) * (64 * 64 ^ n) := Nat.mul_assoc _ _ _
      · rw [if_neg hb]
        exact ⟨[], rfl, by simp, fun value h => by cases h⟩

lemma readTail_second {n bits value : Nat} {b : UInt8} {rest : List UInt8}
    (h : (readTail (n + 1) bits (b :: rest)).1 = some value) :
    (0x80 ≤ b.toNat ∧ b.toNat ≤ 0xbf) ∧ (bits * 64 + b.toNat % 64) * 64 ^ n ≤ value ∧
      value < (bits * 64 + b.toNat % 64 + 1) * 64 ^ n := by
  rw [readTail] at h
  by_cases hb : isContinuation b = true
  · rw [if_pos hb] at h
    obtain ⟨-, -, -, hvalue⟩ := readTail_spec n (bits * 64 + b.toNat % 64) rest
    exact ⟨toNat_of_isContinuation hb, hvalue value h⟩
  · rw [if_neg hb] at h
    cases h

lemma secondByte_spec {first b : UInt8} (h : secondByte first b = true) :
    (first.toNat = 0xe0 → 0xa0 ≤ b.toNat) ∧ (first.toNat = 0xed → b.toNat ≤ 0x9f) ∧
      (first.toNat = 0xf0 → 0x90 ≤ b.toNat) ∧ (first.toNat = 0xf4 → b.toNat ≤ 0x8f) := by
  unfold secondByte isContinuation at h
  simp only [← UInt8.toNat_inj, UInt8.le_iff_toNat_le, UInt8.reduceToNat] at h
  split_ifs at h <;> simp only [Bool.and_eq_true, decide_eq_true_eq] at h <;> omega

lemma toNat_ofNat_of_valid {n : Nat} (h : n < 0xd800 ∨ 0xdfff < n ∧ n < 0x110000) :
    (Char.ofNat n).toNat = n := by
  rw [Char.ofNat, dif_pos h]
  rfl

lemma charWidth_eq (b : UInt8) : charWidth b =
    if b.toNat < 0x80 then 1 else if 0xc2 ≤ b.toNat ∧ b.toNat ≤ 0xdf then 2
    else if 0xe0 ≤ b.toNat ∧ b.toNat ≤ 0xef then 3
    else if 0xf0 ≤ b.toNat ∧ b.toNat ≤ 0xf4 then 4 else 0 := by
  rw [← charWidth_ofNat b.toNat_lt, UInt8.ofNat_toNat]

/-- A sequence of several bytes is read as no ASCII character. -/
lemma le_of_readTail {width value : Nat} {first b : UInt8} {rest : List UInt8}
    (hwidth : charWidth first = width + 2) (hsecond : secondByte first b = true)
    (h : (readTail (width + 1) (first.toNat % 2 ^ (5 - width)) (b :: rest)).1 = some value) :
    0x80 ≤ (Char.ofNat value).toNat := by
  obtain ⟨hb, hle, hlt⟩ := readTail_second h
  obtain ⟨he0, hed, hf0, hf4⟩ := secondByte_spec hsecond
  rw [charWidth_eq] at hwidth
  split_ifs at hwidth with h1 h2 h3 h4
  · omega
  · obtain rfl : width = 0 := by omega
    simp only [Nat.reduceSub, Nat.reducePow] at hle hlt
    rw [toNat_ofNat_of_valid (by omega)]
    omega
  · obtain rfl : width = 1 := by omega
    simp only [Nat.reduceSub, Nat.reducePow] at hle hlt
    rw [toNat_ofNat_of_valid (by omega)]
    omega
  · obtain rfl : width = 2 := by omega
    simp only [Nat.reduceSub, Nat.reducePow] at hle hlt
    rw [toNat_ofNat_of_valid (by omega)]
    omega

/-- What is read as the first character: an ASCII character is read from its own byte, any other one
from bytes that are no ASCII. -/
theorem readChar_spec (first : UInt8) (rest : List UInt8) :
    (first.toNat < 0x80 ∧ readChar first rest = (Char.ofNat first.toNat, rest)) ∨
      ∃ used, rest = used ++ (readChar first rest).2 ∧ (∀ b ∈ first :: used, 0x80 ≤ b.toNat) ∧
        0x80 ≤ (readChar first rest).1.toNat := by
  have hwidth := charWidth_eq first
  by_cases hascii : first.toNat < 0x80
  · rw [if_pos hascii] at hwidth
    refine .inl ⟨hascii, ?_⟩
    unfold readChar
    rw [hwidth]
  · refine .inr ?_
    rw [if_neg hascii] at hwidth
    have hfirst : 0x80 ≤ first.toNat := Nat.not_lt.mp hascii
    have hreplacement : ∃ used, rest = used ++ rest ∧ (∀ b ∈ first :: used, 0x80 ≤ b.toNat) ∧
        0x80 ≤ replacement.toNat :=
      ⟨[], rfl, by simpa using hfirst, by decide⟩
    unfold readChar
    rcases hcase : charWidth first with _ | _ | width
    · exact hreplacement
    · rw [hcase] at hwidth
      split_ifs at hwidth <;> omega
    · dsimp only
      by_cases hsecond : rest.head?.all (secondByte first) = true
      · rw [if_pos hsecond]
        obtain ⟨tail, hrest, htail, -⟩ :=
          readTail_spec (width + 1) (first.toNat % 2 ^ (5 - width)) rest
        have hused : ∀ b ∈ first :: tail, 0x80 ≤ b.toNat :=
          List.forall_mem_cons.mpr ⟨hfirst, htail⟩
        cases hread : readTail (width + 1) (first.toNat % 2 ^ (5 - width)) rest with
        | mk value rest' =>
          rw [hread] at hrest
          cases value with
          | none => exact ⟨tail, hrest, hused, show 0x80 ≤ replacement.toNat by decide⟩
          | some value =>
            cases rest with
            | nil => cases hread
            | cons b rest =>
              have hvalue := congrArg Prod.fst hread
              exact ⟨tail, hrest, hused, le_of_readTail hcase hsecond hvalue⟩
      · rw [if_neg hsecond]
        exact hreplacement

/-- The characters that are read from some bytes have the ASCII characters of the bytes, and no
others. -/
theorem mem_decodeLossy_iff {bytes : List UInt8} {n : Nat} (hn : n < 0x80) :
    Char.ofNat n ∈ decodeLossy bytes ↔ UInt8.ofNat n ∈ bytes := by
  suffices h : ∀ fuel, bytes.length ≤ fuel →
      (Char.ofNat n ∈ readChars fuel bytes ↔ UInt8.ofNat n ∈ bytes) from h _ (Nat.le_refl _)
  have hchar : (Char.ofNat n).toNat = n := toNat_ofNat_of_valid (by omega)
  have hbyte : (UInt8.ofNat n).toNat = n := ByteBits.toNat_ofNat (by omega)
  intro fuel
  induction fuel generalizing bytes with
  | zero =>
    intro hle
    rw [List.eq_nil_of_length_eq_zero (Nat.le_zero.mp hle)]
    exact iff_of_false List.not_mem_nil List.not_mem_nil
  | succ fuel ih =>
    intro hle
    cases bytes with
    | nil => exact iff_of_false List.not_mem_nil List.not_mem_nil
    | cons b rest =>
      rw [List.length_cons] at hle
      rw [readChars, List.mem_cons]
      rcases readChar_spec b rest with ⟨hascii, hread⟩ | ⟨used, hrest, hused, hread⟩
      · rw [hread, ih (Nat.le_of_succ_le_succ hle), List.mem_cons]
        have hhead : Char.ofNat n = Char.ofNat b.toNat ↔ UInt8.ofNat n = b := by
          rw [eq_ofNat_iff (by omega)]
          constructor
          · intro h
            rw [← hchar, h, toNat_ofNat_of_valid (by omega)]
          · rintro rfl
            rfl
        rw [hhead]
      · have hlength := congrArg List.length hrest
        rw [List.length_append] at hlength
        have hskip : UInt8.ofNat n ∉ b :: used := fun h => by
          have hge := hused _ h
          omega
        have hne : Char.ofNat n ≠ (readChar b rest).1 := fun h => by
          rw [← h] at hread
          omega
        rw [or_iff_right hne, ih (by omega)]
        nth_rewrite 2 [hrest]
        rw [← List.cons_append, List.mem_append, or_iff_right hskip]

end Utf8
