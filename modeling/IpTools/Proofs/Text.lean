import IpTools.Library.Delimited
import IpTools.Model.Text
import Mathlib.Data.List.TakeWhile

/-!
# What the text operations do

A text is split where its separator first or last stands, and an accepted IPv6 literal has its
colons and no character of an authority's own.
-/

namespace IpTools

lemma splitOnce_append {sep : Char} {a b : List Char} (h : sep ∉ a) :
    splitOnce sep (a ++ sep :: b) = some (a, b) := by
  have hpos : ∀ c ∈ a, decide (c ≠ sep) = true :=
    fun c hc => decide_eq_true (fun he => h (he ▸ hc))
  unfold splitOnce
  rw [if_pos (by simp), List.takeWhile_append_of_pos hpos, List.dropWhile_append_of_pos hpos]
  simp

lemma splitOnce_of_notMem {sep : Char} {s : List Char} (h : sep ∉ s) : splitOnce sep s = none :=
  if_neg h

lemma splitOnce_eq_some_iff {sep : Char} {s a b : List Char} :
    splitOnce sep s = some (a, b) ↔ s = a ++ sep :: b ∧ sep ∉ a := by
  constructor
  · intro h
    by_cases hmem : sep ∈ s
    · obtain ⟨u, v, rfl, hu⟩ := List.eq_append_cons_of_mem hmem
      rw [splitOnce_append hu, Option.some.injEq, Prod.mk.injEq] at h
      obtain ⟨rfl, rfl⟩ := h
      exact ⟨rfl, hu⟩
    · rw [splitOnce_of_notMem hmem] at h
      exact absurd h (by simp)
  · rintro ⟨rfl, ha⟩
    exact splitOnce_append ha

lemma rsplitOnce_append {sep : Char} {a b : List Char} (h : sep ∉ b) :
    rsplitOnce sep (a ++ sep :: b) = some (a, b) := by
  have hrev : (a ++ sep :: b).reverse = b.reverse ++ sep :: a.reverse := by simp
  unfold rsplitOnce
  rw [hrev, splitOnce_append (fun hm => h (List.mem_reverse.mp hm))]
  simp

lemma rsplitOnce_of_notMem {sep : Char} {s : List Char} (h : sep ∉ s) :
    rsplitOnce sep s = none := by
  unfold rsplitOnce
  rw [splitOnce_of_notMem (fun hm => h (List.mem_reverse.mp hm))]
  rfl

lemma rsplitOnce_eq_some_iff {sep : Char} {s a b : List Char} :
    rsplitOnce sep s = some (a, b) ↔ s = a ++ sep :: b ∧ sep ∉ b := by
  constructor
  · intro h
    unfold rsplitOnce at h
    obtain ⟨⟨u, v⟩, hsplit, hparts⟩ := Option.map_eq_some_iff.mp h
    rw [Prod.mk.injEq] at hparts
    obtain ⟨rfl, rfl⟩ := hparts
    obtain ⟨hs, hu⟩ := splitOnce_eq_some_iff.mp hsplit
    refine ⟨?_, fun hm => hu (List.mem_reverse.mp hm)⟩
    rw [← List.reverse_reverse s, hs]
    simp
  · rintro ⟨rfl, hb⟩
    exact rsplitOnce_append hb

/-- The part before the last separator holds all the others. -/
lemma rsplitOnce_of_mem {sep : Char} {s : List Char} (h : sep ∈ s) :
    ∃ a b, rsplitOnce sep s = some (a, b) ∧ sep ∉ b ∧ s = a ++ sep :: b := by
  obtain ⟨u, v, huv, hu⟩ := List.eq_append_cons_of_mem (List.mem_reverse.mpr h)
  have hs : s = v.reverse ++ sep :: u.reverse := by
    rw [← List.reverse_reverse s, huv]
    simp
  have hmem : sep ∉ u.reverse := fun hm => hu (List.mem_reverse.mp hm)
  exact ⟨v.reverse, u.reverse, by rw [hs, rsplitOnce_append hmem], hmem, hs⟩

lemma dropWhile_of_head? {p : Char → Bool} {s : List Char} (h : ∀ c ∈ s.head?, p c = false) :
    s.dropWhile p = s := by
  cases s with
  | nil => rfl
  | cons c s => exact List.dropWhile_cons_of_neg (by simp [h c rfl])

lemma dropWhile_of_all {p : Char → Bool} {s : List Char} (h : ∀ c ∈ s, p c = false) :
    s.dropWhile p = s :=
  dropWhile_of_head? (fun c hc => h c (List.mem_of_mem_head? hc))

lemma dropWhileEnd_of_all {p : Char → Bool} {s : List Char} (h : ∀ c ∈ s, p c = false) :
    dropWhileEnd p s = s := by
  unfold dropWhileEnd
  rw [dropWhile_of_all (fun c hc => h c (List.mem_reverse.mp hc)), List.reverse_reverse]

lemma trim_of_all {s : List Char} (h : ∀ c ∈ s, isWhitespace c = false) : trim s = s := by
  unfold trim
  rw [dropWhile_of_all h, dropWhileEnd_of_all h]

/-- A text without whitespace at its ends. -/
structure Trimmed (s : List Char) : Prop where
  start : ∀ c ∈ s.head?, isWhitespace c = false
  ending : ∀ c ∈ s.getLast?, isWhitespace c = false

lemma head?_dropWhile {p : Char → Bool} (s : List Char) :
    ∀ c ∈ (s.dropWhile p).head?, p c = false := by
  intro c hc
  have hhead := List.head?_dropWhile_not p s
  rw [Option.mem_def.mp hc] at hhead
  exact hhead

lemma trim_of_trimmed {s : List Char} (h : Trimmed s) : trim s = s := by
  unfold trim dropWhileEnd
  have hend : s.reverse.dropWhile isWhitespace = s.reverse :=
    dropWhile_of_head? (by rw [List.head?_reverse]; exact h.ending)
  rw [dropWhile_of_head? h.start, hend, List.reverse_reverse]

lemma trimmed_trim (s : List Char) : Trimmed (trim s) := by
  unfold trim dropWhileEnd
  constructor
  · intro c hc
    -- what is left at the end is a prefix of what is left at the start
    have hprefix : ((s.dropWhile isWhitespace).reverse.dropWhile isWhitespace).reverse <+:
        s.dropWhile isWhitespace := by
      rw [← List.reverse_suffix, List.reverse_reverse]
      exact List.dropWhile_suffix _
    obtain ⟨rest, hrest⟩ := hprefix
    apply head?_dropWhile s c
    rw [← hrest, List.head?_append, Option.mem_def.mp hc]
    rfl
  · intro c hc
    rw [List.getLast?_reverse] at hc
    exact head?_dropWhile _ c hc

/-- The whitespace after a separator is all that is trimmed behind a text that starts with none. -/
lemma trim_append_cons {s t : List Char} {sep : Char} (hne : s ≠ [])
    (hs : ∀ c ∈ s.head?, isWhitespace c = false) (hsep : isWhitespace sep = false) :
    trim (s ++ sep :: t) = s ++ sep :: dropWhileEnd isWhitespace t := by
  obtain ⟨c, s, rfl⟩ := List.exists_cons_of_ne_nil hne
  have hstart : ((c :: s) ++ sep :: t).dropWhile isWhitespace = (c :: s) ++ sep :: t :=
    dropWhile_of_head? hs
  have hrest : (sep :: (c :: s).reverse).dropWhile isWhitespace = sep :: (c :: s).reverse :=
    dropWhile_of_head? (by rintro e ⟨⟩; exact hsep)
  have hreverse : ((c :: s) ++ sep :: t).reverse = t.reverse ++ sep :: (c :: s).reverse := by simp
  unfold trim dropWhileEnd
  rw [hstart, hreverse, List.dropWhile_append, hrest]
  split
  · rename_i hnone
    rw [List.isEmpty_iff.mp hnone]
    simp
  · simp

lemma stripStart_singleton (c : Char) (s : List Char) : stripStart [c] (c :: s) = some s := by
  simp [stripStart]

lemma stripStart_of_head_ne {c : Char} {s : List Char} (h : s.head? ≠ some c) :
    stripStart [c] s = none := by
  cases s with
  | nil => rfl
  | cons d s =>
    have hne : c ≠ d := fun he => h (by rw [he]; rfl)
    simp [stripStart, hne]

lemma stripStart_eq_some {start s rest : List Char} (h : stripStart start s = some rest) :
    s = start ++ rest := by
  unfold stripStart at h
  split at h
  · rename_i hp
    obtain ⟨t, rfl⟩ := List.isPrefixOf_iff_prefix.mp hp
    simp only [List.drop_left, Option.some.injEq] at h
    rw [h]
  · exact absurd h (by simp)

lemma stripStart_of_notMem {start s : List Char} {c : Char} (hstart : c ∈ start) (hs : c ∉ s) :
    stripStart start s = none := by
  rw [Option.eq_none_iff_forall_ne_some]
  intro rest hrest
  exact hs (stripStart_eq_some hrest ▸ List.mem_append_left rest hstart)

lemma isDigit_of_mem_toDigits {c : Char} {n : Nat} (h : c ∈ Nat.toDigits 10 n) :
    c.isDigit = true := Nat.isDigit_of_mem_toDigits (by decide) (by decide) h

lemma parseU16_toDigits (n : UInt16) : parseU16 (Nat.toDigits 10 n.toNat) = some n := by
  have hplus : ∀ rest, Nat.toDigits 10 n.toNat ≠ '+' :: rest := by
    intro rest he
    have hd : ('+').isDigit = true := isDigit_of_mem_toDigits (n := n.toNat) (by rw [he]; simp)
    exact absurd hd (by decide)
  have hall : (Nat.toDigits 10 n.toNat).all Char.isDigit = true :=
    List.all_eq_true.mpr (fun c hc => isDigit_of_mem_toDigits hc)
  have hlt : n.toNat < 2 ^ 16 := n.toNat_lt
  unfold parseU16
  split
  · rename_i rest he
    exact absurd he (hplus rest)
  · simpa [hall] using hlt

/-- Decimal digits of a number in the range of ports. -/
def IsPortNumber (digits : List Char) : Prop :=
  digits ≠ [] ∧ digits.all Char.isDigit = true ∧ Nat.ofDigitChars 10 digits 0 < 2 ^ 16

/-- A port is written in digits, perhaps after a plus sign. -/
lemma parseU16_eq_some_iff {s : List Char} {n : UInt16} :
    parseU16 s = some n ↔ ∃ digits, (s = digits ∨ s = '+' :: digits) ∧ IsPortNumber digits ∧
      UInt16.ofNat (Nat.ofDigitChars 10 digits 0) = n := by
  have hread : ∀ digits, (if digits = [] ∨ (!digits.all Char.isDigit) = true then none
      else
        if Nat.ofDigitChars 10 digits 0 < 2 ^ 16 then
          some (UInt16.ofNat (Nat.ofDigitChars 10 digits 0))
        else none) = some n ↔
      IsPortNumber digits ∧ UInt16.ofNat (Nat.ofDigitChars 10 digits 0) = n := by
    intro digits
    unfold IsPortNumber
    rw [Option.ite_none_left_eq_some, Option.ite_none_right_eq_some, Option.some.injEq, not_or,
      Bool.not_eq_true', Bool.not_eq_false]
    tauto
  have hplus : ∀ digits, ¬IsPortNumber ('+' :: digits) := by
    rintro digits ⟨-, hall, -⟩
    exact absurd (List.all_eq_true.mp hall '+' List.mem_cons_self) (by decide)
  unfold parseU16
  cases s with
  | nil => exact (hread []).trans (by simp)
  | cons c rest =>
    dsimp only
    split
    · rename_i rest' heq
      obtain ⟨rfl, rfl⟩ := List.cons.inj heq
      rw [hread]
      constructor
      · exact fun h => ⟨_, .inr rfl, h⟩
      · rintro ⟨digits, rfl | hs, h⟩
        · exact absurd h.1 (hplus _)
        · rw [(List.cons.inj hs).2]
          exact h
    · rename_i hne
      rw [hread]
      constructor
      · exact fun h => ⟨_, .inl rfl, h⟩
      · rintro ⟨digits, rfl | hs, h⟩
        · exact h
        · exact absurd hs (hne digits)

lemma parseU16_chars {s : List Char} {n : UInt16} (h : parseU16 s = some n) :
    ∀ c ∈ s, c = '+' ∨ c.isDigit = true := by
  obtain ⟨digits, hs, ⟨-, hall, -⟩, -⟩ := parseU16_eq_some_iff.mp h
  have hdigits : ∀ c ∈ digits, c.isDigit = true := List.all_eq_true.mp hall
  rcases hs with rfl | rfl
  · exact fun c hc => .inr (hdigits c hc)
  · exact List.forall_mem_cons.mpr ⟨.inl rfl, fun c hc => .inr (hdigits c hc)⟩

lemma foldl_digits (s : List Char) (n : Nat) (hs : s.all Char.isDigit = true) :
    s.foldl (fun (acc : Int) c => acc * 10 + (c.toNat - '0'.toNat)) n =
      Nat.ofDigitChars 10 s n := by
  induction s generalizing n with
  | nil => rfl
  | cons c s ih =>
    rw [List.all_cons, Bool.and_eq_true] at hs
    have hc : '0'.toNat ≤ c.toNat := by
      have hdigit := hs.1
      simp only [Char.isDigit, Bool.and_eq_true, decide_eq_true_eq] at hdigit
      exact hdigit.1
    have hstep : (n : Int) * 10 + (c.toNat - '0'.toNat) =
        ((10 * n + (c.toNat - '0'.toNat) : Nat) : Int) := by omega
    rw [List.foldl_cons, hstep, ih _ hs.2, Nat.ofDigitChars_cons]

/-- A numeral of digits is read as the number it writes. -/
lemma parseI64_of_digits {s : List Char} (hne : s ≠ []) (hs : s.all Char.isDigit = true)
    (hlt : Nat.ofDigitChars 10 s 0 < 2 ^ 63) :
    parseI64 s = some (Nat.ofDigitChars 10 s 0 : Int) := by
  have hsign : ∀ c rest, s = c :: rest → c ≠ '-' ∧ c ≠ '+' := by
    intro c rest he
    have hc : c.isDigit = true := List.all_eq_true.mp hs c (by simp [he])
    constructor <;> rintro rfl <;> exact absurd hc (by decide)
  have hfold := foldl_digits s 0 hs
  unfold parseI64
  split
  next negative digits heq =>
    have hbare : negative = false ∧ digits = s := by
      split at heq
      · exact absurd rfl (hsign _ _ rfl).1
      · exact absurd rfl (hsign _ _ rfl).2
      · simpa [eq_comm] using heq
    obtain ⟨rfl, rfl⟩ := hbare
    rw [if_neg (by simpa [hs] using hne)]
    dsimp only
    have hvalue : (if false = true then -digits.foldl (fun (acc : Int) c =>
        acc * 10 + (c.toNat - '0'.toNat)) 0 else digits.foldl (fun (acc : Int) c =>
        acc * 10 + (c.toNat - '0'.toNat)) 0) = Nat.ofDigitChars 10 digits 0 := hfold
    rw [hvalue, if_pos (by omega)]

/-- Characters of one byte are split off by their number. -/
lemma splitAtByte_append {a b : List Char} (ha : ∀ c ∈ a, c.utf8Size = 1) :
    splitAtByte (a ++ b) a.length = some (a, b) := by
  induction a with
  | nil => cases b <;> rfl
  | cons c a ih =>
    have hc : c.utf8Size = 1 := ha c (by simp)
    have hrest := ih (fun c' h => ha c' (by simp [h]))
    rw [List.cons_append, splitAtByte, if_neg (by simp), hc, if_pos (by simp), List.length_cons,
      Nat.add_sub_cancel, hrest]
    rfl

lemma getBytes_append {s a b c : List Char} (heq : s = a ++ (b ++ c))
    (hs : ∀ x ∈ a ++ b, x.utf8Size = 1) {m n : Nat} (hm : a.length = m)
    (hn : (a ++ b).length = n) : getBytes m n s = some b := by
  subst heq
  rw [List.length_append] at hn
  unfold getBytes
  rw [← hm, splitAtByte_append (fun x hx => hs x (by simp [hx])), Option.bind_some, ← hn,
    Nat.add_sub_cancel_left, splitAtByte_append (fun x hx => hs x (by simp [hx]))]
  rfl

lemma utf8Size_of_isDigit {c : Char} (h : c.isDigit = true) : c.utf8Size = 1 := by
  have hle : c.val ≤ 57 := by
    simp only [Char.isDigit, Bool.and_eq_true, decide_eq_true_eq] at h
    exact h.2
  unfold Char.utf8Size
  rw [if_pos (UInt32.le_trans hle (by decide))]

/-- The characters that a literal address is written with. -/
def isAddrChar (c : Char) : Bool := (toDigit 16 c).isSome || c = ':' || c = '.'

lemma isAddrChar_of_toDigit {radix : Nat} (hr : radix ≤ 16) {c : Char}
    (h : (toDigit radix c).isSome = true) : isAddrChar c = true := by
  have hsome : (toDigit 16 c).isSome = true := by
    unfold toDigit at h ⊢
    obtain ⟨d, hd⟩ := Option.isSome_iff_exists.mp h
    obtain ⟨hd, hlt⟩ := Option.filter_eq_some_iff.mp hd
    rw [hd]
    simp only [decide_eq_true_eq] at hlt
    simp [show d < 16 by omega]
  simp [isAddrChar, hsome]

/-- What a reader took from its input: address characters, with at least so many colons. -/
def Took (colons : Nat) (s rest : List Char) : Prop :=
  ∃ used, s = used ++ rest ∧ (∀ c ∈ used, isAddrChar c = true) ∧ colons ≤ used.count ':'

lemma Took.refl (s : List Char) : Took 0 s s := ⟨[], rfl, by simp, by simp⟩

lemma Took.trans {m n : Nat} {s t u : List Char} (h : Took m s t) (h' : Took n t u) :
    Took (m + n) s u := by
  obtain ⟨a, rfl, ha, hm⟩ := h
  obtain ⟨b, rfl, hb, hn⟩ := h'
  refine ⟨a ++ b, (List.append_assoc a b u).symm, fun c hc => ?_, ?_⟩
  · exact (List.mem_append.mp hc).elim (ha c) (hb c)
  · rw [List.count_append]
    omega

lemma Took.mono {m n : Nat} {s t : List Char} (h : Took m s t) (hn : n ≤ m) : Took n s t := by
  obtain ⟨used, hs, hc, hm⟩ := h
  exact ⟨used, hs, hc, hn.trans hm⟩

lemma readGivenChar_took {target : Char} (ht : isAddrChar target = true) {s rest : List Char}
    (h : readGivenChar target s = some ((), rest)) :
    Took (if target = ':' then 1 else 0) s rest := by
  unfold readGivenChar at h
  split at h
  · rename_i c tail
    split at h
    · rename_i hc
      simp only [Option.some.injEq, Prod.mk.injEq, true_and] at h
      refine ⟨[c], by rw [h]; rfl, fun x hx => ?_, ?_⟩
      · rw [List.mem_singleton] at hx
        rw [hx, hc, ht]
      · rw [hc]
        split <;> simp_all
    · exact absurd h (by simp)
  · exact absurd h (by simp)

lemma readNumber_took {radix maxDigits bound : Nat} {zero : Bool} (hr : radix ≤ 16)
    {s rest : List Char} {n : Nat} (h : readNumber radix maxDigits bound zero s = some (n, rest)) :
    Took 0 s rest := by
  let digit : Char → Bool := fun c => (toDigit radix c).isSome
  have hsplit : s.takeWhile digit ++ s.dropWhile digit = s := List.takeWhile_append_dropWhile
  have hdrop : (s.takeWhile digit ++ s.dropWhile digit).drop (s.takeWhile digit).length =
      s.dropWhile digit := List.drop_left
  rw [hsplit] at hdrop
  have hrest : s.drop (s.takeWhile digit).length = rest := by
    unfold readNumber at h
    dsimp only at h
    split at h
    · exact absurd h (by simp)
    · split at h
      · exact absurd h (by simp)
      · split at h
        · exact absurd h (by simp)
        · split at h
          · simp only [Option.some.injEq, Prod.mk.injEq] at h
            exact h.2
          · exact absurd h (by simp)
  refine ⟨s.takeWhile digit, ?_, fun c hc => ?_, Nat.zero_le _⟩
  · rw [← hrest, hdrop, hsplit]
  · exact isAddrChar_of_toDigit hr (List.mem_takeWhile_imp (p := digit) hc)

lemma readSeparator_took {α : Type} {sep : Char} (hsep : isAddrChar sep = true) {index k : Nat}
    {inner : Reader α} (hinner : ∀ s a rest, inner s = some (a, rest) → Took k s rest)
    {s rest : List Char} {a : α} (h : readSeparator sep index inner s = some (a, rest)) :
    Took ((if 0 < index ∧ sep = ':' then 1 else 0) + k) s rest := by
  unfold readSeparator at h
  split at h
  · rename_i hi
    obtain ⟨⟨⟨⟩, t⟩, hchar, hrest⟩ := Option.bind_eq_some_iff.mp h
    have hi' : 0 < index := hi
    simpa [hi'] using (readGivenChar_took hsep hchar).trans (hinner t a rest hrest)
  · rename_i hi
    have hi' : ¬0 < index := hi
    simpa [hi'] using hinner s a rest h

lemma readIpv4Addr_took {s rest : List Char} {ip : Ipv4Addr}
    (h : readIpv4Addr s = some (ip, rest)) : Took 0 s rest := by
  have hnum : ∀ s n rest, readNumber 10 3 256 false s = some (n, rest) → Took 0 s rest :=
    fun s n rest => readNumber_took (by decide)
  have hdot : isAddrChar '.' = true := by decide
  unfold readIpv4Addr at h
  simp only [Option.bind_eq_bind, Option.bind_eq_some_iff, Prod.exists] at h
  obtain ⟨a, t, ha, b, u, hb, c, v, hc, d, w, hd, he⟩ := h
  simp only [Option.pure_def, Option.some.injEq, Prod.mk.injEq] at he
  rw [← he.2]
  have hall := (((readSeparator_took hdot hnum ha).trans (readSeparator_took hdot hnum hb)).trans
    (readSeparator_took hdot hnum hc)).trans (readSeparator_took hdot hnum hd)
  exact hall.mono (Nat.zero_le _)

/-- Every group but the first follows a colon; an embedded IPv4 address counts for two groups. -/
lemma readGroups_took (limit : Nat) {remaining i : Nat} {s rest : List Char} {groups : List Nat}
    {ipv4 : Bool} (h : readGroups limit remaining i s = ((groups, ipv4), rest)) :
    Took (groups.length - (if i = 0 then 2 else 1)) s rest := by
  have hcolon : isAddrChar ':' = true := by decide
  induction remaining generalizing i s groups ipv4 rest with
  | zero =>
    simp only [readGroups, Prod.mk.injEq] at h
    rw [← h.1.1, ← h.2]
    exact (Took.refl s).mono (by simp)
  | succ remaining ih =>
    rw [readGroups] at h
    dsimp only at h
    split at h
    · rename_i ip t he
      have hread : readSeparator ':' i readIpv4Addr s = some (ip, t) := by
        by_cases hi : i < limit - 1
        · rwa [if_pos hi] at he
        · rw [if_neg hi] at he
          exact absurd he (by simp)
      simp only [Prod.mk.injEq] at h
      rw [← h.1.1, ← h.2]
      refine (readSeparator_took hcolon (fun _ _ _ => readIpv4Addr_took) hread).mono ?_
      by_cases hi : i = 0
      · simp [hi]
      · simp [hi, Nat.pos_of_ne_zero hi]
    · split at h
      · rename_i group t hread
        rcases hrec : readGroups limit remaining (i + 1) t with ⟨⟨groups', ipv4'⟩, rest'⟩
        simp only [hrec, Prod.mk.injEq] at h
        rw [← h.1.1, ← h.2]
        have hnum : ∀ s n rest, readNumber 16 4 65536 true s = some (n, rest) → Took 0 s rest :=
          fun s n rest => readNumber_took (by decide)
        refine ((readSeparator_took hcolon hnum hread).trans (ih hrec)).mono ?_
        by_cases hi : i = 0
        · simp [hi]
        · simp [hi, Nat.pos_of_ne_zero hi]
          omega
      · simp only [Prod.mk.injEq] at h
        rw [← h.1.1, ← h.2]
        exact (Took.refl s).mono (by simp)

lemma readIpv6Addr_took {s rest : List Char} {ip : Ipv6Addr}
    (h : readIpv6Addr s = some (ip, rest)) : Took 2 s rest := by
  have hcolon : isAddrChar ':' = true := by decide
  rcases hhead : readGroups 8 8 0 s with ⟨⟨head, headIpv4⟩, t⟩
  have htook := readGroups_took 8 hhead
  simp only [readIpv6Addr, hhead] at h
  split at h
  · rename_i hlen
    simp only [Option.pure_def, Option.some.injEq, Prod.mk.injEq] at h
    rw [← h.2]
    exact htook.mono (by simp [hlen])
  · split at h
    · exact absurd h (by simp)
    · simp only [Option.bind_eq_bind, Option.bind_eq_some_iff, Prod.exists] at h
      obtain ⟨⟨⟩, u, hu, ⟨⟩, v, hv, hrest⟩ := h
      rcases htail : readGroups (8 - (head.length + 1)) (8 - (head.length + 1)) 0 v with
        ⟨⟨tail, tailIpv4⟩, w⟩
      simp only [htail, Option.pure_def, Option.some.injEq, Prod.mk.injEq] at hrest
      rw [← hrest.2]
      have hcolons := (readGivenChar_took hcolon hu).trans (readGivenChar_took hcolon hv)
      exact ((htook.trans hcolons).trans (readGroups_took _ htail)).mono (by simp; omega)

/-- An IPv6 literal has two colons, and only address characters. -/
theorem parseIpAddr_v6 {s : List Char} {ip : Ipv6Addr} (h : parseIpAddr s = some (.v6 ip)) :
    (∀ c ∈ s, isAddrChar c = true) ∧ 2 ≤ s.count ':' := by
  unfold parseIpAddr at h
  split at h
  · rename_i ip' hread
    rw [Option.some.injEq] at h
    rw [h] at hread
    unfold readIpAddr at hread
    split at hread
    · simp at hread
    · obtain ⟨⟨a, rest⟩, ha, he⟩ := Option.map_eq_some_iff.mp hread
      simp only [Prod.mk.injEq] at he
      obtain ⟨used, hs, hused, hcount⟩ := readIpv6Addr_took ha
      rw [he.2, List.append_nil] at hs
      rw [hs]
      exact ⟨hused, hcount⟩
  · exact absurd h (by simp)

end IpTools
