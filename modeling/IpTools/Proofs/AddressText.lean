import IpTools.Cli.Inputs
import IpTools.Library.CharClass
import IpTools.Library.Numerals
import IpTools.Proofs.Authority

/-!
# The text of addresses

An address is read back from the text it displays as: an IPv4 address from its octets, an IPv6
address from its groups, whichever run of zeros is left out and whether or not its last four octets
are written as an IPv4 address.
-/

namespace IpTools

lemma toDigit_digitChar {radix d : Nat} (hradix : radix ≤ 16) (hd : d < radix) :
    toDigit radix (Nat.digitChar d) = some d := by
  have hall : ∀ radix < 17, ∀ d < radix, toDigit radix (Nat.digitChar d) = some d := by
    decide +kernel
  exact hall radix (Nat.lt_succ_of_le hradix) d hd

/-- No digit of a radix comes first. -/
def Stops (radix : Nat) (s : List Char) : Prop := ∀ c ∈ s.head?, toDigit radix c = none

lemma takeWhile_of_stops {radix : Nat} {s : List Char} (h : Stops radix s) :
    s.takeWhile (fun c => (toDigit radix c).isSome) = [] := by
  cases s with
  | nil => rfl
  | cons c s =>
    rw [List.takeWhile_cons_of_neg]
    rw [h c rfl]
    exact Bool.false_ne_true

lemma dropWhile_of_stops {radix : Nat} {s : List Char} (h : Stops radix s) :
    s.dropWhile (fun c => (toDigit radix c).isSome) = s := by
  have hsplit := List.takeWhile_append_dropWhile (p := fun c => (toDigit radix c).isSome) (l := s)
  rwa [takeWhile_of_stops h, List.nil_append] at hsplit

/-- A numeral is read up to where it stops. -/
lemma readNumber_toDigits {radix maxDigits bound n : Nat} {zero : Bool} (hradix : 1 < radix)
    (hle : radix ≤ 16) (hn : n < bound) (hlength : (Nat.toDigits radix n).length ≤ maxDigits)
    {rest : List Char} (hrest : Stops radix rest) :
    readNumber radix maxDigits bound zero (Nat.toDigits radix n ++ rest) = some (n, rest) := by
  have hdigits : ∀ c ∈ Nat.toDigits radix n, (toDigit radix c).isSome = true :=
    CharClass.all_toDigits hradix (fun d hd => by rw [toDigit_digitChar hle hd]; rfl) n
  have htake : (Nat.toDigits radix n ++ rest).takeWhile (fun c => (toDigit radix c).isSome) =
      Nat.toDigits radix n := by
    rw [List.takeWhile_append_of_pos hdigits, takeWhile_of_stops hrest, List.append_nil]
  have hvalue : (Nat.toDigits radix n).foldl
      (fun acc c => acc * radix + (toDigit radix c).getD 0) 0 = n :=
    Numerals.foldl_toDigits hradix (fun d hd => by rw [toDigit_digitChar hle hd]; rfl) n
  have hpos : (Nat.toDigits radix n).length ≠ 0 := Nat.ne_of_gt Nat.length_toDigits_pos
  have hzero : ((Nat.toDigits radix n).head? == some '0' &&
      decide ((Nat.toDigits radix n).length > 1)) = false := by
    rcases Nat.eq_zero_or_pos n with rfl | hn
    · rw [Nat.toDigits_zero]
      rfl
    · obtain ⟨d, hd, hlt, hhead⟩ := Numerals.head_toDigits hradix hn
      have hdigit : ∀ d < 16, 0 < d → (some (Nat.digitChar d) == some '0') = false := by decide
      rw [hhead, hdigit d (Nat.lt_of_lt_of_le hlt hle) hd, Bool.false_and]
  unfold readNumber
  dsimp only
  rw [htake, hvalue, if_neg (Nat.not_lt.mpr hlength), if_neg hpos, Bool.and_assoc, hzero,
    Bool.and_false, if_neg Bool.false_ne_true, if_pos hn, List.drop_left]

lemma readNumber_of_stops {radix maxDigits bound : Nat} {zero : Bool} {s : List Char}
    (h : Stops radix s) : readNumber radix maxDigits bound zero s = none := by
  unfold readNumber
  dsimp only
  rw [takeWhile_of_stops h]
  rfl

lemma readNumber_rest {radix maxDigits bound n : Nat} {zero : Bool} {s rest : List Char}
    (h : readNumber radix maxDigits bound zero s = some (n, rest)) :
    rest = s.dropWhile (fun c => (toDigit radix c).isSome) := by
  have hsplit := List.takeWhile_append_dropWhile (p := fun c => (toDigit radix c).isSome) (l := s)
  have hdrop := @List.drop_left _ (s.takeWhile (fun c => (toDigit radix c).isSome))
    (s.dropWhile (fun c => (toDigit radix c).isSome))
  rw [hsplit] at hdrop
  rw [← hdrop]
  unfold readNumber at h
  dsimp only at h
  split at h
  · cases h
  · split at h
    · cases h
    · split at h
      · cases h
      · split at h
        · cases h
          rfl
        · cases h

/-! ### IPv4 -/

lemma Ipv4Addr.exists_new (ip : Ipv4Addr) : ∃ a b c d, ip = .new a b c d := by
  refine ⟨ip.octets[0], ip.octets[1], ip.octets[2], ip.octets[3], ?_⟩
  obtain ⟨octets⟩ := ip
  refine congrArg Ipv4Addr.mk (Vector.ext (fun i hi => ?_))
  obtain rfl | rfl | rfl | rfl : i = 0 ∨ i = 1 ∨ i = 2 ∨ i = 3 := by omega
  all_goals rfl

lemma toList_ipv4 (a b c d : UInt8) :
    (toString (Ipv4Addr.new a b c d)).toList =
      Nat.toDigits 10 a.toNat ++ '.' :: (Nat.toDigits 10 b.toNat ++ '.' ::
        (Nat.toDigits 10 c.toNat ++ '.' :: Nat.toDigits 10 d.toNat)) := by
  have htext : toString (Ipv4Addr.new a b c d) = ".".intercalate
      [toString a.toNat, toString b.toNat, toString c.toNat, toString d.toNat] := rfl
  have hdot : ".".toList = ['.'] := rfl
  simp only [htext, String.intercalate_cons_cons, String.intercalate_singleton,
    String.toList_append, hdot, Nat.toString_eq_ofList_toDigits, String.toList_ofList,
    List.append_assoc, List.singleton_append]

lemma readOctet (o : UInt8) {rest : List Char} (h : Stops 10 rest) :
    readNumber 10 3 256 false (Nat.toDigits 10 o.toNat ++ rest) = some (o.toNat, rest) :=
  readNumber_toDigits (by decide) (by decide) o.toNat_lt
    ((Nat.length_toDigits_le_iff (by decide) (by decide)).mpr (by have := o.toNat_lt; omega)) h

lemma stops_dot (s : List Char) : Stops 10 ('.' :: s) := by
  intro c hc
  rw [← Option.some.inj hc]
  decide

lemma readGivenChar_cons (c : Char) (s : List Char) :
    readGivenChar c (c :: s) = some ((), s) := if_pos rfl

lemma readSeparator_cons {α : Type} (sep : Char) {i : Nat} (hi : 0 < i) (inner : Reader α)
    (s : List Char) : readSeparator sep i inner (sep :: s) = inner s := by
  unfold readSeparator
  rw [if_pos hi, readGivenChar_cons]
  rfl

lemma readIpv4Addr_toString (ip : Ipv4Addr) {rest : List Char} (h : Stops 10 rest) :
    readIpv4Addr ((toString ip).toList ++ rest) = some (ip, rest) := by
  obtain ⟨a, b, c, d, rfl⟩ := ip.exists_new
  have hfirst : ∀ s, readSeparator '.' 0 (readNumber 10 3 256 false) s =
      readNumber 10 3 256 false s := fun s => rfl
  unfold readIpv4Addr
  rw [toList_ipv4]
  simp only [List.append_assoc, List.cons_append, hfirst, readOctet _ (stops_dot _),
    readSeparator_cons '.' (Nat.zero_lt_succ _), readOctet _ h, Option.bind_eq_bind,
    Option.bind_some, Option.pure_def, Nat.toUInt8_eq, UInt8.ofNat_toNat]
  rfl

lemma Stops.ten {s : List Char} (h : Stops 16 s) : Stops 10 s := by
  intro c hc
  have hnone := Option.filter_eq_none_iff.mp (h c hc)
  refine Option.filter_eq_none_iff.mpr (fun d hd hlt => hnone d hd ?_)
  exact decide_eq_true (Nat.lt_trans (of_decide_eq_true hlt) (by decide))

/-- Hexadecimal digits that no dot follows are no start of an IPv4 address. -/
lemma readIpv4Addr_of_hex {h rest : List Char} (hh : ∀ c ∈ h, (toDigit 16 c).isSome = true)
    (hrest : Stops 16 rest) (hdot : rest.head? ≠ some '.') : readIpv4Addr (h ++ rest) = none := by
  have hfirst : readSeparator '.' 0 (readNumber 10 3 256 false) (h ++ rest) =
      readNumber 10 3 256 false (h ++ rest) := rfl
  unfold readIpv4Addr
  rw [hfirst]
  cases hread : readNumber 10 3 256 false (h ++ rest) with
  | none => rfl
  | some r =>
    obtain ⟨n, s⟩ := r
    have hs : s = h.dropWhile (fun c => (toDigit 10 c).isSome) ++ rest := by
      rw [readNumber_rest hread, List.dropWhile_append]
      split
      · rename_i hempty
        rw [dropWhile_of_stops hrest.ten, List.isEmpty_iff.mp hempty, List.nil_append]
      · rfl
    have hhead : s.head? ≠ some '.' := by
      intro hc
      rw [hs, List.head?_append] at hc
      rcases Option.or_eq_some_iff.mp hc with hc | ⟨-, hc⟩
      · have hmem := (List.dropWhile_sublist _).mem (List.mem_of_head? hc)
        exact absurd (hh '.' hmem) (by decide)
      · exact hdot hc
    have hgiven : readGivenChar '.' s = none := by
      cases s with
      | nil => rfl
      | cons c s => exact if_neg (fun hc => hhead (congrArg some hc))
    have hsecond : readSeparator '.' 1 (readNumber 10 3 256 false) s = none := by
      unfold readSeparator
      rw [if_pos (by decide), hgiven]
      rfl
    simp only [Option.bind_eq_bind, Option.bind_some, hsecond, Option.bind_none]

/-! ### IPv6 -/

/-- The text of groups from the `i`-th on; each but the first follows a colon. -/
def groupsText : Nat → List Nat → List Char
  | _, [] => []
  | i, g :: groups =>
    (if 0 < i then [':'] else []) ++ Nat.toDigits 16 g ++ groupsText (i + 1) groups

lemma groupsText_congr {i j : Nat} (hi : 0 < i) (hj : 0 < j) (groups : List Nat) :
    groupsText i groups = groupsText j groups := by
  induction groups generalizing i j with
  | nil => rfl
  | cons g groups ih =>
    rw [groupsText, groupsText, if_pos hi, if_pos hj, ih (Nat.succ_pos i) (Nat.succ_pos j)]

lemma toList_fmtSubslice (groups : List Nat) :
    (fmtSubslice groups).toList = groupsText 0 groups := by
  have hcolon : ":".toList = [':'] := rfl
  have htail : ∀ (i g : Nat) (groups : List Nat), 0 < i →
      groupsText i (g :: groups) = ':' :: (fmtSubslice (g :: groups)).toList := by
    intro i g groups
    induction groups generalizing i g with
    | nil =>
      intro hi
      simp [groupsText, hi, fmtSubslice]
    | cons g' groups ih =>
      intro hi
      have hrest := ih (i + 1) g' (Nat.succ_pos i)
      have hcons : fmtSubslice (g :: g' :: groups) =
          String.ofList (Nat.toDigits 16 g) ++ ":" ++ fmtSubslice (g' :: groups) := by
        unfold fmtSubslice
        rw [List.map_cons, List.map_cons, String.intercalate_cons_cons]
      rw [hcons, groupsText, if_pos hi, hrest]
      simp [hcolon]
  cases groups with
  | nil => rfl
  | cons g groups =>
    have h := htail 1 g groups Nat.one_pos
    unfold groupsText at h
    rw [if_pos Nat.one_pos, List.append_assoc, List.singleton_append] at h
    rw [← (List.cons.inj h).2, groupsText, if_neg (Nat.lt_irrefl 0), List.nil_append,
      groupsText_congr (Nat.succ_pos 0) (Nat.succ_pos 1)]

/-- What neither a group nor an IPv4 address can go on with. -/
def Closes (rest : List Char) : Prop :=
  ∀ c ∈ rest.head?, toDigit 16 c = none ∧ c ≠ '.' ∧ c ≠ ':'

lemma Closes.nil : Closes [] := fun _ h => by cases h

lemma Closes.stops {rest : List Char} (h : Closes rest) : Stops 16 rest := fun c hc => (h c hc).1

/-- What the groups can end at: what closes the address, or a colon that no group follows. -/
def EndsGroups (rest : List Char) : Prop :=
  Closes rest ∨ ∃ t, rest = ':' :: t ∧ Stops 16 t ∧ t.head? ≠ some '.'

lemma stops_colon (s : List Char) : Stops 16 (':' :: s) := by
  intro c hc
  rw [← Option.some.inj hc]
  decide

lemma EndsGroups.colon : EndsGroups [':'] :=
  .inr ⟨[], rfl, Closes.nil.stops, by simp⟩

lemma EndsGroups.colons (t : List Char) : EndsGroups (':' :: ':' :: t) :=
  .inr ⟨_, rfl, stops_colon t, by simp⟩

lemma EndsGroups.stops {rest : List Char} (h : EndsGroups rest) : Stops 16 rest := by
  obtain h | ⟨t, rfl, -⟩ := h
  · exact h.stops
  · exact stops_colon _

lemma EndsGroups.head_ne {rest : List Char} (h : EndsGroups rest) : rest.head? ≠ some '.' := by
  obtain h | ⟨t, rfl, -⟩ := h
  · exact fun hc => (h '.' hc).2.1 rfl
  · simp

lemma readIpv4Addr_of_stops {s : List Char} (h : Stops 16 s) (hdot : s.head? ≠ some '.') :
    readIpv4Addr s = none := by
  have hread := readIpv4Addr_of_hex (h := []) (by simp) h hdot
  rwa [List.nil_append] at hread

lemma EndsGroups.readSeparator {α : Type} {inner : Reader α} {rest : List Char}
    (h : EndsGroups rest) (hinner : ∀ s, Stops 16 s → s.head? ≠ some '.' → inner s = none)
    (i : Nat) : readSeparator ':' i inner rest = none := by
  rcases Nat.eq_zero_or_pos i with rfl | hi
  · exact hinner rest h.stops h.head_ne
  · obtain h | ⟨t, rfl, ht, hdot⟩ := h
    · have hgiven : readGivenChar ':' rest = none := by
        cases rest with
        | nil => rfl
        | cons c rest => exact if_neg (h c rfl).2.2
      unfold IpTools.readSeparator
      rw [if_pos hi, hgiven]
      rfl
    · rw [readSeparator_cons ':' hi, hinner t ht hdot]

lemma isSome_toDigit_of_mem {n : Nat} : ∀ c ∈ Nat.toDigits 16 n, (toDigit 16 c).isSome = true :=
  CharClass.all_toDigits (by decide)
    (fun d hd => by rw [toDigit_digitChar (Nat.le_refl 16) hd]; rfl) n

/-- After the separator that the place of a group asks for, its reader goes on. -/
lemma readSeparator_place {α : Type} (inner : Reader α) (i : Nat) (s : List Char) :
    readSeparator ':' i inner ((if 0 < i then [':'] else []) ++ s) = inner s := by
  rcases Nat.eq_zero_or_pos i with rfl | hi
  · rfl
  · rw [if_pos hi, List.singleton_append, readSeparator_cons ':' hi]

lemma length_toDigits_group {g : Nat} (hg : g < 65536) : (Nat.toDigits 16 g).length ≤ 4 :=
  (Nat.length_toDigits_le_iff (by decide) (by decide)).mpr hg

/-- One group is read as a group, and not as the start of an IPv4 address. -/
lemma readGroups_cons {limit remaining i g : Nat} (hg : g < 65536) {s : List Char}
    (hs : Stops 16 s) (hdot : s.head? ≠ some '.') :
    readGroups limit (remaining + 1) i
        ((if 0 < i then [':'] else []) ++ Nat.toDigits 16 g ++ s) =
      ((g :: (readGroups limit remaining (i + 1) s).1.1,
        (readGroups limit remaining (i + 1) s).1.2), (readGroups limit remaining (i + 1) s).2) := by
  have hipv4 : readSeparator ':' i readIpv4Addr
      ((if 0 < i then [':'] else []) ++ (Nat.toDigits 16 g ++ s)) = none := by
    rw [readSeparator_place, readIpv4Addr_of_hex isSome_toDigit_of_mem hs hdot]
  have hgroup : readSeparator ':' i (readNumber 16 4 65536 true)
      ((if 0 < i then [':'] else []) ++ (Nat.toDigits 16 g ++ s)) = some (g, s) := by
    rw [readSeparator_place, readNumber_toDigits (by decide) (by decide) hg
      (length_toDigits_group hg) hs]
  rw [readGroups, List.append_assoc, hipv4, ite_self]
  dsimp only
  rw [hgroup]

lemma readGroups_ends {limit remaining i : Nat} {rest : List Char} (h : EndsGroups rest) :
    readGroups limit remaining i rest = (([], false), rest) := by
  cases remaining with
  | zero => rfl
  | succ remaining =>
    have hipv4 : readSeparator ':' i readIpv4Addr rest = none :=
      h.readSeparator (fun _ => readIpv4Addr_of_stops) i
    have hgroup : readSeparator ':' i (readNumber 16 4 65536 true) rest = none :=
      h.readSeparator (fun _ hs _ => readNumber_of_stops hs) i
    rw [readGroups, hipv4, ite_self]
    dsimp only
    rw [hgroup]

lemma groupsText_head {i g : Nat} (hi : 0 < i) (groups : List Nat) (rest : List Char) :
    ∃ t, groupsText i (g :: groups) ++ rest = ':' :: t := by
  rw [groupsText, if_pos hi]
  exact ⟨_, rfl⟩

/-- The groups are read up to where they end. -/
lemma readGroups_text {limit remaining i : Nat} {groups : List Nat}
    (hlength : groups.length ≤ remaining) (hbound : ∀ g ∈ groups, g < 65536) {rest : List Char}
    (hrest : EndsGroups rest) :
    readGroups limit remaining i (groupsText i groups ++ rest) = ((groups, false), rest) := by
  induction groups generalizing remaining i with
  | nil => exact readGroups_ends hrest
  | cons g groups ih =>
    obtain ⟨remaining, rfl⟩ := Nat.exists_eq_add_of_le' (Nat.le_trans (by simp) hlength :
      1 ≤ remaining)
    have hnext : Stops 16 (groupsText (i + 1) groups ++ rest) ∧
        (groupsText (i + 1) groups ++ rest).head? ≠ some '.' := by
      cases groups with
      | nil => exact ⟨hrest.stops, hrest.head_ne⟩
      | cons g' groups =>
        obtain ⟨t, ht⟩ := groupsText_head (g := g') (Nat.succ_pos i) groups rest
        rw [ht]
        exact ⟨stops_colon t, by simp⟩
    have htail := @ih remaining (i + 1) (Nat.le_of_succ_le_succ hlength)
      (fun g' hg' => hbound g' (List.mem_cons_of_mem g hg'))
    rw [groupsText, List.append_assoc, readGroups_cons (hbound g List.mem_cons_self) hnext.1
      hnext.2, htail]

/-- A span of zeros among some segments. -/
def ZeroRun (segments : List Nat) (z : Span) : Prop :=
  z.start + z.len ≤ segments.length ∧
    ∀ j, z.start ≤ j → j < z.start + z.len → segments[j]? = some 0

lemma ZeroRun.concat {segments : List Nat} {z : Span} (h : ZeroRun segments z) (g : Nat) :
    ZeroRun (segments ++ [g]) z := by
  refine ⟨by rw [List.length_append]; exact Nat.le_add_right_of_le h.1, fun j hj hlt => ?_⟩
  rw [List.getElem?_append_left (Nat.lt_of_lt_of_le hlt h.1)]
  exact h.2 j hj hlt

/-- A run that reaches the end goes on with a zero. -/
lemma ZeroRun.extend {segments : List Nat} {z : Span} (h : ZeroRun segments z)
    (hend : z.len = 0 ∨ z.start + z.len = segments.length) :
    ZeroRun (segments ++ [0])
      ⟨if z.len = 0 then segments.length else z.start, z.len + 1⟩ := by
  have hstart : (if z.len = 0 then segments.length else z.start) + z.len = segments.length := by
    split
    · omega
    · exact hend.resolve_left (by assumption)
  constructor
  · rw [List.length_append, List.length_singleton]
    dsimp only
    omega
  · dsimp only
    intro j hj hlt
    by_cases hlast : j = segments.length
    · rw [hlast, List.getElem?_concat_length]
    · have hpos : z.len ≠ 0 := by
        intro hzero
        rw [if_pos hzero] at hj
        omega
      rw [if_neg hpos] at hj hlt hstart
      rw [List.getElem?_append_left (by omega)]
      exact h.2 j hj (by omega)

lemma zeroRun_longestZeros {rest : List Nat} {done : List Nat} {longest current : Span}
    (hlongest : ZeroRun done longest) (hcurrent : ZeroRun done current)
    (hend : current.len = 0 ∨ current.start + current.len = done.length) :
    ZeroRun (done ++ rest) (longestZeros done.length longest current rest) := by
  induction rest generalizing done longest current with
  | nil =>
    rw [List.append_nil]
    exact hlongest
  | cons g rest ih =>
    have hsplit : done ++ g :: rest = done ++ [g] ++ rest := by simp
    have hlength : done.length + 1 = (done ++ [g]).length := by simp
    rw [hsplit, longestZeros, hlength]
    by_cases hg : g = 0
    · have hnew := hcurrent.extend hend
      subst hg
      rw [if_pos rfl]
      dsimp only
      refine ih ?_ hnew (Or.inr ?_)
      · split
        · exact hnew
        · exact hlongest.concat 0
      · dsimp only
        rw [← hlength]
        split
        · omega
        · have := hend.resolve_left (by assumption)
          omega
    · rw [if_neg hg]
      exact ih (hlongest.concat g) ⟨Nat.zero_le _, fun j _ hlt => absurd hlt (by simp)⟩
        (Or.inl rfl)

/-- The segments around a run of zeros. -/
lemma ZeroRun.split {segments : List Nat} {z : Span} (h : ZeroRun segments z) :
    segments = segments.take z.start ++ List.replicate z.len 0 ++
      segments.drop (z.start + z.len) := by
  have hzeros : (segments.drop z.start).take z.len = List.replicate z.len 0 := by
    refine List.ext_getElem? (fun j => ?_)
    rw [List.getElem?_replicate]
    split
    · rename_i hlt
      rw [List.getElem?_take_of_lt hlt, List.getElem?_drop]
      exact h.2 _ (Nat.le_add_right _ _) (by omega)
    · rename_i hge
      rw [List.getElem?_take_eq_none (Nat.le_of_not_lt hge)]
  rw [← hzeros, ← List.drop_drop, List.append_assoc, List.take_append_drop, List.take_append_drop]

lemma segments_eq (ip : Ipv6Addr) : ip.segments = (List.range 8).map (fun i =>
    ip.octets[2 * i]!.toNat * 256 + ip.octets[2 * i + 1]!.toNat) := rfl

lemma length_segments (ip : Ipv6Addr) : ip.segments.length = 8 := by
  rw [segments_eq, List.length_map, List.length_range]

lemma segment_lt {ip : Ipv6Addr} {g : Nat} (hg : g ∈ ip.segments) : g < 65536 := by
  rw [segments_eq] at hg
  obtain ⟨i, -, rfl⟩ := List.mem_map.mp hg
  have hhigh := (ip.octets[2 * i]!).toNat_lt
  have hlow := (ip.octets[2 * i + 1]!).toNat_lt
  omega

lemma toUInt8_high (high low : UInt8) : ((high.toNat * 256 + low.toNat) / 256).toUInt8 = high := by
  have hlow := low.toNat_lt
  rw [show (high.toNat * 256 + low.toNat) / 256 = high.toNat by omega, Nat.toUInt8_eq,
    UInt8.ofNat_toNat]

lemma toUInt8_low (high low : UInt8) : ((high.toNat * 256 + low.toNat) % 256).toUInt8 = low := by
  have hlow := low.toNat_lt
  rw [show (high.toNat * 256 + low.toNat) % 256 = low.toNat by omega, Nat.toUInt8_eq,
    UInt8.ofNat_toNat]

/-- The segments determine the address. -/
lemma ofSegments_segments (ip : Ipv6Addr) : Ipv6Addr.ofSegments ip.segments = ip := by
  have hget : ∀ i < 8, ip.segments.getD i 0 =
      ip.octets[2 * i]!.toNat * 256 + ip.octets[2 * i + 1]!.toNat := by
    intro i hi
    rw [segments_eq, List.getD_eq_getElem?_getD, List.getElem?_map, List.getElem?_range hi]
    rfl
  obtain ⟨octets⟩ := ip
  refine congrArg Ipv6Addr.mk (Vector.ext (fun i hi => ?_))
  rw [Vector.getElem_ofFn]
  dsimp only
  rw [hget (i / 2) (by omega)]
  split
  · rename_i heven
    rw [toUInt8_high, show 2 * (i / 2) = i by omega, getElem!_pos octets i hi]
  · rename_i hodd
    rw [toUInt8_low, show 2 * (i / 2) + 1 = i by omega, getElem!_pos octets i hi]

/-- The text of an IPv6 address, by how it is written. -/
inductive Ipv6Text (ip : Ipv6Addr) : List Char → Prop
  | mapped {a b c d : UInt8} (h : ip.segments = [0, 0, 0, 0, 0, 0xffff] ++
      [a.toNat * 256 + b.toNat, c.toNat * 256 + d.toNat]) :
      Ipv6Text ip
        (':' :: ':' :: (Nat.toDigits 16 0xffff ++ ':' :: (toString (Ipv4Addr.new a b c d)).toList))
  | compressed {head tail : List Nat} {len : Nat} (hlen : 1 < len)
      (h : ip.segments = head ++ List.replicate len 0 ++ tail) :
      Ipv6Text ip (groupsText 0 head ++ ':' :: ':' :: groupsText 0 tail)
  | full : Ipv6Text ip (groupsText 0 ip.segments)

/-- The run of zeros that the text of an address leaves out where it is longer than one group. -/
def Ipv6Addr.zeroes (ip : Ipv6Addr) : Span := longestZeros 0 ⟨0, 0⟩ ⟨0, 0⟩ ip.segments

lemma zeroRun_zeroes (ip : Ipv6Addr) : ZeroRun ip.segments ip.zeroes := by
  have hempty : ZeroRun [] ⟨0, 0⟩ := ⟨Nat.le_refl 0, fun j _ hlt => absurd hlt (by simp)⟩
  have hall := @zeroRun_longestZeros ip.segments [] ⟨0, 0⟩ ⟨0, 0⟩ hempty hempty (Or.inl rfl)
  rwa [List.nil_append, List.length_nil] at hall

lemma toList_mapped {ip : Ipv6Addr} {ipv4 : Ipv4Addr} (h : ip.toIpv4Mapped = some ipv4) :
    (toString ip).toList =
      ':' :: ':' :: (Nat.toDigits 16 0xffff ++ ':' :: (toString ipv4).toList) := by
  have hstart : "::ffff:".toList = ':' :: ':' :: (Nat.toDigits 16 0xffff ++ [':']) := by
    decide +kernel
  unfold toString instToStringIpv6Addr
  dsimp only
  rw [h]
  dsimp only
  rw [String.toList_append, hstart, List.cons_append, List.cons_append, List.append_assoc,
    List.singleton_append]
  rfl

lemma toList_compressed {ip : Ipv6Addr} (h : ip.toIpv4Mapped = none) (hlen : 1 < ip.zeroes.len) :
    (toString ip).toList = groupsText 0 (ip.segments.take ip.zeroes.start) ++
      ':' :: ':' :: groupsText 0 (ip.segments.drop (ip.zeroes.start + ip.zeroes.len)) := by
  have hcolons : "::".toList = [':', ':'] := rfl
  unfold toString instToStringIpv6Addr
  dsimp only
  rw [h]
  dsimp only
  rw [if_pos (show 1 < (longestZeros 0 ⟨0, 0⟩ ⟨0, 0⟩ ip.segments).len from hlen),
    String.toList_append, String.toList_append, hcolons, toList_fmtSubslice, toList_fmtSubslice,
    List.append_assoc]
  rfl

lemma toList_full {ip : Ipv6Addr} (h : ip.toIpv4Mapped = none) (hlen : ¬1 < ip.zeroes.len) :
    (toString ip).toList = groupsText 0 ip.segments := by
  unfold toString instToStringIpv6Addr
  dsimp only
  rw [h]
  dsimp only
  rw [if_neg (show ¬1 < (longestZeros 0 ⟨0, 0⟩ ⟨0, 0⟩ ip.segments).len from hlen),
    toList_fmtSubslice]

lemma ipv6Text_toString (ip : Ipv6Addr) : Ipv6Text ip (toString ip).toList := by
  cases hmapped : ip.toIpv4Mapped with
  | some ipv4 =>
    rw [toList_mapped hmapped]
    unfold Ipv6Addr.toIpv4Mapped at hmapped
    split at hmapped
    · rename_i htake
      have hdrop : ip.segments.drop 6 =
          [ip.octets[12].toNat * 256 + ip.octets[13].toNat,
            ip.octets[14].toNat * 256 + ip.octets[15].toNat] := rfl
      have hsegments := List.take_append_drop 6 ip.segments
      rw [htake, hdrop] at hsegments
      rw [← Option.some.inj hmapped]
      exact .mapped hsegments.symm
    · cases hmapped
  | none =>
    by_cases hlen : 1 < ip.zeroes.len
    · rw [toList_compressed hmapped hlen]
      exact .compressed hlen (zeroRun_zeroes ip).split
    · rw [toList_full hmapped hlen]
      exact .full

lemma readIpv6Addr_of_head {head : List Nat} {s t u : List Char} {tail : List Nat} {ipv4 : Bool}
    (hhead : readGroups 8 8 0 s = ((head, false), ':' :: ':' :: t)) (hlength : head.length ≠ 8)
    (htail : readGroups (8 - (head.length + 1)) (8 - (head.length + 1)) 0 t =
      ((tail, ipv4), u)) :
    readIpv6Addr s = some (.ofSegments
      (head ++ List.replicate (8 - head.length - tail.length) 0 ++ tail), u) := by
  unfold readIpv6Addr
  simp only [hhead, if_neg hlength, readGivenChar_cons, htail, Bool.false_eq_true, if_false,
    Option.bind_eq_bind, Option.bind_some, Option.pure_def]

lemma readIpv6Addr_compressed {head tail : List Nat} (hlength : head.length + tail.length ≤ 7)
    (hbound : ∀ g ∈ head ++ tail, g < 65536) {rest : List Char} (hrest : Closes rest) :
    readIpv6Addr (groupsText 0 head ++ ':' :: ':' :: (groupsText 0 tail ++ rest)) =
      some (.ofSegments (head ++ List.replicate (8 - head.length - tail.length) 0 ++ tail),
        rest) := by
  have hhead := @readGroups_text 8 8 0 head (by omega)
    (fun g hg => hbound g (List.mem_append_left _ hg)) _ (.colons (groupsText 0 tail ++ rest))
  have htail := @readGroups_text (8 - (head.length + 1)) (8 - (head.length + 1)) 0 tail
    (by omega) (fun g hg => hbound g (List.mem_append_right _ hg)) _ (Or.inl hrest)
  exact readIpv6Addr_of_head hhead (by omega) htail

lemma readIpv6Addr_text {ip : Ipv6Addr} {s : List Char} (h : Ipv6Text ip s) {rest : List Char}
    (hrest : Closes rest) : readIpv6Addr (s ++ rest) = some (ip, rest) := by
  cases h with
  | @mapped a b c d h =>
    let ipv4 : Ipv4Addr := .new a b c d
    have hhead : readGroups 8 8 0 (':' :: ':' ::
        (Nat.toDigits 16 0xffff ++ ':' :: ((toString ipv4).toList ++ rest))) =
        (([], false),
          ':' :: ':' :: (Nat.toDigits 16 0xffff ++ ':' :: ((toString ipv4).toList ++ rest))) :=
      readGroups_ends (.colons _)
    have hipv4 : readSeparator ':' 1 readIpv4Addr (':' :: ((toString ipv4).toList ++ rest)) =
        some (ipv4, rest) := by
      rw [readSeparator_cons ':' Nat.one_pos, readIpv4Addr_toString ipv4 hrest.stops.ten]
    have htail : readGroups 7 7 0
        (Nat.toDigits 16 0xffff ++ ':' :: ((toString ipv4).toList ++ rest)) =
        (([0xffff, a.toNat * 256 + b.toNat, c.toNat * 256 + d.toNat], true), rest) := by
      have hcons := @readGroups_cons 7 6 0 0xffff (by decide) _
        (stops_colon ((toString ipv4).toList ++ rest)) (by simp)
      rw [if_neg (Nat.lt_irrefl 0), List.nil_append] at hcons
      rw [hcons, readGroups, if_pos (by decide), hipv4]
      rfl
    have hread := readIpv6Addr_of_head hhead (by decide) htail
    rw [List.cons_append, List.cons_append, List.append_assoc, List.cons_append, hread]
    have hsegments : ip.segments = [] ++ List.replicate 5 0 ++
        [0xffff, a.toNat * 256 + b.toNat, c.toNat * 256 + d.toNat] := h
    have hof := ofSegments_segments ip
    rw [hsegments] at hof
    exact congrArg (fun ip => some (ip, rest)) hof
  | @compressed head tail len hlen h =>
    have hlength : head.length + len + tail.length = 8 := by
      have hall := length_segments ip
      rw [h, List.length_append, List.length_append, List.length_replicate] at hall
      exact hall
    have hbound : ∀ g ∈ head ++ tail, g < 65536 := by
      intro g hg
      have hmem : g ∈ ip.segments := by
        rw [h]
        rcases List.mem_append.mp hg with hg | hg
        · exact List.mem_append_left _ (List.mem_append_left _ hg)
        · exact List.mem_append_right _ hg
      exact segment_lt hmem
    rw [List.append_assoc, List.cons_append, List.cons_append,
      readIpv6Addr_compressed (by omega) hbound hrest,
      show 8 - head.length - tail.length = len by omega, ← h, ofSegments_segments]
  | full =>
    have hread := @readGroups_text 8 8 0 ip.segments (Nat.le_of_eq (length_segments ip))
      (fun g hg => segment_lt hg) _ (Or.inl hrest)
    unfold readIpv6Addr
    simp only [hread, if_pos (length_segments ip), ofSegments_segments, Option.pure_def]

/-- The text of an IPv6 address is no start of an IPv4 address. -/
lemma readIpv4Addr_ipv6Text {ip : Ipv6Addr} {s : List Char} (h : Ipv6Text ip s) :
    readIpv4Addr s = none := by
  have hcons : ∀ (g : Nat) (groups : List Nat) (rest : List Char),
      (∃ t, groupsText 1 groups ++ rest = ':' :: t) →
      readIpv4Addr (groupsText 0 (g :: groups) ++ rest) = none := by
    rintro g groups rest ⟨t, ht⟩
    rw [groupsText, if_neg (Nat.lt_irrefl 0), List.nil_append, List.append_assoc, ht]
    exact readIpv4Addr_of_hex isSome_toDigit_of_mem (stops_colon t) (by simp)
  cases h with
  | mapped h => exact readIpv4Addr_of_stops (stops_colon _) (by simp)
  | @compressed head tail len hlen h =>
    cases head with
    | nil => exact readIpv4Addr_of_stops (stops_colon _) (by simp [groupsText])
    | cons g groups =>
      refine hcons g groups _ ?_
      cases groups with
      | nil => exact ⟨_, rfl⟩
      | cons g' groups => exact groupsText_head Nat.one_pos groups _
  | full =>
    have hlength := length_segments ip
    obtain ⟨g, groups, hsegments⟩ := List.exists_cons_of_length_pos (l := ip.segments) (by omega)
    rw [hsegments] at hlength ⊢
    have hread := hcons g groups []
    rw [List.append_nil, List.append_nil] at hread
    refine hread ?_
    obtain ⟨g', groups, rfl⟩ :=
      List.exists_cons_of_length_pos (l := groups) (by simp at hlength; omega)
    have hhead := groupsText_head (g := g') Nat.one_pos groups []
    rwa [List.append_nil] at hhead

/-- An address is read back from its text. -/
theorem parseIpAddr_toString (ip : IpAddr) : parseIpAddr (toString ip).toList = some ip := by
  cases ip with
  | v4 ip =>
    have hread := readIpv4Addr_toString ip Closes.nil.stops.ten
    rw [List.append_nil] at hread
    have htext : toString (IpAddr.v4 ip) = toString ip := rfl
    unfold parseIpAddr readIpAddr
    rw [htext, hread]
  | v6 ip =>
    have htext : toString (IpAddr.v6 ip) = toString ip := rfl
    have hread := readIpv6Addr_text (ipv6Text_toString ip) Closes.nil
    rw [List.append_nil] at hread
    unfold parseIpAddr readIpAddr
    rw [htext, readIpv4Addr_ipv6Text (ipv6Text_toString ip), hread]
    rfl

theorem toString_ipAddr_injective : Function.Injective (toString : IpAddr → String) := by
  intro ip ip' h
  have hparse := parseIpAddr_toString ip
  rw [h, parseIpAddr_toString] at hparse
  exact (Option.some.inj hparse).symm

/-! ### Socket addresses -/

end IpTools
