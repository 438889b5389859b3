import Mathlib.Data.UInt
import IpTools.Library.Gregorian
import IpTools.Model.Certificate
import IpTools.Proofs.Text

/-!
# Certificate dates

The two directions of the calendar arithmetic undo each other, and so do the writing and the
reading of a timestamp. The arithmetic is that of `i64`, which bounds the years it is right for.
-/

namespace IpTools
open Gregorian

lemma wrapI64_of_range {x : Int} (h : -2 ^ 63 ≤ x) (h' : x < 2 ^ 63) : wrapI64 x = x := by
  unfold wrapI64
  rw [Int.bmod_def]
  omega

lemma wrapI64_range (x : Int) : -2 ^ 63 ≤ wrapI64 x ∧ wrapI64 x < 2 ^ 63 := by
  unfold wrapI64
  rw [Int.bmod_def]
  omega

/-- Wrapping before an addition makes no difference after it. -/
lemma wrapI64_wrapI64_add (x y : Int) : wrapI64 (wrapI64 x + y) = wrapI64 (x + y) :=
  Int.bmod_add_bmod

/-- The day number of a date, wrapped around at the end only. -/
lemma daysFromCivil_eq {y m d : Int} (hy : -2 ^ 62 ≤ y) (hy' : y < 2 ^ 63) (h1 : 1 ≤ m)
    (h : m ≤ 12) (hd : 1 ≤ d) (hd' : d ≤ 31) :
    daysFromCivil y m d = wrapI64 (dayNumber y m d) := by
  have hyear : (if m ≤ 2 then wrapI64 (y - 1) else y) = marchYear y m := by
    unfold marchYear
    rw [wrapI64_of_range (by omega) (by omega)]
  have hmonth : (if m > 2 then m - 3 else wrapI64 (m + 9)) = marchMonth m := by
    unfold marchMonth
    rw [wrapI64_of_range (by omega) (by omega)]
  obtain ⟨hm0, hm⟩ := marchMonth_bounds h1 h
  have hday : wrapI64 ((wrapI64 (153 * marchMonth m + 2)).tdiv 5 + d - 1) =
      monthStart (marchMonth m) + (d - 1) := by
    have hinner : wrapI64 (153 * marchMonth m + 2) = 153 * marchMonth m + 2 :=
      wrapI64_of_range (by omega) (by omega)
    unfold monthStart
    rw [hinner, Int.tdiv_eq_ediv_of_nonneg (by omega), wrapI64_of_range (by omega) (by omega)]
    omega
  have hstart : 0 ≤ yearStart (marchYear y m % 400) ∧ yearStart (marchYear y m % 400) < 146097 := by
    unfold yearStart
    omega
  have hbound : 0 ≤ monthStart (marchMonth m) ∧ monthStart (marchMonth m) ≤ 337 := by
    unfold monthStart
    omega
  have hdoe : wrapI64 (marchYear y m % 400 * 365 + marchYear y m % 400 / 4 -
      marchYear y m % 400 / 100 + (monthStart (marchMonth m) + (d - 1))) =
        yearStart (marchYear y m % 400) + (monthStart (marchMonth m) + (d - 1)) := by
    have hcomm : marchYear y m % 400 * 365 + marchYear y m % 400 / 4 -
        marchYear y m % 400 / 100 = yearStart (marchYear y m % 400) := by
      unfold yearStart
      omega
    rw [hcomm, wrapI64_of_range (by omega) (by omega)]
  unfold daysFromCivil
  dsimp only
  rw [hyear, hmonth, hday, hdoe, dayNumber_eq h1 h]

/-- The date of a day number in the terms of the calendar. -/
lemma civilFromDays_eq (days : Int) :
    civilFromDays days =
      let z := wrapI64 (days + 719468)
      let yoe := yearOfEra (z % 146097)
      let doy := z % 146097 - yearStart yoe
      let mp := monthOfYear doy
      (if civilMonth mp ≤ 2 then yoe + z / 146097 * 400 + 1 else yoe + z / 146097 * 400,
        civilMonth mp, doy - monthStart mp + 1) := rfl

/-- A day number that does not overflow is turned into a date with that day number. -/
lemma civilFromDays_spec {days : Int} {y m d : Int} (h : civilFromDays days = (y, m, d)) :
    IsDate y m d ∧ dayNumber y m d = wrapI64 (days + 719468) - 719468 := by
  rw [civilFromDays_eq] at h
  generalize hz : wrapI64 (days + 719468) = z at h
  dsimp only at h
  have hdoe0 : 0 ≤ z % 146097 := by omega
  have hdoe : z % 146097 < 146097 := by omega
  obtain ⟨hyoe0, hyoe⟩ := yearOfEra_bounds hdoe0 hdoe
  obtain ⟨hdoy0, hdoy⟩ := mem_yearOfEra hdoe0 hdoe
  generalize hyear : yearOfEra (z % 146097) = yoe at h hyoe0 hyoe hdoy0 hdoy
  generalize hdoyEq : z % 146097 - yearStart yoe = doy at h hdoy0 hdoy
  obtain ⟨hdom0, hdom⟩ := mem_monthOfYear hdoy0 hdoy
  have hlen := yearLength_le yoe
  obtain ⟨hmp0, hmp⟩ := monthOfYear_bounds hdoy0 (by omega)
  generalize monthOfYear doy = mp at h hdom0 hdom hmp0 hmp
  obtain ⟨hm1, hm12⟩ := civilMonth_bounds hmp0 hmp
  simp only [Prod.mk.injEq] at h
  obtain ⟨hy, rfl, rfl⟩ := h
  have hmarchYear : marchYear y (civilMonth mp) = yoe + z / 146097 * 400 := by
    unfold marchYear
    rw [← hy]
    split <;> omega
  have hmarchMonth : marchMonth (civilMonth mp) = mp := marchMonth_civilMonth hmp0 hmp
  have hyear' : y = (if civilMonth mp ≤ 2 then yoe + 1 else yoe) + z / 146097 * 400 := by
    rw [← hy]
    split <;> omega
  have hlength : monthLength y (civilMonth mp) =
      monthLength (if civilMonth mp ≤ 2 then yoe + 1 else yoe) (civilMonth mp) := by
    rw [hyear', monthLength_add_era]
  refine ⟨⟨hm1, hm12, by omega, by omega⟩, ?_⟩
  rw [dayNumber_eq hm1 hm12, hmarchYear, hmarchMonth]
  have hera : (yoe + z / 146097 * 400) / 400 = z / 146097 := by omega
  have hrem : (yoe + z / 146097 * 400) % 400 = yoe := by omega
  rw [hera, hrem]
  omega

/-- A date is found again from its day number. -/
lemma civilFromDays_of_dayNumber {days y m d : Int} (hdate : IsDate y m d)
    (hdays : wrapI64 (days + 719468) - 719468 = dayNumber y m d) :
    civilFromDays days = (y, m, d) := by
  obtain ⟨hm1, hm12, hd1, hd⟩ := hdate
  obtain ⟨hmp0, hmp⟩ := marchMonth_bounds hm1 hm12
  have hyoe0 : 0 ≤ marchYear y m % 400 := by omega
  have hyoe : marchYear y m % 400 < 400 := by omega
  have hlength : d - 1 < monthLength
      (if civilMonth (marchMonth m) ≤ 2 then marchYear y m % 400 + 1 else marchYear y m % 400)
      (civilMonth (marchMonth m)) := by
    rw [civilMonth_marchMonth hm1 hm12]
    have hleap : IsLeap (if m ≤ 2 then marchYear y m % 400 + 1 else marchYear y m % 400) ↔
        IsLeap y := by
      unfold marchYear IsLeap
      split <;> omega
    rw [monthLength_congr hleap]
    omega
  obtain ⟨hmonth, hdoy⟩ := monthOfYear_of_mem hmp0 hmp (by omega) hlength
  have hdoy0 : 0 ≤ monthStart (marchMonth m) + (d - 1) := by
    unfold monthStart
    omega
  have hyear := yearOfEra_of_mem hyoe0 hyoe hdoy0 hdoy
  have hstart : 0 ≤ yearStart (marchYear y m % 400) := by
    unfold yearStart
    omega
  have hera : yearStart (marchYear y m % 400) + (monthStart (marchMonth m) + (d - 1)) < 146097 := by
    have hnext := yearStart_next ⟨(marchYear y m % 400).toNat, by omega⟩
    have hcast : ((marchYear y m % 400).toNat : Int) = marchYear y m % 400 := by omega
    simp only [hcast] at hnext
    split at hnext
    · omega
    · unfold yearStart at *
      omega
  rw [dayNumber_eq hm1 hm12] at hdays
  have hdiv : wrapI64 (days + 719468) / 146097 = marchYear y m / 400 := by omega
  have hmod : wrapI64 (days + 719468) % 146097 =
      yearStart (marchYear y m % 400) + (monthStart (marchMonth m) + (d - 1)) := by omega
  rw [civilFromDays_eq]
  dsimp only
  rw [hdiv, hmod, hyear, show yearStart (marchYear y m % 400) +
    (monthStart (marchMonth m) + (d - 1)) - yearStart (marchYear y m % 400) =
      monthStart (marchMonth m) + (d - 1) by omega, hmonth, civilMonth_marchMonth hm1 hm12]
  simp only [Prod.mk.injEq, true_and]
  constructor
  · unfold marchYear
    split <;> omega
  · omega

/-- A number written with all of the given width. -/
structure IsNumeral (width : Nat) (n : Int) (s : List Char) : Prop where
  length_eq : s.length = width
  digits : s.all Char.isDigit = true
  parse : parseI64 s = some n

lemma zeroPad_numeral {width : Nat} {n : Int} (hw : 0 < width) (h0 : 0 ≤ n)
    (h : n < 10 ^ width) (hrange : n < 2 ^ 63) : IsNumeral width n (zeroPad width n) := by
  obtain ⟨k, rfl⟩ : ∃ k : Nat, n = k := ⟨n.toNat, by omega⟩
  have hlen : (Nat.toDigits 10 k).length ≤ width :=
    (Nat.length_toDigits_le_iff (by decide) hw).mpr (by exact_mod_cast h)
  have htext : zeroPad width k =
      List.replicate (width - (Nat.toDigits 10 k).length) '0' ++ Nat.toDigits 10 k := by
    unfold zeroPad
    rw [if_neg (by omega)]
    rfl
  have hlength : (zeroPad width k).length = width := by
    rw [htext, List.length_append, List.length_replicate]
    omega
  have hdigits : (zeroPad width k).all Char.isDigit = true := by
    rw [htext, List.all_eq_true]
    intro c hc
    rcases List.mem_append.mp hc with hc | hc
    · rw [List.eq_of_mem_replicate hc]
      rfl
    · exact isDigit_of_mem_toDigits hc
  have hvalue : Nat.ofDigitChars 10 (zeroPad width k) 0 = k := by
    rw [htext, Nat.ofDigitChars_append, Nat.ofDigitChars_replicate_zero, Nat.mul_zero,
      Nat.ofDigitChars_ten_toDigits]
  have hne : zeroPad width k ≠ [] := by
    rintro he
    rw [he] at hlength
    exact absurd hlength (by simp; omega)
  refine ⟨hlength, hdigits, ?_⟩
  rw [parseI64_of_digits hne hdigits (by omega), hvalue]

/-- The fields that the format has room for. -/
structure UtcFields.Fit (f : UtcFields) : Prop where
  year : 0 ≤ f.year ∧ f.year < 10000
  month : 0 ≤ f.month ∧ f.month < 100
  day : 0 ≤ f.day ∧ f.day < 100
  hour : 0 ≤ f.hour ∧ f.hour < 100
  minute : 0 ≤ f.minute ∧ f.minute < 100
  second : 0 ≤ f.second ∧ f.second < 100

lemma zeroPad_four {n : Int} (h : 0 ≤ n ∧ n < 10000) : IsNumeral 4 n (zeroPad 4 n) :=
  zeroPad_numeral (by decide) h.1 (by omega) (by omega)

lemma zeroPad_two {n : Int} (h : 0 ≤ n ∧ n < 100) : IsNumeral 2 n (zeroPad 2 n) :=
  zeroPad_numeral (by decide) h.1 (by omega) (by omega)

lemma IsNumeral.utf8Size_eq {width : Nat} {n : Int} {s : List Char} (h : IsNumeral width n s) :
    ∀ c ∈ s, c.utf8Size = 1 := fun c hc => utf8Size_of_isDigit (List.all_eq_true.mp h.digits c hc)

lemma IsNumeral.notMem {width : Nat} {n : Int} {s : List Char} (h : IsNumeral width n s) {c : Char}
    (hc : c.isDigit = false) : c ∉ s :=
  fun hmem => absurd (List.all_eq_true.mp h.digits c hmem) (by simp [hc])

/-- The numerals of a text that the format writes. -/
lemma UtcFields.text_toList {f : UtcFields} (hf : f.Fit) : ∃ y mo d h mi s : List Char,
    IsNumeral 4 f.year y ∧ IsNumeral 2 f.month mo ∧ IsNumeral 2 f.day d ∧
    IsNumeral 2 f.hour h ∧ IsNumeral 2 f.minute mi ∧ IsNumeral 2 f.second s ∧
    f.text.toList =
      (y ++ '-' :: (mo ++ '-' :: d)) ++ 'T' :: (h ++ ':' :: (mi ++ ':' :: s)) ++ ['Z'] :=
  ⟨_, _, _, _, _, _, zeroPad_four hf.year, zeroPad_two hf.month, zeroPad_two hf.day,
    zeroPad_two hf.hour, zeroPad_two hf.minute, zeroPad_two hf.second, by simp [UtcFields.text]⟩

/-- The day count reads the date back. -/
lemma daysUntilFromRfc3339_text {f : UtcFields} (hf : f.Fit) (now : UInt64) :
    daysUntilFromRfc3339 (some now) f.text =
      some (daysFromCivil f.year f.month f.day - (now.toNat : Int) / 86400) := by
  obtain ⟨y, mo, d, h, mi, s, hy, hmo, hd, hh, hmi, hs, htext⟩ := UtcFields.text_toList hf
  have hbytes : ∀ x ∈ y ++ '-' :: (mo ++ '-' :: d), x.utf8Size = 1 := by
    intro x hx
    simp only [List.mem_append, List.mem_cons] at hx
    rcases hx with hx | rfl | hx | rfl | hx
    · exact hy.utf8Size_eq x hx
    · rfl
    · exact hmo.utf8Size_eq x hx
    · rfl
    · exact hd.utf8Size_eq x hx
  have hdate : getBytes 0 10 f.text.toList = some (y ++ '-' :: (mo ++ '-' :: d)) := by
    rw [htext, List.append_assoc]
    exact getBytes_append (List.nil_append _).symm hbytes rfl
      (by simp [hy.length_eq, hmo.length_eq, hd.length_eq])
  have hyear : getBytes 0 4 (y ++ '-' :: (mo ++ '-' :: d)) = some y :=
    getBytes_append (List.nil_append _).symm (fun x hx => hbytes x (List.mem_append_left _ hx)) rfl
      hy.length_eq
  have hmonth : getBytes 5 7 (y ++ '-' :: (mo ++ '-' :: d)) = some mo := by
    have heq : y ++ '-' :: (mo ++ '-' :: d) = (y ++ ['-']) ++ (mo ++ '-' :: d) := by simp
    refine getBytes_append heq (fun x hx => hbytes x ?_) (by simp [hy.length_eq])
      (by simp [hy.length_eq, hmo.length_eq])
    rw [heq, ← List.append_assoc]
    exact List.mem_append_left _ hx
  have hday : getBytes 8 10 (y ++ '-' :: (mo ++ '-' :: d)) = some d := by
    have heq : y ++ '-' :: (mo ++ '-' :: d) = (y ++ '-' :: mo ++ ['-']) ++ (d ++ []) := by simp
    refine getBytes_append heq (fun x hx => hbytes x ?_) (by simp [hy.length_eq, hmo.length_eq])
      (by simp [hy.length_eq, hmo.length_eq, hd.length_eq])
    rw [heq, List.append_nil]
    exact hx
  unfold daysUntilFromRfc3339
  rw [hdate]
  simp [hyear, hmonth, hday, hy.parse, hmo.parse, hd.parse]

/-- The comparison with the clock reads all the fields back. -/
lemma rfc3339IsInPast_text {f : UtcFields} (hf : f.Fit) (now : UInt64) (hnow : now.toNat < 2 ^ 63) :
    rfc3339IsInPast (some now) f.text = decide (wrapI64
      (daysFromCivil f.year f.month f.day * 86400 + f.hour * 3600 + f.minute * 60 + f.second) ≤
        (now.toNat : Int)) := by
  obtain ⟨y, mo, d, h, mi, s, hy, hmo, hd, hh, hmi, hs, htext⟩ := UtcFields.text_toList hf
  have hz : stripSuffix 'Z' f.text.toList =
      some ((y ++ '-' :: (mo ++ '-' :: d)) ++ 'T' :: (h ++ ':' :: (mi ++ ':' :: s))) := by
    rw [htext]
    unfold stripSuffix
    rw [if_pos List.getLast?_concat, List.dropLast_concat]
  have ht : 'T' ∉ y ++ '-' :: (mo ++ '-' :: d) := by
    simp [hy.notMem, hmo.notMem, hd.notMem]
  have hdate : (y ++ '-' :: (mo ++ '-' :: d)).splitOn '-' = [y, mo, d] := by
    rw [List.splitOn_append_cons_self_of_not_mem (hy.notMem (by decide)),
      List.splitOn_append_cons_self_of_not_mem (hmo.notMem (by decide)),
      List.splitOn_eq_singleton (hd.notMem (by decide))]
  have htime : (h ++ ':' :: (mi ++ ':' :: s)).splitOn ':' = [h, mi, s] := by
    rw [List.splitOn_append_cons_self_of_not_mem (hh.notMem (by decide)),
      List.splitOn_append_cons_self_of_not_mem (hmi.notMem (by decide)),
      List.splitOn_eq_singleton (hs.notMem (by decide))]
  have hfields : ([y, mo, d] ++ [h, mi, s]).filterMap parseI64 =
      [f.year, f.month, f.day, f.hour, f.minute, f.second] := by
    simp [hy.parse, hmo.parse, hd.parse, hh.parse, hmi.parse, hs.parse]
  have hclock : (now.toNat : Int) < 2 ^ 63 := by omega
  unfold rfc3339IsInPast
  rw [hz, Option.bind_some, splitOnce_append ht]
  dsimp only
  rw [hdate, htime, hfields]
  dsimp only
  rw [Option.map_some, Option.getD_some, if_pos hclock]

lemma monthLength_bounds (y m : Int) : 28 ≤ monthLength y m ∧ monthLength y m ≤ 31 := by
  unfold monthLength
  split
  · split <;> omega
  · split <;> omega

lemma daysOfMonths_bounds (y : Int) (n : Nat) :
    0 ≤ daysOfMonths y n ∧ daysOfMonths y n ≤ 31 * n := by
  induction n with
  | zero => exact ⟨Int.le_refl _, Int.le_refl _⟩
  | succ n ih =>
    obtain ⟨hlow, hhigh⟩ := monthLength_bounds y (n + 1)
    rw [daysOfMonths]
    omega

lemma daysBeforeYear_mono {y y' : Int} (h : y ≤ y') : daysBeforeYear y ≤ daysBeforeYear y' := by
  unfold daysBeforeYear
  omega

/-- A date falls within a year of the start of its year. -/
lemma dayNumber_bounds {y m d : Int} (h : IsDate y m d) :
    daysBeforeYear y - 719162 ≤ dayNumber y m d ∧
      dayNumber y m d ≤ daysBeforeYear y - 719162 + 371 := by
  obtain ⟨hm1, hm12, hd1, hd⟩ := h
  have hmonths := daysOfMonths_bounds y (m.toNat - 1)
  have hlength := monthLength_bounds y m
  have hepoch : daysBeforeYear 1970 = 719162 := by decide
  unfold dayNumber
  omega

lemma daysFromCivil_civilFromDays {days : Int} (h0 : 0 ≤ days) (h : days < 2 ^ 63) {y m d : Int}
    (hcivil : civilFromDays days = (y, m, d)) : daysFromCivil y m d = days := by
  obtain ⟨hdate, hnumber⟩ := civilFromDays_spec hcivil
  have hrange := wrapI64_range (days + 719468)
  have hbounds := dayNumber_bounds hdate
  have hyear : daysBeforeYear y = 365 * (y - 1) + (y - 1) / 4 - (y - 1) / 100 + (y - 1) / 400 := rfl
  have hlength := monthLength_bounds y m
  obtain ⟨hm1, hm12, hd1, hd⟩ := hdate
  rw [daysFromCivil_eq (by omega) (by omega) hm1 hm12 hd1 (by omega), hnumber, Int.sub_eq_add_neg,
    wrapI64_wrapI64_add, show days + 719468 + -719468 = days by omega,
    wrapI64_of_range (by omega) h]

lemma civilFromDays_daysFromCivil {y m d : Int} (h1970 : 1970 ≤ y) (hy : y < 2 ^ 63)
    (hdate : IsDate y m d) :
    civilFromDays (daysFromCivil y m d) = (y, m, d) ↔ dayNumber y m d + 719468 < 2 ^ 63 := by
  have hbounds := dayNumber_bounds hdate
  have hfirst : daysBeforeYear 1970 ≤ daysBeforeYear y := daysBeforeYear_mono h1970
  have hepoch : daysBeforeYear 1970 = 719162 := by decide
  have hlength := monthLength_bounds y m
  have hwrap : wrapI64 (daysFromCivil y m d + 719468) = wrapI64 (dayNumber y m d + 719468) := by
    obtain ⟨hm1, hm12, hd1, hd⟩ := hdate
    rw [daysFromCivil_eq (by omega) hy hm1 hm12 hd1 (by omega), wrapI64_wrapI64_add]
  constructor
  · intro h
    have hnumber := (civilFromDays_spec h).2
    have hrange := wrapI64_range (daysFromCivil y m d + 719468)
    omega
  · intro h
    refine civilFromDays_of_dayNumber hdate ?_
    rw [hwrap, wrapI64_of_range (by omega) h]
    omega

/-- The fields of a timestamp up to the end of the year 9999. -/
lemma utcFields_spec {ts : Int} (h0 : 0 ≤ ts) (h : ts ≤ 253402300799) :
    (utcFields ts).Fit ∧ daysFromCivil (utcFields ts).year (utcFields ts).month (utcFields ts).day =
      ts / 86400 ∧ (utcFields ts).hour * 3600 + (utcFields ts).minute * 60 + (utcFields ts).second =
        ts % 86400 := by
  rcases hcivil : civilFromDays (ts / 86400) with ⟨y, m, d⟩
  obtain ⟨hdate, hnumber⟩ := civilFromDays_spec hcivil
  have hdays := daysFromCivil_civilFromDays (by omega) (by omega) hcivil
  rw [wrapI64_of_range (by omega) (by omega)] at hnumber
  have hbounds := dayNumber_bounds hdate
  have hlength := monthLength_bounds y m
  obtain ⟨hm1, hm12, hd1, hd⟩ := hdate
  have hpositive : 0 ≤ y := by
    by_contra hneg
    have hmono := daysBeforeYear_mono (show y ≤ 0 by omega)
    have hzero : daysBeforeYear 0 = -366 := by decide
    omega
  have hshort : y < 10000 := by
    by_contra hlong
    have hmono := daysBeforeYear_mono (show 10000 ≤ y by omega)
    have hnext : daysBeforeYear 10000 = 3652059 := by decide
    omega
  have hfields : utcFields ts =
      ⟨y, m, d, ts % 86400 / 3600, ts % 86400 % 3600 / 60, ts % 86400 % 60⟩ := by
    unfold utcFields
    dsimp only
    rw [hcivil]
  rw [hfields]
  dsimp only
  refine ⟨?_, hdays, by omega⟩
  constructor <;> dsimp only <;> omega

theorem certificate_dates_inverse :
    (∀ ts : Int, 0 ≤ ts → ts ≤ 253402300799 → ∃ text, formatUtc ts = some text ∧
      text = (utcFields ts).text ∧
      daysFromCivil (utcFields ts).year (utcFields ts).month (utcFields ts).day * 86400 +
        (utcFields ts).hour * 3600 + (utcFields ts).minute * 60 + (utcFields ts).second = ts ∧
      (∀ now : UInt64, daysUntilFromRfc3339 (some now) text =
        some (ts / 86400 - (now.toNat : Int) / 86400)) ∧
      (∀ now : UInt64, now.toNat < 2 ^ 63 →
        (rfc3339IsInPast (some now) text = true ↔ ts ≤ now.toNat))) ∧
    (∀ days y m d : Int, 0 ≤ days → days < 2 ^ 63 → civilFromDays days = (y, m, d) →
      IsDate y m d ∧ daysFromCivil y m d = days) ∧
    (∀ y m d : Int, 1970 ≤ y → y < 2 ^ 63 → IsDate y m d →
      (civilFromDays (daysFromCivil y m d) = (y, m, d) ↔ dayNumber y m d + 719468 < 2 ^ 63)) := by
  refine ⟨?_, ?_, ?_⟩
  · intro ts h0 h
    obtain ⟨hfit, hdays, hsecs⟩ := utcFields_spec h0 h
    have htotal : daysFromCivil (utcFields ts).year (utcFields ts).month (utcFields ts).day *
        86400 + (utcFields ts).hour * 3600 + (utcFields ts).minute * 60 +
          (utcFields ts).second = ts := by
      rw [hdays]
      omega
    refine ⟨(utcFields ts).text, ?_, rfl, htotal, ?_, ?_⟩
    · unfold formatUtc
      rw [if_neg (by omega)]
    · intro now
      rw [daysUntilFromRfc3339_text hfit, hdays]
    · intro now hnow
      rw [rfc3339IsInPast_text hfit now hnow, htotal, wrapI64_of_range (by omega) (by omega),
        decide_eq_true_eq]
  · intro days y m d h0 h hcivil
    exact ⟨(civilFromDays_spec hcivil).1, daysFromCivil_civilFromDays h0 h hcivil⟩
  · intro y m d h1970 hy hdate
    exact civilFromDays_daysFromCivil h1970 hy hdate

theorem certificate_dates_leap_day :
    daysUntilFromRfc3339 (some 951696000) "2000-02-29T12:30:15Z" = some 1 ∧
    rfc3339IsInPast (some 951827415) "2000-02-29T12:30:15Z" = true ∧
    daysFromCivil 2000 2 29 = 11016 ∧ civilFromDays (daysFromCivil 2000 2 29) = (2000, 2, 29) := by
  obtain ⟨stamp, day, date⟩ := certificate_dates_inverse
  obtain ⟨text, htext, -, -, huntil, hpast⟩ := stamp 951827415 (by decide) (by decide)
  have hformat : formatUtc 951827415 = some "2000-02-29T12:30:15Z" := by decide +kernel
  obtain rfl : "2000-02-29T12:30:15Z" = text := Option.some.inj (hformat.symm.trans htext)
  refine ⟨huntil 951696000, (hpast 951827415 (by decide)).mpr (by decide), ?_, ?_⟩
  · exact (day 11016 2000 2 29 (by decide) (by decide) (by decide)).2
  · exact (date 2000 2 29 (by decide) (by decide) (by decide)).mpr (by decide)

/-- A year beyond the day numbers of `i64`, and a clock beyond its seconds. -/
theorem certificate_dates_overflow :
    (IsDate (2 ^ 60) 1 1 ∧ civilFromDays (daysFromCivil (2 ^ 60) 1 1) ≠ (2 ^ 60, 1, 1)) ∧
    formatUtc 86400 = some "1970-01-02T00:00:00Z" ∧
      rfc3339IsInPast (some (2 ^ 63)) "1970-01-02T00:00:00Z" = false := by
  decide +kernel

end IpTools
