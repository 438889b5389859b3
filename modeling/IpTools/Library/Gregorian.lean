import Mathlib.Algebra.Ring.Int.Defs
import Mathlib.Tactic.Common
import Mathlib.Tactic.IntervalCases

/-!
# The Gregorian calendar by eras

Years are counted from March, so that the leap day ends a year, and in eras of 400 years, which
all have the same number of days. A day of an era is a year of the era and a day of that year, a
day of a year is a month and a day of that month.
-/

namespace Gregorian

def IsLeap (y : Int) : Prop := y % 4 = 0 ∧ (y % 100 ≠ 0 ∨ y % 400 = 0)

instance (y : Int) : Decidable (IsLeap y) := by unfold IsLeap; infer_instance

/-- The length of a month, January being the first. -/
def monthLength (y m : Int) : Int :=
  if m = 2 then if IsLeap y then 29 else 28
  else if m = 4 ∨ m = 6 ∨ m = 9 ∨ m = 11 then 30
  else 31

lemma isLeap_add_era (y e : Int) : IsLeap (y + e * 400) ↔ IsLeap y := by
  unfold IsLeap
  omega

lemma monthLength_congr {y y' : Int} (h : IsLeap y ↔ IsLeap y') (m : Int) :
    monthLength y m = monthLength y' m := by
  unfold monthLength
  simp only [h]

lemma monthLength_add_era (y e m : Int) : monthLength (y + e * 400) m = monthLength y m :=
  monthLength_congr (isLeap_add_era y e) m

def IsDate (y m d : Int) : Prop := 1 ≤ m ∧ m ≤ 12 ∧ 1 ≤ d ∧ d ≤ monthLength y m

instance (y m d : Int) : Decidable (IsDate y m d) := by unfold IsDate; infer_instance

/-- The days from the first of January of year 1 to the first of January of a year. -/
def daysBeforeYear (y : Int) : Int := 365 * (y - 1) + (y - 1) / 4 - (y - 1) / 100 + (y - 1) / 400

def daysOfMonths (y : Int) : Nat → Int
  | 0 => 0
  | m + 1 => daysOfMonths y m + monthLength y (m + 1)

/-- The days from 1970-01-01 to a date. -/
def dayNumber (y m d : Int) : Int :=
  daysBeforeYear y + daysOfMonths y (m.toNat - 1) + (d - 1) - daysBeforeYear 1970

/-- The first day of a year of the era. -/
def yearStart (yoe : Int) : Int := 365 * yoe + yoe / 4 - yoe / 100

/-- The year of the era that a day of it falls in. -/
def yearOfEra (doe : Int) : Int := (doe - doe / 1460 + doe / 36524 - doe / 146096) / 365

/-- The length of a year of the era: its last day is in February of the next civil year. -/
def yearLength (yoe : Int) : Int := if IsLeap (yoe + 1) then 366 else 365

lemma yearLength_le (yoe : Int) : yearLength yoe ≤ 366 := by
  unfold yearLength
  split <;> omega

lemma yearOfEra_mono {a b : Int} (h : a ≤ b) : yearOfEra a ≤ yearOfEra b := by
  have hnumerator : a - a / 1460 + a / 36524 - a / 146096 ≤
      b - b / 1460 + b / 36524 - b / 146096 := by omega
  exact Int.ediv_le_ediv (by decide) hnumerator

/-- A year of the era reaches from its first day to its last. -/
lemma yearOfEra_ends : ∀ y : Fin 400, yearOfEra (yearStart y) = y ∧
    yearOfEra (yearStart y + yearLength y - 1) = y := by
  decide +kernel

/-- The years of an era follow each other, and the last one ends the era. -/
lemma yearStart_next : ∀ y : Fin 400, yearStart y + yearLength y =
    if y.val = 399 then 146097 else yearStart (y + 1 : Int) := by
  decide +kernel

lemma yearOfEra_of_mem {y doy : Int} (h0 : 0 ≤ y) (h : y < 400) (hd0 : 0 ≤ doy)
    (hd : doy < yearLength y) : yearOfEra (yearStart y + doy) = y := by
  obtain ⟨n, rfl⟩ := Int.eq_ofNat_of_zero_le h0
  have hends := yearOfEra_ends ⟨n, by omega⟩
  have hlow : yearOfEra (yearStart n) ≤ yearOfEra (yearStart n + doy) :=
    yearOfEra_mono (by omega)
  have hhigh : yearOfEra (yearStart n + doy) ≤ yearOfEra (yearStart n + yearLength n - 1) :=
    yearOfEra_mono (by omega)
  have hfirst : yearOfEra (yearStart n) = n := hends.1
  have hlast : yearOfEra (yearStart n + yearLength n - 1) = n := hends.2
  omega

lemma yearOfEra_bounds {doe : Int} (h0 : 0 ≤ doe) (h : doe < 146097) :
    0 ≤ yearOfEra doe ∧ yearOfEra doe < 400 := by
  unfold yearOfEra
  omega

/-- A day of the era falls within its year. -/
lemma mem_yearOfEra {doe : Int} (h0 : 0 ≤ doe) (h : doe < 146097) :
    0 ≤ doe - yearStart (yearOfEra doe) ∧
      doe - yearStart (yearOfEra doe) < yearLength (yearOfEra doe) := by
  obtain ⟨hy0, hy⟩ := yearOfEra_bounds h0 h
  obtain ⟨n, hn⟩ := Int.eq_ofNat_of_zero_le hy0
  rw [hn] at hy ⊢
  have hstart : yearOfEra (yearStart n) = n := (yearOfEra_ends ⟨n, by omega⟩).1
  have hnext := yearStart_next ⟨n, by omega⟩
  dsimp only at hnext
  constructor
  · by_cases hz : n = 0
    · have hzero : yearStart n = 0 := by
        subst hz
        decide
      omega
    · -- an earlier day falls in an earlier year
      by_contra hlt
      have hmono : yearOfEra doe ≤ yearOfEra (yearStart n - 1) := yearOfEra_mono (by omega)
      have hbefore := yearStart_next ⟨n - 1, by omega⟩
      have hlast := (yearOfEra_ends ⟨n - 1, by omega⟩).2
      have hcast : ((n - 1 : Nat) : Int) = n - 1 := by omega
      simp only [hcast, show ¬n - 1 = 399 by omega, if_false, sub_add_cancel] at hbefore hlast
      rw [hbefore] at hlast
      omega
  · -- a later day falls in a later year
    by_contra hge
    by_cases hz : n = 399
    · rw [if_pos hz] at hnext
      omega
    · rw [if_neg hz] at hnext
      have hafter : yearOfEra (yearStart (n + 1)) = n + 1 :=
        (yearOfEra_ends ⟨n + 1, by omega⟩).1
      have hmono : yearOfEra (yearStart (n + 1)) ≤ yearOfEra doe := yearOfEra_mono (by omega)
      omega

/-- The first day of a month, March being month zero. -/
def monthStart (mp : Int) : Int := (153 * mp + 2) / 5

/-- The month that a day of the year falls in. -/
def monthOfYear (doy : Int) : Int := (5 * doy + 2) / 153

/-- The civil month of a month counted from March. -/
def civilMonth (mp : Int) : Int := if mp < 10 then mp + 3 else mp - 9

lemma monthOfYear_bounds {doy : Int} (h0 : 0 ≤ doy) (h : doy ≤ 365) :
    0 ≤ monthOfYear doy ∧ monthOfYear doy ≤ 11 := by
  unfold monthOfYear
  omega

lemma civilMonth_bounds {mp : Int} (h0 : 0 ≤ mp) (h : mp ≤ 11) :
    1 ≤ civilMonth mp ∧ civilMonth mp ≤ 12 := by
  unfold civilMonth
  split <;> omega

/-- A month of the year ends where the next begins, February with the year. -/
lemma monthStart_next {y mp : Int} (h0 : 0 ≤ mp) (h : mp ≤ 11) :
    monthStart mp + monthLength (if civilMonth mp ≤ 2 then y + 1 else y) (civilMonth mp) =
      if mp = 11 then yearLength y else monthStart (mp + 1) := by
  unfold monthStart monthLength civilMonth yearLength
  interval_cases mp <;> simp
  split <;> rfl

lemma mem_monthOfYear {y doy : Int} (h0 : 0 ≤ doy) (h : doy < yearLength y) :
    0 ≤ doy - monthStart (monthOfYear doy) ∧
      doy - monthStart (monthOfYear doy) <
        monthLength (if civilMonth (monthOfYear doy) ≤ 2 then y + 1 else y)
          (civilMonth (monthOfYear doy)) := by
  have hyear := yearLength_le y
  obtain ⟨hm0, hm⟩ := monthOfYear_bounds h0 (by omega)
  have hnext := monthStart_next (y := y) hm0 hm
  constructor
  · unfold monthStart monthOfYear
    omega
  · by_cases hlast : monthOfYear doy = 11
    · rw [if_pos hlast] at hnext
      omega
    · rw [if_neg hlast] at hnext
      have hlt : doy < monthStart (monthOfYear doy + 1) := by
        unfold monthStart monthOfYear
        omega
      omega

lemma monthOfYear_of_mem {y mp dom : Int} (h0 : 0 ≤ mp) (h : mp ≤ 11) (hd0 : 0 ≤ dom)
    (hd : dom < monthLength (if civilMonth mp ≤ 2 then y + 1 else y) (civilMonth mp)) :
    monthOfYear (monthStart mp + dom) = mp ∧ monthStart mp + dom < yearLength y := by
  have hnext := monthStart_next (y := y) h0 h
  have hyear := yearLength_le y
  by_cases hlast : mp = 11
  · rw [if_pos hlast] at hnext
    refine ⟨?_, by omega⟩
    unfold monthOfYear monthStart at *
    omega
  · rw [if_neg hlast] at hnext
    constructor
    · unfold monthOfYear monthStart at *
      omega
    · have hyear' : 365 ≤ yearLength y := by
        unfold yearLength
        split <;> omega
      unfold monthStart at *
      omega

/-- The year counted from March that a month belongs to. -/
def marchYear (y m : Int) : Int := if m ≤ 2 then y - 1 else y

def marchMonth (m : Int) : Int := if m > 2 then m - 3 else m + 9

lemma marchMonth_bounds {m : Int} (h1 : 1 ≤ m) (h : m ≤ 12) :
    0 ≤ marchMonth m ∧ marchMonth m ≤ 11 := by
  unfold marchMonth
  split <;> omega

lemma civilMonth_marchMonth {m : Int} (h1 : 1 ≤ m) (h : m ≤ 12) :
    civilMonth (marchMonth m) = m := by
  unfold civilMonth marchMonth
  split <;> split <;> omega

lemma marchMonth_civilMonth {mp : Int} (h0 : 0 ≤ mp) (h : mp ≤ 11) :
    marchMonth (civilMonth mp) = mp := by
  unfold marchMonth civilMonth
  split <;> split <;> omega

lemma daysBeforeYear_succ (y : Int) :
    daysBeforeYear (y + 1) = daysBeforeYear y + if IsLeap y then 366 else 365 := by
  unfold daysBeforeYear
  by_cases hleap : IsLeap y
  · rw [if_pos hleap]
    unfold IsLeap at hleap
    omega
  · rw [if_neg hleap]
    unfold IsLeap at hleap
    omega

/-- The first day of a year of an era is 306 days before the first day of the civil year. -/
lemma yearStart_era (y : Int) : y / 400 * 146097 + yearStart (y % 400) = daysBeforeYear (y + 1) := by
  unfold yearStart daysBeforeYear
  omega

/-- The months before a month: from March on they follow the leap day. -/
lemma daysOfMonths_eq {y m : Int} (h1 : 1 ≤ m) (h : m ≤ 12) :
    daysOfMonths y (m.toNat - 1) = monthStart (marchMonth m) +
      if m ≤ 2 then -306 else if IsLeap y then 60 else 59 := by
  unfold marchMonth monthStart
  interval_cases m <;> simp [daysOfMonths, monthLength] <;> split <;> rfl

/-- The day number by the era, the year of the era, the month and the day of the month. -/
theorem dayNumber_eq {y m : Int} (h1 : 1 ≤ m) (h : m ≤ 12) (d : Int) :
    dayNumber y m d = marchYear y m / 400 * 146097 +
      (yearStart (marchYear y m % 400) + (monthStart (marchMonth m) + (d - 1))) - 719468 := by
  have hera := yearStart_era (marchYear y m)
  have hepoch : daysBeforeYear 1970 = 719468 - 306 := by decide
  unfold dayNumber
  rw [← add_assoc, hera, daysOfMonths_eq h1 h, hepoch]
  unfold marchYear
  by_cases hm : m ≤ 2
  · rw [if_pos hm, if_pos hm, sub_add_cancel]
    omega
  · rw [if_neg hm, if_neg hm, daysBeforeYear_succ]
    split <;> omega

end Gregorian
