import Kanban.Date
import Mathlib

/-!
# Dates and day numbers

Every day number below `Date.dayCount` is that of exactly one date: `Date.ofDay` gives a valid
date (`Date.ofDay_valid`) and `Date.toDay` gives the number back (`Date.toDay_ofDay`).
-/

namespace Kanban.Date

/-- The number of days of a year. -/
def yearLength (year : Nat) : Nat := if isLeap year then 366 else 365

theorem yearStart_succ {year : Nat} (h : 1 ≤ year) :
  yearStart (year + 1) = yearStart year + yearLength year
  := by
  obtain ⟨y, rfl⟩ := Nat.exists_eq_add_of_le' h
  have hleap : isLeap (y + 1) = true ↔ 4 ∣ y + 1 ∧ (¬ 100 ∣ y + 1 ∨ 400 ∣ y + 1) := by
    simp [isLeap, Nat.dvd_iff_mod_eq_zero]
  have h100 : 100 ∣ y + 1 → 4 ∣ y + 1 := fun h => Nat.dvd_trans (by decide) h
  have h400 : 400 ∣ y + 1 → 100 ∣ y + 1 := fun h => Nat.dvd_trans (by decide) h
  have hle : y / 100 ≤ y := Nat.div_le_self y 100
  unfold yearStart yearLength
  simp only [Nat.add_sub_cancel]
  rw [if_congr hleap rfl rfl, Nat.succ_div, Nat.succ_div, Nat.succ_div]
  generalize y / 4 = a, y / 100 = b, y / 400 = c at *
  by_cases h₄ : 4 ∣ y + 1
  · by_cases h₁ : 100 ∣ y + 1
    · by_cases h₂ : 400 ∣ y + 1
      · simp only [h₄, h₁, h₂, ↓reduceIte, not_true_eq_false, or_true, and_true]
        omega
      · simp only [h₄, h₁, h₂, ↓reduceIte, not_true_eq_false, or_self, and_false]
        omega
    · have h₂ : ¬ 400 ∣ y + 1 := fun h => h₁ (h400 h)
      simp only [h₄, h₁, h₂, ↓reduceIte, not_false_eq_true, true_or, and_true]
      omega
  · have h₁ : ¬ 100 ∣ y + 1 := fun h => h₄ (h100 h)
    have h₂ : ¬ 400 ∣ y + 1 := fun h => h₁ (h400 h)
    simp only [h₄, h₁, h₂, ↓reduceIte, false_and]
    omega

/-- The year of a day number is the one in which the day lies. -/
theorem yearOf_spec (n : Nat) :
  1 ≤ yearOf n ∧ yearStart (yearOf n) ≤ n ∧ n < yearStart (yearOf n + 1)
  := by
  unfold yearOf
  dsimp only
  split_ifs with hlow hhigh <;> simp only [yearStart] at * <;> omega

theorem yearOf_le_maxYear {n : Nat} (h : n < dayCount) :
  yearOf n ≤ maxYear
  := by
  obtain ⟨-, hstart, -⟩ := yearOf_spec n
  by_contra hlate
  have : dayCount ≤ yearStart (yearOf n) := by
    simp only [dayCount, yearStart, maxYear] at *
    omega
  omega

theorem sum_monthLengths (year : Nat) :
  (monthLengths year).sum = yearLength year
  := by
  rw [monthLengths, yearLength]
  split_ifs <;> rfl

/-- Days that fill no list of months end within one of them. -/
theorem passMonths_spec {ls : List Nat} {n : Nat} (h : n < ls.sum) :
  ∃ p r, passMonths ls n = (p, r) ∧ p < ls.length ∧ r < (ls[p]?).getD 0
    ∧ (ls.take p).sum + r = n
  := by
  induction ls generalizing n with
  | nil => simp at h
  | cons l ls ih =>
      rw [passMonths]
      split_ifs with hl
      · refine ⟨0, n, rfl, by simp, by simpa using hl, by simp⟩
      · rw [List.sum_cons] at h
        obtain ⟨p, r, hpass, hp, hr, hsum⟩ := ih (n := n - l) (by omega)
        refine ⟨p + 1, r, by rw [hpass], ?_, ?_, ?_⟩
        · simpa using hp
        · simpa using hr
        · simp only [List.take_succ_cons, List.sum_cons]
          omega

/-- The parts of the date of a day number. -/
theorem ofDay_spec (n : Nat) :
  ∃ p r, ofDay n = ⟨yearOf n, p + 1, r + 1⟩ ∧ p < 12
    ∧ r < ((monthLengths (yearOf n))[p]?).getD 0
    ∧ yearStart (yearOf n) + ((monthLengths (yearOf n)).take p).sum + r = n
  := by
  obtain ⟨hyear, hstart, hend⟩ := yearOf_spec n
  rw [yearStart_succ hyear] at hend
  have hrest : n - yearStart (yearOf n) < (monthLengths (yearOf n)).sum := by
    rw [sum_monthLengths]
    omega
  obtain ⟨p, r, hpass, hp, hr, hsum⟩ := passMonths_spec hrest
  refine ⟨p, r, ?_, hp, hr, by omega⟩
  rw [ofDay]
  dsimp only
  rw [hpass]

/-- The dates of the calendar's days are valid. -/
theorem ofDay_valid {n : Nat} (h : n < dayCount) :
  (ofDay n).Valid
  := by
  obtain ⟨p, r, hday, -, hr, -⟩ := ofDay_spec n
  rw [hday]
  refine ⟨(yearOf_spec n).1, yearOf_le_maxYear h, by simp, by simp, ?_⟩
  simpa [Nat.succ_le_iff] using hr

/-- A day number comes back from its date. -/
theorem toDay_ofDay (n : Nat) :
  (ofDay n).toDay = n
  := by
  obtain ⟨p, r, hday, -, -, hsum⟩ := ofDay_spec n
  rw [hday]
  rw [toDay]
  rw [← List.sum_eq_foldl]
  simpa using hsum

/-- A month has at most 31 days. -/
theorem monthLengths_le (year i : Nat) :
  ((monthLengths year)[i]?).getD 0 ≤ 31
  := by
  rw [monthLengths]
  rcases lt_or_ge i 12 with h | h
  · interval_cases i <;> simp
    split_ifs <;> omega
  · simp [List.getElem?_eq_none_iff.mpr (show [31, if isLeap year then 29 else 28, 31, 30, 31, 30,
      31, 31, 30, 31, 30, 31].length ≤ i from h)]

/-- A valid date is written with four digits for the year and two for the month and day. -/
theorem Valid.bounds {d : Date} (h : d.Valid) :
  d.year < 10000 ∧ d.month < 100 ∧ d.day < 100
  := by
  obtain ⟨-, hyear, -, hday, hlast⟩ := h
  have hmonth : d.month - 1 < 12 := by
    by_contra hlate
    rw [List.getElem?_eq_none_iff.mpr (by simpa [monthLengths] using hlate), Option.getD_none]
      at hlast
    omega
  have := monthLengths_le d.year (d.month - 1)
  rw [maxYear] at hyear
  omega

end Kanban.Date
