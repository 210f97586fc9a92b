import Kanban.Text

/-!
# Dates

The days of the Gregorian calendar from 1 January of the year 1 to 31 December of the year
9999.  `Date.toDay` numbers them from zero and `Date.ofDay` gives them back; the day zero is
a Monday.  `Date.ofWeek?` finds the days of a year's weeks, the first of which is the one
that holds 4 January.
-/

namespace Kanban

/-- A year, a month and a day of the month. -/
structure Date where
  year : Nat
  month : Nat
  day : Nat
  deriving DecidableEq

namespace Date

/-- A year with a 29 February. -/
def isLeap (year : Nat) : Bool :=
  year % 4 == 0 && (year % 100 != 0 || year % 400 == 0)

/-- The lengths of the months of a year. -/
def monthLengths (year : Nat) : List Nat :=
  [31, if isLeap year then 29 else 28, 31, 30, 31, 30, 31, 31, 30, 31, 30, 31]

/-- The last year of the calendar. -/
def maxYear : Nat := 9999

/-- A day of the calendar. -/
def Valid (d : Date) : Prop :=
  1 ≤ d.year ∧ d.year ≤ maxYear ∧ 1 ≤ d.month ∧ 1 ≤ d.day
    ∧ d.day ≤ ((monthLengths d.year)[d.month - 1]?).getD 0

instance (d : Date) : Decidable d.Valid :=
  inferInstanceAs (Decidable (_ ∧ _ ∧ _ ∧ _ ∧ _))

/-- The number of the first day of a year. -/
def yearStart (year : Nat) : Nat :=
  let y := year - 1
  365 * y + y / 4 - y / 100 + y / 400

/-- The number of days in the calendar. -/
def dayCount : Nat := yearStart (maxYear + 1)

/-- The number of a day. -/
def toDay (d : Date) : Nat :=
  yearStart d.year + ((monthLengths d.year).take (d.month - 1)).foldl (· + ·) 0 + (d.day - 1)

/-- The year of a day number.  The mean length of a year puts it within one. -/
def yearOf (n : Nat) : Nat :=
  let y := n * 400 / 146097 + 1
  if n < yearStart y then y - 1
  else if yearStart (y + 1) ≤ n then y + 1
  else y

/-- How many of the given months have passed after `n` days, and the days since. -/
def passMonths : List Nat → Nat → Nat × Nat
  | [], n => (0, n)
  | l :: ls, n =>
    if n < l then (0, n)
    else
      let (passed, rest) := passMonths ls (n - l)
      (passed + 1, rest)

/-- The day of a number. -/
def ofDay (n : Nat) : Date :=
  let year := yearOf n
  let (passed, rest) := passMonths (monthLengths year) (n - yearStart year)
  ⟨year, passed + 1, rest + 1⟩

/-! ### Weeks -/

/-- The weekday of a day number, zero for Monday. -/
def weekday (n : Nat) : Nat := n % 7

/-- The Monday of the first week of a year. -/
def firstMonday (year : Nat) : Nat :=
  let n := yearStart year + 3
  n - weekday n

/-- The number of weeks of a year: 53 when it starts on a Thursday, or on a Wednesday and is
a leap year. -/
def weekCount (year : Nat) : Nat :=
  let first := weekday (yearStart year)
  if first = 3 ∨ (first = 2 ∧ isLeap year) then 53 else 52

/-- The day of a year's week, both counted from one. -/
def ofWeek? (year week day : Nat) : Option Date :=
  if 1 ≤ year ∧ 1 ≤ week ∧ week ≤ weekCount year ∧ 1 ≤ day ∧ day ≤ 7 then
    some (ofDay (firstMonday year + (week - 1) * 7 + (day - 1)))
  else none

end Date

end Kanban
