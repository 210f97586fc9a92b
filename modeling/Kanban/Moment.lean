import Kanban.Date
import Kanban.Number.Layout

/-!
# Moments

A `Moment` is what a clock on the wall shows, to the microsecond, and how far that clock is
ahead of UTC, where this is known.  Moments are compared by `Moment.instant`, the same time
on a clock in UTC; a clock of unknown offset is taken to show UTC.  `Moment.stamp` is the
text that the board writes for a moment and `Moment.isoChars` the full one.
-/

namespace Kanban

/-- A clock's reading and its offset from UTC, both in microseconds. -/
structure Moment where
  /-- The time since the start of the year 1. -/
  wall : Nat
  /-- How far the clock is ahead of UTC. -/
  offset : Option Int
  deriving DecidableEq

namespace Moment

/-- The microseconds of a second. -/
def second : Nat := 1000000

/-- The microseconds of a day. -/
def day : Nat := 86400 * second

/-- The time at which the calendar ends. -/
def wallEnd : Nat := Date.dayCount * day

/-- The time in UTC. -/
def instant (m : Moment) : Int := m.wall - m.offset.getD 0

/-- The moment with UTC in place of an unknown offset. -/
def settled (m : Moment) : Moment := { m with offset := some (m.offset.getD 0) }

/-- The moment a number of days later; `none` when the calendar has ended or not begun. -/
def addDays? (m : Moment) (days : Int) : Option Moment :=
  let wall := m.wall + days * day
  if 0 ≤ wall ∧ wall < wallEnd then some { m with wall := wall.toNat } else none

/-- The same instant on a clock in UTC; `none` when it lies outside of the calendar. -/
def toUtc? (m : Moment) : Option Moment :=
  if 0 ≤ m.instant ∧ m.instant < wallEnd then some ⟨m.instant.toNat, some 0⟩ else none

/-! ### Text -/

/-- A number in at least two digits. -/
def two (n : Nat) : List Point := Number.paddedDigits 2 n

/-- The date and the time of day, to the second. -/
def wallChars (m : Moment) : List Point :=
  let d := Date.ofDay (m.wall / day)
  let s := m.wall % day / second
  Number.paddedDigits 4 d.year ++ Point.char '-' :: two d.month ++ Point.char '-' :: two d.day
    ++ Point.char 'T' :: two (s / 3600) ++ Point.char ':' :: two (s / 60 % 60)
    ++ Point.char ':' :: two (s % 60)

/-- The microseconds after the full second. -/
def micros (m : Moment) : Nat := m.wall % second

/-- A number of microseconds after a point, or nothing for zero. -/
def fractionChars (n : Nat) : List Point :=
  if n = 0 then [] else '.' :: Number.paddedDigits 6 n

/-- The offset from its minutes on, after the sign and the hours. -/
def offsetTail (n : Nat) : List Point :=
  let s := n / second
  if s % 60 = 0 ∧ n % second = 0 then []
  else Point.char ':' :: two (s % 60) ++ fractionChars (n % second)

/-- The sign of an offset and its hours and minutes. -/
def offsetHead (o : Int) : List Point :=
  let s := o.natAbs / second
  (if o < 0 then Point.char '-' else .char '+') :: two (s / 3600)
    ++ Point.char ':' :: two (s / 60 % 60)

/-- An offset: hours and minutes, and what is finer only where it is not zero. -/
def offsetChars (o : Int) : List Point := offsetHead o ++ offsetTail o.natAbs

/-- The full text of a moment; a fraction stands only where it is not zero. -/
def isoChars (m : Moment) : List Point :=
  wallChars m ++ fractionChars m.micros
    ++ match m.offset with
      | some o => offsetChars o
      | none => []

/-- An offset in a stamp, where no hours and no minutes ahead are written `Z`. -/
def stampOffset (o : Int) : List Point :=
  if offsetHead o = ("+00:00" : Text).toList then 'Z' :: offsetTail o.natAbs
  else offsetChars o

/-- The characters of a stamp: the time to the millisecond, cut off, and the offset. -/
def stampChars (m : Moment) : List Point :=
  wallChars m ++ Point.char '.' :: Number.paddedDigits 3 (m.micros / 1000)
    ++ match m.offset with
      | some o => stampOffset o
      | none => []

/-- The text that the board writes for a moment. -/
def stamp (m : Moment) : Text := Text.ofList m.stampChars

end Moment

end Kanban
