import Kanban.Yaml.Value

/-!
# Times in YAML

A date is a year, a month and a day with hyphens between them.  A time of day may follow after
a letter `T` or blanks: hours, minutes and seconds with colons, a fraction after a point, and
after further blanks a letter `Z` or how far the clock is ahead of UTC.  Of the fraction six
digits count.
-/

namespace Kanban.Yaml

/-- A time of day as it is spelt. -/
structure DayTime where
  hour : Nat
  minute : Nat
  second : Nat
  micros : Nat
  /-- How many minutes the clock is ahead of UTC. -/
  ahead : Option Int

/-- A time as it is spelt. -/
structure Time where
  date : Date
  dayTime : Option DayTime

namespace Time

/-- The number in one or two digits at the start of a text, and the rest. -/
def short? : List Char → Option (Nat × List Char)
  | [] => none
  | c :: cs =>
    if c.isDigit then
      match cs with
      | d :: rest =>
        if d.isDigit then some (10 * (c.toNat - '0'.toNat) + (d.toNat - '0'.toNat), rest)
        else some (c.toNat - '0'.toNat, cs)
      | [] => some (c.toNat - '0'.toNat, [])
    else none

/-- The number in two digits at the start of a text, and the rest. -/
def two? (cs : List Char) : Option (Nat × List Char) :=
  if (cs.take 2).length = 2 ∧ (cs.take 2).all Char.isDigit then short? cs else none

/-- The rest of a text behind a character. -/
def skip? (c : Char) : List Char → Option (List Char)
  | d :: cs => if d = c then some cs else none
  | [] => none

/-- A blank or a tab. -/
def isBlank (c : Char) : Bool := c == ' ' || c == '\t'

/-- The date at the start of a text, and the rest. -/
def date? (cs : List Char) : Option (Date × List Char) := do
  let (century, cs) ← two? cs
  let (year, cs) ← two? cs
  let (month, cs) ← short? (← skip? '-' cs)
  let (day, cs) ← short? (← skip? '-' cs)
  pure (⟨100 * century + year, month, day⟩, cs)

/-- The rest of a text behind what stands between a date and a time of day. -/
def skipSeparator? : List Char → Option (List Char)
  | [] => none
  | c :: cs =>
    if c = 'T' ∨ c = 't' then some cs
    else if isBlank c then some (cs.dropWhile isBlank)
    else none

/-- The microseconds that the digits of a fraction write. -/
def microsOf (ds : List Char) : Nat :=
  ((ds ++ List.replicate 6 '0').take 6).foldl (fun n c => 10 * n + (c.toNat - '0'.toNat)) 0

/-- The fraction at the start of a text, if a point stands there, and the rest. -/
def fraction : List Char → Nat × List Char
  | '.' :: cs => (microsOf (cs.takeWhile Char.isDigit), cs.dropWhile Char.isDigit)
  | cs => (0, cs)

/-- The minutes behind the hours of an offset, which end the text. -/
def offsetMinutes? : List Char → Option Nat
  | [] => some 0
  | cs => do
    let (minutes, rest) ← two? (← skip? ':' cs)
    guard rest.isEmpty
    pure minutes

/-- The offset that is the rest of a text, if there is one. -/
def ahead? (cs : List Char) : Option (Option Int) :=
  if cs.isEmpty then some none
  else
    match cs.dropWhile isBlank with
    | ['Z'] => some (some 0)
    | s :: cs => do
      guard (s = '+' ∨ s = '-')
      let (hours, cs) ← short? cs
      let n : Int := 60 * hours + (← offsetMinutes? cs)
      pure (some (if s = '-' then -n else n))
    | [] => none

/-- The time of day that is the rest of a text. -/
def dayTime? (cs : List Char) : Option DayTime := do
  let (hour, cs) ← short? cs
  let (minute, cs) ← two? (← skip? ':' cs)
  let (second, cs) ← two? (← skip? ':' cs)
  let (micros, cs) := fraction cs
  pure ⟨hour, minute, second, micros, ← ahead? cs⟩

/-- The time that a text spells. -/
def ofChars? (cs : List Char) : Option Time := do
  let (date, rest) ← date? cs
  if rest.isEmpty then pure ⟨date, none⟩
  else pure ⟨date, some (← dayTime? (← skipSeparator? rest))⟩

/-- The text spells a time, and all numbers of a date that stands alone have two digits. -/
def isSpelling (cs : List Char) : Bool :=
  match ofChars? cs with
  | some t => t.dayTime.isSome || cs.length == 10
  | none => false

/-- The minutes of a day. -/
def dayMinutes : Nat := 24 * 60

/-- There is such a time of day. -/
def DayTime.isFit (d : DayTime) : Bool :=
  d.hour < 24 && d.minute < 60 && d.second < 60
    && d.ahead.all fun n => n.natAbs < dayMinutes

/-- The moment that a time of day makes of a date. -/
def DayTime.moment (d : DayTime) (date : Date) : Moment where
  wall := date.toDay * Moment.day + (d.hour * 3600 + d.minute * 60 + d.second) * Moment.second
    + d.micros
  offset := d.ahead.map (· * 60 * Moment.second)

/-- The value of a time; none when it is not in the calendar. -/
def value? (t : Time) : Option Value :=
  if t.date.Valid then
    match t.dayTime with
    | none => some (.date t.date)
    | some d => if DayTime.isFit d then some (.moment (DayTime.moment d t.date)) else none
  else none

end Time

end Kanban.Yaml
