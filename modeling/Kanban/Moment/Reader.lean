import Kanban.Moment
import Kanban.Text.Blank

/-!
# Reading moments

Dates are written `2025-03-01` or `20250301`, or by weeks `2025-W09`, `2025-W09-6`,
`2025W09`, `2025W096`.  A time of day may follow, after one character of any kind: hours,
minutes and seconds with colons throughout or not at all, then a fraction of a second after
a point or comma, of which six digits count; then an offset, which is a sign and a time of
the same form.  A null character ends the text, but no lone half of a surrogate pair may stand
anywhere behind the character in front of the time.  A time before an offset may leave something
unread between the two, where the reading of a time stops early; `Clock.read?` returns what
it leaves.  `Moment.ofText?` reads the texts that tasks and audit entries hold.
-/

namespace Kanban

/-- A character that is an ASCII digit has a value. -/
def asciiDigit? (c : Point) : Option Nat :=
  if '0' ≤ c ∧ c ≤ '9' then some (c.toNat - '0'.toNat) else none

/-- The number in the first `n` characters, which have to be ASCII digits, and the rest. -/
def takeDigits? : Nat → List Point → Option (Nat × List Point)
  | n, cs => do
    guard (n ≤ cs.length)
    let v ← (cs.take n).foldlM (fun v c => (asciiDigit? c).map (10 * v + ·)) 0
    pure (v, cs.drop n)

/-- A null character ends a text. -/
def atEnd : List Point → Bool
  | [] => true
  | c :: _ => c == '\x00'

/-! ### Dates -/

namespace Date

/-- How many characters of a text are its date, judged by where hyphens, the week mark and
digits stand. -/
def width (cs : List Point) : Nat :=
  let hyphen i := cs[i]? == some (.char '-')
  let week i := cs[i]? == some (.char 'W')
  let digit i := (cs[i]?.bind asciiDigit?).isSome
  if cs.length = 7 then 7
  else if hyphen 4 then
    if week 5 then if hyphen 8 && !digit 10 then 10 else 8
    else 10
  else if week 4 then
    match (cs.drop 7).takeWhile (fun c => (asciiDigit? c).isSome) |>.length with
    | 0 => 7
    | 1 => 8
    | n => if n % 2 = 0 then 8 else 7
  else 8

/-- A hyphen, if the date is written with them. -/
def skipHyphen? (hyphens : Bool) (cs : List Point) : Option (List Point) :=
  if hyphens then
    match cs with
    | .char '-' :: rest => some rest
    | _ => none
  else some cs

/-- The rest of a date by weeks, after the week mark. -/
def readWeek? (year : Nat) (hyphens : Bool) (cs : List Point) : Option Date := do
  let (week, cs) ← takeDigits? 2 cs
  if cs.isEmpty then ofWeek? year week 1
  else
    let (day, _) ← takeDigits? 1 (← skipHyphen? hyphens cs)
    ofWeek? year week day

/-- The rest of a date by months, after the year. -/
def readMonth? (year : Nat) (hyphens : Bool) (cs : List Point) : Option Date := do
  let (month, cs) ← takeDigits? 2 cs
  let (day, _) ← takeDigits? 2 (← skipHyphen? hyphens cs)
  pure ⟨year, month, day⟩

/-- The date that a text is. -/
def read? (cs : List Point) : Option Date := do
  let (year, cs) ← takeDigits? 4 cs
  let hyphens := cs.head? == some (.char '-')
  let cs := if hyphens then cs.drop 1 else cs
  let d ← match cs with
    | .char 'W' :: cs => readWeek? year hyphens cs
    | cs => readMonth? year hyphens cs
  guard (decide d.Valid)
  pure d

end Date

/-! ### Times of day and offsets -/

/-- Hours, minutes, seconds and microseconds, as written. -/
structure Clock where
  hours : Nat
  minutes : Nat
  seconds : Nat
  micros : Nat

namespace Clock

/-- A time of day. -/
def Valid (c : Clock) : Prop := c.hours < 24 ∧ c.minutes < 60 ∧ c.seconds < 60

instance (c : Clock) : Decidable c.Valid := inferInstanceAs (Decidable (_ ∧ _ ∧ _))

/-- The time in seconds, without the microseconds. -/
def toSeconds (c : Clock) : Nat := c.hours * 3600 + c.minutes * 60 + c.seconds

/-- The clock with the two-digit parts read so far, last first. -/
def ofParts (parts : List Nat) (micros : Nat) : Clock :=
  match parts.reverse with
  | h :: m :: s :: _ => ⟨h, m, s, micros⟩
  | [h, m] => ⟨h, m, 0, micros⟩
  | [h] => ⟨h, 0, 0, micros⟩
  | [] => ⟨0, 0, 0, micros⟩

/-- A fraction: six digits, or all that is left if that is less.  Further digits are passed
over. -/
def readFraction? (parts : List Nat) (cs : List Point) : Option (Clock × List Point) := do
  let n := min 6 cs.length
  let (v, rest) ← takeDigits? n cs
  pure (ofParts parts (v * Nat.pow 10 (6 - n)), rest.dropWhile fun c => (asciiDigit? c).isSome)

/-- The two-digit parts of a time, `left` more after the next one, and then the fraction.
`colons` says whether colons stand between the parts, once the first separator has shown
it.  A single ASCII character after a part is left unread. -/
def readParts? : (left : Nat) → (colons : Option Bool) → (parts : List Nat) → List Point →
    Option (Clock × List Point)
  | left, colons, parts, cs => do
    let (v, rest) ← takeDigits? 2 cs
    let parts := v :: parts
    match rest with
    | [] => pure (ofParts parts 0, [])
    | [c] => if c.toNat < 0x80 then pure (ofParts parts 0, [c]) else none
    | c :: rest =>
      let colons := colons.getD (c == ':')
      let next (cs : List Point) : Option (Clock × List Point) :=
        match left with
        | 0 => readFraction? parts cs
        | left + 1 => readParts? left (some colons) parts cs
      if colons && c == ':' then next rest
      else if c = '.' ∨ c = ',' then readFraction? parts rest
      else if colons then none
      else next (c :: rest)

/-- The time that a text starts with, and what is left unread. -/
def read? (cs : List Point) : Option (Clock × List Point) := readParts? 2 none [] cs

end Clock

namespace Moment

/-- A character with which an offset starts. -/
def startsOffset (c : Point) : Bool := c == '+' || c == '-' || c == 'Z'

/-- The offset that a text is, in microseconds. -/
def readOffset? : List Point → Option Int
  | [] => none
  | c :: cs =>
    if c = 'Z' then if atEnd cs then some 0 else none
    else do
      let (clock, rest) ← Clock.read? cs
      guard (atEnd rest)
      let size : Int := if clock.toSeconds = 0 then 0 else clock.toSeconds * second + clock.micros
      guard (size < day)
      pure (if c = '-' then -size else size)

/-- The time of day that a text is, in microseconds, and the offset after it. -/
def readTime? (cs : List Point) : Option (Nat × Option Int) := do
  let (time, zone) := cs.span (!startsOffset ·)
  let (clock, rest) ← Clock.read? time
  guard (decide clock.Valid)
  let micros := clock.toSeconds * second + clock.micros
  if zone.isEmpty then
    guard (atEnd rest)
    pure (micros, none)
  else pure (micros, some (← readOffset? zone))

/-- The moment that a text is.  Without a time it is the start of the day. -/
def ofIso? (cs : List Point) : Option Moment := do
  guard (7 ≤ cs.length)
  let width := Date.width cs
  let date ← Date.read? (cs.take width)
  match cs.drop width with
  | [] => pure ⟨date.toDay * day, none⟩
  | _ :: cs =>
    guard (cs.all Point.isChar)
    let (micros, offset) ← readTime? cs
    pure ⟨date.toDay * day + micros, offset⟩

/-- A text with the mark `Z` at its end written as an offset. -/
def spellUtc (cs : List Point) : List Point :=
  match cs.getLast? with
  | some (.char 'Z') => cs.dropLast ++ ("+00:00" : Text).toList
  | some (.char 'z') => cs.dropLast ++ ("+00:00" : Text).toList
  | _ => cs

/-- The moment that a text in a task or audit entry denotes.  Blanks around it are ignored,
and a time without offset is in UTC. -/
def ofText? (s : Text) : Option Moment :=
  (ofIso? (spellUtc (Text.trim s.toList))).map settled

end Moment

end Kanban
