import Kanban.Json.Display
import Kanban.Yaml.Value

/-!
# YAML values in messages

How a message shows a value: a text as it is, a date and a time as they are usually written, and
anything else as `None`, `True`, `[1, 'a']`, `{'a': 1}`, `b'a'` and so on.  A value in which
an integer is too long cannot be shown.
-/

namespace Kanban.Yaml.Value

/-- A byte between two quotes of the kind `quote`. -/
def quotedByte (quote : Point) (b : UInt8) : List Point :=
  let c := Point.ofNat b.toNat
  if c = quote ∨ c = '\\' ∨ c = '\n' ∨ c = '\r' ∨ c = '\t' ∨ b.toNat < 0x80 then
    Text.quotedChar quote c
  else Text.escapeCode b.toNat

/-- Bytes between quotes. -/
def quotedBytes (bs : List UInt8) : List Point :=
  let quote := Text.quoteFor (bs.map fun b => Point.ofNat b.toNat)
  Point.char 'b' :: quote :: bs.flatMap (quotedByte quote) ++ [quote]

/-- A name and its arguments, with commas between them, in brackets. -/
def call (name : Text) (arguments : List Text) : List Point :=
  (name ++ "(" ++ Text.intercalate ", " arguments ++ ")").toList

/-- A whole number as an argument. -/
def argument (n : Nat) : Text := Text.ofList (Number.digits n)

/-- A time in microseconds, as a message shows it: in days and seconds of a day. -/
def displayOffset (o : Int) : List Point :=
  let seconds := o / Moment.second
  let (days, rest) := (seconds / 86400, seconds % 86400)
  let part (name : Text) (n : Int) : List Text :=
    if n = 0 then [] else [name ++ Text.ofList (Number.intChars n)]
  match part "days=" days ++ part "seconds=" rest with
  | [] => call "datetime.timedelta" ["0"]
  | parts => call "datetime.timedelta" parts

/-- The clock of a moment in a message. -/
def displayZone (o : Int) : Text :=
  if o = 0 then "datetime.timezone.utc"
  else Text.ofList (call "datetime.timezone" [Text.ofList (displayOffset o)])

/-- A date as a message shows it inside of something. -/
def displayDate (d : Date) : List Point :=
  call "datetime.date" [argument d.year, argument d.month, argument d.day]

/-- A moment as a message shows it inside of something. -/
def displayMoment (m : Moment) : List Point :=
  let d := Date.ofDay (m.wall / Moment.day)
  let s := m.wall % Moment.day / Moment.second
  let fine : List Nat :=
    if m.micros = 0 then if s % 60 = 0 then [] else [s % 60] else [s % 60, m.micros]
  let zone : List Text := (m.offset.map fun o => "tzinfo=" ++ displayZone o).toList
  call "datetime.datetime"
    (([d.year, d.month, d.day, s / 3600, s / 60 % 60] ++ fine).map argument ++ zone)

mutual

/-- The characters with which a message shows a value inside of something. -/
def displayChars : Value → List Point
  | .null => ("None" : Text).toList
  | .bool b => (if b then ("True" : Text) else "False").toList
  | .num n => n.chars Number.messageLayout
  | .str s => Text.quoted s.toList
  | .bytes bs => quotedBytes bs
  | .date d => displayDate d
  | .moment m => displayMoment m
  | .list items => Point.char '[' :: displayItems items ++ [.char ']']
  | .pair a b =>
    Point.char '(' :: displayChars a ++ Point.char ',' :: ' ' :: displayChars b ++ [.char ')']
  | .map members => Point.char '{' :: displayMembers members ++ [.char '}']
  | .set items =>
    if items.isEmpty then ("set()" : Text).toList
    else Point.char '{' :: displayItems items ++ [.char '}']

/-- The items of a list, with commas between them. -/
def displayItems : List Value → List Point
  | [] => []
  | [v] => displayChars v
  | v :: w :: rest => displayChars v ++ Point.char ',' :: ' ' :: displayItems (w :: rest)

/-- The members of a mapping, with commas between them. -/
def displayMembers : List (Value × Value) → List Point
  | [] => []
  | [(k, v)] => displayChars k ++ Point.char ':' :: ' ' :: displayChars v
  | (k, v) :: m :: rest =>
    displayChars k ++ Point.char ':' :: ' ' :: displayChars v
      ++ Point.char ',' :: ' ' :: displayMembers (m :: rest)

end

mutual

/-- No integer in a value is too long to be written. -/
def isShort : Value → Bool
  | .num n => n.isShort
  | .list items => areShort items
  | .pair a b => a.isShort && b.isShort
  | .map members => areShortMembers members
  | .set items => areShort items
  | _ => true

/-- No integer in the items of a list is too long to be written. -/
def areShort : List Value → Bool
  | [] => true
  | v :: vs => v.isShort && areShort vs

/-- No integer in the members of a mapping is too long to be written. -/
def areShortMembers : List (Value × Value) → Bool
  | [] => true
  | (k, v) :: rest => k.isShort && v.isShort && areShortMembers rest

end

/-- The text of a value inside a message; none when an integer is too long. -/
def plain? (v : Value) : Option Text :=
  match v with
  | .str s => some s
  | .date d => some (Text.ofList ((Moment.wallChars ⟨d.toDay * Moment.day, none⟩).take 10))
  | .moment m =>
    some (Text.ofList (m.isoChars.map fun c => if c = .char 'T' then .char ' ' else c))
  | v => if v.isShort then some (Text.ofList v.displayChars) else none

end Kanban.Yaml.Value
