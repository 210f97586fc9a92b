import Kanban.Json
import Kanban.Number.Layout
import Kanban.Text.Quoted

/-!
# Writing JSON

The text of a value.  `Json.write? none` puts everything on one line, with a blank after each
comma and colon; `Json.write? (some n)` puts every item and member on a line of its own,
indented by `n` for each level.  Empty arrays and objects are written without a line break.
In strings only quotes, backslashes and control characters are escaped.  A value in which an
integer is too long (`Json.isShort`) has no text.
-/

namespace Kanban

/-- The layout of numbers in JSON text. -/
def Number.jsonLayout : Number.Layout :=
  ⟨-4, 16, 2, "NaN", "Infinity"⟩

namespace Json

/-- A character inside a JSON string. -/
def escaped (c : Point) : List Point :=
  if c = '"' then ['\\', '"']
  else if c = '\\' then ['\\', '\\']
  else if c = '\n' then ['\\', 'n']
  else if c = '\r' then ['\\', 'r']
  else if c = '\t' then ['\\', 't']
  else if c = '\x08' then ['\\', 'b']
  else if c = '\x0c' then ['\\', 'f']
  else if c.toNat < 0x20 then '\\' :: 'u' :: Text.hexDigits 4 c.toNat
  else [c]

/-- A text as a JSON string. -/
def stringChars (s : Text) : List Point :=
  Point.char '"' :: s.toList.flatMap escaped ++ [.char '"']

/-- What stands in front of an item at a level: nothing, or a line break and the indent. -/
def lineBreak (indent : Option Nat) (level : Nat) : List Point :=
  match indent with
  | none => []
  | some n => '\n' :: List.replicate (n * level) ' '

/-- What stands between two items at a level. -/
def separator (indent : Option Nat) (level : Nat) : List Point :=
  match indent with
  | none => [',', ' ']
  | some _ => ',' :: lineBreak indent level

mutual

/-- The characters of a value whose own line stands at the given level. -/
def writeChars (indent : Option Nat) (level : Nat) : Json → List Point
  | .null => ("null" : Text).toList
  | .bool true => ("true" : Text).toList
  | .bool false => ("false" : Text).toList
  | .num n => n.chars Number.jsonLayout
  | .str s => stringChars s
  | .arr [] => ['[', ']']
  | .arr (x :: xs) =>
    Point.char '[' :: lineBreak indent (level + 1) ++ writeItems indent (level + 1) (x :: xs)
      ++ lineBreak indent level ++ [.char ']']
  | .obj [] => ['{', '}']
  | .obj (m :: ms) =>
    Point.char '{' :: lineBreak indent (level + 1) ++ writeMembers indent (level + 1) (m :: ms)
      ++ lineBreak indent level ++ [.char '}']

/-- The items of an array. -/
def writeItems (indent : Option Nat) (level : Nat) : List Json → List Point
  | [] => []
  | [x] => writeChars indent level x
  | x :: y :: rest =>
    writeChars indent level x ++ separator indent level ++ writeItems indent level (y :: rest)

/-- The members of an object. -/
def writeMembers (indent : Option Nat) (level : Nat) : List (Text × Json) → List Point
  | [] => []
  | [(k, v)] => stringChars k ++ Point.char ':' :: ' ' :: writeChars indent level v
  | (k, v) :: m :: rest =>
    stringChars k ++ Point.char ':' :: ' ' :: writeChars indent level v ++ separator indent level
      ++ writeMembers indent level (m :: rest)

end

mutual

/-- No integer in a value is too long to be written. -/
def isShort : Json → Bool
  | .num n => n.isShort
  | .arr items => areShort items
  | .obj members => areShortMembers members
  | _ => true

/-- No integer in the items of an array is too long to be written. -/
def areShort : List Json → Bool
  | [] => true
  | v :: vs => v.isShort && areShort vs

/-- No integer in the members of an object is too long to be written. -/
def areShortMembers : List (Text × Json) → Bool
  | [] => true
  | (_, v) :: rest => v.isShort && areShortMembers rest

end

/-- The text of a value, on one line or indented; none when an integer is too long. -/
def write? (indent : Option Nat) (v : Json) : Option Text :=
  if v.isShort then some (Text.ofList (writeChars indent 0 v)) else none

/-- What is said where an integer is too long to be written. -/
def longMessage : Text :=
  "Exceeds the limit (4300 digits) for integer string conversion; use "
    ++ "sys.set_int_max_str_digits() to increase the limit"

end Json

end Kanban
