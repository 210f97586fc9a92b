import Kanban.Json.Writer
import Kanban.Text.Quoted

/-!
# Values in messages

How a message shows a value that it complains about: `None`, `True`, `-1`, `1e-07`, `'text'`,
`[1, 'a']`, `{'a': 1}`.  A value in which an integer is too long cannot be shown.
-/

namespace Kanban

/-- The layout of numbers in messages. -/
def Number.messageLayout : Number.Layout :=
  ⟨-4, 16, 2, "nan", "inf"⟩

namespace Json

mutual

/-- The characters with which a message shows a value. -/
def displayChars : Json → List Point
  | .null => ("None" : Text).toList
  | .bool true => ("True" : Text).toList
  | .bool false => ("False" : Text).toList
  | .num n => n.chars Number.messageLayout
  | .str s => Text.quoted s.toList
  | .arr items => Point.char '[' :: displayItems items ++ [.char ']']
  | .obj members => Point.char '{' :: displayMembers members ++ [.char '}']

/-- The items of a list, with commas between them. -/
def displayItems : List Json → List Point
  | [] => []
  | [x] => displayChars x
  | x :: y :: rest => displayChars x ++ Point.char ',' :: ' ' :: displayItems (y :: rest)

/-- The members of an object, with commas between them. -/
def displayMembers : List (Text × Json) → List Point
  | [] => []
  | [(k, v)] => Text.quoted k.toList ++ Point.char ':' :: ' ' :: displayChars v
  | (k, v) :: m :: rest =>
    Text.quoted k.toList ++ Point.char ':' :: ' ' :: displayChars v
      ++ Point.char ',' :: ' ' :: displayMembers (m :: rest)

end

/-- A value as a message shows it; none when an integer is too long. -/
def display? (v : Json) : Option Text :=
  if v.isShort then some (Text.ofList v.displayChars) else none

end Json

end Kanban
