import Kanban.Json.Token
import Kanban.Text.Blank
import Kanban.Text.Digit

/-!
# Integers in text

How people write an integer: decimal digits of any script, single underscores between them, a
sign in front, and blanks around the whole.
-/

namespace Kanban.Text

/-- A blank that may stand around a number: all but the four separators of ASCII. -/
def isMargin (c : Point) : Bool := isBlank c && !(0x1C ≤ c.toNat && c.toNat ≤ 0x1F)

/-- The text of a number without the blanks around it. -/
def trimNumber (cs : List Point) : List Point :=
  ((cs.dropWhile isMargin).reverse.dropWhile isMargin).reverse

/-- The digits of a numeral, when underscores stand only between two of them. -/
def numeralDigits? (cs : List Point) : Option (List Point) :=
  let groups := pieces (· == .char '_') cs
  if groups.all fun g => !g.isEmpty && g.all isDigit then some groups.flatten else none

/-- The integer that digits write, if there are not too many of them. -/
def natural? (cs : List Point) : Option Nat := do
  let ds ← numeralDigits? cs
  if ds.length ≤ Number.maxDigits then digitsValue? ds else none

/-- The integer that a text writes. -/
def integer? (cs : List Point) : Option Int :=
  match trimNumber cs with
  | .char '-' :: ds => (natural? ds).map fun n => -(n : Int)
  | .char '+' :: ds => (natural? ds).map fun n => (n : Int)
  | ds => (natural? ds).map fun n => (n : Int)

end Kanban.Text
