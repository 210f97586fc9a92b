import Kanban.Number.Double

/-!
# Numbers

A number is an integer of any size or a double.  The two kinds are told apart, but they are
compared by value: `Number.lt` and `Number.same` compare exact values, and not-a-number is
neither below, above nor the same as any number.
-/

namespace Kanban

/-- An integer or a double. -/
inductive Number where
  | int (n : Int)
  | float (x : Double)
  deriving DecidableEq

namespace Number

instance : Inhabited Number := ⟨.int 0⟩

/-- The place of a number in the order: the sign of its infinity or `0`, then its value in
multiples of `2 ^ -1074`.  Not-a-number has no place. -/
def place? : Number → Option (Int × Int)
  | .int n => some (0, n * Double.unit)
  | .float .nan => none
  | .float (.infinite negative) => some (if negative then (-1, 0) else (1, 0))
  | .float (.finite negative m q _) => some (0, Double.unitsOf negative m q)

/-- The value of the first number is below that of the second. -/
def lt (a b : Number) : Bool :=
  match a.place?, b.place? with
  | some x, some y => x.1 < y.1 || (x.1 == y.1 && x.2 < y.2)
  | _, _ => false

/-- The two numbers have the same value. -/
def same (a b : Number) : Bool :=
  match a.place?, b.place? with
  | some x, some y => x == y
  | _, _ => false

/-- The value of the first number is at most that of the second. -/
def le (a b : Number) : Bool := a.lt b || a.same b

/-- A number that is neither an infinity nor not-a-number. -/
def isFinite : Number → Bool
  | .int _ => true
  | .float x => x.isFinite

/-- The integer of the same value, if there is one. -/
def toInt? : Number → Option Int
  | .int n => some n
  | .float x =>
    match x.units? with
    | some u => if u % Double.unit = 0 then some (u / Double.unit) else none
    | none => none

/-- A number with the value of an integer. -/
def isWhole (a : Number) : Bool := a.toInt?.isSome

/-- A whole number as an integer; any other number as it is. -/
def settled (a : Number) : Number :=
  match a.toInt? with
  | some n => .int n
  | none => a

/-- A zero of either kind. -/
def isZero (a : Number) : Bool := a.same (.int 0)

end Number

end Kanban
