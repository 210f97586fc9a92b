import Kanban.Number
import Kanban.Number.Shortest
import Kanban.Text

/-!
# How numbers are written

An integer is written by its digits.  A double is written by its shortest decimal, and a
`Layout` says how: between which exponents the digits stand around a point, and how the
special values are spelt.  A double always shows that it is one, by a point, an exponent or
a name.
-/

namespace Kanban

namespace Number

/-- The choices of a format for doubles. -/
structure Layout where
  /-- The least decimal exponent at which the digits stand around a point. -/
  leastExponent : Int
  /-- The decimal exponent from which on an exponent is written. -/
  endExponent : Int
  /-- The least number of digits of a written exponent. -/
  exponentWidth : Nat
  nan : Text
  infinity : Text

/-- The decimal digits of a natural number. -/
def digits (n : Nat) : List Point := (Nat.toDigits 10 n).map .char

/-- The greatest number of digits of an integer that is read from text or written. -/
def maxDigits : Nat := 4300

/-- A number that is not too long to be written. -/
def isShort : Number → Bool
  | .int n => (digits n.natAbs).length ≤ maxDigits
  | .float _ => true

/-- The digits of `n`, with zeros in front up to the given width. -/
def paddedDigits (width n : Nat) : List Point :=
  List.replicate (width - (digits n).length) (.char '0') ++ digits n

/-- The digits of an integer after its sign. -/
def intChars (n : Int) : List Point :=
  if n < 0 then '-' :: digits n.natAbs else digits n.natAbs

/-- The digits `ds` with the point after the first `place` of them. -/
def positional (ds : List Point) (place : Int) : List Point :=
  if place ≤ 0 then '0' :: '.' :: (List.replicate (-place).toNat (.char '0') ++ ds)
  else if ds.length ≤ place.toNat then
    ds ++ List.replicate (place.toNat - ds.length) (.char '0') ++ [.char '.', .char '0']
  else ds.take place.toNat ++ Point.char '.' :: ds.drop place.toNat

/-- The digits `ds` with a point after the first, if more follow, and an exponent. -/
def scientific (width : Nat) (ds : List Point) (exponent : Int) : List Point :=
  (match ds with
    | d :: e :: es => d :: '.' :: e :: es
    | ds => ds)
  ++ Point.char 'e' :: (if exponent < 0 then '-' else '+') :: paddedDigits width exponent.natAbs

/-- The text of a decimal. -/
def decimalChars (layout : Layout) (d : Decimal) : List Point :=
  let ds := digits d.digits
  let exponent := ds.length + d.exponent - 1
  if layout.leastExponent ≤ exponent ∧ exponent < layout.endExponent then
    positional ds (exponent + 1)
  else scientific layout.exponentWidth ds exponent

/-- The text of a double. -/
def doubleChars (layout : Layout) : Double → List Point
  | .nan => layout.nan.toList
  | .infinite negative => (if negative then [Point.char '-'] else []) ++ layout.infinity.toList
  | .finite negative m q _ =>
    (if negative then [Point.char '-'] else []) ++
      if m = 0 then [Point.char '0', .char '.', .char '0']
      else decimalChars layout (Decimal.shortest m q)

/-- The text of a number. -/
def chars (layout : Layout) : Number → List Point
  | .int n => intChars n
  | .float x => doubleChars layout x

end Number

end Kanban
