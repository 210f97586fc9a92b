import Kanban.Number.Layout

/-!
# Rounded decimals

A double as a decimal of a given number of digits, and the text of it as a key in a table:
fifteen digits at most, without zeros at the end, and always with a point.
-/

namespace Kanban

namespace Decimal

/-- The quotient rounded to the nearest whole number, a half upwards. -/
def roundHalfUp (num den : Nat) : Nat := (2 * num + den) / (2 * den)

/-- A decimal with at most the given number of digits, a half rounded upwards. -/
def round (count : Nat) (d : Decimal) : Decimal :=
  let surplus := (Number.digits d.digits).length - count
  ⟨roundHalfUp d.digits (Nat.pow 10 surplus), d.exponent + surplus⟩

/-- The digits of a number without the zeros at its end. -/
def significant (n : Nat) : List Point :=
  ((Number.digits n).reverse.dropWhile (· == .char '0')).reverse

end Decimal

namespace Number

/-- The number of digits of a key. -/
def keyDigits : Nat := 15

/-- The text of a decimal as a key. -/
def keyDecimalChars (d : Decimal) : List Point :=
  let ds := Decimal.significant d.digits
  let exponent := (digits d.digits).length + d.exponent - 1
  if -4 ≤ exponent ∧ exponent < keyDigits then positional ds (exponent + 1)
  else scientific 2 (if ds.length = 1 then ds ++ [.char '0'] else ds) exponent

/-- The text of a double as a key; not-a-number is no key. -/
def keyChars? : Double → Option (List Point)
  | .nan => none
  | .infinite negative => some (if negative then ("-Inf" : Text).toList else ("Inf" : Text).toList)
  | .finite negative m q _ =>
    if m = 0 then some ("0.0" : Text).toList
    else
      some ((if negative then [Point.char '-'] else []) ++
        keyDecimalChars ((Decimal.exact m q).round keyDigits))

end Number

end Kanban
