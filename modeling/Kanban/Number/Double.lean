/-!
# Double-precision numbers

A `Double` is not-a-number, an infinity, or `± m · 2 ^ q` in its normal form.  All finite
doubles are whole multiples of `2 ^ -1074`, so `Double.units` counts them exactly in the
integers; sums, products, quotients and comparisons are those of the exact values, and
`Double.ofQuotient` rounds an exact value to the nearest double, a half to the even one.
-/

namespace Kanban

/-- The quotient rounded to the nearest whole number, a half to the even one. -/
def roundHalfEven (num den : Nat) : Nat :=
  let q := num / den
  let r := num % den
  if 2 * r < den then q
  else if den < 2 * r then q + 1
  else if q % 2 = 0 then q else q + 1

/-- The normal form of a finite double `m · 2 ^ q`: 53 significant bits at most, and all of
them in use unless the exponent is the least one. -/
def Double.Canonical (m : Nat) (q : Int) : Prop :=
  m < 1 <<< 53 ∧ -1074 ≤ q ∧ q ≤ 971 ∧ (1 <<< 52 ≤ m ∨ q = -1074)

instance (m : Nat) (q : Int) : Decidable (Double.Canonical m q) :=
  inferInstanceAs (Decidable (_ ∧ _ ∧ _ ∧ (_ ∨ _)))

/-- A double-precision number. -/
inductive Double where
  | nan
  | infinite (negative : Bool)
  | finite (negative : Bool) (m : Nat) (q : Int) (canonical : Double.Canonical m q)
  deriving DecidableEq

namespace Double

/-- The zero of a sign. -/
def zero (negative : Bool) : Double := .finite negative 0 (-1074) (by decide)

instance : Inhabited Double := ⟨zero false⟩

/-- How many times `2 ^ -1074` goes into one. -/
def unit : Nat := 1 <<< 1074

/-- The finite double `± m · 2 ^ q` counted in multiples of `2 ^ -1074`. -/
def unitsOf (negative : Bool) (m : Nat) (q : Int) : Int :=
  let n : Int := (m <<< (q + 1074).toNat : Nat)
  if negative then -n else n

/-- The value of a finite double in multiples of `2 ^ -1074`. -/
def units? : Double → Option Int
  | .finite negative m q _ => some (unitsOf negative m q)
  | _ => none

/-- A number that is neither an infinity nor not-a-number. -/
def isFinite : Double → Bool
  | .finite .. => true
  | _ => false

/-- The double `± m · 2 ^ q`, which is an infinity when it is too large to have a normal
form. -/
def ofParts (negative : Bool) (m : Nat) (q : Int) : Double :=
  if h : Canonical m q then .finite negative m q h else .infinite negative

/-- The quotient `num / den` in multiples of `2 ^ q`, rounded. -/
def roundAt (num den : Nat) (q : Int) : Nat :=
  roundHalfEven (num <<< (-q).toNat) (den <<< q.toNat)

/-- The exponent of the double nearest to `num / den`: the one at which the quotient has 53
bits, or the least one. -/
def exponentFor (num den : Nat) : Int :=
  let q : Int := num.log2 - den.log2 - 53
  max (if den <<< (q.toNat + 53) ≤ num <<< (-q).toNat then q + 1 else q) (-1074)

/-- The double nearest to `± num / den`, a half going to the even one. -/
def ofQuotient (negative : Bool) (num den : Nat) : Double :=
  if num = 0 then zero negative
  else
    let q := exponentFor num den
    let m := roundAt num den q
    if m = 1 <<< 53 then ofParts negative (1 <<< 52) (q + 1) else ofParts negative m q

/-- The double nearest to `± digits · 10 ^ exponent`.  Exponents at which the result is
certainly an infinity or a zero are told apart before the power is taken. -/
def ofDecimal (negative : Bool) (digits : Nat) (exponent : Int) : Double :=
  if digits = 0 then zero negative
  else if 1024 < 3 * exponent then .infinite negative
  else if digits.log2 + 1 + 3 * exponent < -1080 then zero negative
  else ofQuotient negative (digits * Nat.pow 10 exponent.toNat) (Nat.pow 10 (-exponent).toNat)

/-- The double nearest to an integer; `none` when that is an infinity. -/
def ofInt? (n : Int) : Option Double :=
  match ofQuotient (n < 0) n.natAbs 1 with
  | .infinite _ => none
  | x => some x

/-- The sum, rounded. -/
def add : Double → Double → Double
  | .nan, _ => .nan
  | _, .nan => .nan
  | .infinite a, .infinite b => if a = b then .infinite a else .nan
  | .infinite a, .finite .. => .infinite a
  | .finite .., .infinite b => .infinite b
  | .finite a m q _, .finite b n r _ =>
    let sum := unitsOf a m q + unitsOf b n r
    if sum = 0 then zero (a && b) else ofQuotient (sum < 0) sum.natAbs unit

/-- The number with the other sign. -/
def neg : Double → Double
  | .nan => .nan
  | .infinite negative => .infinite !negative
  | .finite negative m q canonical => .finite (!negative) m q canonical

/-- The product, rounded. -/
def mul : Double → Double → Double
  | .nan, _ => .nan
  | _, .nan => .nan
  | .infinite a, .infinite b => .infinite (a != b)
  | .infinite a, .finite b m _ _ => if m = 0 then .nan else .infinite (a != b)
  | .finite a m _ _, .infinite b => if m = 0 then .nan else .infinite (a != b)
  | .finite a m q _, .finite b n r _ =>
    ofQuotient (a != b) ((m * n) <<< (q + r).toNat) (1 <<< (-(q + r)).toNat)

/-- The quotient by a positive count, rounded. -/
def divCount (n : Nat) : Double → Double
  | .finite negative m q _ => ofQuotient negative (unitsOf false m q).natAbs (n * unit)
  | x => x

/-- The number rounded to one place after the point, a half going to the even tenth. -/
def roundTenth : Double → Double
  | .finite negative m q _ =>
    ofQuotient negative (roundHalfEven (10 * (unitsOf false m q).natAbs) unit) 10
  | x => x

end Double

end Kanban
