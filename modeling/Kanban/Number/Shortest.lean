import Kanban.Number.Double

/-!
# Shortest decimals

The decimal that stands for a double in text: of the decimals that lie in the interval of
reals nearest to the double, one with the fewest digits, and of those the nearest.  A finite
double `m · 2 ^ q` and the ends of its interval are whole multiples of `2 ^ (q - 2)`, so all
comparisons are between integers.
-/

namespace Kanban

/-- The decimal number `digits · 10 ^ exponent`. -/
structure Decimal where
  digits : Nat
  exponent : Int
  deriving DecidableEq

namespace Decimal

/-- The factors with which `d · 10 ^ p` and `c · 2 ^ (q - 2)` are compared: the two stand to
each other as `d` times the first and `c` times the second. -/
def factors (p q : Int) : Nat × Nat :=
  (Nat.pow 10 p.toNat <<< (2 - q).toNat, Nat.pow 10 (-p).toNat <<< (q - 2).toNat)

/-- The lower end of the interval around `m · 2 ^ q`, in multiples of `2 ^ (q - 2)`.  Below a
power of two the doubles lie twice as close. -/
def lowerEnd (m : Nat) (q : Int) : Nat :=
  if m = 1 <<< 52 ∧ -1074 < q then 4 * m - 1 else 4 * m - 2

/-- The upper end of the interval around `m · 2 ^ q`, in multiples of `2 ^ (q - 2)`. -/
def upperEnd (m : Nat) : Nat := 4 * m + 2

/-- The decimal `d · 10 ^ p` lies in the interval around `m · 2 ^ q`.  The ends belong to it
when `m` is even. -/
def inInterval (m : Nat) (q : Int) (d : Nat) (p : Int) : Bool :=
  let (a, b) := factors p q
  if m % 2 = 0 then lowerEnd m q * b ≤ d * a && d * a ≤ upperEnd m * b
  else lowerEnd m q * b < d * a && d * a < upperEnd m * b

/-- The nearer of `d · 10 ^ p` and `(d + 1) · 10 ^ p` to `m · 2 ^ q`; of two that are as near,
the even one. -/
def nearer (m : Nat) (q : Int) (d : Nat) (p : Int) : Nat :=
  let (a, b) := factors p q
  if 8 * m * b < (2 * d + 1) * a then d
  else if (2 * d + 1) * a < 8 * m * b then d + 1
  else if d % 2 = 0 then d else d + 1

/-- The multiple of `10 ^ p` that lies in the interval around `m · 2 ^ q` and is nearest to
it, if one lies there. -/
def onGrid? (m : Nat) (q p : Int) : Option Decimal :=
  let (a, b) := factors p q
  let d := 4 * m * b / a
  match inInterval m q d p, inInterval m q (d + 1) p with
  | true, true => some ⟨nearer m q d p, p⟩
  | true, false => some ⟨d, p⟩
  | false, true => some ⟨d + 1, p⟩
  | false, false => none

/-- An exponent `p` with `m · 2 ^ q` below `10 ^ p`. -/
def exponentAbove (m : Nat) (q : Int) : Int :=
  (m.log2 + q + 1) * 30103 / 100000 + 1

/-- All digits of `m · 2 ^ q`. -/
def exact (m : Nat) (q : Int) : Decimal :=
  if 0 ≤ q then ⟨m <<< q.toNat, 0⟩ else ⟨m * Nat.pow 5 (-q).toNat, q⟩

/-- The shortest decimal of `m · 2 ^ q`: the grids are tried from the coarsest on, and 17
digits always suffice. -/
def shortest (m : Nat) (q : Int) : Decimal :=
  ((List.range 20).findSome? fun i : Nat => onGrid? m q (exponentAbove m q - i)).getD (exact m q)

end Decimal

end Kanban
