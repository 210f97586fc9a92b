import Kanban.Text.Quoted

/-!
# Uuids

The text of an id: 128 bits as hexadecimal digits, in groups of 8, 4, 4, 4 and 12.
-/

namespace Kanban.Uuid

/-- The bits of an id of version four and the usual variant, without the random ones. -/
def base : Nat := 0x4 <<< 76 + 0x8 <<< 60

/-- The bits of an id of version four that takes its other bits from a number of 128 bits, all
but one, so that a supply that starts with it has room. -/
def random (n : Nat) : Nat :=
  (n >>> 80 % 1 <<< 48) <<< 80 + (n >>> 64 % 1 <<< 12) <<< 64 + n % 1 <<< 61 + base

/-- The text of an id of 128 bits. -/
def text (n : Nat) : Text :=
  let ds := Text.hexDigits 32 (n % 1 <<< 128)
  Text.ofList (ds.take 8 ++ Point.char '-' :: (ds.drop 8).take 4
    ++ Point.char '-' :: (ds.drop 12).take 4 ++ Point.char '-' :: (ds.drop 16).take 4
    ++ Point.char '-' :: ds.drop 20)

/-- The `i`-th of a supply of ids that differ in their last part. -/
def supply (first i : Nat) : Text := text (first + i)

end Kanban.Uuid
