import Kanban.Text

/-!
# Bytes in text

Bytes are written by characters that stand for six bits each, four of them for three bytes.
Equals signs fill up the last four, and the text ends with them; other characters do not count.
-/

namespace Kanban.Yaml.Binary

/-- The characters that stand for six bits, in order. -/
def alphabet : List Point :=
  ("ABCDEFGHIJKLMNOPQRSTUVWXYZabcdefghijklmnopqrstuvwxyz0123456789+/" : Text).toList

/-- The bits that a character stands for. -/
def bits? (c : Point) : Option Nat := alphabet.findIdx? (· == c)

/-- What is left of characters that have been read: how many of the last four there are, the bits
that are not part of a byte yet, and how many equals signs stand behind them. -/
structure Rest where
  count : Nat
  bits : Nat
  signs : Nat

namespace Rest

/-- The rest at the start. -/
def none : Rest := ⟨0, 0, 0⟩

/-- What an equals sign leaves; the text ends with the last of those that are missing. -/
def sign? (r : Rest) : Option Rest :=
  if r.count < 2 then some r
  else if r.count + r.signs + 1 < 4 then some { r with signs := r.signs + 1 }
  else Option.none

/-- What six more bits leave, and the byte that they complete. -/
def add (r : Rest) (n : Nat) : List UInt8 × Rest :=
  match r.count with
  | 0 => ([], ⟨1, n, 0⟩)
  | 1 => ([(r.bits * 4 + n / 16).toUInt8], ⟨2, n % 16, 0⟩)
  | 2 => ([(r.bits * 16 + n / 4).toUInt8], ⟨3, n % 4, 0⟩)
  | _ => ([(r.bits * 64 + n).toUInt8], none)

end Rest

/-- The bytes that the rest of a text writes. -/
def readFrom (r : Rest) : List Point → Option (List UInt8)
  | [] => if r.count = 0 then some [] else none
  | c :: cs =>
    if c = '=' then
      match r.sign? with
      | some r => readFrom r cs
      | none => some []
    else
      match bits? c with
      | some n =>
        let (bytes, r) := r.add n
        (readFrom r cs).map (bytes ++ ·)
      | none => readFrom r cs

/-- The bytes that a text of ASCII characters writes. -/
def read? (cs : List Point) : Option (List UInt8) :=
  if cs.all (·.toNat < 0x80) then readFrom .none cs else none

end Kanban.Yaml.Binary
