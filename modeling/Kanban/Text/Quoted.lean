import Kanban.Text.Printable

/-!
# Quoted text

A text as a message shows it: between quotes, on one line, with every character that is not
printable written as an escape.  The quotes are single ones, unless the text holds a single
quote and no double one.
-/

namespace Kanban.Text

/-- The lower-case hexadecimal digits of `n`, with zeros in front up to the given width. -/
def hexDigits (width n : Nat) : List Point :=
  let ds := Nat.toDigits 16 n
  (List.replicate (width - ds.length) '0' ++ ds).map .char

/-- The escape of a code point, as short as it can be. -/
def escapeCode (n : Nat) : List Point :=
  if n < 0x100 then '\\' :: 'x' :: hexDigits 2 n
  else if n < 0x10000 then '\\' :: 'u' :: hexDigits 4 n
  else '\\' :: 'U' :: hexDigits 8 n

/-- The quote that stands around a text. -/
def quoteFor (cs : List Point) : Point :=
  if .char '\'' ∈ cs ∧ .char '"' ∉ cs then '"' else '\''

/-- A character between two quotes of the kind `quote`. -/
def quotedChar (quote c : Point) : List Point :=
  if c = quote ∨ c = '\\' then ['\\', c]
  else if c = '\n' then ['\\', 'n']
  else if c = '\r' then ['\\', 'r']
  else if c = '\t' then ['\\', 't']
  else if isPrintable c then [c]
  else escapeCode c.toNat

/-- A text between quotes. -/
def quoted (cs : List Point) : List Point :=
  let quote := quoteFor cs
  quote :: cs.flatMap (quotedChar quote) ++ [quote]

end Kanban.Text
