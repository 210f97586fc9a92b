import Kanban.Yaml.Cursor
import Kanban.Yaml.Fault

/-!
# Scalars by lines

After a bar the lines of a scalar are taken as they are, and after an angle bracket they are
folded.  They are indented further than what the scalar belongs to: as far as the first of them
that is not empty, or as far as a digit says.  A sign says whether the ends of lines at the end
are left out or all kept; without one, a single end of a line is kept.
-/

namespace Kanban.Yaml

/-- The rest of a line, in which nothing but a comment may stand. -/
def skipLine (k : Cursor) : Except Fault Cursor :=
  let k := k.skipWhile (· == ' ')
  let k := if k.rest.head? = some '#' then k.skipWhile (!isBreak ·) else k
  if endsLine k.rest then pure k.next else throw .malformed

namespace Literal

/-- What becomes of the ends of lines at the end. -/
inductive Ending where
  | leaveOut
  | keepOne
  | keepAll

/-- What stands behind the indicator: the ending, and how far the lines are indented. -/
structure Header where
  ending : Ending
  indent : Option Nat

/-- The ending that a sign asks for, and the rest. -/
def ending? : List Char → Option Ending × List Char
  | '+' :: cs => (some .keepAll, cs)
  | '-' :: cs => (some .leaveOut, cs)
  | cs => (none, cs)

/-- The number that a digit is, and the rest. -/
def indent? : List Char → Option Nat × List Char
  | c :: cs => if c.isDigit then (some (c.toNat - '0'.toNat), cs) else (none, c :: cs)
  | [] => (none, [])

/-- The header at the start of a text, and the rest: a sign and a digit in either order. -/
def header (cs : List Char) : Except Fault (Header × List Char) :=
  let (before, cs) := ending? cs
  let (indent, cs) := indent? cs
  let (after, cs) := if before.isSome then (none, cs) else ending? cs
  if indent = some 0 || !cs.head?.all isBlankOrBreak then throw .malformed
  else pure (⟨((before <|> after).getD .keepOne), indent⟩, cs)

/-- The empty lines at the cursor, which runs along with the text: their ends, how far they are
indented, and the cursor behind their blanks. -/
def leading (k : Cursor) : List Char → List Char × Nat × Cursor
  | [] => ([], 0, k)
  | c :: cs =>
    if isBlankOrBreak c then
      let (ends, width, last) := leading k.next cs
      if isBreak c then (lineEnd c :: ends, width, last)
      else (ends, max width k.next.column, last)
    else ([], 0, k)

/-- The ends of the empty lines at the cursor, which runs along with the text, and the cursor
behind the indentation of the line after them. -/
def emptyLines (indent : Nat) (k : Cursor) : List Char → List Char × Cursor
  | [] => ([], k)
  | c :: cs =>
    if isBreak c then
      let (ends, last) := emptyLines indent k.next cs
      (lineEnd c :: ends, last)
    else if c = ' ' ∧ k.column < indent then emptyLines indent k.next cs
    else ([], k)

/-- The lines of a scalar. -/
structure Lines where
  text : List Char
  /-- The end of the last line. -/
  last : List Char
  /-- The ends of the empty lines behind it. -/
  more : List Char
  cursor : Cursor

/-- A line of the scalar starts at the cursor. -/
def isLine (indent : Nat) (k : Cursor) : Bool := k.column == indent && !k.rest.isEmpty

/-- A text that does not start with a blank. -/
def isFlush (cs : List Char) : Bool := cs.head?.all fun c => c ≠ ' ' && c ≠ '\t'

/-- What stands between two lines: the end of the first, with some empty lines behind it, or
what it is folded to. -/
def seam (folded : Bool) (line next last more : List Char) : List Char :=
  if folded && last == ['\n'] && isFlush line && isFlush next then
    if more = [] then [' '] else []
  else last

/-- The lines at the cursor, behind empty lines with the given ends.  There are no more of them
than the first number says. -/
def lines (folded : Bool) (indent : Nat) : Nat → List Char → Cursor → Lines
  | 0, ends, k => ⟨[], [], ends, k⟩
  | n + 1, ends, k =>
    if isLine indent k then
      let line := k.rest.takeWhile (!isBreak ·)
      let atEnd := k.skip line.length
      let last := (atEnd.rest.take 1).map lineEnd
      let (more, after) := emptyLines indent atEnd.next atEnd.next.rest
      if isLine indent after then
        let ls := lines folded indent n more after
        { ls with text := ends ++ line ++ seam folded line after.rest last more ++ ls.text }
      else ⟨ends ++ line, last, more, after⟩
    else ⟨[], [], ends, k⟩

/-- The text of a scalar. -/
def Lines.close (ls : Lines) : Ending → List Char
  | .leaveOut => ls.text
  | .keepOne => ls.text ++ ls.last
  | .keepAll => ls.text ++ ls.last ++ ls.more

/-- The scalar whose indicator stands in front of the cursor, and the cursor behind it. -/
def read (folded : Bool) (indent : Int) (k : Cursor) : Except Fault (String × Cursor) := do
  let (h, rest) ← header k.rest
  let k ← skipLine (k.skipTo rest)
  let least := (max (indent + 1) 1).toNat
  let (width, ends, first) := match h.indent with
    | some n =>
      let (ends, first) := emptyLines (least + n - 1) k k.rest
      (least + n - 1, ends, first)
    | none =>
      let (ends, width, first) := leading k k.rest
      (max least width, ends, first)
  let ls := lines folded width k.rest.length ends first
  pure (String.ofList (ls.close h.ending), ls.cursor)

end Literal

end Kanban.Yaml
