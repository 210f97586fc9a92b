import Kanban.Yaml.Folding

/-!
# Plain scalars

A scalar without quotes.  It ends before a colon that a space follows, before a comment, which
a blank has to precede, before a tab, and in brackets also before a comma, a question mark or a
bracket.  It goes on over lines that are indented further than what it belongs to.
-/

namespace Kanban.Yaml

/-- A bracket or a comma. -/
def isBracketing (c : Char) : Bool := [',', '[', ']', '{', '}'].contains c

/-- What has been read of a plain scalar. -/
structure Plain where
  /-- The pieces up to the last word, last first. -/
  pieces : List Piece
  /-- The blanks and ends of lines behind the last word, last first. -/
  gap : List Piece
  cursor : Cursor

namespace Plain

/-- A character, with the text behind it, is not part of a word. -/
def endsWord (inBrackets : Bool) (c : Char) (cs : List Char) : Bool :=
  isSpace c
    || (c == ':' && (endsToken cs || (inBrackets && cs.head?.any isBracketing)))
    || (inBrackets && (isBracketing c || c == '?'))

/-- One more character of the last word. -/
def addChar (p : Plain) (c : Char) : Plain :=
  ⟨.ofChar c :: (p.gap ++ p.pieces), [], p.cursor.next⟩

/-- One more character of the gap behind the last word. -/
def addGap (p : Plain) (c : Char) : Plain := ⟨p.pieces, .ofChar c :: p.gap, p.cursor.next⟩

/-- No further word may start with a character where the cursor stands. -/
def endsLines (p : Plain) (inBrackets : Bool) (indent : Int) (c : Char) : Bool :=
  !p.gap.isEmpty && (c == '#' || (!inBrackets && p.cursor.column < indent))

/-- The scalar, read on through the text at its cursor. -/
def readOn (inBrackets : Bool) (indent : Int) (p : Plain) : List Char → Plain
  | [] => p
  | c :: cs =>
    if isBlankOrBreak c then
      if isBreak c && startsWithMark cs then p.addGap c
      else readOn inBrackets indent (p.addGap c) cs
    else if endsWord inBrackets c cs || p.endsLines inBrackets indent c then p
    else readOn inBrackets indent (p.addChar c) cs

/-- The scalar at a cursor, on lines that are indented at least so far. -/
def read (inBrackets : Bool) (indent : Int) (k : Cursor) : Plain :=
  readOn inBrackets indent ⟨[], [], k⟩ k.rest

/-- The text of a scalar. -/
def text (p : Plain) : Text := Text.ofList (Piece.fold p.pieces.reverse)

/-- A line has ended behind the last word. -/
def endsWithLine (p : Plain) : Bool := p.gap.any fun q => q.lineEnd?.isSome

end Plain

end Kanban.Yaml
