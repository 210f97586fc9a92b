/-!
# Places in YAML text

Lines, the marks between documents, and a `Cursor`, which is the rest of a text and knows
where in the whole it starts.
-/

namespace Kanban.Yaml

/-! ### Characters -/

/-- A character that ends a line. -/
def isBreak (c : Char) : Bool := ['\n', '\u0085', '\u2028', '\u2029'].contains c

/-- What the end of a line counts as. -/
def lineEnd (c : Char) : Char := if c = '\u0085' then '\n' else c

/-- A blank or the end of a line. -/
def isBlankOrBreak (c : Char) : Bool := c == ' ' || isBreak c

/-- A blank, a tab or the end of a line. -/
def isSpace (c : Char) : Bool := c == '\t' || isBlankOrBreak c

/-- A token ends here: the text ends, or a space follows. -/
def endsToken (cs : List Char) : Bool := cs.head?.all isSpace

/-- The line ends here. -/
def endsLine (cs : List Char) : Bool := cs.head?.all isBreak

/-- The mark that may stand in front of a text. -/
def byteOrderMark : Char := '\ufeff'

/-! ### Marks between documents -/

/-- The mark in front of a document. -/
def startMark : List Char := ['-', '-', '-']

/-- The mark behind a document. -/
def endMark : List Char := ['.', '.', '.']

/-- The text starts with a mark that stands alone. -/
def startsWith (mark cs : List Char) : Bool := cs.take 3 == mark && endsToken (cs.drop 3)

/-- The text starts with a mark between documents. -/
def startsWithMark (cs : List Char) : Bool := startsWith startMark cs || startsWith endMark cs

/-! ### Cursors -/

/-- The rest of a text and where it starts. -/
structure Cursor where
  rest : List Char
  /-- How many characters stand in front of it. -/
  index : Nat
  line : Nat
  /-- How many characters of its line stand in front of it, byte order marks aside. -/
  column : Nat

namespace Cursor

/-- The whole of a text. -/
def start (cs : List Char) : Cursor := ⟨cs, 0, 0, 0⟩

/-- The cursor behind the next character. -/
def next (k : Cursor) : Cursor :=
  match k.rest with
  | [] => k
  | c :: cs =>
    if isBreak c then ⟨cs, k.index + 1, k.line + 1, 0⟩
    else ⟨cs, k.index + 1, k.line, if c = byteOrderMark then k.column else k.column + 1⟩

/-- The cursor behind a number of characters. -/
def skip : Nat → Cursor → Cursor
  | 0, k => k
  | n + 1, k => skip n k.next

/-- The cursor in front of an end of its text. -/
def skipTo (k : Cursor) (rest : List Char) : Cursor := k.skip (k.rest.length - rest.length)

/-- The cursor behind all characters with `p` that come next. -/
def skipWhile (p : Char → Bool) (k : Cursor) : Cursor := k.skipTo (k.rest.dropWhile p)

end Cursor

end Kanban.Yaml
