import Kanban.Json.Token
import Kanban.Yaml.Fault
import Kanban.Yaml.Folding

/-!
# Quoted scalars

In single quotes a quote is written twice and all else stands for itself.  In double quotes a
backslash starts an escape; in front of the end of a line it makes that end invisible.  Lines
are folded, and none of them may be a mark between documents.
-/

namespace Kanban.Yaml.Quoted

/-- Something in front of pieces that were read. -/
def behind (p : Piece) (r : Except Fault (List Piece × List Char)) :
    Except Fault (List Piece × List Char) :=
  r.map fun (ps, rest) => (p :: ps, rest)

/-- The end of a line, where the next one is a mark between documents. -/
def isCutOff (c : Char) (cs : List Char) : Bool := isBreak c && startsWithMark cs

/-! ### Single quotes -/

/-- The pieces up to the closing quote, and what stands behind it. -/
def single : List Char → Except Fault (List Piece × List Char)
  | [] => throw .malformed
  | '\'' :: '\'' :: cs => behind (.char '\'') (single cs)
  | c :: cs =>
    if c = '\'' then pure ([], cs)
    else if isCutOff c cs then throw .malformed
    else behind (.ofChar c) (single cs)

/-! ### Double quotes -/

/-- Where in double quotes the reading stands. -/
inductive Stage where
  | plain
  /-- Behind a backslash. -/
  | escape
  /-- In a numeric escape: its value so far and how many digits are missing. -/
  | code (n missing : Nat)

/-- The one-letter escapes. -/
def escapes : List (Char × Char) :=
  [('0', '\x00'), ('a', '\x07'), ('b', '\x08'), ('t', '\t'), ('\t', '\t'), ('n', '\n'),
    ('v', '\x0b'), ('f', '\x0c'), ('r', '\r'), ('e', '\x1b'), (' ', ' '), ('"', '"'),
    ('\\', '\\'), ('/', '/'), ('N', '\u0085'), ('_', '\u00a0'), ('L', '\u2028'), ('P', '\u2029')]

/-- The number of digits of a numeric escape. -/
def codeLength? : Char → Option Nat
  | 'x' => some 2
  | 'u' => some 4
  | 'U' => some 8
  | _ => none

/-- The piece that a number stands for. -/
def ofCode (n : Nat) : Except Fault Piece :=
  if n.isValidChar then pure (.char (Char.ofNat n))
  else if 0x10FFFF < n then throw .noCharacter
  else pure (.half n)

/-- The pieces up to the closing quote, and what stands behind it. -/
def double : Stage → List Char → Except Fault (List Piece × List Char)
  | _, [] => throw .malformed
  | .plain, c :: cs =>
    if c = '"' then pure ([], cs)
    else if c = '\\' then double .escape cs
    else if isCutOff c cs then throw .malformed
    else behind (.ofChar c) (double .plain cs)
  | .escape, c :: cs =>
    if isCutOff c cs then throw .malformed
    else if isBreak c then behind .joint (double .plain cs)
    else
      match codeLength? c, escapes.lookup c with
      | some n, _ => double (.code 0 n) cs
      | none, some d => behind (.char d) (double .plain cs)
      | none, none => throw .malformed
  | .code n missing, c :: cs =>
    match Json.hexValue? c with
    | none => throw .malformed
    | some d =>
      if missing ≤ 1 then do behind (← ofCode (16 * n + d)) (double .plain cs)
      else double (.code (16 * n + d) (missing - 1)) cs

/-- The text behind an opening quote up to the closing one, and what stands behind that. -/
def read (quote : Char) (cs : List Char) : Except Fault (Text × List Char) := do
  let (ps, rest) ← if quote = '"' then double .plain cs else single cs
  pure (Text.ofList (Piece.fold ps), rest)

end Kanban.Yaml.Quoted
