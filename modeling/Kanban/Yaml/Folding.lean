import Kanban.Text
import Kanban.Yaml.Cursor

/-!
# Folded lines

A scalar may go over several lines.  Blanks around the end of a line do not count, a single end
of a line counts as a blank, and of several ends in a row the first does not count.  An end of a
line that is not a plain one is always kept.  `Piece.fold` is the text that pieces of lines make.
-/

namespace Kanban.Yaml

/-- A piece of a scalar. -/
inductive Piece where
  /-- A character that stands for itself. -/
  | char (c : Char)
  /-- A blank or a tab. -/
  | blank (c : Char)
  /-- The end of a line. -/
  | lineEnd (c : Char)
  /-- An end of a line that does not count. -/
  | joint
  /-- A half of a surrogate pair, by its number. -/
  | half (n : Nat)

namespace Piece

/-- The piece that a character is. -/
def ofChar (c : Char) : Piece :=
  if isBreak c then .lineEnd (Yaml.lineEnd c)
  else if isSpace c then .blank c
  else .char c

/-- A blank. -/
def isBlank : Piece → Bool
  | .blank _ => true
  | _ => false

/-- A blank or the end of a line. -/
def isGap : Piece → Bool
  | .blank _ => true
  | .lineEnd _ => true
  | _ => false

/-- The end of a line. -/
def lineEnd? : Piece → Option Char
  | .lineEnd c => some c
  | _ => none

/-- Blanks, if any, and the end of a line come next. -/
def atLineEnd (ps : List Piece) : Bool := ((ps.dropWhile isBlank).head?.bind lineEnd?).isSome

/-- What the end of a line and the further ends behind it count as. -/
def seam (c : Char) (more : List Char) : List Char :=
  if c ≠ '\n' then c :: more else if more = [] then [' '] else more

theorem length_dropWhile_le {α : Type} (p : α → Bool) (l : List α) :
  (l.dropWhile p).length ≤ l.length
  := (List.dropWhile_sublist p).length_le

/-- The text that pieces make. -/
def fold : List Piece → List Point
  | [] => []
  | .char c :: ps => c :: fold ps
  | .blank c :: ps => if atLineEnd ps then fold ps else c :: fold ps
  | .lineEnd c :: ps =>
    (seam c ((ps.takeWhile isGap).filterMap lineEnd?)).map .char ++ fold (ps.dropWhile isGap)
  | .joint :: ps =>
    ((ps.takeWhile isGap).filterMap lineEnd?).map .char ++ fold (ps.dropWhile isGap)
  | .half n :: ps => Point.ofNat n :: fold ps
termination_by ps => ps.length
decreasing_by
  all_goals
    have := length_dropWhile_le isGap ps
    simp only [List.length_cons]
    omega

end Piece

end Kanban.Yaml
