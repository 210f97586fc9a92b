import Kanban.Text.Pieces

/-!
# Paths

The path of a file, in its shortest spelling: without empty parts and without parts that
stand for the folder itself.  Parts that lead to the folder above are kept, since where they
lead depends on the file system.
-/

namespace Kanban

/-- A path: the slashes it starts with and its parts. -/
structure Path where
  root : String
  parts : List String
  deriving DecidableEq

namespace Path

/-- The part that leads to the folder above. -/
def up : String := ".."

/-- The slashes at the start of a path: exactly two are kept, any other number counts as
one. -/
def rootOf (cs : List Char) : String :=
  match (cs.takeWhile (· == '/')).length with
  | 0 => ""
  | 2 => "//"
  | _ => "/"

/-- The path that a text is. -/
def ofText (s : String) : Path where
  root := rootOf s.toList
  parts := ((Text.pieces (· == '/') s.toList).map String.ofList).filter fun p => p ≠ "" ∧ p ≠ "."

/-- The text of a path. -/
def text (p : Path) : String :=
  if p.root = "" ∧ p.parts = [] then "." else p.root ++ "/".intercalate p.parts

/-- The folder that a path lies in. -/
def parent (p : Path) : Path := { p with parts := p.parts.dropLast }

/-- The last part of a path. -/
def name? (p : Path) : Option String := p.parts.getLast?

/-- The path holds the character that ends a name for the file system. -/
def isBad (p : Path) : Bool := p.parts.any (·.contains '\x00')

/-- The greatest number of bytes of a path. -/
def longest : Nat := 4095

/-- The text of the path, with `more` bytes behind it, is too long. -/
def isLong (p : Path) (more : Nat) : Bool := longest < p.text.utf8ByteSize + more

end Path

/-- The home folders of the user and of other accounts. -/
structure Homes where
  own : Path
  others : List (String × Path)

namespace Path

/-- The home folder that a part such as `~` or `~name` stands for. -/
def home? (homes : Homes) (part : String) : Option Path :=
  if part = "~" then some homes.own else homes.others.lookup (part.drop 1).toString

/-- The path with a first part `~` or `~name` replaced by a home folder; `none` when the
account is not known. -/
def expandHome? (p : Path) (homes : Homes) : Option Path :=
  match p.root, p.parts with
  | "", first :: rest =>
    if first.startsWith "~" then
      (home? homes first).map fun home => { home with parts := home.parts ++ rest }
    else some p
  | _, _ => some p

end Path

end Kanban
