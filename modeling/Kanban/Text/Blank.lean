import Kanban.Text
import Kanban.Text.Pieces
import Kanban.Text.Range

/-!
# Blank characters

The characters that separate words: the 29 characters that Unicode counts as white space
or as a separator of lines, paragraphs, files, groups, records or units.  On them rest
trimming a text and cutting it into words.
-/

namespace Kanban.Text

/-- The ranges of blank characters. -/
def blankRanges : List Range := [
  (0x9, 0xD), (0x1C, 0x20), (0x85, 0x85), (0xA0, 0xA0), (0x1680, 0x1680), (0x2000, 0x200A),
  (0x2028, 0x2029), (0x202F, 0x202F), (0x205F, 0x205F), (0x3000, 0x3000)]

/-- A character that separates words. -/
def isBlank (c : Point) : Bool := inRanges blankRanges c.toNat

/-- The text without the blanks at either end. -/
def trim (cs : List Point) : List Point :=
  ((cs.dropWhile isBlank).reverse.dropWhile isBlank).reverse

/-- The maximal runs of characters that are not blank, in order. -/
def words (cs : List Point) : List (List Point) :=
  (pieces isBlank cs).filter (!·.isEmpty)

end Kanban.Text
