/-!
# Upper case in ASCII

Names that are written in ASCII capitals are found in any case.  Besides the small letters of
ASCII there are a few letters and ligatures whose upper case consists of ASCII capitals.
-/

namespace Kanban.Text

/-- The upper case of a character where it consists of ASCII capitals, else the character. -/
def asciiCapitals : Char → List Char
  | 'ß' => ['S', 'S']
  | 'ı' => ['I']
  | 'ſ' => ['S']
  | 'ﬀ' => ['F', 'F']
  | 'ﬁ' => ['F', 'I']
  | 'ﬂ' => ['F', 'L']
  | 'ﬃ' => ['F', 'F', 'I']
  | 'ﬄ' => ['F', 'F', 'L']
  | 'ﬅ' => ['S', 'T']
  | 'ﬆ' => ['S', 'T']
  | c => [c.toUpper]

/-- A text in ASCII capitals, as far as it can be written in them. -/
def upperAscii (s : String) : String := String.ofList (s.toList.flatMap asciiCapitals)

end Kanban.Text
