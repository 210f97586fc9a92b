import Kanban.Json.Token
import Kanban.Text.Encoding
import Kanban.Yaml.Cursor
import Kanban.Yaml.Fault

/-!
# Labels

What may stand in front of a node: an anchor, by which an alias finds it again, and a tag,
which says what it is.  A tag is a whole address in angle brackets, or a handle between
exclamation marks with the end of an address behind it; directives in front of a document say
what its handles stand for.
-/

namespace Kanban.Yaml

/-- A tag as it is written: a handle, if it has one, and the rest. -/
structure TagName where
  handle : Option String
  suffix : String
  deriving DecidableEq

/-- What is said about a document in front of it. -/
inductive Directive where
  /-- The version of YAML, up to the point. -/
  | version (major : Nat)
  /-- What a handle stands for. -/
  | handle (name address : String)
  /-- Something that does not matter. -/
  | other

namespace Label

/-- A character of a name. -/
def isNameChar (c : Char) : Bool := c.isAlphanum || c == '-' || c == '_'

/-- The name at the start of a text, which must not be empty, and the rest. -/
def name (cs : List Char) : Except Fault (List Char × List Char) :=
  let found := cs.takeWhile isNameChar
  if found.isEmpty then throw .malformed else pure (found, cs.dropWhile isNameChar)

/-- The name of an anchor or alias, and the rest. -/
def anchor (cs : List Char) : Except Fault (String × List Char) := do
  let (found, rest) ← name cs
  if endsToken rest || rest.head?.any ['?', ':', ',', ']', '}', '%', '@', '\x60'].contains then
    pure (String.ofList found, rest)
  else throw .malformed

/-! ### Tags -/

/-- A character of an address. -/
def isAddressChar (c : Char) : Bool :=
  c.isAlphanum || "-;/?:@&=+$,_.!~*'()[]%".toList.contains c

/-- The bytes that the characters of an address stand for. -/
def addressBytes? : List Char → Option (List UInt8)
  | [] => some []
  | '%' :: a :: b :: cs => do
    pure ((16 * (← Json.hexValue? a) + (← Json.hexValue? b)).toUInt8 :: (← addressBytes? cs))
  | c :: cs => if c = '%' then none else (addressBytes? cs).map (c.toNat.toUInt8 :: ·)

/-- The address at the start of a text, which must not be empty, and the rest. -/
def address (cs : List Char) : Except Fault (String × List Char) :=
  let found := cs.takeWhile isAddressChar
  match (addressBytes? found).bind fun bytes => Text.decodeUtf8? ⟨bytes.toArray⟩ with
  | some s => if s = "" then throw .malformed else pure (s, cs.dropWhile isAddressChar)
  | none => throw .malformed

/-- The handle whose first exclamation mark stands in front of a text, and the rest. -/
def handle (cs : List Char) : Except Fault (String × List Char) :=
  if cs.head? = some ' ' then pure ("!", cs)
  else
    match cs.dropWhile isNameChar with
    | '!' :: rest => pure (String.ofList ('!' :: cs.takeWhile isNameChar ++ ['!']), rest)
    | _ => throw .malformed

/-- The tag whose exclamation mark stands in front of a text, and the rest. -/
def tagName (cs : List Char) : Except Fault (TagName × List Char) := do
  match cs with
  | '<' :: cs =>
    match ← address cs with
    | (s, '>' :: rest) => pure (⟨none, s⟩, rest)
    | _ => throw .malformed
  | cs =>
    if endsToken cs then pure (⟨none, "!"⟩, cs)
    else
      let marked := (cs.takeWhile (!isBlankOrBreak ·)).contains '!'
      let (h, cs) ← if marked then handle cs else pure ("!", cs)
      let (s, rest) ← address cs
      pure (⟨some h, s⟩, rest)

/-- A tag, behind which a blank or the end of a line has to follow, and the rest. -/
def tag (cs : List Char) : Except Fault (TagName × List Char) := do
  let (t, rest) ← tagName cs
  if rest.head?.all isBlankOrBreak then pure (t, rest) else throw .malformed

/-! ### Directives -/

/-- The number at the start of a text, which has to have digits but not too many, and the
rest. -/
def number (cs : List Char) : Except Fault (Nat × List Char) :=
  let ds := cs.takeWhile Char.isDigit
  if ds.isEmpty then throw .malformed
  else if Number.maxDigits < ds.length then throw .noNumber
  else pure (Json.numeralsValue (ds.map .char), cs.dropWhile Char.isDigit)

/-- The version behind its name, and the rest. -/
def version (cs : List Char) : Except Fault (Directive × List Char) := do
  match ← number cs with
  | (major, '.' :: cs) =>
    let (_, rest) ← number cs
    if rest.head?.all isBlankOrBreak then pure (.version major, rest) else throw .malformed
  | _ => throw .malformed

/-- What a handle stands for, behind the name of the directive, and the rest. -/
def handleMeaning (cs : List Char) : Except Fault (Directive × List Char) := do
  match cs with
  | '!' :: cs =>
    let (h, cs) ← handle cs
    if cs.head? ≠ some ' ' then throw .malformed
    let (s, rest) ← address (cs.dropWhile (· == ' '))
    if rest.head?.all isBlankOrBreak then pure (.handle h s, rest) else throw .malformed
  | _ => throw .malformed

/-- The directive whose percent sign stands in front of a text, and the rest. -/
def directive (cs : List Char) : Except Fault (Directive × List Char) := do
  let (found, rest) ← name cs
  if !rest.head?.all isBlankOrBreak then throw .malformed
  let value := rest.dropWhile (· == ' ')
  match String.ofList found with
  | "YAML" => version value
  | "TAG" => handleMeaning value
  | _ => pure (.other, rest.dropWhile (!isBreak ·))

end Label

end Kanban.Yaml
