import Kanban.Json.Token

/-!
# Reading JSON

A value is put together from tokens by a machine with a stack: a `Frame` for each array or
object that is still open, and a `Assembly` for what may come next.  `Json.read?` reads
a text that holds exactly one value.  Where a name is repeated in an object, the member keeps
its first place and takes its last value.
-/

namespace Kanban.Json

/-- An array or object that is still open. -/
inductive Frame where
  /-- The items so far, last first. -/
  | array (items : List Json)
  /-- The members so far, and the name of the member being read. -/
  | object (members : Members) (name : Text)

/-- What has been read and what may come next. -/
inductive Assembly where
  /-- A value. -/
  | value (stack : List Frame)
  /-- A value, or the end of an array that is still empty. -/
  | firstItem (stack : List Frame)
  /-- A comma or the end of an array, after an item. -/
  | afterItem (stack : List Frame) (items : List Json)
  /-- A name, or the end of an object that is still empty. -/
  | firstName (stack : List Frame)
  /-- A name. -/
  | name (stack : List Frame) (members : Members)
  /-- A colon. -/
  | colon (stack : List Frame) (members : Members) (name : Text)
  /-- A comma or the end of an object, after a member. -/
  | afterMember (stack : List Frame) (members : Members)
  /-- Nothing more. -/
  | done (v : Json)

namespace Assembly

/-- A value is complete: it goes into the innermost open array or object. -/
def complete (v : Json) : List Frame → Assembly
  | [] => .done v
  | .array items :: stack => .afterItem stack (v :: items)
  | .object members k :: stack => .afterMember stack (members.put k v)

/-- Reading the token at which a value starts. -/
def startValue (stack : List Frame) : Token → Option Assembly
  | .value v => some (complete v stack)
  | .openArray => some (.firstItem stack)
  | .openObject => some (.firstName stack)
  | _ => none

/-- Reading a token. -/
def step : Assembly → Token → Option Assembly
  | .value stack, t => startValue stack t
  | .firstItem stack, .closeArray => some (complete (.arr []) stack)
  | .firstItem stack, t => startValue (.array [] :: stack) t
  | .afterItem stack items, .comma => some (.value (.array items :: stack))
  | .afterItem stack items, .closeArray => some (complete (.arr items.reverse) stack)
  | .firstName stack, .closeObject => some (complete (.obj []) stack)
  | .firstName stack, .value (.str k) => some (.colon stack [] k)
  | .name stack members, .value (.str k) => some (.colon stack members k)
  | .colon stack members k, .colon => some (.value (.object members k :: stack))
  | .afterMember stack members, .comma => some (.name stack members)
  | .afterMember stack members, .closeObject => some (complete (.obj members) stack)
  | _, _ => none

/-- The value, when nothing more is to come. -/
def finish : Assembly → Option Json
  | .done v => some v
  | _ => none

end Assembly

/-- The value that a list of tokens writes. -/
def ofTokens? (tokens : List Token) : Option Json := do
  let a ← tokens.foldlM Assembly.step (.value [])
  a.finish

/-- The value that a text writes. -/
def ofChars? (cs : List Point) : Option Json := do
  ofTokens? (← Token.ofChars? cs)

/-- The value that a text writes. -/
def read? (text : Text) : Option Json := ofChars? text.toList

end Kanban.Json
