import Kanban.Yaml.Scalar
import Kanban.Yaml.Token

/-!
# YAML nodes

Tokens are put together to nodes: scalars, lists and mappings, each with its tag.  `Reading`
takes tokens one after the other; a fault in the text counts only when all tokens in front of
it have been in order.  A node may have an anchor, and an alias stands for the node that has
it.  A text holds at most one document.
-/

namespace Kanban.Yaml

/-- A node. -/
inductive Node where
  | scalar (tag : Tag) (text : Text)
  | list (tag : Tag) (items : List Node)
  | map (tag : Tag) (members : List (Node × Node))
  /-- A node that this one stands in. -/
  | around

namespace Node

/-- The node where nothing stands. -/
def empty : Node := .scalar .null ""

/-- The tag of a node; one that stands around another is a collection of some kind. -/
def tag : Node → Tag
  | .scalar t _ => t
  | .list t _ => t
  | .map t _ => t
  | .around => .list

end Node

/-- Tokens that are still to be taken, and what is known of those before. -/
structure Reading where
  tokens : List Token
  /-- What is wrong behind the tokens. -/
  fault : Option Fault
  /-- The nodes that have anchors; none while a node is being read. -/
  anchors : List (String × Option Node)
  /-- What handles of tags stand for. -/
  handles : List (String × String)

/-- Something that is read from tokens. -/
abbrev Read (α : Type) := StateT Reading (Except Fault) α

namespace Read

/-- The next token. -/
def peek : Read (Option Token) := do
  let r ← get
  match r.tokens, r.fault with
  | t :: _, _ => pure (some t)
  | [], none => pure none
  | [], some f => throw f

/-- Takes the next token. -/
def skip : Read Unit := modify fun r => { r with tokens := r.tokens.drop 1 }

/-- The tokens are not in order. -/
def fail {α : Type} : Read α := throw .malformed

/-- The node with an anchor. -/
def anchored (name : String) : Read Node := do
  match (← get).anchors.lookup name with
  | some (some n) => pure n
  | some none => pure .around
  | none => fail

/-- Notes an anchor, which must be a new one. -/
def note (name : String) : Read Unit := do
  if ((← get).anchors.lookup name).isSome then fail
  else modify fun r => { r with anchors := (name, none) :: r.anchors }

/-- The node under an anchor has been read. -/
def settle (name : String) (n : Node) : Read Unit :=
  modify fun r => { r with anchors := (name, some n) :: r.anchors }

/-- The address that a tag stands for. -/
def address (t : TagName) : Read String := do
  match t.handle with
  | none => pure t.suffix
  | some h =>
    match (← get).handles.lookup h with
    | some start => pure (start ++ t.suffix)
    | none => fail

/-! ### Labels -/

/-- An anchor, if one comes next. -/
def anchor? : Read (Option String) := do
  match ← peek with
  | some (.anchor name) => do skip; pure (some name)
  | _ => pure none

/-- A tag, if one comes next. -/
def tag? : Read (Option TagName) := do
  match ← peek with
  | some (.tag t) => do skip; pure (some t)
  | _ => pure none

/-- An anchor and a tag in either order, as far as they come next. -/
def labels : Read (Option String × Option TagName) := do
  match ← anchor? with
  | some a => do pure (some a, ← tag?)
  | none =>
    match ← tag? with
    | some t => do pure (← anchor?, some t)
    | none => pure (none, none)

/-- The address that says nothing about what a node is. -/
def openAddress : String := "!"

/-- The tag of a collection, which has a usual one. -/
def collectionTag (usual : Tag) : Option String → Tag
  | none => usual
  | some s => if s = openAddress then usual else .ofAddress s

/-- The tag of a scalar. -/
def scalarTag (plain : Bool) (text : Text) : Option String → Tag
  | none => if plain then Scalar.tag text else .text
  | some s => if s = openAddress then Scalar.tag text else .ofAddress s

/-! ### Ends -/

/-- No item follows a dash. -/
def endsItem : Option Token → Bool
  | some .dash => true
  | some .close => true
  | _ => false

/-- No key follows its mark, and no value its colon. -/
def endsEntry : Option Token → Bool
  | some .key => true
  | some .value => true
  | some .close => true
  | _ => false

/-- No value follows a colon in square brackets. -/
def endsInList : Option Token → Bool
  | some .comma => true
  | some .closeList => true
  | _ => false

/-- No value follows a colon in braces. -/
def endsInMap : Option Token → Bool
  | some .comma => true
  | some .closeMap => true
  | _ => false

/-- A colon comes next. -/
def isValue : Option Token → Bool
  | some .value => true
  | _ => false

/-- Something that is read, or nothing where it is missing. -/
def orEmpty (missing : Bool) (r : Read Node) : Read Node := if missing then pure .empty else r

/-! ### Nodes -/

/-- Where a node stands. -/
inductive Place where
  /-- In brackets. -/
  | brackets
  /-- On lines. -/
  | lines
  /-- On lines, as a key or value: the items of a list may stand in the column of the keys. -/
  | entry
  deriving DecidableEq

mutual

/-- A node.  The first number bounds how deep the reading goes. -/
def node : Nat → Place → Read Node
  | 0, _ => fail
  | n + 1, place => do
    match ← peek with
    | some (.aliasTo name) => do skip; anchored name
    | _ => do
      let (anchor, tag) ← labels
      let address ← tag.mapM address
      match anchor with
      | none => content n place address (tag.isSome)
      | some name => do
        note name
        let found ← content n place address true
        settle name found
        pure found

/-- A node without what stands in front of it. -/
def content : Nat → Place → Option String → Bool → Read Node
  | 0, _, _, _ => fail
  | n + 1, place, address, labelled => do
    match ← peek with
    | some (.scalar plain text) => do skip; pure (.scalar (scalarTag plain text address) text)
    | some .openList => do skip; pure (.list (collectionTag .list address) (← inList n true))
    | some .openMap => do skip; pure (.map (collectionTag .map address) (← inMap n true))
    | some .dash =>
      if place = .entry then do pure (.list (collectionTag .list address) (← flushItems n))
      else bare address labelled
    | some .openLines =>
      if place = .brackets then bare address labelled
      else do skip; pure (.list (collectionTag .list address) (← items n))
    | some .openKeys =>
      if place = .brackets then bare address labelled
      else do skip; pure (.map (collectionTag .map address) (← members n))
    | _ => bare address labelled

/-- A node of which there is only what stands in front of it. -/
def bare (address : Option String) (labelled : Bool) : Read Node :=
  if labelled then pure (.scalar (scalarTag true "" address) "") else fail

/-- The items of a list on lines. -/
def items : Nat → Read (List Node)
  | 0 => fail
  | n + 1 => do
    match ← peek with
    | some .dash => do
      skip
      let item ← orEmpty (endsItem (← peek)) (node n .lines)
      pure (item :: (← items n))
    | some .close => do skip; pure []
    | _ => fail

/-- The items of a list in the column of the keys around it. -/
def flushItems : Nat → Read (List Node)
  | 0 => fail
  | n + 1 => do
    match ← peek with
    | some .dash => do
      skip
      let missing := endsItem (← peek) || endsEntry (← peek)
      let item ← orEmpty missing (node n .lines)
      pure (item :: (← flushItems n))
    | _ => pure []

/-- The members of a mapping on lines. -/
def members : Nat → Read (List (Node × Node))
  | 0 => fail
  | n + 1 => do
    match ← peek with
    | some .key => do
      skip
      let key ← orEmpty (endsEntry (← peek)) (node n .entry)
      let value ← valueOf n endsEntry .entry
      pure ((key, value) :: (← members n))
    | some .close => do skip; pure []
    | _ => fail

/-- The value of a key, which may be missing. -/
def valueOf : Nat → (Option Token → Bool) → Place → Read Node
  | 0, _, _ => fail
  | n + 1, missing, place => do
    if isValue (← peek) then do
      skip
      orEmpty (missing (← peek)) (node n place)
    else pure .empty

/-- The items of a list in brackets, the first of which needs no comma. -/
def inList : Nat → Bool → Read (List Node)
  | 0, _ => fail
  | n + 1, first => do
    match ← peek with
    | some .closeList => do skip; pure []
    | some .comma => if first then fail else do skip; listItem n
    | _ => if first then listItem n else fail

/-- The items of a list in brackets, where an item or the end comes next. -/
def listItem : Nat → Read (List Node)
  | 0 => fail
  | n + 1 => do
    match ← peek with
    | some .closeList => do skip; pure []
    | some .key => do
      skip
      let key ← orEmpty (isValue (← peek) || endsInList (← peek)) (node n .brackets)
      let value ← valueOf n endsInList .brackets
      pure (.map .map [(key, value)] :: (← inList n false))
    | _ => do
      let item ← node n .brackets
      pure (item :: (← inList n false))

/-- The members of a mapping in brackets, the first of which needs no comma. -/
def inMap : Nat → Bool → Read (List (Node × Node))
  | 0, _ => fail
  | n + 1, first => do
    match ← peek with
    | some .closeMap => do skip; pure []
    | some .comma => if first then fail else do skip; mapMember n
    | _ => if first then mapMember n else fail

/-- The members of a mapping in brackets, where a member or the end comes next. -/
def mapMember : Nat → Read (List (Node × Node))
  | 0 => fail
  | n + 1 => do
    match ← peek with
    | some .closeMap => do skip; pure []
    | some .key => do
      skip
      let key ← orEmpty (isValue (← peek) || endsInMap (← peek)) (node n .brackets)
      let value ← valueOf n endsInMap .brackets
      pure ((key, value) :: (← inMap n false))
    | _ => do
      let key ← node n .brackets
      pure ((key, .empty) :: (← inMap n false))

end

/-! ### Documents -/

/-- The handles that are always known. -/
def usualHandles : List (String × String) := [("!", "!"), ("!!", Tag.root)]

/-- What the directives in front of a document say: whether there was one about the version, and
what handles stand for. -/
def directives : List Directive → Bool → List (String × String) →
    Except Fault (List (String × String))
  | [], _, handles => pure (handles ++ usualHandles)
  | .version major :: ds, versioned, handles =>
    if versioned || major ≠ 1 then throw .malformed else directives ds true handles
  | .handle name address :: ds, versioned, handles =>
    if (handles.lookup name).isSome then throw .malformed
    else directives ds versioned ((name, address) :: handles)
  | .other :: ds, versioned, handles => directives ds versioned handles

/-- The directive that a token is. -/
def directive? : Token → Option Directive
  | .directive d => some d
  | _ => none

/-- A mark of the end of a document. -/
def isEnd : Token → Bool
  | .documentEnd => true
  | _ => false

/-- Nothing of a document comes next. -/
def endsDocument : Option Token → Bool
  | none => true
  | some (.directive _) => true
  | some .documentStart => true
  | some .documentEnd => true
  | _ => false

/-- How deep the reading of tokens may go. -/
def depth (tokens : List Token) : Nat := 4 * tokens.length + 4

/-- A document with directives and a mark in front of it. -/
def markedDocument (n : Nat) : Read Node := do
  let tokens := (← get).tokens
  let ds := (tokens.takeWhile fun t => (directive? t).isSome).filterMap directive?
  let handles ← directives ds false []
  modify fun r => { r with tokens := r.tokens.drop ds.length, handles }
  match ← peek with
  | some .documentStart => do
    skip
    orEmpty (endsDocument (← peek)) (node n .lines)
  | _ => fail

/-- Nothing but marks of the end comes any more. -/
def finish : Read Unit := do
  modify fun r => { r with tokens := r.tokens.dropWhile isEnd }
  if (← peek).isSome then fail

/-- The document in a text, if there is one, behind which nothing may stand. -/
def document (n : Nat) : Read (Option Node) := do
  match ← peek with
  | none => pure none
  | some t => do
    let marked := match t with
      | .directive _ => true
      | .documentStart => true
      | _ => false
    let found ← if marked then markedDocument n else node n .lines
    finish
    pure (some found)

end Read

/-- The node in a text, if there is one. -/
def Node.ofChars? (cs : List Char) : Except Fault (Option Node) := do
  let ts := Tokens.ofChars cs
  (Read.document (Read.depth ts.list)).run' ⟨ts.list, ts.fault, [], Read.usualHandles⟩

end Kanban.Yaml
