import Kanban.Yaml.Node

/-!
# Reading YAML

The value of a text.  Nodes become values from the outside inwards, level by level, and of
several faults the one on the outermost level counts, the first one there.  Under a key that
merges, the members of other mappings are taken over in front of a mapping's own, and of
repeated keys the last one counts.  A node may stand in itself by an alias; its value would be a
part of itself, and has `null` in that place instead.
-/

namespace Kanban.Yaml

/-- A fault and the level on which it is found. -/
structure Misread where
  level : Nat
  fault : Fault

namespace Misread

/-- A fault on the outermost level. -/
def here (f : Fault) : Misread := ⟨0, f⟩

/-- The fault of what stands a level further in. -/
def inner (m : Misread) : Misread := { m with level := m.level + 1 }

/-- The fault that counts of one and a later one. -/
def first (a b : Misread) : Misread := if b.level < a.level then b else a

/-- All results, or the fault that counts. -/
def all {α : Type} : List (Except Misread α) → Except Misread (List α)
  | [] => pure []
  | r :: rs =>
    match r, all rs with
    | .ok a, .ok as => pure (a :: as)
    | .ok _, .error m => throw m
    | .error m, .ok _ => throw m
    | .error m, .error m' => throw (first m m')

/-- Two results, or the fault that counts. -/
def both {α β : Type} (a : Except Misread α) (b : Except Misread β) : Except Misread (α × β) :=
  match a, b with
  | .ok a, .ok b => pure (a, b)
  | .ok _, .error m => throw m
  | .error m, .ok _ => throw m
  | .error m, .error m' => throw (first m m')

end Misread

namespace Node

/-- The tag is that of a collection, of which the inner part is looked at later. -/
def isCollection (n : Node) : Bool := [Tag.list, .map, .set, .pairs].contains n.tag

/-- The text of a node that is to be a scalar: that of the scalar, or of the value that stands
for a mapping. -/
def scalarText? : Nat → Node → Option Text
  | n + 1, .map _ members =>
    (members.find? fun (k, _) => k.tag = .value).bind fun (_, v) => scalarText? n v
  | _, .scalar _ s => some s
  | _, _ => none

/-- The key of a member with no more meaning than that of its text. -/
def asText : Node → Node
  | .scalar .value s => .scalar .text s
  | n => n

/-- The members of a mapping without those that merge. -/
def ownMembers (members : List (Node × Node)) : List (Node × Node) :=
  (members.filter fun (k, _) => k.tag ≠ .merge).map fun (k, v) => (k.asText, v)

/-- The members of a mapping, those that are taken over in front.  Of several mappings the
members of the last are put first.  The number bounds how deep the taking over goes. -/
def allMembers : Nat → List (Node × Node) → Except Fault (List (Node × Node))
  | 0, _ => throw .malformed
  | n + 1, members => do
    let taken ← (members.filter fun (k, _) => k.tag = .merge).mapM fun (_, v) =>
      match v with
      | .map _ ms => allMembers n ms
      | .around => pure []
      | .list _ items => do
        let parts ← items.mapM fun
          | .map _ ms => allMembers n ms
          | .around => pure []
          | _ => throw .malformed
        pure parts.reverse.flatten
      | .scalar _ _ => throw .malformed
    pure (taken.flatten ++ ownMembers members)

/-- The key that a value is. -/
def keyOf (v : Value) : Except Misread Value :=
  if v.isKey then pure v else throw (.here .malformed)

/-- The members of keys and values. -/
def collect (r : Except Misread (List (Value × Value))) : Except Misread (List (Value × Value)) :=
  r.map Value.collect

/-- The value of a node.  The number bounds how deep the node is. -/
def value : Nat → Node → Except Misread Value
  | 0, _ => throw (.here .malformed)
  | n + 1, node =>
    let child (m : Node) : Except Misread Value :=
      if m.isCollection then (value n m).mapError Misread.inner else value n m
    let key (m : Node) : Except Misread Value :=
      if m.isCollection then throw (.here .malformed) else value n m >>= keyOf
    let ofMembers (members : List (Node × Node)) : Except Misread (List (Value × Value)) := do
      let members ← (allMembers (n + 1) members).mapError Misread.here
      collect (Misread.all (members.map fun (k, v) => Misread.both (key k) (child v)))
    match node.tag, node with
    | .list, .list _ items => (Misread.all (items.map child)).map .list
    | .pairs, .list _ items => do
      let pairs ← Misread.all (items.map fun
        | .map _ [(k, v)] => Misread.both (child k) (child v)
        | _ => throw (.here .malformed))
      pure (.list (pairs.map fun (k, v) => .pair k v))
    | .map, .map _ members => (ofMembers members).map .map
    | .set, .map _ members => (ofMembers members).map fun ms => .set (ms.map (·.1))
    | _, .around => pure .null
    | tag, node =>
      match scalarText? n node with
      | some s => (Scalar.value s tag).mapError Misread.here
      | none => throw (.here .malformed)

end Node

/-! ### Texts -/

/-- A character that may stand in a text. -/
def isAllowed (c : Char) : Bool :=
  let n := c.toNat
  n == 0x09 || n == 0x0A || (0x20 ≤ n && n ≤ 0x7E) || n == 0x85
    || (0xA0 ≤ n && n ≤ 0xFFFD) || 0x10000 ≤ n

/-- The value that a text writes, in which lines end with line feeds; a text without a document
writes `null`. -/
def read (s : String) : Except Fault Value := do
  let cs := s.toList
  if !cs.all isAllowed then throw .malformed
  match ← Node.ofChars? cs with
  | none => pure .null
  | some n => (n.value (cs.length + 1)).mapError Misread.fault

end Kanban.Yaml
