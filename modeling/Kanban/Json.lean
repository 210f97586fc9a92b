import Kanban.Number
import Kanban.Text

/-!
# JSON values

The values that snapshots, requests and audit entries are made of.  The members of an object
stand in order, under distinct names in every value that was read from text.  Values are
compared in two ways: `=` tells integers from doubles, while `Json.same` compares numbers by
value, takes a Boolean for the number one or zero, and ignores the order of members.
-/

namespace Kanban

/-- A JSON value. -/
inductive Json where
  | null
  | bool (b : Bool)
  | num (n : Number)
  | str (s : Text)
  | arr (items : List Json)
  | obj (members : List (Text × Json))

/-- The members of an object, in order. -/
abbrev Members := List (Text × Json)

/-- The member `name` set to `value`: in its place if there is one, else at the end. -/
def Members.put (name : Text) (value : Json) : Members → Members
  | [] => [(name, value)]
  | (k, v) :: rest => if k = name then (k, value) :: rest else (k, v) :: Members.put name value rest

/-- The value of the member `name`. -/
def Members.get? (name : Text) : Members → Option Json
  | [] => none
  | (k, v) :: rest => if k = name then some v else Members.get? name rest

/-- The value of the member `name`, and `null` where there is none. -/
def Members.value (members : Members) (name : Text) : Json := (members.get? name).getD .null

namespace Json

instance : Inhabited Json := ⟨.null⟩

/-- An integer as a value. -/
def int (n : Int) : Json := .num (.int n)

/-- A list of texts as a value. -/
def strs (l : List Text) : Json := .arr (l.map .str)

/-- A text, or `null` for none. -/
def ofText? : Option Text → Json
  | some s => .str s
  | none => .null

/-- The value is `null`. -/
def isNull : Json → Bool
  | .null => true
  | _ => false

/-- A value that counts as something: neither `null`, `false`, a zero nor anything empty. -/
def truthy : Json → Bool
  | .null => false
  | .bool b => b
  | .num n => !n.isZero
  | .str s => s ≠ ""
  | .arr items => !items.isEmpty
  | .obj members => !members.isEmpty

/-- The number that a value is compared as. -/
def number? : Json → Option Number
  | .bool b => some (.int (if b then 1 else 0))
  | .num n => some n
  | _ => none

mutual

/-- Equality of values, numbers compared by value. -/
def same : Json → Json → Bool
  | .null, .null => true
  | .str s, .str t => s == t
  | .arr xs, .arr ys => sameItems xs ys
  | .obj xs, .obj ys => xs.length == ys.length && sameMembers xs ys
  | .bool b, y => (y.number?.map (Number.same (.int (if b then 1 else 0)))).getD false
  | .num n, y => (y.number?.map n.same).getD false
  | _, _ => false

/-- Equality of items, place by place. -/
def sameItems : List Json → List Json → Bool
  | [], [] => true
  | x :: xs, y :: ys => same x y && sameItems xs ys
  | _, _ => false

/-- Every member on the left is a member on the right. -/
def sameMembers : List (Text × Json) → List (Text × Json) → Bool
  | [], _ => true
  | (k, v) :: rest, ys =>
    (match Members.get? k ys with
      | some w => same v w
      | none => false)
    && sameMembers rest ys

end

/-- The word for the kind of a value. -/
def kind : Json → Text
  | .null => "null"
  | .bool _ => "boolean"
  | .num _ => "number"
  | .str _ => "string"
  | .arr _ => "array"
  | .obj _ => "object"

end Json

end Kanban
