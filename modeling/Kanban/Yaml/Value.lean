import Kanban.Moment
import Kanban.Number

/-!
# YAML values

What a YAML text writes.  Beside the values of JSON there are bytes, dates and times, sets and
pairs, and the keys of a mapping may be values of any kind that can be compared.
-/

namespace Kanban.Yaml

/-- A YAML value. -/
inductive Value where
  | null
  | bool (b : Bool)
  | num (n : Number)
  | str (s : Text)
  | bytes (bs : List UInt8)
  | date (d : Date)
  /-- A date with a time of day. -/
  | moment (m : Moment)
  | list (items : List Value)
  | pair (first second : Value)
  | map (members : List (Value × Value))
  | set (items : List Value)

namespace Value

/-- A value that counts as something: neither `null`, `false`, a zero nor anything empty. -/
def truthy : Value → Bool
  | .null => false
  | .bool b => b
  | .num n => !n.isZero
  | .str s => s ≠ ""
  | .bytes bs => !bs.isEmpty
  | .date _ => true
  | .moment _ => true
  | .list items => !items.isEmpty
  | .pair _ _ => true
  | .map members => !members.isEmpty
  | .set items => !items.isEmpty

/-- The number that a value is compared as. -/
def number? : Value → Option Number
  | .bool b => some (.int (if b then 1 else 0))
  | .num n => some n
  | _ => none

/-- A value that can be a key. -/
def isKey : Value → Bool
  | .list _ => false
  | .map _ => false
  | .set _ => false
  | .pair a b => a.isKey && b.isKey
  | _ => true

/-- The two keys are one. -/
def isSameKey : Value → Value → Bool
  | .null, .null => true
  | .str s, .str t => s == t
  | .bytes bs, .bytes cs => bs == cs
  | .date d, .date e => d == e
  | .moment m, .moment n => m.offset.isSome == n.offset.isSome && m.instant == n.instant
  | .pair a b, .pair c d => a.isSameKey c && b.isSameKey d
  | k, l =>
    match k.number?, l.number? with
    | some a, some b => a.same b
    | _, _ => false

/-- The members with a value for a key: in its place if there is one, else at the end. -/
def put (key value : Value) : List (Value × Value) → List (Value × Value)
  | [] => [(key, value)]
  | (k, v) :: rest => if k.isSameKey key then (k, value) :: rest else (k, v) :: put key value rest

/-- The members of keys and values; of repeated keys the last value counts. -/
def collect (members : List (Value × Value)) : List (Value × Value) :=
  members.foldl (fun ms (k, v) => put k v ms) []

end Value

end Kanban.Yaml
