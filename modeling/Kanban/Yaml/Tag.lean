/-!
# Tags

What a node is: the kinds of scalars and of collections.  Two kinds of scalars are of use only
as keys of a mapping: one that takes over the members of other mappings, and one that is the
mapping's value where it stands for a scalar.
-/

namespace Kanban.Yaml

/-- What a node is. -/
inductive Tag where
  | null
  | boolean
  | integer
  | float
  | time
  | text
  | binary
  | list
  | map
  | set
  /-- A list of mappings with one member each. -/
  | pairs
  /-- A key that takes over the members of other mappings. -/
  | merge
  /-- A key whose value may stand for the mapping. -/
  | value
  /-- Something that is not known here. -/
  | other
  deriving DecidableEq

namespace Tag

/-- What the addresses of all known tags start with. -/
def root : String := "tag:yaml.org,2002:"

/-- The ends of the addresses of tags. -/
def names : List (String × Tag) :=
  [("null", .null), ("bool", .boolean), ("int", .integer), ("float", .float),
    ("timestamp", .time), ("str", .text), ("binary", .binary), ("seq", .list),
    ("map", .map), ("set", .set), ("omap", .pairs), ("pairs", .pairs), ("merge", .merge),
    ("value", .value)]

/-- The tag of an address. -/
def ofAddress (s : String) : Tag :=
  ((names.find? fun (name, _) => root ++ name == s).map (·.2)).getD .other

end Tag

end Kanban.Yaml
