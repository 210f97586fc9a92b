/-!
# Occurrence

Finding a list inside another one.
-/

namespace Kanban.Text

variable {α : Type} [BEq α]

/-- The first list stands somewhere in the second, without gaps. -/
def occursIn (needle : List α) : List α → Bool
  | [] => needle.isEmpty
  | c :: cs => needle.isPrefixOf (c :: cs) || occursIn needle cs

end Kanban.Text
