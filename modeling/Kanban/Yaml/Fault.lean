/-!
# Faults

Why a YAML text has no value.  Most texts are simply malformed; the other faults are scalars
that look like, or are said to be, something that they do not write.
-/

namespace Kanban.Yaml

/-- Why a text has no value. -/
inductive Fault where
  | malformed
  /-- A number that no character has. -/
  | noCharacter
  /-- The spelling is that of a number, but it writes none. -/
  | noNumber
  /-- Nothing at all stands where a number should. -/
  | emptyNumber
  /-- A number in base sixty has too many places. -/
  | largeNumber
  /-- A scalar is said to be true or false and is neither. -/
  | noBoolean
  /-- A scalar is said to be a time and is not spelt like one. -/
  | noTime
  /-- A time is not in the calendar. -/
  | pastCalendar
  deriving DecidableEq

end Kanban.Yaml
