import Kanban.Json.Display

/-!
# Issues

What is wrong with a snapshot.  An `Issue` is a `Fault` and the path to the place where it
was found, and a `Checked` value is a value or else the issues that kept it from being one.
Checks are put together so that the issues of all of them are collected, in order.  Some faults
show the value that was received; where that cannot be shown, since an integer in it is too
long, the fault has no words and the whole check fails (`Checked.shown?`).
-/

namespace Kanban

/-- What is wrong with a value. -/
inductive Fault where
  | required
  /-- A value of the wrong kind. -/
  | kind (expected received : Text)
  | badUuid
  /-- A text with fewer than this many characters. -/
  | tooShort (least : Nat)
  /-- A text in the named member that denotes no moment. -/
  | badTime (name : Text)
  /-- A value that is none of the names allowed. -/
  | notOneOf (names : List Text) (received : Json)
  | notFinite
  | notWhole
  | below (least : Nat)
  | above (greatest : Nat)
  /-- A value other than the one text allowed. -/
  | notLiteral (text : Text)
  /-- A text that is not JSON. -/
  | notJson

namespace Fault

/-- A name between quotes. -/
def quotedName (name : Text) : Text := Text.ofList (Text.quoted name.toList)

/-- A fault in words; none when the value received cannot be shown. -/
def message? : Fault → Option Text
  | .required => some "Required"
  | .kind expected received => some ("Expected " ++ expected ++ ", received " ++ received)
  | .badUuid => some "Invalid uuid"
  | .tooShort least =>
    some ("String must contain at least " ++ toString least ++ " character(s)")
  | .badTime name => some (name ++ " must be an ISO date-time")
  | .notOneOf names received =>
    let allowed := Text.intercalate " | " (names.map quotedName)
    received.display?.map fun shown =>
      "Invalid enum value. Expected " ++ allowed ++ ", received " ++ shown
  | .notFinite => some "Number must be finite"
  | .notWhole => some "Expected integer, received float"
  | .below least => some ("Number must be greater than or equal to " ++ toString least)
  | .above greatest => some ("Number must be less than or equal to " ++ toString greatest)
  | .notLiteral text => some ("Invalid literal value, expected " ++ quotedName text)
  | .notJson => some "file is not valid JSON"

end Fault

/-- A fault and where it was found. -/
structure Issue where
  path : List Text
  fault : Fault

namespace Issue

/-- The path with dots between its parts; empty parts are left out. -/
def pathText (i : Issue) : Text := Text.intercalate "." (i.path.filter (· ≠ ""))

/-- An issue in words, if its fault has any. -/
def text? (i : Issue) : Option Text :=
  i.fault.message?.map fun message =>
    if i.pathText = "" then message else i.pathText ++ ": " ++ message

/-- The issue as found from one level further out. -/
def under (part : Text) (i : Issue) : Issue := { i with path := part :: i.path }

end Issue

/-- A value, or the issues that kept it from being one. -/
inductive Checked (α : Type) where
  | ok (value : α)
  | bad (first : Issue) (more : List Issue)

namespace Checked

variable {α β : Type}

/-- The issues found. -/
def issues : Checked α → List Issue
  | .ok _ => []
  | .bad first more => first :: more

/-- The value, if there was no issue. -/
def value? : Checked α → Option α
  | .ok a => some a
  | .bad .. => none

/-- The check, if all its issues can be shown; where one of them cannot, the check fails. -/
def shown? (c : Checked α) : Option (Checked α) :=
  if c.issues.all fun i => i.fault.message?.isSome then some c else none

@[simp]
theorem shown?_ok (a : α) :
  (Checked.ok a).shown? = some (.ok a)
  := rfl

theorem eq_of_shown? {c d : Checked α} (h : c.shown? = some d) :
  d = c
  := by
  rw [shown?] at h
  split at h
  · exact (Option.some.inj h).symm
  · contradiction

/-- A check that ends in the given fault. -/
def fault (f : Fault) : Checked α := .bad ⟨[], f⟩ []

/-- The value changed by a function. -/
def map (f : α → β) : Checked α → Checked β
  | .ok a => .ok (f a)
  | .bad first more => .bad first more

/-- Two checks, both of which are carried out. -/
def both : Checked α → Checked β → Checked (α × β)
  | .ok a, .ok b => .ok (a, b)
  | .ok _, .bad first more => .bad first more
  | .bad first more, c => .bad first (more ++ c.issues)

/-- A check that needs the value of another. -/
def andThen (c : Checked α) (f : α → Checked β) : Checked β :=
  match c with
  | .ok a => f a
  | .bad first more => .bad first more

/-- The check as made from one level further out. -/
def under (part : Text) : Checked α → Checked α
  | .ok a => .ok a
  | .bad first more => .bad (first.under part) (more.map (·.under part))

/-- Checks put together with a function of their values. -/
instance : Applicative Checked where
  pure := .ok
  map := map
  seq f c := (f.both (c ())).map fun (g, a) => g a

/-- All checks of a list, in order. -/
def all : List (Checked α) → Checked (List α)
  | [] => .ok []
  | c :: cs => (c.both (all cs)).map fun (a, as) => a :: as

@[simp]
theorem issues_map (f : α → β) (c : Checked α) :
  (c.map f).issues = c.issues
  := by
  cases c <;> rfl

@[simp]
theorem issues_both (c : Checked α) (d : Checked β) :
  (c.both d).issues = c.issues ++ d.issues
  := by
  cases c <;> cases d <;> rfl

@[simp]
theorem issues_fmap (f : α → β) (c : Checked α) :
  (f <$> c).issues = c.issues
  := issues_map f c

@[simp]
theorem issues_seq (f : Checked (α → β)) (c : Checked α) :
  (f <*> c).issues = f.issues ++ c.issues
  := by
  simp [Seq.seq]

@[simp]
theorem issues_under (part : Text) (c : Checked α) :
  (c.under part).issues = c.issues.map (·.under part)
  := by
  cases c <;> rfl

@[simp]
theorem issues_all (cs : List (Checked α)) :
  (all cs).issues = cs.flatMap issues
  := by
  induction cs with
  | nil => rfl
  | cons c cs ih => simp [all, ih]

end Checked

end Kanban
