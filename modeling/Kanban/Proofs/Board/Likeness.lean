import Kanban.Proofs.Board.Snapshot
import Kanban.Proofs.Json.Equality

/-!
# Boards with the same value

Two tasks are alike when they differ in nothing but how their numbers are written, and two
boards when their tasks are alike, in order, and the rest is the same.  Reading a snapshot
changes a board to one that is alike.
-/

namespace Kanban

/-- Tasks that differ only in how the values of their numbers are written. -/
structure Task.Alike (t u : Task) : Prop where
  rest : { t with estimate := u.estimate, score := u.score } = u
  estimate : t.estimate.place? = u.estimate.place?
  score : t.score.map Number.place? = u.score.map Number.place?

namespace Task.Alike

variable {t u v : Task}

@[refl]
theorem refl (t : Task) :
  t.Alike t
  := ⟨rfl, rfl, rfl⟩

@[symm]
theorem symm (h : t.Alike u) :
  u.Alike t
  := by
  constructor
  · rw [← h.rest]
  · exact h.estimate.symm
  · exact h.score.symm

@[trans]
theorem trans (h : t.Alike u) (h' : u.Alike v) :
  t.Alike v
  := by
  constructor
  · rw [← h'.rest, ← h.rest]
  · exact h.estimate.trans h'.estimate
  · exact h.score.trans h'.score

end Task.Alike

theorem Task.settled_alike (t : Task) :
  t.settled.Alike t
  := ⟨rfl, Number.place?_settled _, rfl⟩

/-- Boards of alike tasks, in the same order, with the same audit log and review flag. -/
structure Board.Alike (b c : Board) : Prop where
  tasks : List.Forall₂ Task.Alike b.tasks c.tasks
  audit : b.audit = c.audit
  reviewMode : b.reviewMode = c.reviewMode

namespace Board.Alike

variable {b c d : Board}

@[refl]
theorem refl (b : Board) :
  b.Alike b
  := ⟨List.forall₂_same.mpr fun t _ => .refl t, rfl, rfl⟩

@[symm]
theorem symm (h : b.Alike c) :
  c.Alike b
  := by
  constructor
  · apply List.Forall₂.flip
    apply h.tasks.imp fun _ _ => Task.Alike.symm
  · exact h.audit.symm
  · exact h.reviewMode.symm

@[trans]
theorem trans (h : b.Alike c) (h' : c.Alike d) :
  b.Alike d
  := by
  constructor
  · apply forall₂_trans_of_mem h.tasks h'.tasks
    intro t _ u v htu huv
    apply htu.trans huv
  · exact h.audit.trans h'.audit
  · exact h.reviewMode.trans h'.reviewMode

end Board.Alike

theorem Board.settled_alike (b : Board) :
  b.settled.Alike b
  := by
  constructor
  · apply List.forall₂_map_left_iff.mpr
    apply List.forall₂_same.mpr fun t _ => t.settled_alike
  · rfl
  · rfl

end Kanban
