import Kanban.Proofs.Keeper.Reload

/-!
# Reachable keepers

A keeper is reachable when it comes about by starting on any place, or with an empty board, and
by any steps after that, whether they are refused or not and whether their saves succeed or not.
Its board is sound (`Keeper.Reachable.sound`).
-/

namespace Kanban

namespace Keeper

variable {β : Type} [Backend β] {ids : Nat → Text} {k : Keeper β}

/-- A keeper that was started on some place, or has an empty board, and has then carried out
some steps. -/
inductive Reachable (ids : Nat → Text) : Keeper β → Prop
  | started {accents : Bool} {w : Surroundings β} {now : Option Moment} {k : Keeper β}
      (utc : ∀ m ∈ now, m.Utc) (start : (start ⟨now, ids⟩ accents w).1 = .ok k) : Reachable ids k
  | empty (w : Surroundings β) : Reachable ids ⟨w, Board.empty⟩
  | step {k : Keeper β} {s : Step} (reachable : Reachable ids k) (proper : s.Proper) :
      Reachable ids (k.step ids s).2

/-- The board of a reachable keeper is sound. -/
theorem Reachable.sound (hids : ∀ i, Check.isUuid (ids i) = true) (h : Reachable ids k) :
  k.board.Sound
  := by
  induction h with
  | started utc start =>
      obtain ⟨content, hcontent⟩ := load_of_start start
      apply ((opens_of_start hcontent start).sound (proper_stamp hids utc)).1
  | empty w => apply Board.sound_empty
  | step _ hs ih => apply sound_step hids ih hs

/-- What can be reached in some steps from a reachable keeper is reachable. -/
theorem Reachable.run (h : Reachable ids k) {steps : List Step} (hsteps : ∀ s ∈ steps, s.Proper) :
  Reachable ids (k.run ids steps)
  := by
  induction steps generalizing k with
  | nil => apply h
  | cons s steps ih =>
      obtain ⟨hs, hsteps⟩ := List.forall_mem_cons.mp hsteps
      apply ih (h.step hs) hsteps

end Keeper

end Kanban
