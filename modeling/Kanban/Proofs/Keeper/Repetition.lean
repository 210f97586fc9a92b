import Kanban.Proofs.Board.Revision
import Kanban.Proofs.Keeper.Rejection

/-!
# Calls that are repeated

An edit, a removal or a move that was carried out has nothing left to do, and neither has setting
the review flag.  So the same call once more, at whatever time, saves nothing and makes no entry:
the keeper stays what it is (`Keeper.call_again`).
-/

namespace Kanban

/-- The call of a keeper that carries out a command. -/
def TaskCommand.operation : TaskCommand → Operation
  | update id e => .update id e
  | delete id => .delete id
  | move id column => .move id column

/-- A call that carries out a command about a task on the board or sets the review flag. -/
inductive Call.Repeatable : Call → Prop
  | command (c : TaskCommand) : Repeatable (.operation c.operation)
  | updateFrom (id : Text) (payload : Json) : Repeatable (.updateFrom id payload)
  | review (value : Json) : Repeatable (.operation (.review value))

namespace Keeper

variable {β : Type} [Backend β] {src : Source} {k : Keeper β} {c : TaskCommand} {a : Answer}

theorem perform_operation (k : Keeper β) (src : Source) (c : TaskCommand) :
  k.perform src c.operation
    = k.carryOut ((c.run k.board (src.stamp k.drawn)).map .ofEntry)
  := by
  rw [perform_eq]
  cases c <;> rfl

/-- Whether or not it could be written and saved, the board is the new one. -/
theorem board_commit {α : Type} (k : Keeper β) (n : ℕ) (b : Board) (a : α) :
  (k.commit n b a).2.board = b
  := by
  rw [commit]
  split <;> rfl

/-- Whether or not it could be saved, the board is the one after the command. -/
theorem board_carryOut (k : Keeper β) (r : Except Refusal (Option (Board × Entry))) :
  (k.carryOut (r.map .ofEntry)).2.board = k.board.after r
  := by
  rcases r with r | _ | ⟨b, x⟩
  · rfl
  · rfl
  · apply board_commit

theorem perform_operation_again (h : (k.perform src c.operation).1 = .ok a) (src' : Source) :
  (k.perform src c.operation).2.perform src' c.operation
    = (.ok (.entry none), (k.perform src c.operation).2)
  := by
  cases hr : c.run k.board (src.stamp k.drawn) with
  | error r =>
      rw [perform_operation, hr] at h
      cases h
  | ok r =>
      have hboard := board_carryOut k (c.run k.board (src.stamp k.drawn))
      rw [← perform_operation, hr] at hboard
      rw [perform_operation (k.perform src c.operation).2, hboard, TaskCommand.run_again hr]
      rfl

theorem perform_review_again (k : Keeper β) (src src' : Source) (v : Json) :
  (k.perform src (.review v)).2.perform src' (.review v)
    = (.ok .done, (k.perform src (.review v)).2)
  := by
  have hmode : (k.perform src (.review v)).2.board.reviewMode = v.truthy := by
    rw [perform_eq, Operation.effect]
    by_cases hsame : k.board.reviewMode = v.truthy
    · rw [if_pos hsame]
      exact hsame
    · rw [if_neg hsame]
      apply congrArg Board.reviewMode (board_commit k 0 _ Answer.done)
  rw [perform_eq, Operation.effect, if_pos hmode]
  rfl

/-- The same command on the board that it has given has nothing to do.  A call that carries out a
command or sets the review flag, if it has returned, does nothing when it is made once more: it
shows nobody an entry, and the keeper, with its board and all that was saved, is the same. -/
theorem call_again :
  (∀ (c : TaskCommand) (b : Board) (s s' : Stamp) (r : Option (Board × Entry)),
      c.run b s = .ok r → c.run (b.after (.ok r)) s' = .ok none)
    ∧ ∀ (k : Keeper β) (src src' : Source) (c : Call) (a : Answer),
      c.Repeatable → (k.call src c).1 = .ok a →
        ∃ a', (k.call src c).2.call src' c = (.ok a', (k.call src c).2) ∧ a'.Silent
  := by
  constructor
  · intro c b s s' r h
    apply TaskCommand.run_again h
  · intro k src src' c a hc h
    cases hc with
    | command c => exact ⟨_, perform_operation_again h src', trivial⟩
    | review v => exact ⟨_, perform_review_again k src src' v, trivial⟩
    | updateFrom id payload =>
        cases he : TaskEdit.ofJson payload with
        | error r =>
            rw [call, Call.operation?, he] at h
            cases h
        | ok e =>
            have hcall (k : Keeper β) (src : Source) : k.call src (.updateFrom id payload)
                = k.perform src (TaskCommand.operation (.update id e)) := by
              rw [call, Call.operation?, he]
              rfl
            rw [hcall] at h ⊢
            rw [hcall]
            exact ⟨_, perform_operation_again h src', trivial⟩

/-- A move of a task to the last column. -/
def storing : TaskCommand := .move harvest.id (.str "done")

/-- An edit that is sent with a padded note. -/
def wetting : Call :=
  .updateFrom harvest.id (.obj [("title", .str "Harvest"), ("reviewerNote", .str " wet ")])

/-- The beginning of the calendar. -/
def dawn : Source := ⟨some ⟨0, some 0⟩, Uuid.supply 0⟩

/-- The note is trimmed both times, and the second time there is nothing left to do. -/
theorem call_again_reaper :
  (∃ r, storing.run reaper.board (dawn.stamp 0) = .ok (some r)
      ∧ storing.run (reaper.board.after (.ok (some r))) (dawn.stamp 1) = .ok none)
    ∧ (reaper.call dawn wetting).2.backend.saves = 1
    ∧ ∃ a a', (reaper.call dawn wetting).1 = .ok a
      ∧ (reaper.call dawn wetting).2.call dawn wetting
        = (.ok a', (reaper.call dawn wetting).2)
      ∧ a'.Silent
  := by
  have hrun : (storing.run reaper.board (dawn.stamp 0)).toOption.join.isSome = true := by
    decide +kernel
  have hsaves : (reaper.call dawn wetting).2.backend.saves = 1 := by decide +kernel
  have hcall : (reaper.call dawn wetting).1.toOption.isSome = true := by decide +kernel
  obtain ⟨r, hr⟩ := Option.isSome_iff_exists.mp hrun
  rw [Option.join_eq_some_iff, toOption_eq_some_iff] at hr
  obtain ⟨a, ha⟩ := Option.isSome_iff_exists.mp hcall
  rw [toOption_eq_some_iff] at ha
  obtain ⟨hrepeat, hcalls⟩ := call_again (β := Memory)
  obtain ⟨a', hagain, hsilent⟩ := hcalls reaper dawn dawn wetting a (.updateFrom _ _) ha
  exact ⟨⟨r, hr, hrepeat _ _ _ _ _ hr⟩, hsaves, a, a', ha, hagain, hsilent⟩

end Keeper

end Kanban
