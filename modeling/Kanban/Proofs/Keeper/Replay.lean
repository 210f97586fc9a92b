import Kanban.Proofs.Board.Replay
import Kanban.Proofs.Keeper.StepLaw

/-!
# The audit log replays to the board

Whatever commands are carried out, refused ones included and whether or not the board can be
saved, the entries that they add to the audit log lead from the tasks at the start to the tasks
at the end (`Keeper.replays_run`).  One step adds entries that fit (`Operation.follows_effect`),
and a run puts the entries of its steps in front of one another.
-/

namespace Kanban

/-- The entries lead from some tasks to others: each of them fits, and in the end there are the
written forms of the latter, in order. -/
def Replays (eq : Number → Number → Bool) (es : List Entry) (ts us : List Task) : Prop :=
  ∃ ms, Replay.entries eq (ts.map fun t => t.record.members) es = some ms
    ∧ List.Forall₂ (fun m u => (Json.obj m).agree eq u.toJson = true) ms us

open Replay

variable {eq : Number → Number → Bool} {ms : List Members} {b b' : Board}

/-- A command that changes the board adds entries that fit, and lead to the new tasks. -/
theorem Operation.follows_effect
    (heq : Number.Compares eq) {o : Operation} {s : Stamp} {n : Nat} {a : Answer}
    (ho : o.IsCommand) (hfresh : s.fresh 0 ∉ b.taskIds) (h : Follows eq ms b)
    (heffect : o.effect b s = .ok (.change n b' a)) :
  ∃ es ms', b'.audit = es ++ b.audit ∧ entries eq ms es = some ms' ∧ Follows eq ms' b'
  := by
  cases Operation.makes_of_effect ho heffect with
  | create made =>
      obtain ⟨ms', hms, h'⟩ := h.create heq hfresh made
      exact ⟨_, ms', Board.audit_create made, (entries_singleton ..).trans hms, h'⟩
  | update made =>
      obtain ⟨ms', hms, h'⟩ := h.update heq made
      exact ⟨_, ms', Board.audit_update made, (entries_singleton ..).trans hms, h'⟩
  | delete made =>
      obtain ⟨ms', hms, h'⟩ := h.delete made
      exact ⟨_, ms', Board.audit_delete made, (entries_singleton ..).trans hms, h'⟩
  | move made =>
      obtain ⟨ms', hms, h'⟩ := h.move made
      exact ⟨_, ms', Board.audit_move made, (entries_singleton ..).trans hms, h'⟩
  | review _ made =>
      rw [made]
      exact ⟨[], ms, rfl, rfl, h.nodup, h.mirrors⟩

namespace Keeper

variable {β : Type} [Backend β] {ids : Nat → Text}

/-- Whenever a step of a run is carried out, the next id is not that of a task. -/
def Fresh (ids : Nat → Text) : Keeper β → List Step → Prop
  | _, [] => True
  | k, s :: steps => ids k.drawn ∉ k.board.taskIds ∧ Fresh ids (k.step ids s).2 steps

theorem follows_step
    (heq : Number.Compares eq) {k : Keeper β} {s : Step} (hs : s.operation.IsCommand)
    (hfresh : ids k.drawn ∉ k.board.taskIds) (h : Follows eq ms k.board) :
  ∃ es ms', (k.step ids s).2.board.audit = es ++ k.board.audit ∧ entries eq ms es = some ms'
    ∧ Follows eq ms' (k.step ids s).2.board
  := by
  apply board_step (P := fun b => ∃ es ms', b.audit = es ++ k.board.audit ∧
    entries eq ms es = some ms' ∧ Follows eq ms' b)
  · exact ⟨[], ms, rfl, rfl, h⟩
  · intro n b a heffect
    apply Operation.follows_effect heq hs hfresh h heffect

theorem follows_run
    (heq : Number.Compares eq) {k : Keeper β} {steps : List Step}
    (hsteps : ∀ s ∈ steps, s.operation.IsCommand) (hfresh : Fresh ids k steps)
    (h : Follows eq ms k.board) :
  ∃ es ms', (k.run ids steps).board.audit = es ++ k.board.audit ∧ entries eq ms es = some ms'
    ∧ Follows eq ms' (k.run ids steps).board
  := by
  induction steps generalizing k ms with
  | nil => exact ⟨[], ms, rfl, rfl, h⟩
  | cons s steps ih =>
      obtain ⟨hs, hsteps⟩ := List.forall_mem_cons.mp hsteps
      obtain ⟨es, ms', haudit, hes, h'⟩ := follows_step heq hs hfresh.1 h
      obtain ⟨es', ms'', haudit', hes', h''⟩ := ih hsteps hfresh.2 h'
      refine ⟨es' ++ es, ms'', ?_, ?_, h''⟩
      · change (run ids (k.step ids s).2 steps).board.audit = _
        rw [haudit', haudit, List.append_assoc]
      · rw [entries_append, hes]
        apply hes'

/-- The entries that a run of commands has added to the audit log replay: they lead from the
tasks at the start to those at the end.  Not-a-number is alike to itself here; where there is
none at the start, numbers may be compared by value alone. -/
theorem replays_run
    {k : Keeper β} {steps : List Step} (hnodup : k.board.taskIds.Nodup)
    (hsteps : ∀ s ∈ steps, s.operation.IsCommand) (hfresh : Fresh ids k steps) :
  ∃ es, (k.run ids steps).board.audit = es ++ k.board.audit
    ∧ Replays Number.alike es k.board.tasks (k.run ids steps).board.tasks
    ∧ ((∀ t ∈ k.board.tasks, t.Reflexive Number.same) →
      Replays Number.same es k.board.tasks (k.run ids steps).board.tasks)
  := by
  have hstart {eq : Number → Number → Bool} (h : ∀ t ∈ k.board.tasks, t.Reflexive eq) :
      Follows eq (k.board.tasks.map fun t => t.record.members) k.board := by
    constructor
    · apply hnodup
    · apply List.forall₂_map_left_iff.mpr
      apply List.forall₂_same.mpr
      intro t ht
      apply (h t ht).mirrors
  have hreplays {eq : Number → Number → Bool} (heq : Number.Compares eq)
      (h : ∀ t ∈ k.board.tasks, t.Reflexive eq) :
      ∃ es, (k.run ids steps).board.audit = es ++ k.board.audit
        ∧ Replays eq es k.board.tasks (k.run ids steps).board.tasks := by
    obtain ⟨es, ms, haudit, hes, hms⟩ := follows_run heq hsteps hfresh (hstart h)
    exact ⟨es, haudit, ms, hes, hms.mirrors.imp fun _ _ hm => hm.agree⟩
  obtain ⟨es, haudit, halike⟩ := hreplays Number.compares_alike fun t _ => t.reflexive_alike
  refine ⟨es, haudit, halike, ?_⟩
  intro h
  obtain ⟨es', haudit', hsame⟩ := hreplays Number.compares_same h
  rw [haudit] at haudit'
  rwa [List.append_cancel_right haudit']

/-- Moving the only task of a board and then removing it, noted at the start of the epoch. -/
def clearing : List Step :=
  [⟨some ⟨0, some 0⟩, .move "a" (.str "done")⟩, ⟨some ⟨0, some 0⟩, .delete "a"⟩]

/-- The log of the two steps replays to a board without tasks. -/
theorem replays_clearing :
  ∃ es, (single.run (Uuid.supply 0) clearing).board.audit = es
    ∧ es.map Entry.action = [.delete, .move] ∧ Replays Number.same es single.board.tasks []
  := by
  have hnodup : single.board.taskIds.Nodup := by decide
  have hsteps : ∀ s ∈ clearing, s.operation.IsCommand := by simp [clearing, Operation.IsCommand]
  have hfresh : Fresh (Uuid.supply 0) single clearing := ⟨by decide, by decide +kernel, trivial⟩
  have htasks : (single.run (Uuid.supply 0) clearing).board.tasks = [] := by decide +kernel
  obtain ⟨es, haudit, -, hsame⟩ := replays_run hnodup hsteps hfresh
  refine ⟨es, haudit.trans (List.append_nil es), ?_, ?_⟩
  · rw [← List.append_nil es]
    change (es ++ single.board.audit).map _ = _
    rw [← haudit]
    decide +kernel
  · rw [← htasks]
    apply hsame
    intro t ht
    obtain rfl := List.mem_singleton.mp ht
    constructor
    · decide
    · intro n hn
      cases hn

end Keeper

end Kanban
