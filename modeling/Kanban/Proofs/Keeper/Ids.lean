import Kanban.Proofs.Board.Ids
import Kanban.Proofs.Keeper.StepLaw

/-!
# Operations are local

On a board where no two tasks have the same id, an update, a move or a removal concerns the one
task with the id that it was called with, and no other.  Every operation leaves the ids distinct
if the ids that it draws are new, imports included, and so both hold all along a run
(`Keeper.local_run`).
-/

namespace Kanban

namespace Operation

/-- The snapshot that an import takes over. -/
def snapshot? : Operation → Option Json
  | importValue snapshot => some snapshot
  | importText text => Keeper.decodeText? text
  | importBytes bytes => Keeper.decodeBytes? bytes
  | _ => none

/-- The ids of the tasks that are imported. -/
def batchIds (o : Operation) : List Text :=
  ((o.snapshot?.bind fun v => (Board.read v).value?).map Board.taskIds).getD []

/-- The first `n` ids of a stamp are distinct, and none of them is that of a task on the board
or among the imported ones. -/
structure NewIds (o : Operation) (b : Board) (s : Stamp) (n : Nat) : Prop where
  distinct : ((List.range n).map s.fresh).Nodup
  board : ∀ i < n, s.fresh i ∉ b.taskIds
  batch : ∀ i < n, s.fresh i ∉ o.batchIds

instance (o : Operation) (b : Board) (s : Stamp) (n : Nat) : Decidable (o.NewIds b s n) :=
  decidable_of_iff (((List.range n).map s.fresh).Nodup ∧ (∀ i < n, s.fresh i ∉ b.taskIds)
      ∧ ∀ i < n, s.fresh i ∉ o.batchIds)
    ⟨fun ⟨distinct, board, batch⟩ => ⟨distinct, board, batch⟩,
      fun h => ⟨h.distinct, h.board, h.batch⟩⟩

/-- What an operation that has changed the board has done to the tasks. -/
def Local (b b' : Board) : Operation → Prop
  | create _ => ∃ t, b'.tasks = b.tasks ++ [t]
  | update id _ => b.Exchanges b' id fun t u => ∃ v, u = some v ∧ t.Edited v
  | delete id => b.Exchanges b' id fun _ u => u = none
  | move id _ => b.Exchanges b' id fun t u => ∃ c ≠ t.column, u = some { t with column := c }
  | review _ => b'.tasks = b.tasks
  | importValue _ | importText _ | importBytes _ => True

variable {b b' : Board} {s : Stamp} {n : Nat} {a : Answer} {o : Operation}

/-- The new board of an import has distinct ids. -/
theorem nodup_of_intake (hnew : o.NewIds b s n)
    (h : intake s o.snapshot? = .ok (.change n b' a)) :
  b'.taskIds.Nodup
  := by
  have hbatch := hnew.batch
  rw [batchIds] at hbatch
  cases hv : o.snapshot? with
  | none =>
      rw [hv] at h
      cases h
  | some v =>
      rw [hv] at h hbatch
      obtain ⟨⟨c, rs⟩ | _, hx, ha⟩ := map_eq_ok_iff.mp h
      · obtain ⟨rfl, rfl, -⟩ := Effect.change.inj ha
        apply Board.nodup_of_adopt _ _ hx
        · intro i (hi : i < rs.length) j (hj : j < rs.length)
          apply List.inj_on_of_nodup_map hnew.distinct <;> rw [List.mem_range] <;> omega
        · intro c hc i hi
          have := hbatch i (by omega)
          simpa [hc, Checked.value?] using this
      · cases ha

/-- An operation leaves distinct ids distinct, and is local. -/
theorem local_of_effect (hnodup : b.taskIds.Nodup) (hnew : o.NewIds b s n)
    (h : o.effect b s = .ok (.change n b' a)) :
  b'.taskIds.Nodup ∧ o.Local b b'
  := by
  by_cases hcommand : o.IsCommand
  · cases makes_of_effect hcommand h with
    | create made =>
        obtain ⟨_, -, hn⟩ := map_eq_ok_iff.mp h
        obtain ⟨rfl, -, -⟩ := Effect.change.inj hn
        apply Board.nodup_create hnodup (hnew.board 0 (by omega)) made
    | update made => apply Board.nodup_update hnodup made
    | delete made => apply Board.nodup_delete hnodup made
    | move made => apply Board.nodup_move hnodup made
    | review _ made =>
        rw [made]
        exact ⟨hnodup, rfl⟩
  · cases o with
    | importValue | importText | importBytes => exact ⟨nodup_of_intake hnew h, trivial⟩
    | _ => exact absurd trivial hcommand

end Operation

namespace Keeper

variable {β : Type} [Backend β] {ids : Nat → Text}

/-! ### Along a run -/

/-- Every step of a run has a property, with the keeper that carries it out. -/
def Along (ids : Nat → Text) (P : Keeper β → Step → Prop) : Keeper β → List Step → Prop
  | _, [] => True
  | k, s :: steps => P k s ∧ Along ids P (k.step ids s).2 steps

instance decidableAlong {P : Keeper β → Step → Prop} [∀ k s, Decidable (P k s)] :
    ∀ k steps, Decidable (Along ids P k steps)
  | _, [] => inferInstanceAs (Decidable True)
  | k, s :: steps =>
    have : Decidable (Along ids P (k.step ids s).2 steps) := decidableAlong ..
    inferInstanceAs (Decidable (P k s ∧ Along ids P (k.step ids s).2 steps))

/-- What every step preserves holds at each step of a run, with what follows from it there. -/
theorem Along.of_invariant {P Q : Keeper β → Step → Prop} {I : Keeper β → Prop}
    (hstep : ∀ k s, I k → P k s → I (k.step ids s).2 ∧ Q k s) {k : Keeper β} {steps : List Step}
    (hk : I k) (h : Along ids P k steps) :
  Along ids Q k steps
  := by
  induction steps generalizing k with
  | nil => trivial
  | cons s steps ih =>
      obtain ⟨hs, hsteps⟩ := h
      obtain ⟨hnext, hq⟩ := hstep k s hk hs
      exact ⟨hq, ih hnext hsteps⟩

/-! ### Distinct ids -/

/-- The ids that are drawn in a step are new. -/
def DrawsNew (ids : Nat → Text) (k : Keeper β) (s : Step) : Prop :=
  s.operation.NewIds k.board (Source.stamp ⟨s.now, ids⟩ k.drawn)
    ((k.step ids s).2.drawn - k.drawn)

instance (k : Keeper β) (s : Step) : Decidable (DrawsNew ids k s) :=
  inferInstanceAs (Decidable (s.operation.NewIds ..))

/-- The ids are distinct after an operation, and it has changed nothing or has been local. -/
structure ActsLocally (o : Operation) (k k' : Keeper β) : Prop where
  nodup : k'.board.taskIds.Nodup
  acts : k'.board = k.board ∨ o.Local k.board k'.board

theorem actsLocally_step {k : Keeper β} {s : Step} (hnodup : k.board.taskIds.Nodup)
    (hnew : DrawsNew ids k s) :
  ActsLocally s.operation k (k.step ids s).2
  := by
  have hchanged {n : Nat} {b : Board} {a : Answer} {w : β}
      (heffect : s.operation.effect k.board (Source.stamp ⟨s.now, ids⟩ k.drawn)
        = .ok (.change n b a))
      (hnext : (k.step ids s).2 = ⟨⟨w, k.drawn + n⟩, b⟩) :
      ActsLocally s.operation k ⟨⟨w, k.drawn + n⟩, b⟩ := by
    rw [DrawsNew, hnext, Nat.add_sub_cancel_left] at hnew
    obtain ⟨hnodup', hlocal⟩ := Operation.local_of_effect hnodup hnew heffect
    exact ⟨hnodup', .inr hlocal⟩
  have houtcome := outcome_step ids k s
  generalize hx : k.step ids s = x at houtcome hchanged ⊢
  obtain ⟨r, k'⟩ := x
  cases houtcome with
  | refused => exact ⟨hnodup, .inl rfl⟩
  | unchanged => exact ⟨hnodup, .inl rfl⟩
  | saved effect => apply hchanged effect rfl
  | unsaved effect => apply hchanged effect rfl
  | unwritten effect => apply hchanged effect rfl

/-- All along a run that starts with distinct ids and draws new ones, the ids stay distinct and
the operations are local. -/
theorem local_run {k : Keeper β} {steps : List Step} (hnodup : k.board.taskIds.Nodup)
    (hnew : Along ids (DrawsNew ids) k steps) :
  Along ids (fun k s => ActsLocally s.operation k (k.step ids s).2) k steps
  := by
  apply Along.of_invariant (I := fun k => k.board.taskIds.Nodup) _ hnodup hnew
  intro k s hk hs
  have h := actsLocally_step hk hs
  exact ⟨h.nodup, h⟩

/-- A task as it may stand in a snapshot. -/
def harvest : Task :=
  ⟨Uuid.supply 9 0, "Harvest", none, .low, [], .int 5, "2020-01-01T00:00:00Z", none, .todo, none,
    none, none⟩

/-- Importing a task that stands in the snapshot twice, moving the first of the two tasks and
removing the second one. -/
def harvesting : List Step := [
  ⟨some ⟨0, some 0⟩, .importValue (Board.toJson ⟨[harvest, harvest], [], false⟩)⟩,
  ⟨some ⟨0, some 0⟩, .move (Uuid.supply 9 0) (.str "done")⟩,
  ⟨some ⟨0, some 0⟩, .delete (Uuid.supply 0 0)⟩]

/-- The two tasks get distinct ids, and then each step concerns one of them. -/
theorem local_harvesting :
  Along (Uuid.supply 0) (fun k s => ActsLocally s.operation k (k.step (Uuid.supply 0) s).2)
      single harvesting
    ∧ (single.run (Uuid.supply 0) harvesting).board.tasks = [{ harvest with column := .done }]
  := by
  have hnodup : single.board.taskIds.Nodup := by decide
  have hnew : Along (Uuid.supply 0) (DrawsNew (Uuid.supply 0)) single harvesting := by
    decide +kernel
  constructor
  · apply local_run hnodup hnew
  · decide +kernel

end Keeper

end Kanban
