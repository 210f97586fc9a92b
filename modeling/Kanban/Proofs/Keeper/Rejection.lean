import Kanban.Proofs.Board.Whole
import Kanban.Proofs.Keeper.Ids

/-!
# Calls that are rejected

A client may send a draft as a value, from which it has to be taken before a task is created or
edited.  Such a `Call` can be rejected in many places: when the draft is taken, when the task is
made of it, when a snapshot is decoded or checked, and even when the new board turns out to have
no snapshot.  In the last case the board has changed already, in all others it is what it was
before (`Keeper.same_iff_of_rejects`).
-/

namespace Kanban

namespace Keeper

/-- The operation was refused, or a snapshot was not taken over. -/
def refuses : Except Failure Answer → Bool
  | .error (.refused _) => true
  | .ok (.imported (.rejected _ _)) => true
  | _ => false

/-- The operation has made a board that has no snapshot. -/
def breaks : Except Failure Answer → Bool
  | .error (.notWritten _) => true
  | _ => false

/-- The outcome of an operation is a rejection, for which no failing place is to blame. -/
def Rejects (r : Except Failure Answer) : Prop := refuses r = true ∨ breaks r = true

end Keeper

/-- The answer to an operation that has made a new board is no refusal. -/
theorem Operation.not_refuses_of_effect {b b' : Board} {s : Stamp} {n : Nat} {a : Answer}
    {o : Operation} (h : o.effect b s = .ok (.change n b' a)) :
  Keeper.refuses (.ok a) = false
  := by
  have hintake {v : Option Json} (h : intake s v = .ok (.change n b' a)) :
      Keeper.refuses (.ok a) = false := by
    cases v with
    | none => cases h
    | some v =>
        obtain ⟨⟨c, rs⟩ | _, -, ha⟩ := map_eq_ok_iff.mp h
        · obtain ⟨-, -, rfl⟩ := Effect.change.inj ha
          rfl
        · cases ha
  by_cases hcommand : o.IsCommand
  · cases makes_of_effect hcommand h <;> rfl
  · cases o with
    | importValue snapshot => apply hintake (v := some snapshot) h
    | importText text => apply hintake h
    | importBytes bytes => apply hintake h
    | _ => exact absurd trivial hcommand

namespace Keeper

variable {β : Type} [Backend β] {src : Source} {k : Keeper β}

/-- An operation that is refused has changed nothing. -/
theorem eq_of_perform_refuses {o : Operation} (h : refuses (k.perform src o).1 = true) :
  (k.perform src o).2 = k
  := by
  have houtcome : Outcome src.ids k ⟨src.now, o⟩ (k.perform src o).1 (k.perform src o).2 :=
    outcome_step src.ids k ⟨src.now, o⟩
  generalize k.perform src o = x at h houtcome ⊢
  obtain ⟨r, k'⟩ := x
  cases houtcome with
  | refused => rfl
  | unchanged => rfl
  | saved effect => cases h.symm.trans (Operation.not_refuses_of_effect effect)
  | unsaved => cases h
  | unwritten => cases h

end Keeper

/-! ### Calls -/

/-- A call of a keeper, in which a draft may still be a value that the client has sent. -/
inductive Call where
  | operation (o : Operation)
  | createFrom (payload : Json)
  | updateFrom (id : Text) (payload : Json)

/-- The operation that is called. -/
def Call.operation? : Call → Except Refusal Operation
  | operation o => pure o
  | createFrom payload => (NewTask.ofJson payload).map .create
  | updateFrom id payload => (TaskEdit.ofJson payload).map (.update id)

namespace Keeper

variable {β : Type} [Backend β] {src : Source} {k : Keeper β} {c : Call}

/-- Carries out a call. -/
def call (k : Keeper β) (src : Source) (c : Call) : Except Failure Answer × Keeper β :=
  match c.operation? with
  | .error r => (throw (.refused r), k)
  | .ok o => k.perform src o

/-- A call that is refused leaves the keeper as it was: the board, its place with all that was
saved there, and the number of ids drawn. -/
theorem eq_of_refuses (h : refuses (k.call src c).1 = true) :
  (k.call src c).2 = k
  := by
  rw [call] at h ⊢
  cases hc : c.operation? with
  | error r => rfl
  | ok o =>
      rw [hc] at h
      apply eq_of_perform_refuses h

/-- The call makes the board into another one that has no snapshot. -/
def Overreaches (k : Keeper β) (src : Source) (c : Call) : Prop :=
  ∃ o n b a e, c.operation? = .ok o
    ∧ o.effect k.board (src.stamp k.drawn) = .ok (.change n b a)
    ∧ b.snapshot = .error e ∧ b ≠ k.board

theorem board_call_of_overreaches (h : k.Overreaches src c) :
  refuses (k.call src c).1 = false ∧ (k.call src c).2.board ≠ k.board
  := by
  obtain ⟨o, n, b, a, e, ho, heffect, hsnapshot, hb⟩ := h
  have hcall : k.call src c = (.error (.notWritten e), ⟨⟨k.backend, k.drawn + n⟩, b⟩) := by
    rw [call, ho]
    dsimp only
    rw [perform_eq, heffect, carryOut, commit_of_unwritten k n hsnapshot]
  rw [hcall]
  exact ⟨rfl, hb⟩

/-- A call that is rejected leaves the board and its place, with all that was saved there, as they
were, unless it makes another board that has no snapshot. -/
theorem same_iff_of_rejects (h : Rejects (k.call src c).1) :
  ((k.call src c).2.board = k.board ∧ (k.call src c).2.backend = k.backend)
    ↔ ¬ k.Overreaches src c
  := by
  rcases h with hrefuses | hbreaks
  · apply iff_of_true
    · rw [eq_of_refuses hrefuses]
      exact ⟨rfl, rfl⟩
    · intro h
      cases hrefuses.symm.trans (board_call_of_overreaches h).1
  · constructor
    · rintro ⟨hboard, -⟩ h
      exact (board_call_of_overreaches h).2 hboard
    · intro h
      rw [call] at hbreaks ⊢
      cases ho : c.operation? with
      | error r => exact ⟨rfl, rfl⟩
      | ok o =>
          rw [ho] at hbreaks
          have houtcome : Outcome src.ids k ⟨src.now, o⟩ (k.perform src o).1
              (k.perform src o).2 := outcome_step src.ids k ⟨src.now, o⟩
          dsimp only at hbreaks ⊢
          generalize k.perform src o = x at hbreaks houtcome ⊢
          obtain ⟨r, k'⟩ := x
          cases houtcome with
          | @unwritten n b a e effect snapshot =>
              refine ⟨?_, rfl⟩
              by_contra hb
              exact h ⟨o, n, b, a, e, ho, effect, snapshot, hb⟩
          | _ => cases hbreaks

/-- A keeper in memory of a board with one task. -/
def reaper : Keeper Memory := ⟨⟨.empty, 0⟩, ⟨[harvest], [], false⟩⟩

/-- An edit that would leave a title of two characters is rejected, and so is a snapshot in which
the review flag is missing; both leave the board as it was. -/
theorem same_of_rejects_reaper :
  (Rejects (reaper.call ⟨none, Uuid.supply 0⟩
        (.updateFrom harvest.id (.obj [("title", .str "ab")]))).1
      ∧ (reaper.call ⟨none, Uuid.supply 0⟩
        (.updateFrom harvest.id (.obj [("title", .str "ab")]))).2.board = reaper.board)
    ∧ Rejects (reaper.call ⟨none, Uuid.supply 0⟩
        (.operation (.importText "\x7b\"tasks\": [], \"audit\": []\x7d"))).1
      ∧ (reaper.call ⟨none, Uuid.supply 0⟩
        (.operation (.importText "\x7b\"tasks\": [], \"audit\": []\x7d"))).2.board = reaper.board
  := by
  have hsame {c : Call} (h : refuses (reaper.call ⟨none, Uuid.supply 0⟩ c).1 = true) :
      Rejects (reaper.call ⟨none, Uuid.supply 0⟩ c).1
        ∧ (reaper.call ⟨none, Uuid.supply 0⟩ c).2.board = reaper.board := by
    refine ⟨.inl h, ((same_iff_of_rejects (.inl h)).mpr ?_).1⟩
    intro hover
    cases h.symm.trans (board_call_of_overreaches hover).1
  exact ⟨hsame (by decide +kernel), hsame (by decide +kernel)⟩

/-- A draft whose title is made of half pairs. -/
def brokenDraft : Json := .obj [("title", .str (.ofList [.half 0, .half 0, .half 0]))]

/-- Creating a task with half pairs in its title is rejected after the task and an entry about it
are on the board. -/
theorem rejects_brokenDraft :
  Rejects (reaper.call ⟨some ⟨0, some 0⟩, Uuid.supply 0⟩ (.createFrom brokenDraft)).1
    ∧ (reaper.call ⟨some ⟨0, some 0⟩, Uuid.supply 0⟩ (.createFrom brokenDraft)).2.board.tasks.length
      = reaper.board.tasks.length + 1
    ∧ (reaper.call ⟨some ⟨0, some 0⟩, Uuid.supply 0⟩ (.createFrom brokenDraft)).2.board.audit.length
      = reaper.board.audit.length + 1
  := by
  have hbreaks : breaks (reaper.call ⟨some ⟨0, some 0⟩, Uuid.supply 0⟩
      (.createFrom brokenDraft)).1 = true := by
    decide +kernel
  exact ⟨.inr hbreaks, by decide +kernel, by decide +kernel⟩

end Keeper

end Kanban
