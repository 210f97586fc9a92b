import Kanban.Keeper
import Kanban.Proofs.Board.Command
import Kanban.Proofs.Storage

/-!
# Operations of a keeper

An `Operation` is one call of a keeper, and a run is a list of calls, each at its own time.
What an operation does to the board does not depend on the backend: `Operation.effect` is this
part alone, and `Keeper.perform_eq` says that a keeper carries out exactly the effect, saving
the board if there is a new one.  `Keeper.Outcome` lists what a step can come to.
-/

namespace Kanban

/-- A call of a keeper, with the values that the caller supplied. -/
inductive Operation where
  | create (d : NewTask)
  | update (id : Text) (e : TaskEdit)
  | delete (id : Text)
  | move (id : Text) (column : Json)
  /-- The review flag becomes whether the value counts for something. -/
  | review (value : Json)
  | importValue (snapshot : Json)
  | importText (text : Text)
  | importBytes (bytes : ByteArray)

/-- The call is one of the five commands, and no import. -/
def Operation.IsCommand : Operation → Prop
  | importValue _ | importText _ | importBytes _ => False
  | _ => True

/-- What an operation gives back. -/
inductive Answer where
  | created (task : Option Task)
  | entry (entry : Option Entry)
  | done
  | imported (result : Keeper.Import)

/-- An operation and the time at which it is carried out. -/
structure Step where
  now : Option Moment
  operation : Operation

namespace Keeper

variable {β : Type} [Backend β]

/-- The outcome of an operation with its value as an answer. -/
def answering {α : Type} (f : α → Answer) (r : Except Failure α × Keeper β) :
    Except Failure Answer × Keeper β :=
  (r.1.map f, r.2)

/-- Carries out an operation. -/
def perform (k : Keeper β) (src : Source) : Operation → Except Failure Answer × Keeper β
  | .create d => answering .created (k.create src d)
  | .update id e => answering .entry (k.update src id e)
  | .delete id => answering .entry (k.delete src id)
  | .move id column => answering .entry (k.move src id column)
  | .review value => answering (fun _ => .done) (k.setReviewMode value.truthy)
  | .importValue snapshot => answering .imported (k.importValue src snapshot)
  | .importText text => answering .imported (k.importText src text)
  | .importBytes bytes => answering .imported (k.importBytes src bytes)

/-- Carries out a step with ids from a supply. -/
def step (ids : Nat → Text) (k : Keeper β) (s : Step) : Except Failure Answer × Keeper β :=
  k.perform ⟨s.now, ids⟩ s.operation

/-- The keeper after a number of steps. -/
def run (ids : Nat → Text) : Keeper β → List Step → Keeper β
  | k, [] => k
  | k, s :: steps => run ids (k.step ids s).2 steps

end Keeper

/-! ### Effects -/

/-- What an operation does to a board: nothing, or a new board for which `n` ids were drawn. -/
inductive Effect where
  | none (a : Answer)
  | change (n : Nat) (b : Board) (a : Answer)

namespace Effect

/-- The effect of a command that may have nothing to do. -/
def ofEntry : Option (Board × Entry) → Effect
  | .none => .none (.entry .none)
  | some (b, e) => .change 1 b (.entry (some e))

/-- The effect of taking over a board. -/
def ofIntake : Checked (Board × List Replacement) → Effect
  | .bad first more => .none (.imported (.rejected first more))
  | .ok (b, rs) => .change (2 * rs.length) b (.imported (.accepted rs))

end Effect

namespace Operation

/-- The effect of taking over the board of a snapshot, if there is one. -/
def intake (s : Stamp) : Option Json → Except Refusal Effect
  | none => pure (.none (.imported (.rejected ⟨[], .notJson⟩ [])))
  | some snapshot => (Board.adopt s snapshot).map .ofIntake

/-- The effect of an operation on a board. -/
def effect (b : Board) (s : Stamp) : Operation → Except Refusal Effect
  | create d => (b.create s d).map fun (b', e) => .change 2 b' (.created (b'.task? e.taskId))
  | update id e => (b.update s id e).map .ofEntry
  | delete id => (b.delete s id).map .ofEntry
  | move id column => (b.move s id column).map .ofEntry
  | review value =>
    pure (if b.reviewMode = value.truthy then .none .done
      else .change 0 (b.setReviewMode value.truthy) .done)
  | importValue snapshot => intake s (some snapshot)
  | importText text => intake s (Keeper.decodeText? text)
  | importBytes bytes => intake s (Keeper.decodeBytes? bytes)

/-- How a command makes a new board. -/
inductive Makes (b : Board) (s : Stamp) (b' : Board) : Operation → Answer → Prop
  | create {d : NewTask} {x : Entry} (made : b.create s d = .ok (b', x)) :
      Makes b s b' (.create d) (.created (b'.task? x.taskId))
  | update {id : Text} {e : TaskEdit} {x : Entry}
      (made : b.update s id e = .ok (some (b', x))) :
      Makes b s b' (.update id e) (.entry (some x))
  | delete {id : Text} {x : Entry} (made : b.delete s id = .ok (some (b', x))) :
      Makes b s b' (.delete id) (.entry (some x))
  | move {id : Text} {v : Json} {x : Entry} (made : b.move s id v = .ok (some (b', x))) :
      Makes b s b' (.move id v) (.entry (some x))
  | review {v : Json} (differs : b.reviewMode ≠ v.truthy)
      (made : b' = b.setReviewMode v.truthy) : Makes b s b' (.review v) .done

variable {b b' : Board} {s : Stamp} {n : Nat} {a : Answer}

theorem entry_of_ofEntry {r : Except Refusal (Option (Board × Entry))}
    (h : r.map Effect.ofEntry = .ok (.change n b' a)) :
  ∃ x, r = .ok (some (b', x)) ∧ a = .entry (some x)
  := by
  obtain ⟨_ | ⟨c, x⟩, hx, ha⟩ := map_eq_ok_iff.mp h
  · cases ha
  · obtain ⟨-, rfl, rfl⟩ := Effect.change.inj ha
    exact ⟨x, hx, rfl⟩

/-- A command whose effect is a new board makes it in one of five ways. -/
theorem makes_of_effect {o : Operation} (ho : o.IsCommand)
    (h : o.effect b s = .ok (.change n b' a)) :
  Makes b s b' o a
  := by
  cases o with
  | create d =>
      obtain ⟨⟨c, x⟩, hx, ha⟩ := map_eq_ok_iff.mp h
      obtain ⟨-, rfl, rfl⟩ := Effect.change.inj ha
      apply Makes.create hx
  | update id e =>
      obtain ⟨x, hx, rfl⟩ := entry_of_ofEntry h
      apply Makes.update hx
  | delete id =>
      obtain ⟨x, hx, rfl⟩ := entry_of_ofEntry h
      apply Makes.delete hx
  | move id column =>
      obtain ⟨x, hx, rfl⟩ := entry_of_ofEntry h
      apply Makes.move hx
  | review value =>
      replace h := Except.ok.inj h
      split_ifs at h with hsame
      obtain ⟨-, rfl, rfl⟩ := Effect.change.inj h
      apply Makes.review hsame rfl
  | _ => cases ho

end Operation

namespace Keeper

variable {β : Type} [Backend β]

/-- Carries out an effect: a new board is saved. -/
def carryOut (k : Keeper β) : Except Refusal Effect → Except Failure Answer × Keeper β
  | .error r => (.error (.refused r), k)
  | .ok (.none a) => (.ok a, k)
  | .ok (.change n b a) => k.commit n b a

/-- A new board that has a snapshot is kept when it can be saved. -/
theorem exists_commit {α : Type} {k : Keeper β} (h : Backend.Writable k.backend) (n : Nat)
    {b : Board} {bytes : ByteArray} (hb : b.snapshot = .ok bytes) (a : α) :
  ∃ w, Backend.save bytes k.backend = (.ok (), w)
    ∧ k.commit n b a = (.ok a, ⟨⟨w, k.drawn + n⟩, b⟩)
  := by
  obtain ⟨w, hw⟩ := h bytes
  refine ⟨w, hw, ?_⟩
  rw [commit, hb]
  dsimp only
  rw [hw]
  rfl

/-- A new board without a snapshot is kept, and nothing is saved. -/
theorem commit_of_unwritten {α : Type} (k : Keeper β) (n : Nat) {b : Board} {e : Board.Unwritten}
    (hb : b.snapshot = .error e) (a : α) :
  k.commit n b a = (.error (.notWritten e), ⟨⟨k.backend, k.drawn + n⟩, b⟩)
  := by
  rw [commit, hb]
  rfl

theorem answering_commit {α : Type} (k : Keeper β) (n : Nat) (b : Board) (f : α → Answer) (a : α) :
  answering f (k.commit n b a) = k.commit n b (f a)
  := by
  unfold answering commit
  cases b.snapshot with
  | error e => rfl
  | ok bytes =>
      dsimp only
      rcases Backend.save bytes k.backend with ⟨_ | _, w⟩ <;> rfl

theorem answering_commitEntry (k : Keeper β) (r : Except Refusal (Option (Board × Entry))) :
  answering .entry (k.commitEntry r) = k.carryOut (r.map .ofEntry)
  := by
  rcases r with r | _ | ⟨b, e⟩
  · rfl
  · rfl
  · apply answering_commit

theorem answering_importDecoded (k : Keeper β) (src : Source) (v : Option Json) :
  answering .imported (k.importDecoded src v)
    = k.carryOut (Operation.intake (src.stamp k.drawn) v)
  := by
  cases v with
  | none => rfl
  | some v =>
      unfold importDecoded importValue Operation.intake
      dsimp only
      rcases Board.adopt (src.stamp k.drawn) v with r | ⟨b, rs⟩ | ⟨first, more⟩
      · rfl
      · apply answering_commit
      · rfl

/-- A keeper carries out the effect of an operation on its board. -/
theorem perform_eq (k : Keeper β) (src : Source) (o : Operation) :
  k.perform src o = k.carryOut (o.effect k.board (src.stamp k.drawn))
  := by
  cases o with
  | create d =>
      rw [perform, create, Operation.effect]
      dsimp only
      rcases k.board.create (src.stamp k.drawn) d with r | ⟨b, e⟩
      · rfl
      · apply answering_commit
  | update id e => apply answering_commitEntry
  | delete id => apply answering_commitEntry
  | move id column => apply answering_commitEntry
  | review value =>
      unfold perform setReviewMode Operation.effect
      dsimp only
      split_ifs
      · rfl
      · apply answering_commit
  | importValue snapshot => apply answering_importDecoded k src (some snapshot)
  | importText text => apply answering_importDecoded
  | importBytes bytes => apply answering_importDecoded

/-- What a step can come to, by its effect, by whether a new board has a snapshot and by whether
this could be saved. -/
inductive Outcome (ids : Nat → Text) (k : Keeper β) (s : Step) :
    Except Failure Answer → Keeper β → Prop
  | refused {r : Refusal}
      (effect : s.operation.effect k.board (Source.stamp ⟨s.now, ids⟩ k.drawn) = .error r) :
      Outcome ids k s (.error (.refused r)) k
  | unchanged {a : Answer}
      (effect : s.operation.effect k.board (Source.stamp ⟨s.now, ids⟩ k.drawn) = .ok (.none a)) :
      Outcome ids k s (.ok a) k
  | saved {n : Nat} {b : Board} {a : Answer} {bytes : ByteArray} {w : β}
      (effect : s.operation.effect k.board (Source.stamp ⟨s.now, ids⟩ k.drawn)
        = .ok (.change n b a))
      (snapshot : b.snapshot = .ok bytes)
      (save : Backend.save bytes k.backend = (.ok (), w)) :
      Outcome ids k s (.ok a) ⟨⟨w, k.drawn + n⟩, b⟩
  | unsaved {n : Nat} {b : Board} {a : Answer} {bytes : ByteArray} {w : β} {e : StorageError}
      (effect : s.operation.effect k.board (Source.stamp ⟨s.now, ids⟩ k.drawn)
        = .ok (.change n b a))
      (snapshot : b.snapshot = .ok bytes)
      (save : Backend.save bytes k.backend = (.error e, w)) :
      Outcome ids k s (.error (.notSaved e)) ⟨⟨w, k.drawn + n⟩, b⟩
  | unwritten {n : Nat} {b : Board} {a : Answer} {e : Board.Unwritten}
      (effect : s.operation.effect k.board (Source.stamp ⟨s.now, ids⟩ k.drawn)
        = .ok (.change n b a))
      (snapshot : b.snapshot = .error e) :
      Outcome ids k s (.error (.notWritten e)) ⟨⟨k.backend, k.drawn + n⟩, b⟩

theorem outcome_step (ids : Nat → Text) (k : Keeper β) (s : Step) :
  Outcome ids k s (k.step ids s).1 (k.step ids s).2
  := by
  rw [step]
  rw [perform_eq]
  rcases heffect : s.operation.effect k.board (Source.stamp ⟨s.now, ids⟩ k.drawn)
    with r | a | ⟨n, b, a⟩
  · apply Outcome.refused heffect
  · apply Outcome.unchanged heffect
  · rw [carryOut, commit]
    rcases hsnapshot : b.snapshot with e | bytes
    · apply Outcome.unwritten heffect hsnapshot
    · dsimp only
      rcases hsave : Backend.save bytes k.backend with ⟨e | ⟨⟩, w⟩
      · apply Outcome.unsaved heffect hsnapshot hsave
      · apply Outcome.saved heffect hsnapshot hsave

/-- What holds of a board, and of the new one if the effect is one, holds after the step, whether
or not the board could be saved. -/
theorem board_step {ids : Nat → Text} {k : Keeper β} {s : Step} {P : Board → Prop}
    (hk : P k.board)
    (hchanged : ∀ n b a, s.operation.effect k.board (Source.stamp ⟨s.now, ids⟩ k.drawn)
      = .ok (.change n b a) → P b) :
  P (k.step ids s).2.board
  := by
  have houtcome := outcome_step ids k s
  generalize k.step ids s = x at houtcome ⊢
  obtain ⟨r, k'⟩ := x
  cases houtcome with
  | refused => apply hk
  | unchanged => apply hk
  | saved effect => apply hchanged _ _ _ effect
  | unsaved effect => apply hchanged _ _ _ effect
  | unwritten effect => apply hchanged _ _ _ effect

end Keeper

end Kanban
