import Kanban.Proofs.Keeper.Reload

/-!
# What survives a failed save

When a save fails the board of a keeper has changed and its place has not.  A call that finds
nothing to do then returns although its board is saved nowhere (`Keeper.returned_not_durable`).
`Keeper.lastSaved` is the board that was saved last in a run, and a call that returns is durable
exactly when it has saved the board itself or the board is alike to that one
(`Keeper.durable_iff_of_returned`).
-/

namespace Kanban.Keeper

variable {β : Type} [Backend β] {ids : Nat → Text}

/-- A keeper that is started anew on the same place would have the same board. -/
def Durable (k : Keeper β) : Prop :=
  ∃ b : Board, b.Alike k.board
    ∧ ∀ src, start src false k.toSurroundings = (.ok ⟨k.toSurroundings, b⟩, k.toSurroundings)

/-- The board that was saved last once a step is done, where it was `b` before. -/
def savedAfter (ids : Nat → Text) (k : Keeper β) (b : Board) (s : Step) : Board :=
  match s.operation.effect k.board (Source.stamp ⟨s.now, ids⟩ k.drawn), (k.step ids s).1 with
  | .ok (.change _ b' _), .ok _ => b'
  | _, _ => b

/-- The board that was saved last in a run, or `b` where none was. -/
def lastSaved (ids : Nat → Text) : Keeper β → Board → List Step → Board
  | _, b, [] => b
  | k, b, s :: steps => lastSaved ids (k.step ids s).2 (k.savedAfter ids b s) steps

/-- A sound board in a place from which the snapshot of a board alike to `b` is loaded. -/
structure Tracks (k : Keeper β) (b : Board) : Prop where
  sound : k.board.Sound
  loads : ∃ bytes, Backend.load k.backend = .ok (some bytes)
  holds : Holds k.backend b

theorem Tracks.durable_iff {k : Keeper β} {b : Board} (h : k.Tracks b) :
  k.Durable ↔ b.Alike k.board
  := by
  obtain ⟨bytes, hload⟩ := h.loads
  obtain ⟨c, hread, halike⟩ := h.holds bytes hload
  constructor
  · rintro ⟨c', halike', hstart⟩
    have hsame := (hstart ⟨none, fun _ => ""⟩).symm.trans (start_of_load hload hread _)
    obtain rfl : c' = c := congrArg Keeper.board (Except.ok.inj (Prod.mk.inj hsame).1)
    apply halike.symm.trans halike'
  · intro h
    exact ⟨c, halike.trans h, start_of_load hload hread⟩

theorem Tracks.step [Backend.Atomic β] (hids : ∀ i, Check.isUuid (ids i) = true)
    {k : Keeper β} {b : Board} {s : Step} (hk : k.Tracks b) (hs : s.Proper) :
  (k.step ids s).2.Tracks (k.savedAfter ids b s)
  := by
  have houtcome := outcome_step ids k s
  rw [savedAfter]
  generalize k.step ids s = x at houtcome ⊢
  obtain ⟨r, k'⟩ := x
  have hsound {n : Nat} {b' : Board} {a : Answer}
      (h : s.operation.effect k.board (Source.stamp ⟨s.now, ids⟩ k.drawn)
        = .ok (.change n b' a)) : b'.Sound :=
    Operation.sound_of_effect hk.sound (proper_stamp hids hs.utc k.drawn) hs.legible h
  cases houtcome with
  | refused effect => simpa [effect] using hk
  | unchanged effect => simpa [effect] using hk
  | saved effect snapshot save =>
      rw [effect]
      have hb := hsound effect
      exact ⟨hb, ⟨_, Backend.Atomic.load_save save⟩, holds_of_save hb snapshot save⟩
  | unsaved effect _ save =>
      rw [effect]
      obtain ⟨bytes, hload⟩ := hk.loads
      have hsame := Backend.Atomic.load_failed save
      refine ⟨hsound effect, ⟨bytes, hsame.trans hload⟩, ?_⟩
      intro bytes' hload'
      apply hk.holds bytes' (hsame.symm.trans hload')
  | unwritten effect =>
      rw [effect]
      exact ⟨hsound effect, hk.loads, hk.holds⟩

theorem Tracks.run [Backend.Atomic β] (hids : ∀ i, Check.isUuid (ids i) = true)
    {k : Keeper β} {b : Board} {steps : List Step} (hk : k.Tracks b)
    (hsteps : ∀ s ∈ steps, s.Proper) :
  (k.run ids steps).Tracks (k.lastSaved ids b steps)
  := by
  induction steps generalizing k b with
  | nil => apply hk
  | cons s steps ih =>
      obtain ⟨hs, hsteps⟩ := List.forall_mem_cons.mp hsteps
      apply ih (hk.step hids hs) hsteps

/-- A keeper that was started tracks its own board. -/
theorem tracks_of_start [Backend.Atomic β] (hids : ∀ i, Check.isUuid (ids i) = true)
    {w : Surroundings β} {now : Option Moment} {k : Keeper β} (hnow : ∀ m ∈ now, m.Utc)
    (h : (start ⟨now, ids⟩ false w).1 = .ok k) :
  k.Tracks k.board
  := by
  obtain ⟨hsound, hholds⟩ := holds_of_start (proper_stamp hids hnow) h
  obtain ⟨content, hcontent⟩ := load_of_start h
  exact ⟨hsound, (opens_of_start hcontent h).loads hcontent, hholds⟩

/-- A call that returns is durable exactly when it has saved a new board, or when the board is
alike to the one that was saved last before it. -/
theorem durable_iff_of_returned [Backend.Atomic β] (hids : ∀ i, Check.isUuid (ids i) = true)
    {w : Surroundings β} {now : Option Moment} {k : Keeper β} (hnow : ∀ m ∈ now, m.Utc)
    (hstart : (start ⟨now, ids⟩ false w).1 = .ok k) {steps : List Step}
    (hsteps : ∀ s ∈ steps, s.Proper) {s : Step} (hs : s.Proper) {a : Answer}
    (hreturned : ((k.run ids steps).step ids s).1 = .ok a) :
  ((k.run ids steps).step ids s).2.Durable
    ↔ (∃ n b, s.operation.effect (k.run ids steps).board
        (Source.stamp ⟨s.now, ids⟩ (k.run ids steps).drawn) = .ok (.change n b a))
      ∨ (k.lastSaved ids k.board steps).Alike ((k.run ids steps).step ids s).2.board
  := by
  have htracks := (tracks_of_start hids hnow hstart).run hids hsteps
  have hafter := htracks.step hids hs
  have houtcome := outcome_step ids (k.run ids steps) s
  rw [savedAfter] at hafter
  generalize k.run ids steps = l at *
  generalize l.step ids s = x at *
  obtain ⟨r, l'⟩ := x
  cases houtcome with
  | refused => cases hreturned
  | unchanged effect =>
      rw [htracks.durable_iff, effect]
      simp
  | saved effect _ save =>
      obtain rfl := Except.ok.inj hreturned
      rw [effect] at hafter ⊢
      apply iff_of_true
      · apply hafter.durable_iff.mpr (.refl _)
      · left
        exact ⟨_, _, rfl⟩
  | unsaved => cases hreturned
  | unwritten => cases hreturned

/-! ### A place in which the next save fails -/

/-- A keeper of an empty board, which is saved, in a place where the next save fails. -/
def precarious : Keeper Unsteady :=
  ⟨⟨⟨Board.empty.snapshot.toOption, [true]⟩, 0⟩, Board.empty⟩

/-- The same keeper with the review flag set and nothing saved; the save after that works. -/
def unsaved : Keeper Unsteady :=
  ⟨⟨⟨Board.empty.snapshot.toOption, []⟩, 0⟩, Board.empty.setReviewMode true⟩

/-- A call at no known time that sets the review flag. -/
def reviewStep (value : Bool) : Step := ⟨none, .review (.bool value)⟩

theorem proper_reviewStep (value : Bool) :
  (reviewStep value).Proper
  := by
  constructor
  · intro m hm
    cases hm
  · trivial

theorem exists_snapshot_setReviewMode (value : Bool) :
  ∃ bytes, (Board.empty.setReviewMode value).snapshot = .ok bytes
  := by
  apply (Board.exists_snapshot_iff (Board.sound_empty.setReviewMode value)).mpr
  apply Board.whole_empty.setReviewMode

/-- Before and after the save that fails, the empty board is loaded. -/
theorem start_saved {k : Keeper Unsteady}
    (hk : k.backend.content = Board.empty.snapshot.toOption) (src : Source) :
  start src false k.toSurroundings = (.ok ⟨k.toSurroundings, Board.empty⟩, k.toSurroundings)
  := by
  obtain ⟨bytes, hbytes⟩ := exists_snapshot_setReviewMode false
  have hload : Backend.load k.backend = .ok (some bytes) := by
    change Except.ok k.backend.content = _
    rw [hk]
    exact congrArg (fun r => Except.ok r.toOption) hbytes
  apply start_of_load hload (Board.boardOfBytes?_snapshot Board.sound_empty hbytes)

theorem run_precarious :
  precarious.run (Uuid.supply 0) [reviewStep true] = unsaved
  := by
  obtain ⟨bytes, hbytes⟩ := exists_snapshot_setReviewMode true
  change (answering _ (commit precarious 0 (Board.empty.setReviewMode true) ())).2 = _
  rw [commit, hbytes]
  rfl

/-- Setting the review flag and then clearing it is durable, although the first save fails. -/
theorem durable_cleared :
  ((precarious.run (Uuid.supply 0) [reviewStep true]).step (Uuid.supply 0)
    (reviewStep false)).2.Durable
  := by
  have hnow : ∀ m ∈ (none : Option Moment), m.Utc := nofun
  have hstart : (start ⟨none, Uuid.supply 0⟩ false precarious.toSurroundings).1
      = .ok precarious := by
    rw [start_saved rfl]
    rfl
  have hsteps : ∀ s ∈ [reviewStep true], s.Proper := by
    simpa using proper_reviewStep true
  have hreturned : ((precarious.run (Uuid.supply 0) [reviewStep true]).step (Uuid.supply 0)
      (reviewStep false)).1 = .ok .done := by
    obtain ⟨bytes, hbytes⟩ := exists_snapshot_setReviewMode false
    rw [run_precarious]
    change (answering _ (commit unsaved 0 (Board.empty.setReviewMode false) ())).1 = _
    rw [commit, hbytes]
    rfl
  apply (durable_iff_of_returned (Uuid.isUuid_supply 0) hnow hstart hsteps
    (proper_reviewStep false) hreturned).mpr
  left
  exact ⟨_, _, rfl⟩

/-- Setting the review flag twice is not durable, although the second call returns. -/
theorem returned_not_durable :
  (start ⟨none, Uuid.supply 0⟩ false precarious.toSurroundings).1 = .ok precarious
    ∧ ((precarious.run (Uuid.supply 0) [reviewStep true]).step (Uuid.supply 0)
      (reviewStep true)).1 = .ok .done
    ∧ ¬ ((precarious.run (Uuid.supply 0) [reviewStep true]).step (Uuid.supply 0)
      (reviewStep true)).2.Durable
  := by
  rw [run_precarious]
  refine ⟨by rw [start_saved rfl]; rfl, rfl, ?_⟩
  rintro ⟨b, halike, hstart⟩
  have hload := start_saved (k := (unsaved.step (Uuid.supply 0) (reviewStep true)).2) rfl
    ⟨none, Uuid.supply 0⟩
  have hsame := (hstart ⟨none, Uuid.supply 0⟩).symm.trans hload
  obtain rfl := congrArg Keeper.board (Except.ok.inj (Prod.mk.inj hsame).1)
  cases halike.reviewMode

end Kanban.Keeper
