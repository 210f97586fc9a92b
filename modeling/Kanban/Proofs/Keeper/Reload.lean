import Kanban.Proofs.Board.Likeness
import Kanban.Proofs.Keeper.Opening
import Kanban.Proofs.Keeper.Whole

/-!
# Snapshots that reload

Every board that a keeper saves is sound, and is read back from its snapshot.  A keeper is `Intact`
when its board is sound and nothing is loaded from its place but the snapshot of a board alike to
it.  Every run of which all boards are saved keeps the keeper intact, and a keeper that is started
anew takes the board up from there (`Keeper.start_run`).  As long as no text has a lone half of a
surrogate pair, all boards are saved exactly if no save fails (`Keeper.saves_iff_of_whole`).
-/

namespace Kanban

namespace Keeper

variable {β : Type} [Backend β] {ids : Nat → Text}

/-! ### Saved boards -/

/-- Whatever is loaded from a place is the snapshot of a board alike to `b`. -/
def Holds (w : β) (b : Board) : Prop :=
  ∀ bytes, Backend.load w = .ok (some bytes) →
    ∃ c, boardOfBytes? bytes = some c ∧ c.Alike b

/-- A sound board that was saved is held. -/
theorem holds_of_save [Backend.Faithful β] {b : Board} (hb : b.Sound) {w w' : β}
    {saved : ByteArray} (hsaved : b.snapshot = .ok saved)
    (h : Backend.save saved w = (.ok (), w')) :
  Holds w' b
  := by
  intro bytes hload
  obtain rfl := Backend.Faithful.eq_of_load h hload
  exact ⟨_, Board.boardOfBytes?_snapshot hb hsaved, b.settled_alike⟩

/-- A keeper that is started where the snapshot of a board is loaded has that board, and has
changed nothing. -/
theorem start_of_load {w : Surroundings β} {bytes : ByteArray} {b : Board}
    (hload : Backend.load w.backend = .ok (some bytes)) (hread : boardOfBytes? bytes = some b)
    (src : Source) :
  start src false w = (.ok ⟨w, b⟩, w)
  := by
  apply start_of_read hload hread
  rintro ⟨⟩

/-- A keeper that was started has a sound board, which its place holds. -/
theorem holds_of_start [Backend.Faithful β] {w : Surroundings β} {src : Source} {accents : Bool}
    {k : Keeper β} (hsrc : ∀ n, (src.stamp n).Proper) (h : (start src accents w).1 = .ok k) :
  k.board.Sound ∧ Holds k.backend k.board
  := by
  obtain ⟨content, hcontent⟩ := load_of_start h
  have hopens := opens_of_start hcontent h
  apply And.intro (hopens.sound hsrc).1
  intro bytes hload
  exact ⟨_, hopens.reads hsrc hcontent hload, .refl _⟩

/-! ### Runs -/

/-- A keeper with which a run begins: one that was started on some place, or one without tasks
and entries where nothing is saved yet. -/
inductive Begins (ids : Nat → Text) : Keeper β → Prop
  | started {w : Surroundings β} {now : Option Moment} {k : Keeper β} (utc : ∀ m ∈ now, m.Utc)
      (start : (start ⟨now, ids⟩ false w).1 = .ok k) : Begins ids k
  | empty {w : Surroundings β} (load : Backend.load w.backend = .ok none) :
      Begins ids ⟨w, Board.empty⟩

/-- The new board is written and saved, if there is one. -/
def Stored (r : Except Failure Answer) : Prop :=
  (∀ e, r ≠ .error (.notWritten e)) ∧ ∀ e, r ≠ .error (.notSaved e)

/-- Every new board of a run is written and saved. -/
def Saves (ids : Nat → Text) : Keeper β → List Step → Prop
  | _, [] => True
  | k, s :: steps => Stored (k.step ids s).1 ∧ Saves ids (k.step ids s).2 steps

/-- A run with whole values on a whole board stores all its boards exactly if no save fails. -/
theorem saves_iff_of_whole (hids : ∀ i, Check.isUuid (ids i) = true) {k : Keeper β}
    (hsound : k.board.Sound) (hwhole : k.board.Whole) {steps : List Step}
    (hsteps : ∀ s ∈ steps, s.Whole) :
  k.Saves ids steps
    ↔ ∀ n s, steps[n]? = some s →
      ∀ e, ((k.run ids (steps.take n)).step ids s).1 ≠ .error (.notSaved e)
  := by
  induction steps generalizing k with
  | nil => simp [Saves]
  | cons s steps ih =>
      obtain ⟨hs, hsteps⟩ := List.forall_mem_cons.mp hsteps
      have hstored : Stored (k.step ids s).1 ↔ ∀ e, (k.step ids s).1 ≠ .error (.notSaved e) :=
        and_iff_right (written_step hids hsound hwhole hs)
      rw [Saves, hstored,
        ih (sound_step hids hsound hs.toProper) (whole_step hids hwhole hs) hsteps]
      constructor
      · rintro ⟨hfirst, hrest⟩ (_ | n) s' hs'
        · obtain rfl := Option.some.inj hs'
          apply hfirst
        · apply hrest n s' hs'
      · intro hall
        exact ⟨hall 0 s rfl, fun n s' hs' => hall (n + 1) s' hs'⟩

/-- A keeper of a sound board, beside which its place holds nothing else. -/
structure Intact (k : Keeper β) : Prop where
  sound : k.board.Sound
  holds : Holds k.backend k.board

theorem Begins.intact [Backend.Faithful β] (hids : ∀ i, Check.isUuid (ids i) = true)
    {k : Keeper β} (h : Begins ids k) :
  k.Intact
  := by
  cases h with
  | started utc start =>
      obtain ⟨hsound, hholds⟩ := holds_of_start (proper_stamp hids utc) start
      apply Intact.mk hsound hholds
  | empty load =>
      apply Intact.mk Board.sound_empty
      intro bytes hload
      cases load.symm.trans hload

theorem Intact.step [Backend.Faithful β] (hids : ∀ i, Check.isUuid (ids i) = true)
    {k : Keeper β} {s : Step} (hk : k.Intact) (hs : s.Proper)
    (hstored : Stored (k.step ids s).1) :
  (k.step ids s).2.Intact
  := by
  have h := outcome_step ids k s
  generalize k.step ids s = x at h hstored ⊢
  obtain ⟨r, k'⟩ := x
  cases h with
  | refused => apply hk
  | unchanged => apply hk
  | saved effect snapshot save =>
      have hb := Operation.sound_of_effect hk.sound (proper_stamp hids hs.utc _) hs.legible effect
      apply Intact.mk hb (holds_of_save hb snapshot save)
  | unsaved => exact absurd rfl (hstored.2 _)
  | unwritten => exact absurd rfl (hstored.1 _)

theorem Intact.run [Backend.Faithful β] (hids : ∀ i, Check.isUuid (ids i) = true)
    {k : Keeper β} {steps : List Step} (hk : k.Intact) (hsteps : ∀ s ∈ steps, s.Proper)
    (hsaves : k.Saves ids steps) :
  (k.run ids steps).Intact
  := by
  induction steps generalizing k with
  | nil => apply hk
  | cons s steps ih =>
      obtain ⟨hs, hsteps⟩ := List.forall_mem_cons.mp hsteps
      apply ih (hk.step hids hs hsaves.1) hsteps hsaves.2

/-- Whatever a keeper has saved in the course of a run, a keeper that is started anew takes up:
its board is alike to the one before, and it saves nothing. -/
theorem start_run [Backend.Faithful β] (hids : ∀ i, Check.isUuid (ids i) = true) {k : Keeper β}
    (hk : Begins ids k) {steps : List Step} (hsteps : ∀ s ∈ steps, s.Proper)
    (hsaves : k.Saves ids steps) {bytes : ByteArray}
    (hbytes : Backend.load (k.run ids steps).backend = .ok (some bytes)) :
  ∃ b, boardOfBytes? bytes = some b ∧ b.Alike (k.run ids steps).board
    ∧ ∀ src, start src false (k.run ids steps).toSurroundings
      = (.ok ⟨(k.run ids steps).toSurroundings, b⟩, (k.run ids steps).toSurroundings)
  := by
  obtain ⟨-, hholds⟩ := (hk.intact hids).run hids hsteps hsaves
  obtain ⟨b, hread, halike⟩ := hholds bytes hbytes
  exact ⟨b, hread, halike, start_of_load hbytes hread⟩

/-- In an empty memory, at the start of the calendar, the sample board is opened. -/
theorem exists_start_empty :
  ∃ k : Keeper Memory,
    (start ⟨some ⟨Moment.day, some 0⟩, Uuid.supply 0⟩ false ⟨Memory.empty, 0⟩).1 = .ok k
      ∧ k.board.Sound ∧ k.board.Whole ∧ k.board.tasks.length = 5 ∧ k.board.reviewMode = false
      ∧ k.backend.failing = false
  := by
  obtain ⟨b, hsample, htasks, hmode⟩ :
      ∃ b, Board.sample (Source.stamp ⟨some ⟨Moment.day, some 0⟩, Uuid.supply 0⟩ 0) = .ok b
        ∧ b.tasks.length = 5 ∧ b.reviewMode = false :=
    ⟨_, rfl, rfl, rfl⟩
  have hproper : (Source.stamp ⟨some ⟨Moment.day, some 0⟩, Uuid.supply 0⟩ 0).Proper := by
    apply proper_stamp (Uuid.isUuid_supply 0)
    rintro _ ⟨⟩
    exact ⟨rfl, by decide⟩
  have hsound := Board.sound_of_sample hproper hsample
  have hwhole := Board.whole_of_sample hproper hsample
  obtain ⟨bytes, hbytes⟩ := (Board.exists_snapshot_iff hsound).mpr hwhole
  refine ⟨⟨⟨⟨some bytes, 1, false⟩, 0 + Board.samples.length⟩, b⟩, ?_, hsound, hwhole, htasks,
    hmode, rfl⟩
  rw [start_of_unread rfl rfl, openSample, hsample]
  apply openSaving_eq_ok_iff.mpr
  exact ⟨bytes, _, hbytes, rfl, rfl⟩

/-- The sample board, made in memory at the start of the calendar and then put under review. -/
theorem start_run_sample :
  ∃ (k : Keeper Memory) (bytes : ByteArray) (b : Board), k.board.tasks.length = 5
    ∧ (k.run (Uuid.supply 0) [⟨none, .review (.bool true)⟩]).backend.content = some bytes
    ∧ boardOfBytes? bytes = some b
    ∧ b.Alike (k.run (Uuid.supply 0) [⟨none, .review (.bool true)⟩]).board
    ∧ (k.run (Uuid.supply 0) [⟨none, .review (.bool true)⟩]).board.reviewMode = true
  := by
  obtain ⟨k, hstart, hsound, hwhole, htasks, hmode, hfailing⟩ := exists_start_empty
  obtain ⟨bytes, hbytes⟩ := (Board.exists_snapshot_iff (hsound.setReviewMode true)).mpr
    (hwhole.setReviewMode true)
  have hbegins : Begins (Uuid.supply 0) k := by
    apply Begins.started _ hstart
    rintro _ ⟨⟩
    exact ⟨rfl, by decide⟩
  have hstep : k.step (Uuid.supply 0) ⟨none, .review (.bool true)⟩
      = k.commit 0 (k.board.setReviewMode true) Answer.done := by
    rw [step]
    rw [perform_eq]
    simp [Operation.effect, hmode, Json.truthy, carryOut, pure, Except.pure]
  have hcommit : k.commit 0 (k.board.setReviewMode true) Answer.done
      = (.ok .done, ⟨⟨⟨some bytes, k.backend.saves + 1, false⟩, k.drawn + 0⟩,
        k.board.setReviewMode true⟩) := by
    simp [commit, hbytes, Backend.save, hfailing, pure, Except.pure]
  have hrun : k.run (Uuid.supply 0) [⟨none, .review (.bool true)⟩]
      = (k.step (Uuid.supply 0) ⟨none, .review (.bool true)⟩).2 := rfl
  have hsteps : ∀ s ∈ [(⟨none, .review (.bool true)⟩ : Step)], s.Whole := by
    intro s hs
    obtain rfl := List.mem_singleton.mp hs
    refine ⟨⟨?_, trivial⟩, trivial⟩
    rintro _ ⟨⟩
  have hsaves : k.Saves (Uuid.supply 0) [⟨none, .review (.bool true)⟩] := by
    rw [saves_iff_of_whole (Uuid.isUuid_supply 0) hsound hwhole hsteps]
    rintro (_ | n) s hs e
    · obtain rfl := Option.some.inj hs
      simp [run, hstep, hcommit]
    · cases hs
  have hload : Backend.load (k.run (Uuid.supply 0) [⟨none, .review (.bool true)⟩]).backend
      = .ok (some bytes) := by
    rw [hrun, hstep, hcommit]
    rfl
  obtain ⟨b, hread, halike, -⟩ :=
    start_run (Uuid.isUuid_supply 0) hbegins (fun s hs => (hsteps s hs).toProper) hsaves hload
  refine ⟨k, _, b, htasks, Except.ok.inj hload, hread, halike, ?_⟩
  rw [hrun, hstep, hcommit]
  rfl

end Keeper

end Kanban
