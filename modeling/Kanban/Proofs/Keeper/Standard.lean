import Kanban.Proofs.Keeper.Boot
import Kanban.Proofs.Keeper.Contents
import Kanban.Proofs.Keeper.Whole

/-!
# Snapshots with odd numbers

A snapshot is standard as long as no number in it is an infinity or not-a-number.  The numbers of
tasks are checked wherever they come from, and those of a diff nowhere: a board that is taken
from outside brings whatever its diffs hold, and its snapshot need not be standard
(`Keeper.not_isStandard_stray`).  Commands add no such number, so that the snapshot of a keeper
is standard exactly when the log that was taken from outside last holds none
(`Keeper.isStandard_text_iff`).
-/

namespace Kanban.Keeper

variable {β : Type} [Backend β] {ids : Nat → Text}

/-- The board that was taken from outside last once a step is done, where it was `b` before. -/
def takenAfter (ids : Nat → Text) (k : Keeper β) (b : Board) (s : Step) : Board :=
  match s.operation.snapshot?,
    s.operation.effect k.board (Source.stamp ⟨s.now, ids⟩ k.drawn) with
  | some _, .ok (.change _ b' _) => b'
  | _, _ => b

/-- The board that was taken from outside last in a run, or `b` where none was. -/
def lastTaken (ids : Nat → Text) : Keeper β → Board → List Step → Board
  | _, b, [] => b
  | k, b, s :: steps => lastTaken ids (k.step ids s).2 (k.takenAfter ids b s) steps

/-- The tasks fit, and an odd number stands in the log exactly when one stands in that of `b`. -/
structure Inherits (k : Keeper β) (b : Board) : Prop where
  fits : k.board.Fits fun _ => True
  finite : (∀ e ∈ k.board.audit, e.Finite) ↔ ∀ e ∈ b.audit, e.Finite

/-- Opened tasks fit. -/
theorem Opened.inherits {k : Keeper β} (h : Opened ids k) :
  k.Inherits k.board
  := by
  refine ⟨?_, .rfl⟩
  cases h with
  | started start =>
      obtain ⟨content, hcontent⟩ := load_of_start start
      apply (opens_of_start hcontent start).fits
      · intro b hb
        obtain ⟨bytes, -, hbytes⟩ := Option.bind_eq_some_iff.mp hb
        obtain ⟨v, -, hv⟩ := Board.read_of_boardOfBytes? hbytes
        apply Board.fits_of_read hv fun _ _ => trivial
      · intro x _
        trivial
  | empty w => simp [Board.Fits, Board.empty]

theorem Inherits.step {k : Keeper β} {b : Board} (hk : k.Inherits b) (s : Step) :
  (k.step ids s).2.Inherits (k.takenAfter ids b s)
  := by
  have hoffers : s.operation.Offers fun _ => True := by
    unfold Operation.Offers
    split <;> intros <;> trivial
  have hchanged {n : Nat} {b' : Board} {a : Answer} {w : Surroundings β}
      (h : s.operation.effect k.board (Source.stamp ⟨s.now, ids⟩ k.drawn)
        = .ok (.change n b' a)) : Inherits ⟨w, b'⟩ (k.takenAfter ids b s) := by
    rw [takenAfter, h]
    by_cases hcommand : s.operation.IsCommand
    · obtain ⟨hfits, es, haudit, hes⟩ := Operation.fits_of_command hcommand hk.fits hoffers h
      have hnone : s.operation.snapshot? = none := by
        cases hs : s.operation <;> simp_all [Operation.IsCommand, Operation.snapshot?]
      rw [hnone]
      refine ⟨hfits, ?_⟩
      rw [← hk.finite]
      dsimp only
      rw [haudit, List.forall_mem_append]
      apply and_iff_right
      intro e he
      apply (hes e he).finite
    · obtain ⟨hfits, v, hv, -⟩ := Operation.fits_of_import hcommand hoffers h
      rw [hv]
      exact ⟨hfits, .rfl⟩
  have houtcome := outcome_step ids k s
  generalize k.step ids s = x at houtcome ⊢
  obtain ⟨r, k'⟩ := x
  cases houtcome with
  | refused effect =>
      rw [takenAfter, effect]
      simpa using hk
  | unchanged effect =>
      rw [takenAfter, effect]
      simpa using hk
  | saved effect => apply hchanged effect
  | unsaved effect => apply hchanged effect
  | unwritten effect => apply hchanged effect

theorem Inherits.run {k : Keeper β} {b : Board} (hk : k.Inherits b) (steps : List Step) :
  (k.run ids steps).Inherits (k.lastTaken ids b steps)
  := by
  induction steps generalizing k b with
  | nil => apply hk
  | cons s steps ih => apply ih (hk.step s)

/-- Whatever is done with a keeper that was opened, the numbers of its tasks are finite, and the
text of its board is standard exactly when all numbers are finite in the log of the board that was
taken from outside last. -/
theorem isStandard_text_iff {k : Keeper β} (hk : Opened ids k) (steps : List Step)
    (indent : Option Nat) :
  (∀ t ∈ (k.run ids steps).board.tasks, t.toJson.Finite)
    ∧ ∀ text, (k.run ids steps).board.text? indent = some text →
      (Json.IsStandard text ↔ ∀ e ∈ (k.lastTaken ids k.board steps).audit, e.Finite)
  := by
  have hrun : (k.run ids steps).Inherits (k.lastTaken ids k.board steps) := hk.inherits.run steps
  obtain ⟨hfits, hfinite⟩ := hrun
  constructor
  · intro t ht
    apply (hfits t ht).toJson_finite
  · intro text htext
    rw [hfits.isStandard_iff htext, hfinite]

/-- The sample board has a standard text, and keeps one when it is put under review. -/
theorem isStandard_text_sample :
  ∃ (k : Keeper Memory) (text : Text),
    (start ⟨some january, Uuid.supply 0⟩ true ⟨Memory.empty, 0⟩).1 = .ok k
      ∧ (k.run (Uuid.supply 0) [⟨none, .review (.bool true)⟩]).board.text? (some 2) = some text
      ∧ Json.IsStandard text
  := by
  have hids := Uuid.isUuid_supply 0
  have hs := proper_stamp hids utc_january 0
  have hreview : Step.Whole ⟨none, .review (.bool true)⟩ := ⟨⟨by simp, trivial⟩, trivial⟩
  obtain ⟨b, hb, hstart⟩ := start_empty true
  obtain ⟨now, -, -, hboard⟩ := Board.sample_eq_ok_iff.mp hb
  have hsound := sound_step hids (k := ⟨holding b 1 Board.samples.length, b⟩)
    (Board.sound_of_sample hs hb) hreview.toProper
  have hwhole := whole_step hids (k := ⟨holding b 1 Board.samples.length, b⟩)
    (Board.whole_of_sample hs hb) hreview
  obtain ⟨text, -, htext, -⟩ :=
    (Board.exists_encode?_text?_iff hsound.legible (some 2)).mpr hwhole
  refine ⟨_, text, hstart, htext, ?_⟩
  apply (isStandard_text_iff (.started hstart) [⟨none, .review (.bool true)⟩] (some 2)).2 text
    htext |>.mpr
  -- The review flag is set by a command, so the board that was opened was taken last.
  change ∀ e ∈ b.audit, e.Finite
  rw [hboard]
  simp

/-- A board with an entry in which not-a-number was noted. -/
def stray : Board := noting (.num (.float .nan)) .null

/-- The snapshot is accepted, and the text of the board that is opened is not standard. -/
theorem not_isStandard_stray :
  ∃ k text, (start ⟨none, Uuid.supply 0⟩ false (holding stray 0 0)).1 = .ok k
    ∧ k.board.text? none = some text ∧ ¬ Json.IsStandard text
  := by
  have hsound : stray.Sound := sound_noting trivial trivial
  have hwhole : stray.Whole := whole_noting rfl rfl
  have hread := read_holding hsound (isSettled_noting _ _) hwhole
  obtain ⟨text, -, htext, -⟩ :=
    (Board.exists_encode?_text?_iff hsound.legible none).mpr hwhole
  refine ⟨⟨holding stray 0 0, stray⟩, text, ?_, htext, ?_⟩
  · rw [start_of_read (load_holding _ _ _) hread (by simp)]
  · rw [Json.isStandard_iff_of_write? htext]
    simp [stray, noting, Board.toJson, Entry.toJson, Change.toMember, Number.isFinite,
      Double.isFinite]

end Kanban.Keeper
