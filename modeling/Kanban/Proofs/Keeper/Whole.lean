import Kanban.Proofs.Board.Whole
import Kanban.Proofs.Keeper.Soundness

/-!
# Operations keep boards whole

As long as no lone half of a surrogate pair comes in from outside, every step leaves a whole board
whole (`Keeper.whole_step`), so that no new board lacks a snapshot (`Keeper.written_step`).
-/

namespace Kanban

namespace Operation

/-- No lone half of a surrogate pair stands in what the caller supplied. -/
def Whole : Operation → Prop
  | create d => d.Whole
  | update _ e => e.Whole
  | importValue snapshot => snapshot.isWhole = true
  | importText text => ∀ v ∈ Keeper.decodeText? text, v.isWhole = true
  | importBytes bytes => ∀ v ∈ Keeper.decodeBytes? bytes, v.isWhole = true
  | _ => True

variable {b b' : Board} {s : Stamp} {n : Nat} {a : Answer}

theorem whole_of_intake {v : Option Json} (hs : s.Proper) (hv : ∀ w ∈ v, w.isWhole = true)
    (h : intake s v = .ok (.change n b' a)) :
  b'.Whole
  := by
  cases v with
  | none => cases h
  | some v =>
      obtain ⟨⟨c, rs⟩ | _, hx, ha⟩ := map_eq_ok_iff.mp h
      · obtain ⟨-, rfl, -⟩ := Effect.change.inj ha
        obtain ⟨d, _, hread, -⟩ := Board.adopt_eq_ok_ok_iff.mp hx
        apply (Board.whole_adopt_iff hs hread hx).mpr
        apply Board.whole_of_read hread (hv v rfl)
      · cases ha

/-- The new board of an operation is whole. -/
theorem whole_of_effect {o : Operation} (hb : b.Whole) (hs : s.Proper) (ho : o.Whole)
    (h : o.effect b s = .ok (.change n b' a)) :
  b'.Whole
  := by
  by_cases hcommand : o.IsCommand
  · cases makes_of_effect hcommand h with
    | create made => apply hb.create hs ho made
    | update made => apply hb.update hs ho made
    | delete made => apply hb.delete hs made
    | move made => apply hb.move hs made
    | review _ made =>
        rw [made]
        apply hb.setReviewMode
  · cases o with
    | importValue snapshot =>
        apply whole_of_intake (v := some snapshot) hs _ h
        rintro _ ⟨⟩
        apply ho
    | importText text => apply whole_of_intake hs ho h
    | importBytes bytes => apply whole_of_intake hs ho h
    | _ => exact absurd trivial hcommand

end Operation

/-- A proper step with whole values. -/
structure Step.Whole (s : Step) : Prop extends s.Proper where
  whole : s.operation.Whole

namespace Keeper

variable {β : Type} [Backend β] {ids : Nat → Text} {k : Keeper β} {s : Step}

theorem whole_step (hids : ∀ i, Check.isUuid (ids i) = true) (hk : k.board.Whole) (hs : s.Whole) :
  (k.step ids s).2.board.Whole
  := by
  apply board_step hk
  intro n b a heffect
  apply Operation.whole_of_effect hk (proper_stamp hids hs.utc _) hs.whole heffect

/-- The new board of a step with whole values, if there is one, is written. -/
theorem written_step (hids : ∀ i, Check.isUuid (ids i) = true) (hsound : k.board.Sound)
    (hwhole : k.board.Whole) (hs : s.Whole) (e : Board.Unwritten) :
  (k.step ids s).1 ≠ .error (.notWritten e)
  := by
  have h := outcome_step ids k s
  generalize k.step ids s = x at h ⊢
  obtain ⟨r, k'⟩ := x
  rintro rfl
  cases h with
  | unwritten effect snapshot =>
      have hs' := proper_stamp hids hs.utc k.drawn
      have hb := Operation.sound_of_effect hsound hs' hs.legible effect
      obtain ⟨bytes, hbytes⟩ :=
        (Board.exists_snapshot_iff hb).mpr (Operation.whole_of_effect hwhole hs' hs.whole effect)
      cases snapshot.symm.trans hbytes

end Keeper

end Kanban
