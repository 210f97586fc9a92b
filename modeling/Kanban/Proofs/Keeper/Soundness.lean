import Kanban.Proofs.Board.Intake
import Kanban.Proofs.Keeper.Operation
import Kanban.Proofs.Uuid

/-!
# Operations keep boards sound

The new board of an operation is sound if the board was and what the caller supplied is legible,
at a time that a clock in UTC shows (`Operation.sound_of_effect`).  So every proper step leaves a
sound board sound (`Keeper.sound_step`).
-/

namespace Kanban

namespace Operation

/-- The numbers in what the caller supplied are legible, and no object repeats a name. -/
def Legible : Operation → Prop
  | create d => d.estimate.Legible
  | update _ e => e.estimate.Legible
  | importValue snapshot => snapshot.Legible
  | _ => True

variable {b b' : Board} {s : Stamp} {n : Nat} {a : Answer}

theorem sound_of_intake {v : Option Json} (hs : s.Proper) (hv : ∀ w ∈ v, w.Legible)
    (h : intake s v = .ok (.change n b' a)) :
  b'.Sound
  := by
  cases v with
  | none => cases h
  | some v =>
      obtain ⟨⟨c, rs⟩ | _, hx, ha⟩ := map_eq_ok_iff.mp h
      · obtain ⟨-, rfl, -⟩ := Effect.change.inj ha
        apply Board.sound_of_adopt (hv v rfl) hs hx
      · cases ha

/-- The new board of an operation is sound. -/
theorem sound_of_effect {o : Operation} (hb : b.Sound) (hs : s.Proper) (ho : o.Legible)
    (h : o.effect b s = .ok (.change n b' a)) :
  b'.Sound
  := by
  by_cases hcommand : o.IsCommand
  · cases makes_of_effect hcommand h with
    | create made => apply hb.create hs ho made
    | update made => apply hb.update hs ho made
    | delete made => apply hb.delete hs made
    | move made => apply hb.move hs made
    | review _ made =>
        rw [made]
        apply hb.setReviewMode
  · cases o with
    | importValue snapshot =>
        apply sound_of_intake (v := some snapshot) hs _ h
        rintro _ ⟨⟩
        apply ho
    | importText text =>
        apply sound_of_intake hs _ h
        intro v hv
        apply Json.legible_of_read? hv
    | importBytes bytes =>
        apply sound_of_intake hs _ h
        intro v hv
        apply Board.legible_of_decodeBytes? hv
    | _ => exact absurd trivial hcommand

end Operation

/-- A step at a time that a clock in UTC shows, with legible values. -/
structure Step.Proper (s : Step) : Prop where
  utc : ∀ m ∈ s.now, m.Utc
  legible : s.operation.Legible

namespace Keeper

variable {β : Type} [Backend β] {ids : Nat → Text} {k : Keeper β}

theorem proper_stamp (hids : ∀ i, Check.isUuid (ids i) = true) {now : Option Moment}
    (hnow : ∀ m ∈ now, m.Utc) (drawn : Nat) :
  (Source.stamp ⟨now, ids⟩ drawn).Proper
  := ⟨fun _ => hnow, fun _ => hids _⟩

/-- Every step leaves a sound board sound. -/
theorem sound_step (hids : ∀ i, Check.isUuid (ids i) = true) {s : Step} (hk : k.board.Sound)
    (hs : s.Proper) :
  (k.step ids s).2.board.Sound
  := by
  apply board_step hk
  intro n b a heffect
  apply Operation.sound_of_effect hk (proper_stamp hids hs.utc _) hs.legible heffect

end Keeper

end Kanban
