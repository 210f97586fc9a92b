import Kanban.Proofs.Board.Notes
import Kanban.Proofs.Keeper.Ids
import Kanban.Proofs.Keeper.Opening

/-!
# What the board of a keeper can hold

The tasks of a keeper fit from the start, and every operation with estimates that are allowed
leaves them fitting.  A command adds entries that note nothing but texts and parts of such tasks
(`Operation.fits_of_command`); an import brings the log of its snapshot
(`Operation.fits_of_import`).  Neither the ids nor the clock have any part in this.
-/

namespace Kanban

variable {P : Number → Prop}

namespace Operation

/-- The estimates that the caller supplies are allowed: that of a draft, and those of the tasks
in a snapshot. -/
def Offers (P : Number → Prop) : Operation → Prop
  | create d => ∀ n, d.estimate = .num n → P n
  | update _ e => ∀ n, e.estimate = .num n → P n
  | o => ∀ v ∈ o.snapshot?, ∀ b, Board.read v = .ok b → ∀ t ∈ b.tasks, P t.estimate

variable {b b' : Board} {s : Stamp} {n : Nat} {a : Answer} {o : Operation}

/-- After a command the tasks still fit, and the entries that it has added note texts and parts
of such tasks. -/
theorem fits_of_command (hcommand : o.IsCommand) (hb : b.Fits P) (ho : o.Offers P)
    (h : o.effect b s = .ok (.change n b' a)) :
  b'.Fits P ∧ ∃ es, b'.audit = es ++ b.audit ∧ ∀ e ∈ es, e.Notes P
  := by
  have hentry {x : Entry} (haudit : b'.audit = x :: b.audit) (hx : b'.Fits P ∧ x.Notes P) :
      b'.Fits P ∧ ∃ es, b'.audit = es ++ b.audit ∧ ∀ e ∈ es, e.Notes P :=
    ⟨hx.1, [x], haudit, by simpa using hx.2⟩
  cases makes_of_effect hcommand h with
  | create made => apply hentry (Board.audit_create made) (hb.create ho made)
  | update made => apply hentry (Board.audit_update made) (hb.update ho made)
  | delete made => apply hentry (Board.audit_delete made) (hb.delete made)
  | move made => apply hentry (Board.audit_move made) (hb.move made)
  | review _ made =>
      rw [made]
      exact ⟨hb, [], rfl, by simp⟩

/-- After an import the tasks fit, and the audit log is that of the snapshot but for entries that
note texts. -/
theorem fits_of_import (himport : ¬ o.IsCommand) (ho : o.Offers P)
    (h : o.effect b s = .ok (.change n b' a)) :
  b'.Fits P ∧ ∃ v ∈ o.snapshot?, ∃ c es, Board.read v = .ok c ∧ b'.audit = es ++ c.audit
    ∧ ∀ e ∈ es, e.Notes P
  := by
  have hintake : intake s o.snapshot? = .ok (.change n b' a)
      ∧ ∀ v ∈ o.snapshot?, ∀ c, Board.read v = .ok c → ∀ t ∈ c.tasks, P t.estimate := by
    cases o with
    | importValue | importText | importBytes => exact ⟨h, ho⟩
    | _ => exact absurd trivial himport
  obtain ⟨hadopt, hP⟩ := hintake
  cases hv : o.snapshot? with
  | none =>
      rw [hv] at hadopt
      cases hadopt
  | some v =>
      rw [hv] at hadopt
      obtain ⟨⟨c, rs⟩ | _, hx, ha⟩ := map_eq_ok_iff.mp hadopt
      · obtain ⟨-, rfl, -⟩ := Effect.change.inj ha
        obtain ⟨hfits, hnotes⟩ := Board.fits_of_adopt (hP v hv) hx
        exact ⟨hfits, v, rfl, hnotes⟩
      · cases ha

end Operation

namespace Keeper

variable {β : Type} [Backend β] {ids : Nat → Text} {k : Keeper β}

/-- A keeper that was started on some place, at some time and in either way, or one with an
empty board. -/
inductive Opened (ids : Nat → Text) : Keeper β → Prop
  | started {accents : Bool} {w : Surroundings β} {now : Option Moment} {k : Keeper β}
      (start : (start ⟨now, ids⟩ accents w).1 = .ok k) : Opened ids k
  | empty (w : Surroundings β) : Opened ids ⟨w, Board.empty⟩

variable {src : Source} {accents : Bool} {w : Surroundings β} {content : Option ByteArray}

/-- The tasks that are opened fit if those that were read and those of the sample board do. -/
theorem Opens.fits (h : Opens src accents w content k)
    (hread : ∀ b, content.bind boardOfBytes? = some b → b.Fits P)
    (hsample : ∀ x ∈ Board.samples, P (.int x.minutes)) :
  k.board.Fits P
  := by
  cases h with
  | loaded read _ => apply hread _ read
  | restored _ read restore => apply (hread _ read).restoreAccents restore
  | sampled _ sample => apply Board.fits_of_sample sample hsample

/-- The audit log that is opened is empty, or the one that was read. -/
theorem Opens.audit (h : Opens src accents w content k) :
  k.board.audit = [] ∨ ∃ b, content.bind boardOfBytes? = some b ∧ k.board.audit = b.audit
  := by
  cases h with
  | loaded read _ => exact .inr ⟨_, read, rfl⟩
  | restored _ read restore => exact .inr ⟨_, read, Board.audit_restoreAccents restore⟩
  | sampled _ sample =>
      obtain ⟨now, -, -, hboard⟩ := Board.sample_eq_ok_iff.mp sample
      exact .inl (congrArg Board.audit hboard)

end Keeper

end Kanban
