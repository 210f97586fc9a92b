import Kanban.Board.Command
import Kanban.Proofs.Board.Check
import Kanban.Proofs.Number.Value
import Kanban.Proofs.Json.Scan

/-!
# Valid tasks

A task is determined by its record (`Task.record_injective`), and its record can be taken from
its written form.  A value is checked to be a task exactly when its members are the record of
that task and the task is valid (`Task.check_eq_ok_iff`); so what a command accepts, and what a
snapshot holds, are valid tasks, and the written form of a valid task is accepted.
-/

namespace Kanban

open Checked

/-! ### Records in written form -/

namespace Field

theorem mem_all (f : Field) :
  f ∈ all
  := by
  cases f <;> decide

theorem key_injective {f g : Field} (h : f.key = g.key) :
  f = g
  := by
  cases f <;> cases g <;> first | rfl | (revert h; decide)

theorem nodup_all :
  all.Nodup
  := by
  decide

end Field

namespace Record

/-- The members of a record: the fields that are present. -/
def members (r : Record) : Members :=
  (Field.all.filter fun f => !(r f).isNull).map fun f => (f.key, r f)

theorem toJson_eq (r : Record) :
  r.toJson = .obj r.members
  := rfl

theorem get?_map_key (r : Record) (fs : List Field) (f : Field) :
  Members.get? f.key (fs.map fun f => (f.key, r f)) = if f ∈ fs then some (r f) else none
  := by
  induction fs with
  | nil => rfl
  | cons g fs ih =>
      rw [List.map_cons, Members.get?, ih]
      by_cases h : f = g
      · simp [h]
      · have hkey : g.key ≠ f.key := fun hkey => h (Field.key_injective hkey).symm
        simp [h, hkey]

theorem isNull_iff {v : Json} :
  v.isNull = true ↔ v = .null
  := by
  cases v <;> simp [Json.isNull]

theorem mem_filter_iff {r : Record} {f : Field} :
  f ∈ Field.all.filter (fun f => !(r f).isNull) ↔ (r f).isNull = false
  := by
  simp [List.mem_filter, Field.mem_all]

/-- The values of a record are found in its written form. -/
@[simp]
theorem value_members (r : Record) (f : Field) :
  r.members.value f.key = r f
  := by
  rw [Members.value, members]
  rw [get?_map_key]
  simp only [mem_filter_iff]
  cases h : (r f).isNull with
  | true => simp [isNull_iff.mp h]
  | false => simp

theorem nodup_names_members (r : Record) :
  (r.members.map Prod.fst).Nodup
  := by
  rw [members]
  rw [List.map_map]
  apply (Field.nodup_all.filter _).map_on
  intro f _ g _ hkey
  apply Field.key_injective hkey

theorem mem_members {r : Record} {m : Text × Json} (h : m ∈ r.members) :
  ∃ f : Field, m = (f.key, r f) ∧ r f ≠ .null
  := by
  obtain ⟨f, hf, rfl⟩ := List.mem_map.mp h
  refine ⟨f, rfl, fun hnull => ?_⟩
  simp [hnull, Json.isNull] at hf

theorem legible_toJson_iff {r : Record} :
  r.toJson.Legible ↔ ∀ f, (r f).Legible
  := by
  rw [toJson_eq, Json.legible_obj_iff]
  constructor
  · rintro ⟨-, h⟩ f
    by_cases hnull : r f = .null
    · rw [hnull]
      trivial
    · apply h (f.key, r f)
      apply List.mem_map.mpr
      refine ⟨f, mem_filter_iff.mpr ?_, rfl⟩
      rw [← Bool.not_eq_true, isNull_iff]
      apply hnull
  · intro h
    apply And.intro r.nodup_names_members
    intro m hm
    obtain ⟨f, rfl, -⟩ := mem_members hm
    apply h

end Record

/-! ### The record of a task -/

theorem Priority.name_injective {p q : Priority} (h : p.name = q.name) :
  p = q
  := Option.some.inj ((ofName?_name p).symm.trans (h ▸ ofName?_name q))

theorem Column.name_injective {c d : Column} (h : c.name = d.name) :
  c = d
  := Option.some.inj ((ofName?_name c).symm.trans (h ▸ ofName?_name d))

theorem Json.ofText?_injective {s t : Option Text} (h : ofText? s = ofText? t) :
  s = t
  := by
  cases s <;> cases t <;> simp_all [ofText?]

theorem Json.strs_injective {s t : List Text} (h : strs s = strs t) :
  s = t
  := List.map_injective_iff.mpr (fun _ _ => Json.str.inj) (Json.arr.inj h)

/-- A number, or `null` for none. -/
theorem Json.num?_injective {m n : Option Number}
    (h : (m.map num).getD .null = (n.map num).getD .null) :
  m = n
  := by
  cases m <;> cases n <;> simp_all

theorem Check.IsScore.legible {n : Number} (h : IsScore n) :
  n.Legible
  := by
  obtain ⟨-, hlow, hhigh⟩ := h
  cases n with
  | int n =>
      rw [Number.int_lt_int, decide_eq_false_iff_not] at hlow hhigh
      apply Number.legible_of_small
      rw [greatestScore] at hhigh
      omega
  | float x => trivial

namespace Task

/-- A task is determined by its record. -/
theorem record_injective {t u : Task} (h : t.record = u.record) :
  t = u
  := by
  have hfield (f : Field) : t.record f = u.record f := congrFun h f
  have hid := Json.str.inj (hfield .id)
  have htitle := Json.str.inj (hfield .title)
  have hdescription := Json.ofText?_injective (hfield .description)
  have hpriority := Priority.name_injective (Json.str.inj (hfield .priority))
  have htags := Json.strs_injective (hfield .tags)
  have hestimate := Json.num.inj (hfield .estimate)
  have hcreated := Json.str.inj (hfield .createdAt)
  have hdue := Json.ofText?_injective (hfield .dueAt)
  have hcolumn := Column.name_injective (Json.str.inj (hfield .column))
  have hnote := Json.ofText?_injective (hfield .reviewerNote)
  have hscore := Json.num?_injective (hfield .score)
  have hcomment := Json.ofText?_injective (hfield .scoreComment)
  cases t
  cases u
  simp_all

/-- What the written form of a task has to satisfy. -/
structure Valid (t : Task) : Prop where
  id : Check.isUuid t.id = true
  title : Check.leastTitle ≤ t.title.length
  estimate : Check.IsEstimate t.estimate
  createdAt : Check.Readable t.createdAt
  dueAt : ∀ s ∈ t.dueAt, Check.Readable s
  score : ∀ n ∈ t.score, Check.IsScore n

/-- Members make up a task exactly when they are the record of it and it is valid. -/
theorem ofMembers_eq_ok_iff {m : Members} {t : Task} :
  ofMembers m = ok t ↔ (∀ f, m.value f.key = t.record f) ∧ t.Valid
  := by
  simp only [ofMembers, seq_eq_ok_iff, Checked.fmap_eq_ok_iff, Members.check_eq_ok_iff,
    Check.uuid_eq_ok_iff, Check.title_eq_ok_iff, Check.optionalText_eq_ok_iff,
    Check.priority_eq_ok_iff, Check.tags_eq_ok_iff, Check.estimate_eq_ok_iff,
    Check.time_eq_ok_iff, Check.optionalTime_eq_ok_iff, Check.column_eq_ok_iff,
    Check.score_eq_ok_iff]
  constructor
  · rintro ⟨_, ⟨_, ⟨_, ⟨_, ⟨_, ⟨_, ⟨_, ⟨_, ⟨_, ⟨_, ⟨_,
      ⟨id, ⟨hid, hid'⟩, rfl⟩, title, ⟨htitle, htitle'⟩, rfl⟩, description, hdescription, rfl⟩,
      priority, hpriority, rfl⟩, tags, htags, rfl⟩, estimate, ⟨hestimate, hestimate'⟩, rfl⟩,
      createdAt, ⟨hcreated, hcreated'⟩, rfl⟩, dueAt, ⟨hdue, hdue'⟩, rfl⟩, column, hcolumn, rfl⟩,
      reviewerNote, hnote, rfl⟩, score, ⟨hscore, hscore'⟩, rfl⟩, comment, hcomment, rfl⟩
    constructor
    · intro f
      cases f
      exacts [hid, htitle, hdescription, hpriority, htags, hestimate, hcreated, hdue, hcolumn,
        hnote, hscore, hcomment]
    · exact ⟨hid', htitle', hestimate', hcreated', hdue', hscore'⟩
  · rintro ⟨hvalue, hvalid⟩
    exact ⟨_, ⟨_, ⟨_, ⟨_, ⟨_, ⟨_, ⟨_, ⟨_, ⟨_, ⟨_, ⟨_,
      ⟨_, ⟨hvalue .id, hvalid.id⟩, rfl⟩, _, ⟨hvalue .title, hvalid.title⟩, rfl⟩,
      _, hvalue .description, rfl⟩, _, hvalue .priority, rfl⟩, _, hvalue .tags, rfl⟩,
      _, ⟨hvalue .estimate, hvalid.estimate⟩, rfl⟩, _, ⟨hvalue .createdAt, hvalid.createdAt⟩, rfl⟩,
      _, ⟨hvalue .dueAt, hvalid.dueAt⟩, rfl⟩, _, hvalue .column, rfl⟩,
      _, hvalue .reviewerNote, rfl⟩, _, ⟨hvalue .score, hvalid.score⟩, rfl⟩,
      _, hvalue .scoreComment, rfl⟩

theorem check_eq_ok_iff {v : Json} {t : Task} :
  check v = ok t ↔ ∃ m : Members, v = .obj m ∧ (∀ f, m.value f.key = t.record f) ∧ t.Valid
  := by
  cases v <;> simp [check, ofMembers_eq_ok_iff]

/-- A record is checked to be a task exactly when it is the record of that task. -/
theorem check_toJson_eq_ok_iff {r : Record} {t : Task} :
  check r.toJson = ok t ↔ t.record = r ∧ t.Valid
  := by
  rw [check_eq_ok_iff, Record.toJson_eq]
  constructor
  · rintro ⟨m, hm, hvalue, hvalid⟩
    obtain rfl := Json.obj.inj hm
    refine ⟨?_, hvalid⟩
    funext f
    rw [← hvalue f, Record.value_members]
  · rintro ⟨rfl, hvalid⟩
    exact ⟨_, rfl, Record.value_members _, hvalid⟩

/-! ### Tasks that stay valid -/

theorem Valid.moved {t : Task} (h : t.Valid) (c : Column) :
  Valid { t with column := c }
  := ⟨h.id, h.title, h.estimate, h.createdAt, h.dueAt, h.score⟩

theorem Valid.renamed {t : Task} (h : t.Valid) {id : Text} (hid : Check.isUuid id = true) :
  Valid { t with id }
  := ⟨hid, h.title, h.estimate, h.createdAt, h.dueAt, h.score⟩

/-! ### Settled tasks -/

theorem Valid.settled {t : Task} (h : t.Valid) :
  t.settled.Valid
  := by
  obtain ⟨-, hwhole, hneg⟩ := h.estimate
  obtain ⟨n, -, hn⟩ := Number.settled_of_isWhole hwhole
  refine ⟨h.id, h.title, ⟨?_, ?_, ?_⟩, h.createdAt, h.dueAt, h.score⟩
  · simp [Task.settled, hn, Number.isFinite]
  · simp [Task.settled, hn, Number.isWhole, Number.toInt?]
  · rw [← hneg]
    apply Number.settled_lt

/-- A valid task is read from its written form, in settled form. -/
theorem read_toJson {t : Task} (h : t.Valid) :
  read t.toJson = ok t.settled
  := by
  have hcheck : check t.toJson = ok t := check_toJson_eq_ok_iff.mpr ⟨rfl, h⟩
  rw [read]
  rw [hcheck]
  rfl

/-- The record of a task with a score in range is legible if the estimate is. -/
theorem legible_toJson_iff_of_score {t : Task} (h : ∀ n ∈ t.score, Check.IsScore n) :
  t.toJson.Legible ↔ t.estimate.Legible
  := by
  rw [toJson]
  rw [Record.legible_toJson_iff]
  constructor
  · intro hlegible
    apply hlegible .estimate
  · intro hestimate f
    have htext (s : Option Text) : (Json.ofText? s).Legible := by
      cases s <;> trivial
    cases f with
    | estimate => apply hestimate
    | tags =>
        apply Json.legible_arr_iff.mpr
        intro x hx
        obtain ⟨s, -, rfl⟩ := List.mem_map.mp hx
        trivial
    | score =>
        change Json.Legible ((t.score.map Json.num).getD .null)
        cases hscore : t.score with
        | none => trivial
        | some n => apply (h n hscore).legible
    | description => apply htext
    | dueAt => apply htext
    | reviewerNote => apply htext
    | scoreComment => apply htext
    | _ => trivial

theorem legible_toJson_iff {t : Task} (h : t.Valid) :
  t.toJson.Legible ↔ t.estimate.Legible
  := legible_toJson_iff_of_score h.score

theorem legible_settled {t : Task} (h : t.Valid) (hlegible : t.toJson.Legible) :
  t.settled.toJson.Legible
  := by
  rw [legible_toJson_iff h] at hlegible
  rw [legible_toJson_iff h.settled]
  apply Number.legible_settled hlegible

end Task

/-- A command accepts a record exactly when it is the record of a valid task. -/
theorem Draft.accept_eq_ok_iff {r : Record} {t : Task} :
  accept r = .ok t ↔ t.record = r ∧ t.Valid
  := by
  rw [← Task.check_toJson_eq_ok_iff]
  unfold accept
  cases Task.check r.toJson <;> simp [throw, throwThe, MonadExceptOf.throw, pure, Except.pure]

end Kanban
