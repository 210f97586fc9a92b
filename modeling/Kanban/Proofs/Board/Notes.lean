import Kanban.Proofs.Board.Accents
import Kanban.Proofs.Board.Intake
import Kanban.Proofs.Board.Sample
import Kanban.Proofs.Json.Standard

/-!
# What the audit log can hold

A task fits when its numbers are in range, and its estimate is one of those that `P` allows.
Commands leave fitting tasks fitting, and what their entries note is nothing but texts and parts
of such tasks (`Entry.Notes`).  So the entries of commands hold no number that is not on the
board before or after; other numbers come into the log with a snapshot only.
-/

namespace Kanban

variable {P : Number → Prop}

/-! ### Numbers of tasks -/

/-- The numbers of a task are in range, and the estimate is one that `P` allows. -/
structure Task.Fits (P : Number → Prop) (t : Task) : Prop where
  estimate : Check.IsEstimate t.estimate
  score : ∀ n ∈ t.score, Check.IsScore n
  allowed : P t.estimate

namespace Task.Fits

variable {t u : Task}

theorem of_valid (h : t.Valid) (hP : P t.estimate) :
  t.Fits P
  := ⟨h.estimate, h.score, hP⟩

/-- Nothing but the numbers matters. -/
theorem of_eq (h : t.Fits P) (hestimate : u.estimate = t.estimate) (hscore : u.score = t.score) :
  u.Fits P
  := ⟨hestimate ▸ h.estimate, hscore ▸ h.score, hestimate ▸ h.allowed⟩

theorem moved (h : t.Fits P) (c : Column) :
  Task.Fits P { t with column := c }
  := h.of_eq rfl rfl

theorem restored (h : t.Fits P) (hu : t.Restores u) :
  u.Fits P
  := h.of_eq hu.retains.estimate hu.retains.score

/-- The parts of a task other than its two numbers are texts, in lists or by themselves. -/
theorem record_finite (h : t.Fits P) (f : Field) :
  (t.record f).Finite
  := by
  have htext (s : Option Text) : (Json.ofText? s).Finite := by
    cases s <;> trivial
  cases f with
  | estimate => apply h.estimate.1
  | score =>
      change Json.Finite ((t.score.map Json.num).getD .null)
      cases hscore : t.score with
      | none => trivial
      | some n => apply (h.score n hscore).1
  | tags =>
      apply Json.finite_arr_iff.mpr
      intro x hx
      obtain ⟨s, -, rfl⟩ := List.mem_map.mp hx
      trivial
  | description => apply htext
  | dueAt => apply htext
  | reviewerNote => apply htext
  | scoreComment => apply htext
  | _ => trivial

theorem toJson_finite (h : t.Fits P) :
  t.toJson.Finite
  := by
  apply Json.finite_obj_iff.mpr
  intro m hm
  obtain ⟨f, rfl, -⟩ := Record.mem_members hm
  apply h.record_finite

theorem toJson_legible (h : t.Fits Number.Legible) :
  t.toJson.Legible
  := (Task.legible_toJson_iff_of_score h.score).mpr h.allowed

end Task.Fits

/-! ### What is noted -/

/-- What an entry can note: nothing, a text, a fitting task, or a part of one. -/
inductive Noted (P : Number → Prop) : Json → Prop
  | null : Noted P .null
  | text (s : Text) : Noted P (.str s)
  | task {t : Task} (fits : t.Fits P) : Noted P t.toJson
  | part {t : Task} (fits : t.Fits P) (f : Field) : Noted P (t.record f)

theorem Noted.finite {v : Json} (h : Noted P v) :
  v.Finite
  := by
  cases h with
  | null => trivial
  | text => trivial
  | task fits => apply fits.toJson_finite
  | part fits f => apply fits.record_finite

theorem Noted.legible {v : Json} (h : Noted Number.Legible v) :
  v.Legible
  := by
  cases h with
  | null => trivial
  | text => trivial
  | task fits => apply fits.toJson_legible
  | part fits f => apply Record.legible_toJson_iff.mp fits.toJson_legible

namespace Entry

/-- The changes have distinct names, and their values are such as can be noted. -/
structure Notes (P : Number → Prop) (e : Entry) : Prop where
  names : (e.changes.map Change.field).Nodup
  values : ∀ c ∈ e.changes, Noted P c.before ∧ Noted P c.after

/-- All numbers in the changes are finite. -/
def Finite (e : Entry) : Prop := ∀ c ∈ e.changes, c.before.Finite ∧ c.after.Finite

theorem Notes.finite {e : Entry} (h : e.Notes P) :
  e.Finite
  := by
  intro c hc
  obtain ⟨hbefore, hafter⟩ := h.values c hc
  exact ⟨hbefore.finite, hafter.finite⟩

theorem Notes.legible {e : Entry} (h : e.Notes Number.Legible) :
  e.toJson.Legible
  := by
  apply legible_toJson_iff.mpr ⟨h.names, ?_⟩
  intro c hc
  obtain ⟨hbefore, hafter⟩ := h.values c hc
  exact ⟨hbefore.legible, hafter.legible⟩

theorem finite_toJson_iff {e : Entry} :
  e.toJson.Finite ↔ e.Finite
  := by
  simp [Entry.toJson, Entry.Finite, Change.toMember]

theorem notes_singleton {c : Change} {id time taskId : Text} {action : Action}
    (hbefore : Noted P c.before) (hafter : Noted P c.after) :
  Notes P ⟨id, time, action, taskId, [c]⟩
  := by
  constructor
  · apply List.nodup_singleton
  · intro d hd
    obtain rfl := List.mem_singleton.mp hd
    exact ⟨hbefore, hafter⟩

end Entry

namespace Board

variable {b b' : Board} {s : Stamp} {id : Text} {x : Entry}

/-- All tasks of the board fit. -/
def Fits (P : Number → Prop) (b : Board) : Prop := ∀ t ∈ b.tasks, t.Fits P

/-! ### Commands -/

theorem fits_replaceTask (hb : b.Fits P) {t : Task} (ht : t.Fits P) :
  ∀ u ∈ b.replaceTask id t, u.Fits P
  := by
  intro u hu
  obtain ⟨v, hv, rfl⟩ := List.mem_map.mp hu
  split_ifs
  · apply ht
  · apply hb v hv

theorem Fits.create (hb : b.Fits P) {d : NewTask} (hd : ∀ n, d.estimate = .num n → P n)
    (h : b.create s d = .ok (b', x)) :
  b'.Fits P ∧ x.Notes P
  := by
  obtain ⟨t, ht, hx, rfl⟩ := create_eq_ok_iff.mp h
  obtain ⟨hvalid, -, hestimate⟩ := d.toTask_spec ht
  have hfits : t.Fits P := .of_valid hvalid (hd _ hestimate.symm)
  obtain ⟨m, -, rfl⟩ := Stamp.entry_eq_ok_iff.mp hx
  constructor
  · apply List.forall_mem_append.mpr ⟨hb, ?_⟩
    intro u hu
    rwa [List.mem_singleton.mp hu]
  · apply Entry.notes_singleton .null (.task hfits)

theorem Fits.update (hb : b.Fits P) {e : TaskEdit} (he : ∀ n, e.estimate = .num n → P n)
    (h : b.update s id e = .ok (some (b', x))) :
  b'.Fits P ∧ x.Notes P
  := by
  obtain ⟨t, u, ht, hu, -, hx, rfl⟩ := update_eq_ok_some_iff.mp h
  obtain ⟨hvalid, -, -, -, hestimate⟩ := e.apply_spec hu
  have hold := hb t (mem_of_task? ht).1
  have hnew : u.Fits P := .of_valid hvalid (he _ hestimate.symm)
  obtain ⟨m, -, rfl⟩ := Stamp.entry_eq_ok_iff.mp hx
  refine ⟨fits_replaceTask hb hnew, nodup_names_between _ _, ?_⟩
  intro c hc
  obtain ⟨f, -, rfl⟩ := List.mem_map.mp hc
  exact ⟨.part hold f, .part hnew f⟩

theorem Fits.delete (hb : b.Fits P) (h : b.delete s id = .ok (some (b', x))) :
  b'.Fits P ∧ x.Notes P
  := by
  obtain ⟨t, ht, hx, rfl⟩ := delete_eq_ok_some_iff.mp h
  have hold := hb t (mem_of_task? ht).1
  obtain ⟨m, -, rfl⟩ := Stamp.entry_eq_ok_iff.mp hx
  constructor
  · intro u hu
    apply hb u (List.mem_of_mem_filter hu)
  · apply Entry.notes_singleton (.task hold) .null

theorem Fits.move (hb : b.Fits P) {v : Json} (h : b.move s id v = .ok (some (b', x))) :
  b'.Fits P ∧ x.Notes P
  := by
  obtain ⟨t, c, -, ht, -, hx, rfl⟩ := move_eq_ok_some_iff.mp h
  have hold := hb t (mem_of_task? ht).1
  obtain ⟨m, -, rfl⟩ := Stamp.entry_eq_ok_iff.mp hx
  exact ⟨fits_replaceTask hb (hold.moved c), Entry.notes_singleton (.text _) (.text _)⟩

/-! ### Boards from elsewhere -/

/-- The tasks of a board that was read have numbers in range. -/
theorem fits_of_read {v : Json} (h : read v = .ok b) (hP : ∀ t ∈ b.tasks, P t.estimate) :
  b.Fits P
  := by
  obtain ⟨m, -, ⟨ts, -, htasks⟩, -⟩ := read_eq_ok_iff.mp h
  intro t ht
  obtain ⟨x, -, hx⟩ := exists_mem_left htasks ht
  obtain ⟨u, hu, rfl⟩ := Checked.map_eq_ok_iff.mp hx
  obtain ⟨m, -, -, hvalid⟩ := Task.check_eq_ok_iff.mp hu
  apply Task.Fits.of_valid hvalid.settled (hP _ ht)

/-- A board that is taken over has the numbers of the snapshot, and the entries about what was
replaced in it hold none. -/
theorem fits_of_adopt {v : Json} {rs : List Replacement}
    (hP : ∀ c, read v = .ok c → ∀ t ∈ c.tasks, P t.estimate)
    (h : adopt s v = .ok (.ok (b, rs))) :
  b.Fits P
    ∧ ∃ c es, read v = .ok c ∧ b.audit = es ++ c.audit ∧ ∀ e ∈ es, e.Notes P
  := by
  obtain ⟨c, entries, hread, -, hentries, rfl⟩ := adopt_eq_ok_ok_iff.mp h
  have hc := fits_of_read hread (hP c hread)
  constructor
  · intro u hu
    obtain ⟨t, ht, rfl | ⟨j, rfl⟩⟩ := exists_of_mem_distinguish hu
    · apply hc u ht
    · exact (hc t ht).of_eq rfl rfl
  · refine ⟨c, entries.reverse, hread, rfl, ?_⟩
    intro e he
    obtain ⟨⟨r, i⟩, -, hr⟩ :=
      exists_mem_left (mapM_eq_ok_iff.mp hentries) (List.mem_reverse.mp he)
    obtain ⟨m, -, rfl⟩ := Stamp.entry_eq_ok_iff.mp hr
    apply Entry.notes_singleton (.text _) (.text _)

theorem fits_of_sample (h : sample s = .ok b)
    (hP : ∀ x ∈ samples, P (.int x.minutes)) :
  b.Fits P
  := by
  intro t ht
  obtain ⟨now, i, x, hx, -, hxt⟩ := mem_sample h ht
  obtain ⟨due, -, rfl⟩ := Sample.toTask_eq_ok_iff.mp hxt
  obtain ⟨-, hminutes, -⟩ := samples_spec x hx
  exact ⟨isEstimate_int hminutes, by simp, hP x hx⟩

theorem Fits.restoreAccents (hb : b.Fits P) {changed : Bool}
    (h : b.restoreAccents = .ok (b', changed)) :
  b'.Fits P
  := by
  intro u hu
  obtain ⟨t, ht, htu⟩ := exists_restores_of_mem h hu
  apply (hb t ht).restored htu

/-- The text of a board of fitting tasks is standard exactly when all numbers in its audit log
are finite. -/
theorem Fits.isStandard_iff (hb : b.Fits P) {indent : Option Nat} {t : Text}
    (ht : b.text? indent = some t) :
  Json.IsStandard t ↔ ∀ e ∈ b.audit, e.Finite
  := by
  rw [Json.isStandard_iff_of_write? ht]
  have htasks : ∀ t ∈ b.tasks, t.toJson.Finite := fun t ht => (hb t ht).toJson_finite
  simpa [toJson, Entry.finite_toJson_iff] using fun _ => htasks

end Board

end Kanban
