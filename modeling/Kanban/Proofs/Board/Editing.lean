import Kanban.Proofs.Task.Cleaning

/-!
# Two ways to start an edit

An edit can be made of a task, or taken from its written form when a client sends back what it was
shown.  The written form of a task without issues is always taken, and the two edits ask for the
same, up to how the estimate is written; on any board on which the task is the only one with its id
they have the same outcome (`TaskEdit.update_ofJson`).
-/

namespace Kanban

/-! ### Tasks without issues -/

/-- A task is valid exactly when nothing is wrong with its written form. -/
theorem Task.issues_toJson_eq_nil_iff {t : Task} :
  (read t.toJson).issues = [] ↔ t.Valid
  := by
  rw [read, Checked.issues_map]
  constructor
  · intro h
    cases hcheck : check t.toJson with
    | ok u =>
        obtain ⟨hrecord, hvalid⟩ := check_toJson_eq_ok_iff.mp hcheck
        rwa [← record_injective hrecord]
    | bad first more =>
        rw [hcheck] at h
        cases h
  · intro h
    have hcheck : check t.toJson = .ok t := check_toJson_eq_ok_iff.mpr ⟨rfl, h⟩
    rw [hcheck]
    rfl

/-! ### Edits that ask for the same -/

/-- Two edits ask for the same in all fields, numbers compared by value. -/
structure TaskEdit.Same (e e' : TaskEdit) : Prop where
  title : e.title.same e'.title = true
  priority : e.priority.same e'.priority = true
  tags : e.tags.same e'.tags = true
  estimate : e.estimate.same e'.estimate = true
  description : e.description.same e'.description = true
  dueAt : e.dueAt.same e'.dueAt = true
  reviewerNote : e.reviewerNote.same e'.reviewerNote = true
  score : e.score.same e'.score = true
  scoreComment : e.scoreComment.same e'.scoreComment = true

/-- The edits that are made of tasks which are alike ask for the same. -/
theorem TaskEdit.same_ofTask {t u : Task} (h : u.Alike t) (ht : t.Valid) :
  (ofTask t).Same (ofTask u)
  := by
  have hsame (f : Field) : (t.record f).same (u.record f) = true := h.same_record ht f
  exact ⟨hsame .title, hsame .priority, hsame .tags, hsame .estimate, hsame .description,
    hsame .dueAt, hsame .reviewerNote, hsame .score, hsame .scoreComment⟩

namespace Board

/-- Two outcomes of an edit agree: there is no time that can be noted, or nothing to do, or the same
entry is made and the boards are alike. -/
inductive Agree :
    Except Refusal (Option (Board × Entry)) → Except Refusal (Option (Board × Entry)) → Prop
  | noTime : Agree (.error .noTime) (.error .noTime)
  | nothing : Agree (.ok none) (.ok none)
  | changed {b b' : Board} {x : Entry} (alike : b.Alike b') :
      Agree (.ok (some (b, x))) (.ok (some (b', x)))

variable {b : Board} {t u u' : Task}

/-- A task that is the only one with its id is found under it. -/
theorem task?_of_filter_eq (h : b.tasks.filter (·.id = t.id) = [t]) :
  b.task? t.id = some t
  := by
  have hfind : b.task? t.id = (b.tasks.filter (·.id = t.id)).head? := by
    rw [List.head?_filter]
    rfl
  rw [hfind, h]
  rfl

/-- Boards on which alike tasks have been put in one place are alike. -/
theorem alike_replaceTask (h : u.Alike u') (id : Text) (x : Entry) :
  Alike { b with tasks := b.replaceTask id u, audit := x :: b.audit }
    { b with tasks := b.replaceTask id u', audit := x :: b.audit }
  := by
  refine ⟨?_, rfl, rfl⟩
  apply List.forall₂_map_left_iff.mpr
  apply List.forall₂_map_right_iff.mpr
  apply List.forall₂_same.mpr
  intro v _
  split_ifs
  · exact h
  · exact .refl v

section Update

variable {s : Stamp} {e e' : TaskEdit} {id : Text}

theorem update_of_nil (ht : b.task? id = some t) (hu : e.apply t = .ok u)
    (h : Change.between t.record u.record = []) :
  b.update s id e = .ok none
  := by
  rw [update, ht]
  simp only [hu, bind, Except.bind, h]
  rfl

theorem update_of_cons (ht : b.task? id = some t) (hu : e.apply t = .ok u) {c : Change}
    {cs : List Change} (h : Change.between t.record u.record = c :: cs) :
  b.update s id e
    = (s.entry 0 .update id (c :: cs)).map fun x => some (b.record (b.replaceTask id u) x)
  := by
  rw [update, ht]
  simp only [hu, bind, Except.bind, h]
  rfl

/-- Edits agree that make alike tasks of a task if the changes are the same. -/
theorem agree_update (ht : b.task? id = some t) (hu : e.apply t = .ok u)
    (hu' : e'.apply t = .ok u') (halike : u.Alike u')
    (hchanges : Change.between t.record u.record = Change.between t.record u'.record) :
  Agree (b.update s id e) (b.update s id e')
  := by
  cases hlist : Change.between t.record u.record with
  | nil =>
      rw [update_of_nil ht hu hlist, update_of_nil ht hu' (hchanges ▸ hlist)]
      exact .nothing
  | cons c cs =>
      rw [update_of_cons ht hu hlist, update_of_cons ht hu' (hchanges ▸ hlist),
        Stamp.entry, Stamp.time]
      cases s.now.shows 0 with
      | none => exact .noTime
      | some m => exact .changed (alike_replaceTask halike id _)

end Update

end Board

/-- The written form of a task without issues is taken for an edit that asks for the same as the one
that is made of the task, and the two edits agree on every board on which no other task has its
id. -/
theorem TaskEdit.update_ofJson {t : Task} (h : (Task.read t.toJson).issues = []) :
  ∃ e, ofJson t.toJson = .ok e ∧ e.Same (ofTask t)
    ∧ ∀ (b : Board) (s : Stamp), b.tasks.filter (·.id = t.id) = [t] →
      Board.Agree (b.update s t.id e) (b.update s t.id (ofTask t))
  := by
  have ht := Task.issues_toJson_eq_nil_iff.mp h
  refine ⟨ofTask t.settled, ofJson_toJson ht, same_ofTask t.settled_alike.symm ht.settled, ?_⟩
  intro b s hb
  have halike : t.settled.cleaned.Alike t.cleaned := ⟨rfl, Number.place?_settled _, rfl⟩
  apply Board.agree_update (Board.task?_of_filter_eq hb) (apply_ofTask_settled ht)
    (apply_ofTask ht) halike
  rw [Change.between_cleaned halike ht, Change.between_cleaned (Task.Alike.refl _) ht]

/-- A task with a padded note, whose estimate is a double. -/
def hoeing : Task :=
  ⟨"00000000-0000-4000-8000-000000000001", "Hoe the beds", none, .low, ["garden"],
    .float (.finite false (45 <<< 47) (-47) (by decide)), "2020-01-01T00:00:00Z", none, .todo,
    some " twice ", some (.int 5), none⟩

/-- A board with that task and another one. -/
def allotment : Board :=
  ⟨[{ hoeing with id := "00000000-0000-4000-8000-000000000002" }, hoeing], [], false⟩

/-- The beginning of the calendar. -/
def firstLight : Stamp := ⟨.still (some ⟨0, some 0⟩), fun _ => "x"⟩

/-- The edit that is taken from the written form of the task has its estimate as an integer; it
changes the note, as the edit that is made of the task does. -/
theorem TaskEdit.update_ofJson_hoeing :
  (Task.read hoeing.toJson).issues = []
    ∧ allotment.tasks.filter (·.id = hoeing.id) = [hoeing]
    ∧ ∃ e, ofJson hoeing.toJson = .ok e ∧ e.estimate = .int 45 ∧ e.Same (ofTask hoeing)
      ∧ Board.Agree (allotment.update firstLight hoeing.id e)
        (allotment.update firstLight hoeing.id (ofTask hoeing))
      ∧ ∃ r, allotment.update firstLight hoeing.id (ofTask hoeing) = .ok (some r)
  := by
  have hissues : (Task.read hoeing.toJson).issues = [] := by
    rw [← List.isEmpty_iff]
    decide +kernel
  have hmine : allotment.tasks.filter (·.id = hoeing.id) = [hoeing] := by decide +kernel
  obtain ⟨e, he, hsame, hagree⟩ := TaskEdit.update_ofJson hissues
  have hestimate : (ofJson hoeing.toJson).map (·.estimate) = .ok (.int 45) := by cbv
  rw [he] at hestimate
  have hchanged : (allotment.update firstLight hoeing.id (ofTask hoeing)).toOption.join.isSome
      = true := by
    decide +kernel
  obtain ⟨r, hr⟩ := Option.isSome_iff_exists.mp hchanged
  rw [Option.join_eq_some_iff, toOption_eq_some_iff] at hr
  exact ⟨hissues, hmine, e, he, Except.ok.inj hestimate, hsame, hagree _ _ hmine, r, hr⟩

end Kanban
