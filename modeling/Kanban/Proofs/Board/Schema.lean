import Kanban.Proofs.Board.Snapshot
import Kanban.Proofs.Except
import Kanban.Proofs.Uuid

/-!
# The schema of snapshots

`Schema.IsBoard` says member by member what a snapshot is, without mention of any check: which
members are there and which may be missing, of which kind they are, and within which bounds.
`Schema.OfBoard` says what a board has from a snapshot.  A value is read exactly when it is a
snapshot, and as the one board that has everything from it (`Board.read_iff`).
-/

namespace Kanban

namespace Schema

/-! ### Kinds of values -/

/-- A text of which `P` holds. -/
def IsText (P : Text → Prop) (v : Json) : Prop := ∃ s, v = .str s ∧ P s

/-- A finite number of whose value `P` holds. -/
def IsNumber (P : ℚ → Prop) (v : Json) : Prop := ∃ n x, v = .num n ∧ n.value? = some x ∧ P x

/-- A list of things of which `P` holds. -/
def IsList (P : Json → Prop) (v : Json) : Prop := ∃ items, v = .arr items ∧ ∀ x ∈ items, P x

/-- An object of whose members `P` holds. -/
def IsObject (P : Members → Prop) (v : Json) : Prop := ∃ m : Members, v = .obj m ∧ P m

/-- A member that has to be there. -/
def Has (m : Members) (name : Text) (P : Json → Prop) : Prop :=
  ∃ v, m.get? name = some v ∧ P v

/-- A member that may be missing, or `null`. -/
def MayHave (m : Members) (name : Text) (P : Json → Prop) : Prop :=
  ∀ v, m.get? name = some v → v = .null ∨ P v

/-- A text that has the form of a uuid; a line feed may follow. -/
def IsUuid (s : Text) : Prop :=
  ∃ cs, Uuid.IsGrouped cs ∧ (s.toList = cs ∨ s.toList = cs ++ [.char '\n'])

/-! ### Snapshots -/

/-- What the members of a task are. -/
structure IsTask (m : Members) : Prop where
  id : Has m "id" (IsText IsUuid)
  title : Has m "title" (IsText fun s => 3 ≤ s.length)
  description : MayHave m "description" (IsText fun _ => True)
  priority : Has m "priority" (IsText fun s => ∃ p : Priority, s = p.name)
  tags : Has m "tags" (IsList (IsText fun _ => True))
  estimate : Has m "estimateMinutes" (IsNumber fun x => ∃ k : ℕ, x = k)
  createdAt : Has m "createdAt" (IsText Check.Readable)
  dueAt : MayHave m "dueAt" (IsText Check.Readable)
  column : Has m "state" (IsText fun s => ∃ c : Column, s = c.name)
  reviewerNote : MayHave m "reviewerNote" (IsText fun _ => True)
  score : MayHave m "score" (IsNumber fun x => 0 ≤ x ∧ x ≤ 10)
  scoreComment : MayHave m "scoreComment" (IsText fun _ => True)

/-- What the members of an entry are. -/
structure IsEntry (m : Members) : Prop where
  id : Has m "id" (IsText IsUuid)
  timestamp : Has m "timestamp" (IsText Check.Readable)
  action : Has m "action" (IsText fun s => ∃ a : Action, s = a.name)
  taskId : Has m "taskId" (IsText fun _ => True)
  diff : Has m "diff" (IsObject fun d => ∀ x ∈ d, IsObject (fun _ => True) x.2)
  actorLabel : Has m "actorLabel" (IsText fun s => s = Entry.actorLabel)

/-- What the members of a snapshot are. -/
structure IsBoard (m : Members) : Prop where
  tasks : Has m "tasks" (IsList (IsObject IsTask))
  audit : Has m "audit" (IsList (IsObject IsEntry))
  reviewMode : Has m "reviewMode" fun v => ∃ b, v = .bool b

/-! ### What is taken from them -/

/-- The task has every part from the members, its estimate as an integer of the same value. -/
structure OfTask (m : Members) (t : Task) : Prop where
  parts : ∀ f ≠ Field.estimate, m.value f.key = t.record f
  estimate : ∃ n, ∃ k : Int, m.value "estimateMinutes" = .num n ∧ n.value? = some (k : ℚ)
    ∧ t.estimate = .int k

/-- The change has its name and its two values from the member of a diff. -/
def OfChange (x : Text × Json) (c : Change) : Prop :=
  ∃ m : Members, x.2 = .obj m ∧ c = ⟨x.1, m.value "before", m.value "after"⟩

/-- The entry has every part from the members. -/
structure OfEntry (m : Members) (e : Entry) : Prop where
  id : m.value "id" = .str e.id
  timestamp : m.value "timestamp" = .str e.timestamp
  action : m.value "action" = .str e.action.name
  taskId : m.value "taskId" = .str e.taskId
  diff : ∃ d, m.value "diff" = .obj d ∧ List.Forall₂ OfChange d e.changes

/-- The board has its tasks and entries, in order, and its review flag from the members. -/
structure OfBoard (m : Members) (b : Board) : Prop where
  tasks : ∃ items, m.value "tasks" = .arr items
    ∧ List.Forall₂ (fun v t => IsObject (OfTask · t) v) items b.tasks
  audit : ∃ items, m.value "audit" = .arr items
    ∧ List.Forall₂ (fun v e => IsObject (OfEntry · e) v) items b.audit
  reviewMode : m.value "reviewMode" = .bool b.reviewMode

end Schema

/-! ### Numbers in range -/

namespace Check

variable {n : Number}

/-- An estimate has the value of a natural number. -/
theorem isEstimate_iff :
  IsEstimate n ↔ ∃ k : ℕ, n.value? = some (k : ℚ)
  := by
  have hzero : Number.value? (.int 0) = some 0 := by simp [Number.value?]
  rw [IsEstimate]
  constructor
  · rintro ⟨-, hwhole, hneg⟩
    obtain ⟨k, hk⟩ := Option.isSome_iff_exists.mp hwhole
    replace hk := Number.toInt?_eq_some_iff.mp hk
    have hk0 : ¬ (k : ℚ) < 0 := by
      rw [← Number.lt_iff_of_value? hk hzero, hneg]
      decide
    lift k to ℕ using by exact_mod_cast not_lt.mp hk0
    exact ⟨k, by exact_mod_cast hk⟩
  · rintro ⟨k, hk⟩
    have hwhole : n.toInt? = some (k : ℤ) := Number.toInt?_eq_some_iff.mpr (by exact_mod_cast hk)
    refine ⟨Number.isFinite_iff.mpr ⟨_, hk⟩, Option.isSome_iff_exists.mpr ⟨_, hwhole⟩, ?_⟩
    rw [← Bool.not_eq_true, Number.lt_iff_of_value? hk hzero]
    simp

/-- A score has a value from zero to ten. -/
theorem isScore_iff :
  IsScore n ↔ ∃ x, n.value? = some x ∧ 0 ≤ x ∧ x ≤ 10
  := by
  have hzero : Number.value? (.int 0) = some 0 := by simp [Number.value?]
  have hten : Number.value? (.int greatestScore) = some 10 := by
    simp [Number.value?, greatestScore]
  rw [IsScore, Number.isFinite_iff]
  constructor
  · rintro ⟨⟨x, hx⟩, hneg, hgreat⟩
    rw [← Bool.not_eq_true, Number.lt_iff_of_value? hx hzero] at hneg
    rw [← Bool.not_eq_true, Number.lt_iff_of_value? hten hx] at hgreat
    exact ⟨x, hx, not_lt.mp hneg, not_lt.mp hgreat⟩
  · rintro ⟨x, hx, hneg, hgreat⟩
    refine ⟨⟨x, hx⟩, ?_, ?_⟩
    · rw [← Bool.not_eq_true, Number.lt_iff_of_value? hx hzero]
      apply not_lt.mpr hneg
    · rw [← Bool.not_eq_true, Number.lt_iff_of_value? hten hx]
      apply not_lt.mpr hgreat

end Check

/-! ### Members in terms of their values -/

namespace Schema

variable {m : Members} {name : Text}

theorem has_iff {P : Json → Prop} (hnull : ¬ P .null) :
  Has m name P ↔ P (m.value name)
  := by
  rw [Has, Members.value]
  cases m.get? name <;> simp [hnull]

theorem mayHave_iff {P : Json → Prop} :
  MayHave m name P ↔ m.value name = .null ∨ P (m.value name)
  := by
  rw [MayHave, Members.value]
  cases m.get? name <;> simp

theorem has_text_iff {P : Text → Prop} :
  Has m name (IsText P) ↔ ∃ s, m.value name = .str s ∧ P s
  := has_iff (by simp [IsText])

theorem mayHave_text_iff {P : Text → Prop} :
  MayHave m name (IsText P) ↔ ∃ s : Option Text, m.value name = .ofText? s ∧ ∀ x ∈ s, P x
  := by
  simp [mayHave_iff, IsText, Option.exists, Json.ofText?]

theorem has_number_iff {P : ℚ → Prop} :
  Has m name (IsNumber P) ↔ ∃ n x, m.value name = .num n ∧ n.value? = some x ∧ P x
  := has_iff (by simp [IsNumber])

theorem mayHave_number_iff {P : ℚ → Prop} :
  MayHave m name (IsNumber P)
    ↔ ∃ n : Option Number, m.value name = (n.map .num).getD .null
      ∧ ∀ k ∈ n, ∃ x, k.value? = some x ∧ P x
  := by
  simp [mayHave_iff, IsNumber, Option.exists]

theorem has_list_iff {P : Json → Prop} :
  Has m name (IsList P) ↔ ∃ items, m.value name = .arr items ∧ ∀ x ∈ items, P x
  := has_iff (by simp [IsList])

theorem has_object_iff {P : Members → Prop} :
  Has m name (IsObject P) ↔ ∃ d, m.value name = .obj d ∧ P d
  := has_iff (by simp [IsObject])

theorem has_texts_iff :
  Has m name (IsList (IsText fun _ => True)) ↔ ∃ l, m.value name = .strs l
  := by
  have htexts (items : List Json) :
      (∀ x ∈ items, IsText (fun _ => True) x) ↔ ∃ l : List Text, items = l.map .str := by
    have hmap (l : List Text) :
        List.Forall₂ (fun x s => x = Json.str s ∧ True) items l ↔ items = l.map .str := by
      rw [← List.forall₂_eq_eq_eq, List.forall₂_map_right_iff]
      simp only [and_true]
    simp only [IsText, ← exists_forall₂_iff, hmap]
  simp only [has_list_iff, htexts, Json.strs]
  grind

/-! ### Tasks -/

/-- The members of a task are those of the record of a valid one. -/
theorem isTask_iff :
  IsTask m ↔ ∃ t : Task, (∀ f, m.value f.key = t.record f) ∧ t.Valid
  := by
  constructor
  · intro h
    obtain ⟨id, hid, hid'⟩ := has_text_iff.mp h.id
    obtain ⟨title, htitle, htitle'⟩ := has_text_iff.mp h.title
    obtain ⟨description, hdescription, -⟩ := mayHave_text_iff.mp h.description
    obtain ⟨_, hpriority, priority, rfl⟩ := has_text_iff.mp h.priority
    obtain ⟨tags, htags⟩ := has_texts_iff.mp h.tags
    obtain ⟨estimate, x, hestimate, hx, k, rfl⟩ := has_number_iff.mp h.estimate
    obtain ⟨createdAt, hcreated, hcreated'⟩ := has_text_iff.mp h.createdAt
    obtain ⟨dueAt, hdue, hdue'⟩ := mayHave_text_iff.mp h.dueAt
    obtain ⟨_, hcolumn, column, rfl⟩ := has_text_iff.mp h.column
    obtain ⟨note, hnote, -⟩ := mayHave_text_iff.mp h.reviewerNote
    obtain ⟨score, hscore, hscore'⟩ := mayHave_number_iff.mp h.score
    obtain ⟨comment, hcomment, -⟩ := mayHave_text_iff.mp h.scoreComment
    refine ⟨⟨id, title, description, priority, tags, estimate, createdAt, dueAt, column, note,
      score, comment⟩, ?_, ?_⟩
    · intro f
      cases f
      exacts [hid, htitle, hdescription, hpriority, htags, hestimate, hcreated, hdue, hcolumn,
        hnote, hscore, hcomment]
    · refine ⟨Uuid.isUuid_iff.mpr hid', htitle', ?_, hcreated', hdue', ?_⟩
      · apply Check.isEstimate_iff.mpr ⟨k, hx⟩
      · intro n hn
        apply Check.isScore_iff.mpr (hscore' n hn)
  · rintro ⟨t, hvalue, hvalid⟩
    constructor
    · apply has_text_iff.mpr ⟨_, hvalue .id, Uuid.isUuid_iff.mp hvalid.id⟩
    · apply has_text_iff.mpr ⟨_, hvalue .title, hvalid.title⟩
    · apply mayHave_text_iff.mpr ⟨_, hvalue .description, fun _ _ => trivial⟩
    · apply has_text_iff.mpr ⟨_, hvalue .priority, _, rfl⟩
    · apply has_texts_iff.mpr ⟨_, hvalue .tags⟩
    · obtain ⟨k, hk⟩ := Check.isEstimate_iff.mp hvalid.estimate
      apply has_number_iff.mpr ⟨_, _, hvalue .estimate, hk, k, rfl⟩
    · apply has_text_iff.mpr ⟨_, hvalue .createdAt, hvalid.createdAt⟩
    · apply mayHave_text_iff.mpr ⟨_, hvalue .dueAt, hvalid.dueAt⟩
    · apply has_text_iff.mpr ⟨_, hvalue .column, _, rfl⟩
    · apply mayHave_text_iff.mpr ⟨_, hvalue .reviewerNote, fun _ _ => trivial⟩
    · apply mayHave_number_iff.mpr ⟨_, hvalue .score, ?_⟩
      intro n hn
      apply Check.isScore_iff.mp (hvalid.score n hn)
    · apply mayHave_text_iff.mpr ⟨_, hvalue .scoreComment, fun _ _ => trivial⟩

theorem record_settled (t : Task) {f : Field} (hf : f ≠ .estimate) :
  t.settled.record f = t.record f
  := by
  cases f <;> first | rfl | contradiction

/-- A task that has every part from the record of a valid one is that one, settled. -/
theorem ofTask_iff {t u : Task} (hvalue : ∀ f, m.value f.key = u.record f) (hvalid : u.Valid) :
  OfTask m t ↔ u.settled = t
  := by
  obtain ⟨n, hn, hsettled⟩ := Number.settled_of_isWhole hvalid.estimate.2.1
  constructor
  · intro h
    obtain ⟨_, k, hestimate, hk, ht⟩ := h.estimate
    obtain rfl := Json.num.inj ((hvalue .estimate).symm.trans hestimate)
    obtain rfl := Option.some.inj (hn.symm.trans (Number.toInt?_eq_some_iff.mpr hk))
    apply Task.record_injective
    funext f
    by_cases hf : f = .estimate
    · rw [hf, Task.record, Task.record, ht, Task.settled, hsettled]
    · rw [record_settled u hf, ← hvalue, h.parts f hf]
  · rintro rfl
    constructor
    · intro f hf
      rw [record_settled u hf]
      apply hvalue
    · exact ⟨_, n, hvalue .estimate, Number.toInt?_eq_some_iff.mp hn, hsettled⟩

theorem read_task_iff {v : Json} {t : Task} :
  Task.read v = .ok t ↔ IsObject (fun m => IsTask m ∧ OfTask m t) v
  := by
  simp only [Task.read, Checked.map_eq_ok_iff, Task.check_eq_ok_iff, IsObject, isTask_iff]
  constructor
  · rintro ⟨u, ⟨m, rfl, hvalue, hvalid⟩, hu⟩
    exact ⟨m, rfl, ⟨u, hvalue, hvalid⟩, (ofTask_iff hvalue hvalid).mpr hu⟩
  · rintro ⟨m, rfl, ⟨u, hvalue, hvalid⟩, ht⟩
    exact ⟨u, ⟨m, rfl, hvalue, hvalid⟩, (ofTask_iff hvalue hvalid).mp ht⟩

theorem exists_read_task_iff {v : Json} :
  (∃ t, Task.read v = .ok t) ↔ IsObject IsTask v
  := by
  simp only [read_task_iff]
  constructor
  · rintro ⟨t, m, rfl, h, -⟩
    exact ⟨m, rfl, h⟩
  · rintro ⟨m, rfl, h⟩
    obtain ⟨u, hvalue, hvalid⟩ := isTask_iff.mp h
    exact ⟨_, m, rfl, h, (ofTask_iff hvalue hvalid).mpr rfl⟩

/-! ### Entries -/

theorem change_iff {x : Text × Json} {c : Change} :
  Check.change x.1 x.2 = .ok c ↔ OfChange x c
  := Check.change_eq_ok_iff

theorem exists_ofChange_iff {x : Text × Json} :
  (∃ c, OfChange x c) ↔ IsObject (fun _ => True) x.2
  := by
  simp [OfChange, IsObject]

theorem read_entry_iff {v : Json} {e : Entry} :
  Entry.read v = .ok e ↔ IsObject (fun m => IsEntry m ∧ OfEntry m e) v
  := by
  cases v with
  | obj m =>
      rw [Entry.read, Entry.ofMembers_eq_ok_iff]
      simp only [Check.changes_eq_ok_iff, change_iff]
      constructor
      · rintro ⟨hid, htime, haction, htask, ⟨d, hd, hchanges⟩, hlabel, hvalid⟩
        refine ⟨m, rfl, ?_, ⟨hid, htime, haction, htask, d, hd, hchanges⟩⟩
        constructor
        · apply has_text_iff.mpr ⟨_, hid, Uuid.isUuid_iff.mp hvalid.id⟩
        · apply has_text_iff.mpr ⟨_, htime, hvalid.timestamp⟩
        · apply has_text_iff.mpr ⟨_, haction, _, rfl⟩
        · apply has_text_iff.mpr ⟨_, htask, trivial⟩
        · apply has_object_iff.mpr ⟨d, hd, ?_⟩
          intro x hx
          apply exists_ofChange_iff.mp (exists_forall₂_iff.mp ⟨_, hchanges⟩ x hx)
        · apply has_text_iff.mpr ⟨_, hlabel, ?_⟩
          rfl
      · rintro ⟨_, ⟨⟩, h, hof⟩
        obtain ⟨id, hid, hid'⟩ := has_text_iff.mp h.id
        obtain ⟨time, htime, htime'⟩ := has_text_iff.mp h.timestamp
        obtain ⟨_, hlabel, rfl⟩ := has_text_iff.mp h.actorLabel
        obtain rfl := Json.str.inj (hid.symm.trans hof.id)
        obtain rfl := Json.str.inj (htime.symm.trans hof.timestamp)
        exact ⟨hof.id, hof.timestamp, hof.action, hof.taskId, hof.diff, hlabel,
          Uuid.isUuid_iff.mpr hid', htime'⟩
  | _ => simp [Entry.read, IsObject]

theorem exists_read_entry_iff {v : Json} :
  (∃ e, Entry.read v = .ok e) ↔ IsObject IsEntry v
  := by
  simp only [read_entry_iff]
  constructor
  · rintro ⟨e, m, rfl, h, -⟩
    exact ⟨m, rfl, h⟩
  · rintro ⟨m, rfl, h⟩
    obtain ⟨id, hid, -⟩ := has_text_iff.mp h.id
    obtain ⟨time, htime, -⟩ := has_text_iff.mp h.timestamp
    obtain ⟨_, haction, action, rfl⟩ := has_text_iff.mp h.action
    obtain ⟨task, htask, -⟩ := has_text_iff.mp h.taskId
    obtain ⟨d, hd, hobjects⟩ := has_object_iff.mp h.diff
    obtain ⟨changes, hchanges⟩ : ∃ cs, List.Forall₂ OfChange d cs := by
      apply exists_forall₂_iff.mpr
      intro x hx
      apply exists_ofChange_iff.mpr (hobjects x hx)
    exact ⟨⟨id, time, action, task, changes⟩, m, rfl, h, hid, htime, haction, htask, d, hd,
      hchanges⟩

/-! ### Lists -/

/-- A list is read item by item. -/
theorem list_iff {α : Type} {read : Json → Checked α} {Is : Members → Prop}
    {Of : Members → α → Prop} (hread : ∀ v a, read v = .ok a ↔ IsObject (fun m => Is m ∧ Of m a) v)
    {items : List Json} {as : List α} :
  List.Forall₂ (fun v a => read v = .ok a) items as
    ↔ (∀ v ∈ items, IsObject Is v) ∧ List.Forall₂ (fun v a => IsObject (Of · a) v) items as
  := by
  have hitem (v : Json) (a : α) :
      read v = .ok a ↔ IsObject Is v ∧ IsObject (Of · a) v := by
    rw [hread]
    constructor
    · rintro ⟨m, rfl, his, hof⟩
      exact ⟨⟨m, rfl, his⟩, m, rfl, hof⟩
    · rintro ⟨⟨m, rfl, his⟩, _, ⟨⟩, hof⟩
      exact ⟨m, rfl, his, hof⟩
  simp only [hitem]
  apply List.forall₂_and_left

end Schema

/-! ### Boards -/

open Schema in
/-- Exactly the snapshots are read, each as the one board that has everything from it. -/
theorem Board.read_iff (v : Json) :
  ((∃ b, read v = .ok b) ↔ IsObject IsBoard v)
    ∧ ∀ b, read v = .ok b ↔ IsObject (fun m => IsBoard m ∧ OfBoard m b) v
  := by
  have hread (b : Board) : read v = .ok b ↔ IsObject (fun m => IsBoard m ∧ OfBoard m b) v := by
    rw [read_eq_ok_iff]
    simp only [list_iff fun _ _ => read_task_iff, list_iff fun _ _ => read_entry_iff]
    constructor
    · rintro ⟨m, rfl, ⟨ts, hts, htasks, htasks'⟩, ⟨es, hes, haudit, haudit'⟩, hmode⟩
      refine ⟨m, rfl, ?_, ⟨ts, hts, htasks'⟩, ⟨es, hes, haudit'⟩, hmode⟩
      constructor
      · apply has_list_iff.mpr ⟨ts, hts, htasks⟩
      · apply has_list_iff.mpr ⟨es, hes, haudit⟩
      · apply (has_iff (by simp)).mpr ⟨_, hmode⟩
    · rintro ⟨m, rfl, his, ⟨ts, hts, htasks'⟩, ⟨es, hes, haudit'⟩, hmode⟩
      obtain ⟨_, hts', htasks⟩ := has_list_iff.mp his.tasks
      obtain ⟨_, hes', haudit⟩ := has_list_iff.mp his.audit
      obtain rfl := Json.arr.inj (hts.symm.trans hts')
      obtain rfl := Json.arr.inj (hes.symm.trans hes')
      exact ⟨m, rfl, ⟨ts, hts, htasks, htasks'⟩, ⟨es, hes, haudit, haudit'⟩, hmode⟩
  refine ⟨?_, hread⟩
  simp only [hread]
  constructor
  · rintro ⟨b, m, rfl, h, -⟩
    exact ⟨m, rfl, h⟩
  · rintro ⟨m, rfl, h⟩
    obtain ⟨ts, hts, htasks⟩ := has_list_iff.mp h.tasks
    obtain ⟨es, hes, haudit⟩ := has_list_iff.mp h.audit
    obtain ⟨mode, hmode⟩ := (has_iff (by simp)).mp h.reviewMode
    obtain ⟨tasks, htasks⟩ : ∃ tasks, List.Forall₂ (fun v t => Task.read v = .ok t) ts tasks :=
      exists_forall₂_iff.mpr fun v hv => exists_read_task_iff.mpr (htasks v hv)
    obtain ⟨audit, haudit⟩ : ∃ audit, List.Forall₂ (fun v e => Entry.read v = .ok e) es audit :=
      exists_forall₂_iff.mpr fun v hv => exists_read_entry_iff.mpr (haudit v hv)
    refine ⟨⟨tasks, audit, mode⟩, m, rfl, h, ⟨ts, hts, ?_⟩, ⟨es, hes, ?_⟩, hmode⟩
    · apply ((list_iff fun _ _ => read_task_iff).mp htasks).2
    · apply ((list_iff fun _ _ => read_entry_iff).mp haudit).2

/-- A diff with a change that says who has made it, and not what it was. -/
def Schema.signed : Members := [("state", .obj [("by", .str "import")])]

/-- A snapshot with an entry of a diff. -/
def Schema.noting (diff : Members) : Json :=
  .obj [("tasks", .arr []), ("audit", .arr [.obj [
    ("id", .str "aaaaaaaa-bbbb-4ccc-8ddd-eeeeeeeeeeee"),
    ("timestamp", .str "2024-01-01T00:00:00.000Z"), ("action", .str "MOVE"),
    ("taskId", .str "t1"), ("diff", .obj diff), ("actorLabel", .str Entry.actorLabel)]]),
    ("reviewMode", .bool false)]

/-- A change is taken with its two values, `null` for one that is missing, and without its other
members; the diff of an entry need not be the one of the snapshot. -/
theorem Board.read_signed :
  ∃ e : Entry, read (Schema.noting Schema.signed) = .ok ⟨[], [e], false⟩
    ∧ e.changes.map Change.toMember ≠ Schema.signed
  := by
  let e : Entry := ⟨"aaaaaaaa-bbbb-4ccc-8ddd-eeeeeeeeeeee", "2024-01-01T00:00:00.000Z", .move,
    "t1", [⟨"state", .null, .null⟩]⟩
  have hvalid : e.Valid := by
    constructor
    · decide
    · rw [Check.Readable]
      decide +kernel
  refine ⟨e, read_eq_ok_iff.mpr ⟨_, rfl, ⟨_, rfl, .nil⟩, ⟨_, rfl, .cons ?_ .nil⟩, rfl⟩, ?_⟩
  · apply Entry.ofMembers_eq_ok_iff.mpr
    refine ⟨rfl, rfl, rfl, rfl, ?_, rfl, hvalid⟩
    apply Check.changes_eq_ok_iff.mpr
    exact ⟨_, rfl, .cons rfl .nil⟩
  · simp [e, Change.toMember, Schema.signed]

end Kanban
