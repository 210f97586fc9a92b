import Kanban.Proofs.Board.Intake
import Kanban.Proofs.Board.Sample
import Kanban.Proofs.Json.Whole
import Kanban.Proofs.Uuid

/-!
# Boards that bytes encode

A sound board has a snapshot exactly when all texts on it are whole (`Board.exists_snapshot_iff`).
What an operation adds to a board is taken from what the caller supplied, from ids and from the
clock, so that a whole board stays whole when whole values are supplied; the sample board is whole.
-/

namespace Kanban

/-! ### Ids and times -/

/-- Uuids are whole. -/
theorem Check.isWhole_of_isUuid {s : Text} (h : isUuid s = true) :
  s.isWhole = true
  := by
  have hdigit {x : Point} (hx : Text.isHexDigit x = true) : x.isChar = true := by
    cases x with
    | char c => rfl
    | half n =>
        have hn := Point.toNat_half_bounds n
        have hbounds : 'f'.toNat < 0xD800 ∧ 'F'.toNat < 0xD800 := by decide
        simp only [Text.isHexDigit, Point.is, Point.le_def, Point.toNat_char, Bool.false_or,
          Bool.or_eq_true, Bool.and_eq_true, decide_eq_true_eq] at hx
        omega
  have hgrouped {cs : List Point} (h : Uuid.IsGrouped cs) : cs.all Point.isChar = true := by
    obtain ⟨a, b, c, d, e, -, hhex, rfl⟩ := h
    have hall (g : List Point) (hg : g ∈ [a, b, c, d, e]) : g.all Point.isChar = true :=
      List.all_eq_true.mpr fun x hx => hdigit (hhex g hg x hx)
    simp [hall a, hall b, hall c, hall d, hall e]
  obtain ⟨cs, hcs, h | h⟩ := Uuid.isUuid_iff.mp h
  · rw [Text.isWhole, h, hgrouped hcs]
  · rw [Text.isWhole, h, List.all_append, hgrouped hcs]
    rfl

theorem Moment.isWhole_stamp (m : Moment) :
  m.stamp.isWhole = true
  := by
  have hzone : m.zone.all Point.isChar = true := by
    have h := all_isChar_spelledZone m
    rw [spelledZone] at h
    split_ifs at h with hutc
    · rw [hutc]
      rfl
    · apply h
  rw [stamp, Text.isWhole, Text.toList_ofList, stampChars_eq]
  simp [Date.chars, Clock.chars, hzone]

/-! ### Tasks and entries -/

theorem Field.isWhole_key (f : Field) :
  f.key.isWhole = true
  := by
  cases f <;> apply Text.isWhole_ofString

theorem Record.isWhole_toJson_iff {r : Record} :
  r.toJson.isWhole = true ↔ ∀ f, (r f).isWhole = true
  := by
  rw [toJson_eq, Json.isWhole, Json.areWholeMembers_eq_all, List.all_eq_true]
  constructor
  · intro h f
    by_cases hnull : r f = .null
    · rw [hnull]
      rfl
    · have hmem : (f.key, r f) ∈ r.members := by
        apply List.mem_map.mpr
        refine ⟨f, mem_filter_iff.mpr ?_, rfl⟩
        rw [← Bool.not_eq_true, isNull_iff]
        apply hnull
      exact (Bool.and_eq_true_iff.mp (h _ hmem)).2
  · intro h m hm
    obtain ⟨f, rfl, -⟩ := mem_members hm
    rw [f.isWhole_key, h f]
    rfl

namespace Task

/-- All texts of the task are whole. -/
def Whole (t : Task) : Prop := ∀ f, (t.record f).isWhole = true

theorem isWhole_toJson_iff {t : Task} :
  t.toJson.isWhole = true ↔ t.Whole
  := Record.isWhole_toJson_iff

variable {t u : Task}

/-- A task with another value in one field is whole if that value is. -/
theorem Whole.of_eq_except (h : t.Whole) {g : Field} (hg : (u.record g).isWhole = true)
    (hsame : ∀ f, f ≠ g → u.record f = t.record f) :
  u.Whole
  := by
  intro f
  by_cases hf : f = g
  · rwa [hf]
  · rw [hsame f hf]
    apply h

theorem Whole.settled (h : t.Whole) :
  t.settled.Whole
  := by
  apply h.of_eq_except (g := .estimate) rfl
  intro f hf
  cases f <;> first | rfl | exact absurd rfl hf

theorem Whole.moved (h : t.Whole) (c : Column) :
  Whole { t with column := c }
  := by
  apply h.of_eq_except (g := .column)
  · cases c <;> apply Text.isWhole_ofString
  · intro f hf
    cases f <;> first | rfl | exact absurd rfl hf

theorem Whole.renamed (h : t.Whole) {id : Text} (hid : Check.isUuid id = true) :
  Whole { t with id }
  := by
  apply h.of_eq_except (g := .id) (Check.isWhole_of_isUuid hid)
  intro f hf
  cases f <;> first | rfl | exact absurd rfl hf

/-- Which uuid a task has makes no difference. -/
theorem whole_renamed_iff (ht : Check.isUuid t.id = true) {id : Text}
    (hid : Check.isUuid id = true) :
  Whole { t with id } ↔ t.Whole
  := by
  constructor
  · intro h
    exact h.renamed ht
  · intro h
    apply h.renamed hid

theorem isWhole_record_of_closed (t : Task) {f : Field}
    (hf : f ∈ [Field.priority, .estimate, .column, .score]) :
  (t.record f).isWhole = true
  := by
  simp only [List.mem_cons, List.not_mem_nil, or_false] at hf
  rcases hf with rfl | rfl | rfl | rfl
  · change Text.isWhole t.priority.name = true
    cases t.priority <;> apply Text.isWhole_ofString
  · rfl
  · change Text.isWhole t.column.name = true
    cases t.column <;> apply Text.isWhole_ofString
  · change Json.isWhole ((t.score.map Json.num).getD .null) = true
    cases t.score <;> rfl

end Task

namespace Entry

/-- All texts of the entry are whole. -/
structure Whole (e : Entry) : Prop where
  id : e.id.isWhole = true
  timestamp : e.timestamp.isWhole = true
  taskId : e.taskId.isWhole = true
  changes : ∀ c ∈ e.changes,
    c.field.isWhole = true ∧ c.before.isWhole = true ∧ c.after.isWhole = true

theorem isWhole_toJson_iff {e : Entry} :
  e.toJson.isWhole = true ↔ e.Whole
  := by
  have haction : e.action.name.isWhole = true := by
    cases e.action <;> apply Text.isWhole_ofString
  have hchanges : Json.areWholeMembers (e.changes.map Change.toMember) = true
      ↔ ∀ c ∈ e.changes,
        c.field.isWhole = true ∧ c.before.isWhole = true ∧ c.after.isWhole = true := by
    rw [Json.areWholeMembers_eq_all, List.all_map, List.all_eq_true]
    simp [Change.toMember, Json.isWhole, Json.areWholeMembers]
  constructor
  · intro h
    simp only [toJson, Json.isWhole, Json.areWholeMembers, Bool.and_eq_true, hchanges] at h
    exact ⟨h.1.2, h.2.1.2, h.2.2.2.1.2, h.2.2.2.2.1.2⟩
  · intro h
    have hdiff := hchanges.mpr h.changes
    simp [toJson, Json.isWhole, Json.areWholeMembers, hdiff, haction, actorLabel, h.id,
      h.timestamp, h.taskId]

end Entry

/-- The entries made with a proper stamp are whole if what they tell is. -/
theorem Stamp.Proper.entry_whole {s : Stamp} (hs : s.Proper) {i : Nat} {action : Action}
    {taskId : Text} {changes : List Change} {e : Entry}
    (he : s.entry i action taskId changes = .ok e) (htask : taskId.isWhole = true)
    (hchanges : ∀ c ∈ changes,
      c.field.isWhole = true ∧ c.before.isWhole = true ∧ c.after.isWhole = true) :
  e.Whole
  := by
  obtain ⟨m, -, rfl⟩ := entry_eq_ok_iff.mp he
  exact ⟨Check.isWhole_of_isUuid (hs.fresh i), m.isWhole_stamp, htask, hchanges⟩

/-! ### Drafts -/

namespace Draft

variable {v : Json}

theorem isWhole_clean (h : v.isWhole = true) :
  (clean v).isWhole = true
  := by
  cases v with
  | str s =>
      unfold clean
      dsimp only
      split_ifs
      · rfl
      · apply Text.isWhole_of_subset h (Text.trim_subset _)
  | _ => exact h

theorem isWhole_present (h : v.isWhole = true) :
  (present v).isWhole = true
  := by
  rw [present]
  split_ifs
  · apply h
  · rfl

theorem isWhole_collection (h : v.isWhole = true) {items : List Json}
    (hitems : collection v = .ok items) :
  Json.isWhole (.arr items) = true
  := by
  rw [Json.isWhole, Json.areWhole_eq_all]
  cases v with
  | arr xs =>
      obtain rfl := Except.ok.inj hitems
      rwa [Json.isWhole, Json.areWhole_eq_all] at h
  | str s =>
      obtain rfl := Except.ok.inj hitems
      rw [List.all_map, List.all_eq_true]
      intro p hp
      apply Text.isWhole_of_subset h
      simpa using hp
  | obj members =>
      obtain rfl := Except.ok.inj hitems
      rw [Json.isWhole, Json.areWholeMembers_eq_all, List.all_eq_true] at h
      rw [List.all_map, List.all_eq_true]
      intro m hm
      apply (Bool.and_eq_true_iff.mp (h m hm)).1
  | _ => cases hitems

end Draft

/-- The texts that become part of a new task are whole. -/
structure NewTask.Whole (d : NewTask) : Prop where
  title : d.title.isWhole = true
  tags : d.tags.isWhole = true
  description : d.description.isWhole = true
  dueAt : d.dueAt.isWhole = true

/-- The texts that become part of an edited task are whole. -/
structure TaskEdit.Whole (e : TaskEdit) : Prop where
  title : e.title.isWhole = true
  tags : e.tags.isWhole = true
  description : e.description.isWhole = true
  dueAt : e.dueAt.isWhole = true
  reviewerNote : e.reviewerNote.isWhole = true
  scoreComment : e.scoreComment.isWhole = true

theorem NewTask.whole_toTask {d : NewTask} (h : d.Whole) {s : Stamp} (hs : s.Proper) {t : Task}
    (ht : d.toTask s = .ok t) :
  t.Whole
  := by
  simp only [toTask, bind_eq_ok_iff, Draft.accept_eq_ok_iff, Stamp.time_eq_ok_iff] at ht
  obtain ⟨_, -, tags, htags, _, ⟨m, -, rfl⟩, _, -, hrecord, -⟩ := ht
  intro f
  cases f with
  | priority => apply t.isWhole_record_of_closed (by decide)
  | estimate => apply t.isWhole_record_of_closed (by decide)
  | column => apply t.isWhole_record_of_closed (by decide)
  | score => apply t.isWhole_record_of_closed (by decide)
  | id =>
      rw [hrecord]
      apply Check.isWhole_of_isUuid (hs.fresh 0)
  | createdAt =>
      rw [hrecord]
      apply m.isWhole_stamp
  | title =>
      rw [hrecord]
      apply h.title
  | description =>
      rw [hrecord]
      apply Draft.isWhole_clean h.description
  | tags =>
      rw [hrecord]
      apply Draft.isWhole_collection h.tags htags
  | dueAt =>
      rw [hrecord]
      apply Draft.isWhole_present h.dueAt
  | reviewerNote =>
      rw [hrecord]
      rfl
  | scoreComment =>
      rw [hrecord]
      rfl

theorem TaskEdit.whole_apply {e : TaskEdit} (h : e.Whole) {t u : Task} (ht : t.Whole)
    (hu : e.apply t = .ok u) :
  u.Whole
  := by
  simp only [apply, bind_eq_ok_iff, Draft.accept_eq_ok_iff] at hu
  obtain ⟨_, -, tags, htags, hrecord, -⟩ := hu
  intro f
  cases f with
  | priority => apply u.isWhole_record_of_closed (by decide)
  | estimate => apply u.isWhole_record_of_closed (by decide)
  | column => apply u.isWhole_record_of_closed (by decide)
  | score => apply u.isWhole_record_of_closed (by decide)
  | id =>
      rw [hrecord]
      apply ht .id
  | createdAt =>
      rw [hrecord]
      apply ht .createdAt
  | title =>
      rw [hrecord]
      apply h.title
  | description =>
      rw [hrecord]
      apply Draft.isWhole_clean h.description
  | tags =>
      rw [hrecord]
      apply Draft.isWhole_collection h.tags htags
  | dueAt =>
      rw [hrecord]
      apply Draft.isWhole_present h.dueAt
  | reviewerNote =>
      rw [hrecord]
      apply Draft.isWhole_clean h.reviewerNote
  | scoreComment =>
      rw [hrecord]
      apply Draft.isWhole_clean h.scoreComment

/-! ### Accents -/

theorem Text.isChar_of_isWord {c : Point} (h : isWord c = true) :
  c.isChar = true
  := by
  have hranges : wordRanges.all (fun r => r.2 < 0xD800 || 0xDFFF < r.1) = true := by
    decide +kernel
  cases c with
  | char c => rfl
  | half n =>
      have hn := Point.toNat_half_bounds n
      obtain ⟨r, hr, hlow, hhigh⟩ := inRanges_eq_true_iff.mp h
      have hr := List.all_eq_true.mp hranges r hr
      simp only [Bool.or_eq_true, decide_eq_true_eq] at hr
      omega

theorem Text.all_isChar_restoreChars {cs new : List Point} (h : restoreChars cs = .ok new) :
  new.all Point.isChar = cs.all Point.isChar
  := by
  have hrun {run : List Point} (hrun : ∀ c ∈ run, isWord c = true) :
      run.all Point.isChar = true :=
    List.all_eq_true.mpr fun c hc => isChar_of_isWord (hrun c hc)
  induction cs using runs_induction generalizing new with
  | run run hword =>
      rw [restoreChars_run hword] at h
      rw [hrun hword, hrun (restoreRun_spec hword h).2.1]
  | cons run c rest hword hc ih =>
      rw [restoreChars_append_cons hword hc] at h
      obtain ⟨new, hnew, h⟩ := bind_eq_ok_iff.mp h
      obtain ⟨old, hold, rfl⟩ := fmap_eq_ok_iff.mp h
      simp [hrun hword, hrun (restoreRun_spec hword hnew).2.1, ih hold]

/-- A text is whole with its accents exactly when it was without. -/
theorem Text.isWhole_restoreAccents {s s' : Text} (h : restoreAccents s = .ok s') :
  s'.isWhole = s.isWhole
  := all_isChar_restoreChars (restoreAccents_eq_ok_iff.mp h)

theorem Task.Restores.whole_iff {t u : Task} (h : t.Restores u) :
  u.Whole ↔ t.Whole
  := by
  have hoption {x y : Option Text}
      (h : Option.Rel (fun s s' => Text.restoreAccents s = .ok s') x y) :
      (Json.ofText? y).isWhole = (Json.ofText? x).isWhole := by
    cases h with
    | some h => apply Text.isWhole_restoreAccents h
    | none => rfl
  have htags {xs ys : List Text}
      (h : List.Forall₂ (fun s s' => Text.restoreAccents s = .ok s') xs ys) :
      (Json.strs ys).isWhole = (Json.strs xs).isWhole := by
    rw [Json.strs, Json.strs, Json.isWhole, Json.isWhole, Json.areWhole_eq_all,
      Json.areWhole_eq_all]
    induction h with
    | nil => rfl
    | cons hs _ ih =>
        rw [List.map_cons, List.map_cons, List.all_cons, List.all_cons, ih]
        rw [Json.isWhole, Json.isWhole, Text.isWhole_restoreAccents hs]
  apply forall_congr'
  intro f
  rw [← Bool.eq_iff_iff]
  cases f with
  | title => apply Text.isWhole_restoreAccents h.title
  | description => apply hoption h.description
  | tags => apply htags h.tags
  | reviewerNote => apply hoption h.reviewerNote
  | scoreComment => apply hoption h.scoreComment
  | id => rw [h.rest]; rfl
  | priority => rw [h.rest]; rfl
  | estimate => rw [h.rest]; rfl
  | createdAt => rw [h.rest]; rfl
  | dueAt => rw [h.rest]; rfl
  | column => rw [h.rest]; rfl
  | score => rw [h.rest]; rfl

/-! ### Boards -/

namespace Board

/-- A board whose tasks and entries are whole. -/
structure Whole (b : Board) : Prop where
  tasks : ∀ t ∈ b.tasks, t.Whole
  audit : ∀ e ∈ b.audit, e.Whole

variable {b b' : Board} {s : Stamp} {id : Text} {x : Entry}

theorem isWhole_toJson_iff :
  b.toJson.isWhole = true ↔ b.Whole
  := by
  have htasks : Json.areWhole (b.tasks.map Task.toJson) = true ↔ ∀ t ∈ b.tasks, t.Whole := by
    rw [Json.areWhole_eq_all, List.all_map, List.all_eq_true]
    simp only [Function.comp_apply, Task.isWhole_toJson_iff]
  have haudit : Json.areWhole (b.audit.map Entry.toJson) = true ↔ ∀ e ∈ b.audit, e.Whole := by
    rw [Json.areWhole_eq_all, List.all_map, List.all_eq_true]
    simp only [Function.comp_apply, Entry.isWhole_toJson_iff]
  simp only [toJson, Json.isWhole, Json.areWholeMembers, Text.isWhole_ofString, Bool.true_and,
    Bool.and_true, Bool.and_eq_true, htasks, haudit]
  constructor
  · rintro ⟨htasks, haudit⟩
    exact ⟨htasks, haudit⟩
  · intro h
    exact ⟨h.tasks, h.audit⟩

/-- A legible board has a text that bytes encode exactly when it is whole. -/
theorem exists_encode?_text?_iff (hb : b.toJson.Legible) (indent : Option Nat) :
  (∃ t bytes, b.text? indent = some t ∧ t.encode? = some bytes) ↔ b.Whole
  := by
  rw [← isWhole_toJson_iff]
  simp only [text?]
  rw [Json.exists_encode?_write?_iff, hb.isShort]
  simp

/-- A sound board has a snapshot exactly when it is whole. -/
theorem exists_snapshot_iff (hb : b.Sound) :
  (∃ bytes, b.snapshot = .ok bytes) ↔ b.Whole
  := by
  rw [← exists_encode?_text?_iff hb.legible none]
  simp only [snapshot_eq_ok_iff]
  exact exists_comm

/-- A sound board that is not whole has no snapshot. -/
theorem exists_unwritten (hb : b.Sound) (htorn : ¬ b.Whole) :
  ∃ e, b.snapshot = .error e
  := by
  cases hsnapshot : b.snapshot with
  | error e => exact ⟨e, rfl⟩
  | ok bytes => exact absurd ((exists_snapshot_iff hb).mp ⟨bytes, hsnapshot⟩) htorn

theorem whole_empty :
  empty.Whole
  := ⟨by simp [empty], by simp [empty]⟩

theorem Whole.settled (h : b.Whole) :
  b.settled.Whole
  := by
  refine ⟨?_, h.audit⟩
  intro t ht
  obtain ⟨u, hu, rfl⟩ := List.mem_map.mp ht
  apply (h.tasks u hu).settled

/-- The sample board is whole. -/
theorem whole_of_sample (hs : s.Proper) (h : sample s = .ok b) :
  b.Whole
  := by
  have hclosed : ∀ x ∈ samples, x.title.isWhole = true ∧ x.description.isWhole = true
      ∧ ∀ tag ∈ x.tags, tag.isWhole = true := by
    decide +kernel
  constructor
  · intro t ht
    obtain ⟨now, i, x, hx, -, hxt⟩ := mem_sample h ht
    obtain ⟨htitle, hdescription, htags⟩ := hclosed x hx
    obtain ⟨due, -, rfl⟩ := Sample.toTask_eq_ok_iff.mp hxt
    intro f
    cases f with
    | priority => apply Task.isWhole_record_of_closed _ (by decide)
    | estimate => apply Task.isWhole_record_of_closed _ (by decide)
    | column => apply Task.isWhole_record_of_closed _ (by decide)
    | score => apply Task.isWhole_record_of_closed _ (by decide)
    | id => apply Check.isWhole_of_isUuid (hs.fresh i)
    | createdAt => apply now.isWhole_stamp
    | dueAt => apply due.isWhole_stamp
    | title => apply htitle
    | description => apply hdescription
    | tags =>
        change Json.areWhole (x.tags.map Json.str) = true
        rw [Json.areWhole_eq_all, List.all_map, List.all_eq_true]
        apply htags
    | reviewerNote => rfl
    | scoreComment => rfl
  · obtain ⟨now, -, -, hb⟩ := sample_eq_ok_iff.mp h
    rw [hb]
    simp

/-- A board is whole with its accents exactly when it was without. -/
theorem whole_restoreAccents_iff {changed : Bool} (h : b.restoreAccents = .ok (b', changed)) :
  b'.Whole ↔ b.Whole
  := by
  obtain ⟨htasks, hb, -⟩ := restoreAccents_eq_ok_iff.mp h
  have hall : (∀ u ∈ b'.tasks, u.Whole) ↔ ∀ t ∈ b.tasks, t.Whole := by
    clear hb h
    generalize b.tasks = ts, b'.tasks = us at htasks
    induction htasks with
    | nil => simp
    | cons h _ ih => rw [List.forall_mem_cons, List.forall_mem_cons, ih, h.whole_iff]
  constructor
  · intro h'
    exact ⟨hall.mp h'.tasks, audit_restoreAccents h ▸ h'.audit⟩
  · intro h'
    exact ⟨hall.mpr h'.tasks, (audit_restoreAccents h).symm ▸ h'.audit⟩

theorem Whole.withAuditoria (h : b.Whole) :
  b.withAuditoria.Whole
  := by
  refine ⟨?_, h.audit⟩
  intro u hu
  obtain ⟨t, ht, rfl⟩ := List.mem_map.mp hu
  have htags := h.tasks t ht .tags
  apply (h.tasks t ht).of_eq_except (g := .tags)
  · change Json.areWhole (t.tags.map Json.str) = true at htags
    change Json.areWhole (List.map Json.str (t.tags.map _)) = true
    rw [Json.areWhole_eq_all, List.all_map, List.all_eq_true] at htags ⊢
    intro tag htag
    obtain ⟨s, hs, rfl⟩ := List.mem_map.mp htag
    split_ifs
    · apply Text.isWhole_ofString
    · apply htags s hs
  · intro f hf
    cases f <;> first | rfl | exact absurd rfl hf

/-- The sample board has a snapshot. -/
theorem exists_snapshot_of_sample (hs : s.Proper) (h : sample s = .ok b) :
  ∃ bytes, b.snapshot = .ok bytes
  := (exists_snapshot_iff (sound_of_sample hs h)).mpr (whole_of_sample hs h)

/-! ### Commands keep boards whole -/

theorem Whole.addEntry (hb : b.Whole) {tasks : List Task} (ht : ∀ t ∈ tasks, t.Whole)
    (hx : x.Whole) :
  Whole { b with tasks, audit := x :: b.audit }
  := ⟨ht, List.forall_mem_cons.mpr ⟨hx, hb.audit⟩⟩

theorem whole_replaceTask (hb : b.Whole) {t : Task} (ht : t.Whole) :
  ∀ u ∈ b.replaceTask id t, u.Whole
  := by
  intro u hu
  obtain ⟨v, hv, rfl⟩ := List.mem_map.mp hu
  split_ifs
  · apply ht
  · apply hb.tasks v hv

theorem Whole.task? (hb : b.Whole) {t : Task} (ht : b.task? id = some t) :
  t.Whole ∧ id.isWhole = true
  := by
  obtain ⟨hmem, rfl⟩ := mem_of_task? ht
  have h := hb.tasks t hmem
  exact ⟨h, h .id⟩

theorem Whole.create {d : NewTask} (hb : b.Whole) (hs : s.Proper) (hd : d.Whole)
    (h : b.create s d = .ok (b', x)) :
  b'.Whole
  := by
  obtain ⟨t, ht, hx, rfl⟩ := create_eq_ok_iff.mp h
  have htask := d.whole_toTask hd hs ht
  apply hb.addEntry
  · intro u hu
    rcases List.mem_append.mp hu with hu | hu
    · apply hb.tasks u hu
    · rwa [List.mem_singleton.mp hu]
  · apply hs.entry_whole hx (htask .id)
    simp [Json.isWhole, Task.isWhole_toJson_iff, htask]

theorem isWhole_between {t u : Task} (ht : t.Whole) (hu : u.Whole) :
  ∀ c ∈ Change.between t.record u.record,
    c.field.isWhole = true ∧ c.before.isWhole = true ∧ c.after.isWhole = true
  := by
  intro c hc
  obtain ⟨f, -, rfl⟩ := List.mem_map.mp hc
  exact ⟨f.isWhole_key, ht f, hu f⟩

theorem Whole.update {e : TaskEdit} (hb : b.Whole) (hs : s.Proper) (he : e.Whole)
    (h : b.update s id e = .ok (some (b', x))) :
  b'.Whole
  := by
  obtain ⟨t, u, ht, hu, -, hx, rfl⟩ := update_eq_ok_some_iff.mp h
  obtain ⟨hold, hid⟩ := hb.task? ht
  have hnew := e.whole_apply he hold hu
  apply hb.addEntry (whole_replaceTask hb hnew)
  apply hs.entry_whole hx hid (isWhole_between hold hnew)

/-- After a removal a board is whole if it is so without the task, and the task, which is in the
new entry, is so as well. -/
theorem whole_delete_iff (hs : s.Proper) {t : Task} (ht : b.task? id = some t)
    (h : b.delete s id = .ok (some (b', x))) :
  b'.Whole ↔ t.Whole ∧ Whole { b with tasks := b.tasks.filter (·.id ≠ id) }
  := by
  obtain ⟨u, hu, hx, rfl⟩ := delete_eq_ok_some_iff.mp h
  obtain rfl := Option.some.inj (hu.symm.trans ht)
  have hentry : x.Whole ↔ u.Whole := by
    constructor
    · intro hwhole
      obtain ⟨_, -, rfl⟩ := Stamp.entry_eq_ok_iff.mp hx
      obtain ⟨-, htask, -⟩ := hwhole.changes _ List.mem_cons_self
      apply Task.isWhole_toJson_iff.mp htask
    · intro hwhole
      apply hs.entry_whole hx
      · rw [← (mem_of_task? ht).2]
        apply hwhole .id
      · simp [Json.isWhole, Task.isWhole_toJson_iff, hwhole]
  rw [← hentry]
  constructor
  · rintro ⟨tasks, audit⟩
    obtain ⟨hx, haudit⟩ := List.forall_mem_cons.mp audit
    exact ⟨hx, tasks, haudit⟩
  · rintro ⟨hx, tasks, audit⟩
    exact ⟨tasks, List.forall_mem_cons.mpr ⟨hx, audit⟩⟩

theorem Whole.delete (hb : b.Whole) (hs : s.Proper) (h : b.delete s id = .ok (some (b', x))) :
  b'.Whole
  := by
  obtain ⟨t, ht, -⟩ := delete_eq_ok_some_iff.mp h
  apply (whole_delete_iff hs ht h).mpr
  exact ⟨(hb.task? ht).1, fun u hu => hb.tasks u (List.mem_of_mem_filter hu), hb.audit⟩

theorem Whole.move {v : Json} (hb : b.Whole) (hs : s.Proper)
    (h : b.move s id v = .ok (some (b', x))) :
  b'.Whole
  := by
  obtain ⟨t, c, -, ht, -, hx, rfl⟩ := move_eq_ok_some_iff.mp h
  obtain ⟨hold, hid⟩ := hb.task? ht
  apply hb.addEntry (whole_replaceTask hb (hold.moved c))
  apply hs.entry_whole hx hid
  rw [List.forall_mem_singleton]
  exact ⟨Field.isWhole_key _, hold .column, (hold.moved c) .column⟩

theorem Whole.setReviewMode (hb : b.Whole) (value : Bool) :
  (b.setReviewMode value).Whole
  := ⟨hb.tasks, hb.audit⟩

end Board

/-! ### Boards that are read -/

theorem Members.isWhole_value {m : Members} (h : Json.isWhole (.obj m) = true) (name : Text) :
  (m.value name).isWhole = true
  := by
  rw [Json.isWhole, Json.areWholeMembers_eq_all, List.all_eq_true] at h
  rw [Members.value]
  induction m with
  | nil => rfl
  | cons p m ih =>
      obtain ⟨hp, hm⟩ := List.forall_mem_cons.mp h
      rw [Members.get?]
      split_ifs
      · apply (Bool.and_eq_true_iff.mp hp).2
      · apply ih hm

/-- What is read from a whole value as a task is whole. -/
theorem Task.whole_of_read {v : Json} {t : Task} (h : read v = .ok t) (hv : v.isWhole = true) :
  t.Whole
  := by
  obtain ⟨u, hu, rfl⟩ := Checked.map_eq_ok_iff.mp h
  obtain ⟨m, rfl, hvalue, -⟩ := check_eq_ok_iff.mp hu
  apply Whole.settled
  intro f
  rw [← hvalue f]
  apply Members.isWhole_value hv

/-- What is read from a whole value as an entry is whole. -/
theorem Entry.whole_of_read {v : Json} {e : Entry} (h : read v = .ok e)
    (hv : v.isWhole = true) :
  e.Whole
  := by
  cases v with
  | obj m =>
      obtain ⟨hid, htime, -, htask, hchanges, -, -⟩ := ofMembers_eq_ok_iff.mp h
      obtain ⟨d, hd, hcs⟩ := Check.changes_eq_ok_iff.mp hchanges
      have hdiff : Json.isWhole (.obj d) = true := by
        rw [← hd]
        apply Members.isWhole_value hv
      rw [Json.isWhole, Json.areWholeMembers_eq_all, List.all_eq_true] at hdiff
      have htext {name s : Text} (h : Members.value m name = .str s) : s.isWhole = true := by
        have hvalue := Members.isWhole_value hv name
        rwa [h] at hvalue
      refine ⟨htext hid, htext htime, htext htask, ?_⟩
      intro c hc
      obtain ⟨x, hx, hxc⟩ := exists_mem_left hcs hc
      obtain ⟨w, hw, rfl⟩ := Check.change_eq_ok_iff.mp hxc
      obtain ⟨hname, hvalue⟩ := Bool.and_eq_true_iff.mp (hdiff x hx)
      rw [hw] at hvalue
      exact ⟨hname, Members.isWhole_value hvalue _, Members.isWhole_value hvalue _⟩
  | _ => cases h

namespace Board

/-- What is read from a whole value as a board is whole. -/
theorem whole_of_read {v : Json} {b : Board} (h : read v = .ok b) (hv : v.isWhole = true) :
  b.Whole
  := by
  obtain ⟨m, rfl, ⟨ts, hts, htasks⟩, ⟨es, hes, haudit⟩, -⟩ := read_eq_ok_iff.mp h
  have hitems {name : Text} {items : List Json} (h : Members.value m name = .arr items) :
      ∀ x ∈ items, x.isWhole = true := by
    rw [← List.all_eq_true, ← Json.areWhole_eq_all, ← Json.isWhole, ← h]
    apply Members.isWhole_value hv
  constructor
  · intro t ht
    obtain ⟨x, hx, hxt⟩ := exists_mem_left htasks ht
    apply Task.whole_of_read hxt (hitems hts x hx)
  · intro e he
    obtain ⟨x, hx, hxe⟩ := exists_mem_left haudit he
    apply Entry.whole_of_read hxe (hitems hes x hx)

/-- A replacement puts a fresh id for that of one of the tasks. -/
theorem exists_of_mem_replacements {fresh : Nat → Text} {ts : List Task} {seen : List Text}
    {i : Nat} {r : Replacement} (hr : r ∈ (distinguish fresh seen i ts).2) :
  (∃ t ∈ ts, r.oldId = t.id) ∧ ∃ j, r.newId = fresh j
  := by
  induction ts generalizing seen i with
  | nil => cases hr
  | cons t ts ih =>
      rw [distinguish] at hr
      split_ifs at hr
      · rcases List.mem_cons.mp hr with rfl | hr
        · exact ⟨⟨t, List.mem_cons_self, rfl⟩, i, rfl⟩
        · obtain ⟨⟨u, hu, hold⟩, hnew⟩ := ih hr
          exact ⟨⟨u, List.mem_cons_of_mem _ hu, hold⟩, hnew⟩
      · obtain ⟨⟨u, hu, hold⟩, hnew⟩ := ih hr
        exact ⟨⟨u, List.mem_cons_of_mem _ hu, hold⟩, hnew⟩

/-- Tasks with uuids are whole exactly if they are so with other ones for those that are
repeated. -/
theorem whole_distinguish_iff {fresh : Nat → Text} (hfresh : ∀ i, Check.isUuid (fresh i) = true)
    {ts : List Task} (hts : ∀ t ∈ ts, Check.isUuid t.id = true) (seen : List Text) (i : Nat) :
  (∀ t ∈ (distinguish fresh seen i ts).1, t.Whole) ↔ ∀ t ∈ ts, t.Whole
  := by
  induction ts generalizing seen i with
  | nil => rfl
  | cons t ts ih =>
      obtain ⟨ht, hts⟩ := List.forall_mem_cons.mp hts
      rw [distinguish]
      split_ifs
      · rw [List.forall_mem_cons, List.forall_mem_cons, Task.whole_renamed_iff ht (hfresh i),
          ih hts]
      · rw [List.forall_mem_cons, List.forall_mem_cons, ih hts]

/-- A board is whole exactly if the one that is read from its snapshot is, whatever ids were
replaced. -/
theorem whole_adopt_iff {s : Stamp} {v : Json} {b c : Board} {rs : List Replacement}
    (hs : s.Proper) (hread : read v = .ok c) (h : adopt s v = .ok (.ok (b, rs))) :
  b.Whole ↔ c.Whole
  := by
  obtain ⟨c', entries, hread', hrs, hentries, rfl⟩ := adopt_eq_ok_ok_iff.mp h
  obtain rfl := Checked.ok.inj (hread'.symm.trans hread)
  have hids : ∀ t ∈ c'.tasks, Check.isUuid t.id = true :=
    fun t ht => (valid_of_read hread t ht).id
  have htasks := whole_distinguish_iff hs.fresh hids [] 0
  constructor
  · rintro ⟨tasks, audit⟩
    exact ⟨htasks.mp tasks, fun e he => audit e (List.mem_append_right _ he)⟩
  · intro hc
    apply Whole.mk (htasks.mpr hc.tasks)
    intro e he
    rcases List.mem_append.mp he with he | he
    · obtain ⟨⟨r, i⟩, hr, he⟩ :=
        exists_mem_left (mapM_eq_ok_iff.mp hentries) (List.mem_reverse.mp he)
      rw [← hrs] at hr
      obtain ⟨⟨t, ht, hold⟩, j, hnew⟩ :=
        exists_of_mem_replacements (List.fst_mem_of_mem_zipIdx hr)
      have hold : r.oldId.isWhole = true := by
        rw [hold]
        apply hc.tasks t ht .id
      have hnew : r.newId.isWhole = true := by
        rw [hnew]
        apply Check.isWhole_of_isUuid (hs.fresh j)
      apply hs.entry_whole he hnew
      rw [List.forall_mem_singleton]
      exact ⟨Field.isWhole_key _, hold, hnew⟩
    · apply hc.audit e he

end Board

end Kanban
