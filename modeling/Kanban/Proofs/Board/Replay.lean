import Kanban.Proofs.Board.Ids
import Kanban.Proofs.Task.Mirror

/-!
# Replaying the audit log

The entries of an audit log, carried out on the written forms of tasks.  `Replay.entry` checks
that an entry fits the tasks before it changes them: a created task is not there yet, a deleted
one is there as it was noted, and every changed field has the value that was noted.  Members
that mirror the tasks of a board mirror those of the next one after the entry of a command
(`Replay.Follows.create` and its siblings), as long as no two tasks have the same id.
-/

namespace Kanban

namespace Replay

/-! ### Entries as instructions -/

/-- The members are those of a task with the id. -/
def hasId (id : Text) (m : Members) : Bool :=
  match m.value Field.id.key with
  | .str s => s == id
  | _ => false

/-- A task is put at the end, unless its id is there already. -/
def create (ms : List Members) (id : Text) : List Change → Option (List Members)
  | [⟨field, before, .obj m⟩] =>
    if field = "task" ∧ before.isNull ∧ ¬ ms.any (hasId id) then some (ms ++ [m]) else none
  | _ => none

/-- The task with the id is removed, if it is there as it was noted. -/
def delete (eq : Number → Number → Bool) (ms : List Members) (id : Text) :
    List Change → Option (List Members)
  | [⟨field, before, after⟩] => do
    let m ← ms.find? (hasId id)
    if field = "task" ∧ after.isNull ∧ (Json.obj m).agree eq before then
      some (ms.filter (!hasId id ·))
    else none
  | _ => none

/-- The fields of the task with the id are changed, if they are as they were noted. -/
def change (eq : Number → Number → Bool) (ms : List Members) (id : Text) (cs : List Change) :
    Option (List Members) := do
  let m ← ms.find? (hasId id)
  if cs.all fun c => (m.value c.field).agree eq c.before then
    some (ms.map fun m => if hasId id m then m.edit cs else m)
  else none

/-- The tasks after an entry, or nothing where the entry does not fit them. -/
def entry (eq : Number → Number → Bool) (ms : List Members) (e : Entry) : Option (List Members) :=
  match e.action with
  | .create => create ms e.taskId e.changes
  | .delete => delete eq ms e.taskId e.changes
  | .update => change eq ms e.taskId e.changes
  | .move => change eq ms e.taskId e.changes

/-- The tasks after the entries of a log, the newest of which comes first. -/
def entries (eq : Number → Number → Bool) (ms : List Members) (es : List Entry) :
    Option (List Members) :=
  es.reverse.foldlM (entry eq) ms

theorem entries_append (eq : Number → Number → Bool) (ms : List Members) (es es' : List Entry) :
  entries eq ms (es' ++ es) = (entries eq ms es).bind fun ms' => entries eq ms' es'
  := by
  rw [entries]
  rw [List.reverse_append, List.foldlM_append]
  rfl

theorem entries_singleton (eq : Number → Number → Bool) (ms : List Members) (e : Entry) :
  entries eq ms [e] = entry eq ms e
  := by
  simp [entries]

/-! ### Lists that mirror tasks -/

variable {eq : Number → Number → Bool} {m : Members} {ms : List Members} {t u : Task}
  {ts : List Task} {id : Text}

theorem hasId_eq (h : Mirrors eq m t) (id : Text) :
  hasId id m = (t.id == id)
  := by
  rw [hasId]
  rw [Json.agree_str_iff.mp (h.fields .id)]

/-- A task with an id is mirrored where the id is found. -/
theorem find?_hasId (h : List.Forall₂ (Mirrors eq) ms ts)
    (ht : ts.find? (·.id == id) = some t) :
  ∃ m, ms.find? (hasId id) = some m ∧ Mirrors eq m t
  := by
  induction h with
  | nil => cases ht
  | cons hmu _ ih =>
      rw [List.find?_cons] at ht ⊢
      rw [hasId_eq hmu]
      split at ht
      · obtain rfl := Option.some.inj ht
        exact ⟨_, rfl, hmu⟩
      · apply ih ht

theorem any_hasId (h : List.Forall₂ (Mirrors eq) ms ts) (id : Text) :
  ms.any (hasId id) = ts.any (·.id == id)
  := by
  induction h with
  | nil => rfl
  | cons hmu _ ih => rw [List.any_cons, List.any_cons, hasId_eq hmu, ih]

theorem filter_hasId (h : List.Forall₂ (Mirrors eq) ms ts) (id : Text) :
  List.Forall₂ (Mirrors eq) (ms.filter (!hasId id ·)) (ts.filter (·.id ≠ id))
  := by
  induction h with
  | nil => constructor
  | cons hmu _ ih =>
      rw [List.filter_cons, List.filter_cons, hasId_eq hmu]
      split_ifs with hm hu hu
      · apply List.Forall₂.cons hmu ih
      · simp_all
      · simp_all
      · apply ih

/-- Where all members with an id are edited, those that mirrored a task mirror the edited one. -/
theorem map_hasId (h : List.Forall₂ (Mirrors eq) ms ts) {cs : List Change}
    (hedit : ∀ m, ∀ t ∈ ts, t.id = id → Mirrors eq m t → Mirrors eq (m.edit cs) u) :
  List.Forall₂ (Mirrors eq) (ms.map fun m => if hasId id m then m.edit cs else m)
    (ts.map fun t => if t.id = id then u else t)
  := by
  induction h with
  | nil => constructor
  | @cons m t ms ts hmt _ ih =>
      constructor
      · dsimp only
        rw [hasId_eq hmt]
        by_cases hid : t.id = id
        · rw [if_pos (by simpa using hid), if_pos hid]
          apply hedit m t List.mem_cons_self hid hmt
        · rw [if_neg (by simpa using hid), if_neg hid]
          apply hmt
      · apply ih
        intro m t ht
        apply hedit m t (List.mem_cons_of_mem _ ht)

/-! ### Following a board -/

/-- The members mirror the tasks of a board, no two of which have the same id. -/
structure Follows (eq : Number → Number → Bool) (ms : List Members) (b : Board) : Prop where
  nodup : b.taskIds.Nodup
  mirrors : List.Forall₂ (Mirrors eq) ms b.tasks

variable {b b' : Board} {s : Stamp} {x : Entry}

theorem Follows.create (heq : Number.Compares eq) (h : Follows eq ms b) {d : NewTask}
    (hfresh : s.fresh 0 ∉ b.taskIds) (hx : b.create s d = .ok (b', x)) :
  ∃ ms', entry eq ms x = some ms' ∧ Follows eq ms' b'
  := by
  have hnodup := (Board.nodup_create h.nodup hfresh hx).1
  obtain ⟨t, ht, he, rfl⟩ := Board.create_eq_ok_iff.mp hx
  obtain ⟨hvalid, hid, -⟩ := d.toTask_spec ht
  obtain ⟨n, -, rfl⟩ := Stamp.entry_eq_ok_iff.mp he
  rw [← hid] at hfresh
  have hnew : ms.any (hasId t.id) = false := by
    rw [any_hasId h.mirrors, List.any_eq_false]
    intro u hu hsame
    apply hfresh
    rw [← beq_iff_eq.mp hsame]
    apply List.mem_map_of_mem hu
  refine ⟨ms ++ [t.record.members], ?_, hnodup, ?_⟩
  · change Replay.create ms t.id [⟨"task", .null, t.toJson⟩] = _
    unfold Replay.create
    dsimp only [Task.toJson, Record.toJson_eq]
    rw [if_pos (by simp [hnew, Json.isNull])]
  · apply List.rel_append h.mirrors
    apply List.Forall₂.cons (heq.reflexive hvalid).mirrors
    constructor

theorem Follows.delete (h : Follows eq ms b) (hx : b.delete s id = .ok (some (b', x))) :
  ∃ ms', entry eq ms x = some ms' ∧ Follows eq ms' b'
  := by
  have hnodup := (Board.nodup_delete h.nodup hx).1
  obtain ⟨t, ht, he, rfl⟩ := Board.delete_eq_ok_some_iff.mp hx
  obtain ⟨n, -, rfl⟩ := Stamp.entry_eq_ok_iff.mp he
  obtain ⟨m, hm, hmt⟩ := find?_hasId h.mirrors ht
  refine ⟨ms.filter (!hasId id ·), ?_, hnodup, ?_⟩
  · change Replay.delete eq ms id [⟨"task", t.toJson, .null⟩] = _
    rw [Replay.delete]
    rw [hm]
    apply if_pos ⟨rfl, rfl, hmt.agree⟩
  · apply filter_hasId h.mirrors

/-- An entry about some fields of a task is carried out, if the other fields have the same
values after it. -/
theorem Follows.change
    (h : Follows eq ms b) (fs : List Field) (ht : b.task? id = some t)
    (hu : u.id = id) (hnodup : fs.Nodup)
    (hchanged : ∀ f ∈ fs, (u.record f).agree eq (u.record f) = true)
    (hkept : ∀ f ∉ fs, ∀ v : Json, v.agree eq (t.record f) = true →
      v.agree eq (u.record f) = true) (audit : List Entry) :
  ∃ ms', Replay.change eq ms id (t.changes u fs) = some ms'
    ∧ Follows eq ms' { b with tasks := b.replaceTask id u, audit }
  := by
  obtain ⟨m, hm, hmt⟩ := find?_hasId h.mirrors ht
  refine ⟨ms.map fun m => if hasId id m then m.edit (t.changes u fs) else m, ?_, ?_, ?_⟩
  · rw [Replay.change]
    rw [hm]
    apply if_pos (hmt.check u fs)
  · change ((b.replaceTask id u).map (·.id)).Nodup
    rw [Board.taskIds_replaceTask hu]
    apply h.nodup
  · apply map_hasId h.mirrors
    intro m v hv hid hmv
    obtain rfl := Board.eq_of_task? h.nodup ht hv hid
    apply hmv.edit hnodup hchanged hkept

theorem Follows.update (heq : Number.Compares eq) (h : Follows eq ms b) {e : TaskEdit}
    (hx : b.update s id e = .ok (some (b', x))) :
  ∃ ms', entry eq ms x = some ms' ∧ Follows eq ms' b'
  := by
  obtain ⟨t, u, ht, hu, -, he, rfl⟩ := Board.update_eq_ok_some_iff.mp hx
  obtain ⟨n, -, rfl⟩ := Stamp.entry_eq_ok_iff.mp he
  obtain ⟨hvalid, hid, hcreated, -, -⟩ := e.apply_spec hu
  have hmutable : Field.mutable.Nodup := by decide
  apply h.change _ ht (hid.trans (Board.mem_of_task? ht).2) (hmutable.filter _)
  · intro f _
    apply (heq.reflexive hvalid).agree_record
  · intro f hf v hv
    by_cases hsame : (t.record f).same (u.record f) = true
    · apply heq.agree_trans hv hsame
    · -- A field that is compared and differs is changed, so this one is not compared.
      have hfixed : f ∉ Field.mutable := by
        intro hmem
        apply hf
        apply List.mem_filter.mpr ⟨hmem, by simpa using hsame⟩
      cases f with
      | id =>
          change v.agree eq (.str u.id) = true
          rw [hid]
          apply hv
      | createdAt =>
          change v.agree eq (.str u.createdAt) = true
          rw [hcreated]
          apply hv
      | _ => cases hfixed (by decide)

theorem Follows.move (h : Follows eq ms b) {v : Json}
    (hx : b.move s id v = .ok (some (b', x))) :
  ∃ ms', entry eq ms x = some ms' ∧ Follows eq ms' b'
  := by
  obtain ⟨t, c, -, ht, -, he, rfl⟩ := Board.move_eq_ok_some_iff.mp hx
  obtain ⟨n, -, rfl⟩ := Stamp.entry_eq_ok_iff.mp he
  have hid : t.id = id := (Board.mem_of_task? ht).2
  apply h.change (u := { t with column := c }) [.column] ht hid (List.nodup_singleton _)
  · intro f hf
    obtain rfl := List.mem_singleton.mp hf
    apply Json.agree_str_iff.mpr rfl
  · intro f hf v hv
    cases f with
    | column => cases hf (List.mem_singleton.mpr rfl)
    | _ => apply hv

end Replay

end Kanban
