import Kanban.Proofs.Board.Schema
import Kanban.Proofs.Json.Equality

/-!
# Normal forms of snapshots

What was read as a board is in normal form: it is read from its written form as the same board,
however often.  `Schema.BoardsMatch` says of two snapshots that they differ only in what is not
taken from them, that is in unknown members, in how an absent part of a task and a missing value
of a change are written, and in the kind of number that an estimate is.  Such snapshots are read
as the same board (`Board.normal_of_read`).
-/

namespace Kanban

/-- The fields that a task may lack. -/
def Field.optional : List Field := [.description, .dueAt, .reviewerNote, .score, .scoreComment]

namespace Schema

/-! ### Snapshots that match -/

/-- Two objects whose members are related. -/
def ObjectsMatch (P : Members → Members → Prop) (v w : Json) : Prop :=
  ∃ m m' : Members, v = .obj m ∧ w = .obj m' ∧ P m m'

/-- Two lists whose items are related, place by place. -/
def ListsMatch (P : Json → Json → Prop) (v w : Json) : Prop :=
  ∃ xs ys, v = .arr xs ∧ w = .arr ys ∧ List.Forall₂ P xs ys

/-- Two numbers of the same value, perhaps an integer and a double. -/
def NumbersMatch (v w : Json) : Prop :=
  ∃ a b x, v = .num a ∧ w = .num b ∧ a.value? = some x ∧ b.value? = some x

/-- Both objects have a member of the name, and the two are related. -/
def BothHave (m m' : Members) (name : Text) (P : Json → Json → Prop) : Prop :=
  ∃ v w, m.get? name = some v ∧ m'.get? name = some w ∧ P v w

/-- The members of two tasks that differ only in unknown members, in how an absent part is
written, and in the kind of number that the estimate is. -/
structure TasksMatch (m m' : Members) : Prop where
  required : ∀ f, f ∉ Field.optional → f ≠ .estimate → m.get? f.key = m'.get? f.key
  optional : ∀ f ∈ Field.optional, m.value f.key = m'.value f.key
  estimate : BothHave m m' Field.estimate.key NumbersMatch

/-- Two changes of the same thing that differ only in members other than the two values, and in
how a missing value is written. -/
def ChangesMatch (x y : Text × Json) : Prop :=
  x.1 = y.1 ∧ ObjectsMatch
    (fun m m' => m.value "before" = m'.value "before" ∧ m.value "after" = m'.value "after") x.2 y.2

/-- The members of two entries that differ only in unknown members and in their changes as far as
these match. -/
structure EntriesMatch (m m' : Members) : Prop where
  required : ∀ name ∈ ["id", "timestamp", "action", "taskId", "actorLabel"],
    m.get? name = m'.get? name
  diff : BothHave m m' "diff" (ObjectsMatch (List.Forall₂ ChangesMatch))

/-- The members of two snapshots that differ only in unknown members and in their tasks and entries
as far as these match. -/
structure BoardsMatch (m m' : Members) : Prop where
  tasks : BothHave m m' "tasks" (ListsMatch (ObjectsMatch TasksMatch))
  audit : BothHave m m' "audit" (ListsMatch (ObjectsMatch EntriesMatch))
  reviewMode : m.get? "reviewMode" = m'.get? "reviewMode"

/-! ### Reading what matches -/

variable {m m' : Members} {name : Text} {v w : Json}

theorem value_congr (h : m.get? name = m'.get? name) :
  m.value name = m'.value name
  := by
  rw [Members.value, h, Members.value]

/-- Both values of a name, in terms of one of them. -/
theorem BothHave.value {P : Json → Json → Prop} (h : BothHave m m' name P) :
  P (m.value name) (m'.value name)
  := by
  obtain ⟨v, w, hv, hw, hP⟩ := h
  rwa [Members.value, hv, Members.value, hw]

/-- If what is related to a value is read as the value is, so are the items of related lists. -/
theorem read_items {α β γ : Type} {R : β → γ → Prop} {S : β → α → Prop} {T : γ → α → Prop}
    {xs : List β} {ys : List γ} {as : List α} (h : List.Forall₂ R xs ys)
    (hxs : List.Forall₂ S xs as) (hread : ∀ x y a, R x y → S x a → T y a) :
  List.Forall₂ T ys as
  := by
  apply forall₂_trans_of_mem (forall₂_flip_of_mem h fun _ _ _ _ hxy => hxy) hxs
  intro y _ x a hxy
  apply hread x y a hxy

theorem ListsMatch.items {α : Type} {P : Json → Json → Prop} {read : Json → Checked α}
    {as : List α} (h : ListsMatch P v w)
    (hread : ∀ x y a, P x y → read x = .ok a → read y = .ok a)
    (hv : ∃ items, v = .arr items ∧ List.Forall₂ (fun x a => read x = .ok a) items as) :
  ∃ items, w = .arr items ∧ List.Forall₂ (fun x a => read x = .ok a) items as
  := by
  obtain ⟨xs, ys, rfl, rfl, h⟩ := h
  obtain ⟨_, ⟨⟩, hxs⟩ := hv
  exact ⟨ys, rfl, read_items h hxs hread⟩

theorem TasksMatch.value (h : TasksMatch m m') {f : Field} (hf : f ≠ .estimate) :
  m.value f.key = m'.value f.key
  := by
  by_cases hoptional : f ∈ Field.optional
  · apply h.optional f hoptional
  · apply value_congr (h.required f hoptional hf)

theorem read_task_of_match {t : Task} (h : ObjectsMatch TasksMatch v w)
    (hv : Task.read v = .ok t) :
  Task.read w = .ok t
  := by
  obtain ⟨m, m', rfl, rfl, h⟩ := h
  obtain ⟨_, ⟨⟩, his, hof⟩ := read_task_iff.mp hv
  obtain ⟨u, hvalue, hvalid⟩ := isTask_iff.mp his
  obtain ⟨n, n', x, hn, hn', hx, hx'⟩ := h.estimate.value
  apply read_task_iff.mpr ⟨m', rfl, isTask_iff.mpr ⟨{ u with estimate := n' }, ?_, ?_⟩, ?_, ?_⟩
  · intro f
    by_cases hf : f = .estimate
    · rw [hf, hn']
      rfl
    · rw [← h.value hf, hvalue]
      cases f <;> first | rfl | contradiction
  · obtain rfl := Json.num.inj (hn.symm.trans (hvalue .estimate))
    obtain ⟨k, hk⟩ := Check.isEstimate_iff.mp hvalid.estimate
    obtain rfl := Option.some.inj (hx.symm.trans hk)
    exact ⟨hvalid.id, hvalid.title, Check.isEstimate_iff.mpr ⟨k, hx'⟩, hvalid.createdAt,
      hvalid.dueAt, hvalid.score⟩
  · intro f hf
    rw [← h.value hf, hof.parts f hf]
  · obtain ⟨_, k, hestimate, hk, ht⟩ := hof.estimate
    obtain rfl := Json.num.inj (hn.symm.trans hestimate)
    obtain rfl := Option.some.inj (hx.symm.trans hk)
    exact ⟨n', k, hn', hx', ht⟩

theorem change_of_match {x y : Text × Json} {c : Change} (h : ChangesMatch x y)
    (hx : Check.change x.1 x.2 = .ok c) :
  Check.change y.1 y.2 = .ok c
  := by
  obtain ⟨hname, m, m', hm, hm', hbefore, hafter⟩ := h
  obtain ⟨_, hobj, rfl⟩ := Check.change_eq_ok_iff.mp hx
  obtain rfl := Json.obj.inj (hm.symm.trans hobj)
  apply Check.change_eq_ok_iff.mpr ⟨m', hm', ?_⟩
  rw [hname, hbefore, hafter]

theorem read_entry_of_match {e : Entry} (h : ObjectsMatch EntriesMatch v w)
    (hv : Entry.read v = .ok e) :
  Entry.read w = .ok e
  := by
  obtain ⟨m, m', rfl, rfl, h⟩ := h
  have hrequired : ∀ name ∈ ["id", "timestamp", "action", "taskId", "actorLabel"],
      m'.value name = m.value name := by
    intro name hname
    apply (value_congr (h.required name hname)).symm
  obtain ⟨hid, htime, haction, htask, hchanges, hlabel, hvalid⟩ := Entry.ofMembers_eq_ok_iff.mp hv
  apply Entry.ofMembers_eq_ok_iff.mpr
  refine ⟨?_, ?_, ?_, ?_, ?_, ?_, hvalid⟩
  · rw [hrequired "id" (by simp), hid]
  · rw [hrequired "timestamp" (by simp), htime]
  · rw [hrequired "action" (by simp), haction]
  · rw [hrequired "taskId" (by simp), htask]
  · obtain ⟨d, d', hd, hd', hmatch⟩ := h.diff.value
    obtain ⟨_, hobj, hcs⟩ := Check.changes_eq_ok_iff.mp hchanges
    obtain rfl := Json.obj.inj (hd.symm.trans hobj)
    apply Check.changes_eq_ok_iff.mpr ⟨d', hd', ?_⟩
    exact read_items hmatch hcs fun _ _ _ => change_of_match
  · rw [hrequired "actorLabel" (by simp), hlabel]

theorem read_board_of_match {b : Board} (h : ObjectsMatch BoardsMatch v w)
    (hv : Board.read v = .ok b) :
  Board.read w = .ok b
  := by
  obtain ⟨m, m', rfl, rfl, h⟩ := h
  obtain ⟨_, ⟨⟩, htasks, haudit, hmode⟩ := Board.read_eq_ok_iff.mp hv
  apply Board.read_eq_ok_iff.mpr
  refine ⟨m', rfl, ?_, ?_, ?_⟩
  · exact h.tasks.value.items (fun _ _ _ => read_task_of_match) htasks
  · exact h.audit.value.items (fun _ _ _ => read_entry_of_match) haudit
  · rw [← value_congr h.reviewMode, hmode]

end Schema

/-! ### Boards in normal form -/

namespace Board

/-- A board after it has been written and read a number of times. -/
def reread : ℕ → Board → Checked Board
  | 0, b => .ok b
  | n + 1, b => (read b.toJson).andThen (reread n)

/-- What was read as a board stays the same however often it is written and read, and whatever
matches the snapshot is read as the same board. -/
theorem normal_of_read {v : Json} {b : Board} (h : read v = .ok b) :
  read b.toJson = .ok b ∧ (∀ n, reread n b = .ok b)
    ∧ ∀ w, Schema.ObjectsMatch Schema.BoardsMatch v w → read w = .ok b
  := by
  have hagain : read b.toJson = .ok b := read_toJson_of_read h
  refine ⟨hagain, ?_, fun w hw => Schema.read_board_of_match hw h⟩
  intro n
  induction n with
  | zero => rfl
  | succ n ih =>
      rw [reread, hagain]
      apply ih

/-- A board with a task and an entry. -/
def pruned : Board where
  tasks := [{
    id := "aaaaaaaa-bbbb-4ccc-8ddd-eeeeeeeeeeee"
    title := "Prune"
    description := none
    priority := .low
    tags := []
    estimate := .int 1
    createdAt := "2024-03-01T00:00:00Z"
    dueAt := none
    column := .todo
    reviewerNote := none
    score := none
    scoreComment := none }]
  audit := [⟨"aaaaaaaa-bbbb-4ccc-8ddd-ffffffffffff", "2024-03-01T00:00:00Z", .move, "t1",
    [⟨"state", .null, .str "todo"⟩]⟩]
  reviewMode := false

/-- A snapshot of the same board with an unknown member at each level, `null` for an absent
description, a double for the estimate, and without the first value of the change. -/
def unpruned : Json :=
  .obj [("version", .int 2), ("reviewMode", .bool false),
    ("tasks", .arr [.obj [("color", .str "green"),
      ("id", .str "aaaaaaaa-bbbb-4ccc-8ddd-eeeeeeeeeeee"),
      ("title", .str "Prune"), ("description", .null), ("priority", .str "low"), ("tags", .arr []),
      ("estimateMinutes", .num (.float (.finite false (1 <<< 52) (-52) (by decide)))),
      ("createdAt", .str "2024-03-01T00:00:00Z"), ("state", .str "todo")]]),
    ("audit", .arr [.obj [("origin", .null), ("id", .str "aaaaaaaa-bbbb-4ccc-8ddd-ffffffffffff"),
      ("timestamp", .str "2024-03-01T00:00:00Z"), ("action", .str "MOVE"), ("taskId", .str "t1"),
      ("diff", .obj [("state", .obj [("by", .str "import"), ("after", .str "todo")])]),
      ("actorLabel", .str Entry.actorLabel)]])]

theorem readable_pruned :
  Check.Readable "2024-03-01T00:00:00Z"
  := by
  rw [Check.Readable]
  decide +kernel

theorem valid_pruned :
  pruned.Valid
  := by
  intro t ht
  obtain rfl := List.mem_singleton.mp ht
  refine ⟨by decide, by decide, ?_, readable_pruned, by simp, by simp⟩
  apply Check.isEstimate_iff.mpr ⟨1, by simp [Number.value?]⟩

theorem read_pruned :
  read pruned.toJson = .ok pruned
  := by
  apply read_toJson_of_valid valid_pruned
  intro e he
  obtain rfl := List.mem_singleton.mp he
  exact ⟨by decide, readable_pruned⟩

open Schema in
theorem match_unpruned :
  ObjectsMatch BoardsMatch pruned.toJson unpruned
  := by
  refine ⟨_, _, rfl, rfl, ⟨_, _, rfl, rfl, _, _, rfl, rfl, .cons ⟨_, _, rfl, rfl, ?_⟩ .nil⟩,
    ⟨_, _, rfl, rfl, _, _, rfl, rfl, .cons ⟨_, _, rfl, rfl, ?_⟩ .nil⟩, rfl⟩
  · constructor
    · intro f hoptional hestimate
      cases f <;> first | rfl | contradiction
    · intro f hf
      fin_cases hf <;> rfl
    · refine ⟨_, _, rfl, rfl, _, _, 1, rfl, rfl, by simp [Number.value?], ?_⟩
      norm_num [Number.value?, Nat.shiftLeft_eq]
  · constructor
    · intro name hname
      fin_cases hname <;> rfl
    · exact ⟨_, _, rfl, rfl, _, _, rfl, rfl, .cons ⟨rfl, _, _, rfl, rfl, rfl, rfl⟩ .nil⟩

/-- A board is read from its written form, also after that was written and read twice, and from a
snapshot with more in it. -/
theorem normal_of_read_pruned :
  read pruned.toJson = .ok pruned ∧ reread 2 pruned = .ok pruned ∧ read unpruned = .ok pruned
  := by
  obtain ⟨hread, hreread, hmatch⟩ := normal_of_read read_pruned
  exact ⟨hread, hreread 2, hmatch unpruned match_unpruned⟩

end Board

end Kanban
