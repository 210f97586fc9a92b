import Kanban.Proofs.Board.Issue
import Kanban.Proofs.Board.Normal

/-!
# The ids in a snapshot

An id that is accepted is a uuid, or a uuid with a line feed behind it; a text of any other form in
the place of an id is an issue there.  So the ids of what was read are uuids and nothing else
exactly when none of them has a line feed behind it (`Board.ids_grouped_iff`).
-/

namespace Kanban

namespace Uuid

variable {cs : List Point} {s : Text}

/-- The characters of a uuid with a line feed behind them. -/
def IsFed (cs : List Point) : Prop := ∃ ds, IsGrouped ds ∧ cs = ds ++ [.char '\n']

theorem IsGrouped.length_eq (h : IsGrouped cs) :
  cs.length = 36
  := by
  obtain ⟨a, b, c, d, e, hlengths, -, rfl⟩ := h
  simp only [List.map_cons, List.map_nil, List.cons.injEq, and_true] at hlengths
  simp only [List.length_append, List.length_cons]
  omega

theorem IsGrouped.not_isFed (h : IsGrouped cs) :
  ¬ IsFed cs
  := by
  rintro ⟨ds, -, rfl⟩
  apply h.getLast?_ne
  simp

theorem isUuid_iff_isGrouped_or_isFed :
  Check.isUuid s = true ↔ IsGrouped s.toList ∨ IsFed s.toList
  := by
  rw [isUuid_iff, IsFed]
  constructor
  · rintro ⟨cs, h, hs | hs⟩
    · left
      rwa [hs]
    · right
      exact ⟨cs, h, hs⟩
  · rintro (h | ⟨cs, h, hs⟩)
    · exact ⟨_, h, .inl rfl⟩
    · exact ⟨cs, h, .inr hs⟩

end Uuid

/-! ### Where issues are -/

namespace Checked

variable {α : Type} {c : Checked α} {part name : Text} {path : List Text} {f : Fault}

/-- Of the issues of a member those are found that lead to it. -/
theorem mem_under_iff :
  ⟨part :: path, f⟩ ∈ (c.under name).issues ↔ part = name ∧ ⟨path, f⟩ ∈ c.issues
  := by
  simp only [issues_under, List.mem_map, Issue.under, Issue.mk.injEq, List.cons.injEq]
  constructor
  · rintro ⟨i, hi, ⟨rfl, rfl⟩, rfl⟩
    exact ⟨rfl, hi⟩
  · rintro ⟨rfl, hi⟩
    exact ⟨_, hi, ⟨rfl, rfl⟩, rfl⟩

end Checked

namespace Check

variable {items : List Json} {i : ℕ} {v : Json} {path : List Text} {f : Fault} {s : Text}

/-- The issues at a place in a list are those of the item there. -/
theorem mem_list_iff {α : Type} {read : Json → Checked α} (hv : items[i]? = some v) :
  ⟨toString i :: path, f⟩ ∈ (list read (some (.arr items))).issues
    ↔ ⟨path, f⟩ ∈ (read v).issues
  := by
  rw [list, Checked.issues_all, List.flatMap_map, List.mem_flatMap]
  simp only [Checked.mem_under_iff]
  constructor
  · rintro ⟨⟨w, j⟩, hw, hij, h⟩
    obtain rfl := Nat.repr_injective (Text.ofString_inj.mp hij)
    obtain rfl := Option.some.inj (hv.symm.trans (List.mk_mem_zipIdx_iff_getElem?.mp hw))
    apply h
  · intro h
    exact ⟨⟨v, i⟩, List.mk_mem_zipIdx_iff_getElem?.mpr hv, rfl, h⟩

/-- A text in the place of an id is the one issue that it can be. -/
theorem badUuid_mem_iff :
  ⟨[], .badUuid⟩ ∈ (uuid (some (.str s))).issues ↔ Check.isUuid s = false
  := by
  cases h : isUuid s <;> simp [uuid, item, Checked.andThen, Checked.fault, Checked.issues, h]

end Check

namespace Board

/-- The ids of the tasks and of the entries. -/
def ids (b : Board) : List Text := b.tasks.map (·.id) ++ b.audit.map (·.id)

/-- The issue that the id of the thing in place `i` of the list `name` is no uuid. -/
def idIssue (name : Text) (i : ℕ) : Issue := ⟨[name, toString i, "id"], .badUuid⟩

/-- The text `s` stands in the place of the id of a task or of an entry of a snapshot, namely of the
thing in place `i` of the list `name`. -/
def HasId (v : Json) (name : Text) (i : ℕ) (s : Text) : Prop :=
  (name = "tasks" ∨ name = "audit") ∧ ∃ (m : Members) (items : List Json) (t : Members),
    v = .obj m ∧ m.get? name = some (.arr items) ∧ items[i]? = some (.obj t)
      ∧ t.get? "id" = some (.str s)

theorem mem_task_iff {m : Members} {f : Fault} :
  ⟨["id"], f⟩ ∈ (Task.read (.obj m)).issues ↔ ⟨[], f⟩ ∈ (Check.uuid (m.get? "id")).issues
  := by
  simp [Task.read, Task.check, Task.ofMembers, Members.check, Field.key, Checked.mem_under_iff,
    -Checked.issues_under]

theorem mem_entry_iff {m : Members} {f : Fault} :
  ⟨["id"], f⟩ ∈ (Entry.read (.obj m)).issues ↔ ⟨[], f⟩ ∈ (Check.uuid (m.get? "id")).issues
  := by
  simp [Entry.read, Entry.ofMembers, Members.check, Checked.mem_under_iff, -Checked.issues_under]

theorem idIssue_mem_iff {v : Json} {name : Text} {i : ℕ} {s : Text} (h : HasId v name i s) :
  idIssue name i ∈ (read v).issues ↔ Check.isUuid s = false
  := by
  obtain ⟨hname, m, items, t, rfl, hitems, hitem, hid⟩ := h
  rw [← Check.badUuid_mem_iff, ← hid]
  rcases hname with rfl | rfl
  · rw [← mem_task_iff, ← Check.mem_list_iff hitem, ← hitems]
    simp [idIssue, read, ofMembers, Members.check, Checked.mem_under_iff, -Checked.issues_under]
  · rw [← mem_entry_iff, ← Check.mem_list_iff hitem, ← hitems]
    simp [idIssue, read, ofMembers, Members.check, Checked.mem_under_iff, -Checked.issues_under]

theorem isUuid_of_mem_ids {v : Json} {b : Board} (h : read v = .ok b) {id : Text}
    (hid : id ∈ b.ids) :
  Check.isUuid id = true
  := by
  rcases List.mem_append.mp hid with hid | hid
  · obtain ⟨t, ht, rfl⟩ := List.mem_map.mp hid
    apply (valid_of_read h t ht).id
  · obtain ⟨e, he, rfl⟩ := List.mem_map.mp hid
    apply (valid_of_mem_audit h he).id

/-- How the issue of an id is shown. -/
theorem shown_idIssue {name : Text} (hname : name ≠ "") (i : ℕ) :
  (idIssue name i).shown = (name ++ "." ++ toString i ++ ".id", some ("Invalid uuid" : Text))
  := by
  have hpath : (idIssue name i).path.filter (· ≠ ("" : Text)) = [name, ↑(toString i), "id"] := by
    have hi := Issue.toString_ne_empty i
    simp_all [idIssue]
  rw [Issue.shown, Issue.pathText, hpath, Text.intercalate_cons_cons,
    Text.intercalate_cons_cons, Text.intercalate_singleton]
  simp only [Text.append_assoc]
  rfl

/-- The ids of what was read are uuids of 36 characters, save for those with a line feed behind
them, and each text in the place of an id is an issue there unless it is of one of these two
forms. -/
theorem ids_grouped_iff (v : Json) :
  (∀ b, read v = .ok b →
      ∀ id ∈ b.ids, id.length = 36 ∧ Uuid.IsGrouped id.toList ↔ ¬ Uuid.IsFed id.toList)
    ∧ ∀ name i s, HasId v name i s →
      (idIssue name i).shown = (name ++ "." ++ toString i ++ ".id", some ("Invalid uuid" : Text))
        ∧ (idIssue name i ∈ (read v).issues
          ↔ ¬ Uuid.IsGrouped s.toList ∧ ¬ Uuid.IsFed s.toList)
  := by
  constructor
  · intro b h id hid
    have hform := Uuid.isUuid_iff_isGrouped_or_isFed.mp (isUuid_of_mem_ids h hid)
    constructor
    · rintro ⟨-, hgrouped⟩
      apply hgrouped.not_isFed
    · intro hfed
      have hgrouped := hform.resolve_right hfed
      exact ⟨hgrouped.length_eq, hgrouped⟩
  · intro name i s h
    constructor
    · apply shown_idIssue
      rcases h.1 with rfl | rfl <;> decide
    · rw [idIssue_mem_iff h, ← Bool.not_eq_true, Uuid.isUuid_iff_isGrouped_or_isFed, not_or]

/-- A uuid with a line feed behind it. -/
def fedId : Text := "aaaaaaaa-bbbb-4ccc-8ddd-eeeeeeeeeeee\n"

/-- A board with a task of this id. -/
def fed : Board := ⟨pruned.tasks.map fun t => { t with id := fedId }, [], false⟩

theorem isFed_fedId :
  Uuid.IsFed fedId.toList
  := by
  have hform : Check.isUuid "aaaaaaaa-bbbb-4ccc-8ddd-eeeeeeeeeeee" = true := by decide
  rcases Uuid.isUuid_iff_isGrouped_or_isFed.mp hform with hgrouped | ⟨ds, -, hfeed⟩
  · exact ⟨_, hgrouped, by decide⟩
  · have hlast := congrArg List.getLast? hfeed
    rw [List.getLast?_concat] at hlast
    exact absurd hlast (by decide)

theorem read_fed :
  read fed.toJson = .ok fed
  := by
  apply read_toJson_of_valid
  · intro t ht
    obtain ⟨u, hu, rfl⟩ := List.mem_map.mp ht
    apply (valid_pruned u hu).renamed
    apply Uuid.isUuid_iff_isGrouped_or_isFed.mpr (.inr isFed_fedId)
  · simp [fed]

/-- The id of the task is no uuid, and yet no issue; another text is one. -/
theorem ids_grouped_fed :
  read fed.toJson = .ok fed ∧ ¬ (fedId.length = 36 ∧ Uuid.IsGrouped fedId.toList)
    ∧ HasId (.obj [("tasks", .arr [.obj [("id", .str "7")]])]) "tasks" 0 "7"
    ∧ idIssue "tasks" 0 ∈ (read (.obj [("tasks", .arr [.obj [("id", .str "7")]])])).issues
  := by
  have hid : HasId (.obj [("tasks", .arr [.obj [("id", .str "7")]])]) "tasks" 0 "7" :=
    ⟨.inl rfl, _, _, _, rfl, rfl, rfl, rfl⟩
  have hissue := (ids_grouped_iff _).2 _ _ _ hid
  refine ⟨read_fed, ?_, hid, hissue.2.mpr ⟨?_, ?_⟩⟩
  · rw [(ids_grouped_iff fed.toJson).1 fed read_fed fedId (by decide), not_not]
    apply isFed_fedId
  · intro h
    exact absurd h.length_eq (by decide)
  · rintro ⟨ds, h, hseven⟩
    have hlength := congrArg List.length hseven
    rw [List.length_append, h.length_eq] at hlength
    exact absurd hlength (by decide)

/-- A snapshot is accepted with an id that has a line feed behind its 36 characters. -/
theorem not_grouped_fed :
  ∃ v b, read v = .ok b ∧ ∃ id ∈ b.ids, id.length = 37 ∧ ¬ Uuid.IsGrouped id.toList
  := by
  refine ⟨fed.toJson, fed, read_fed, fedId, by decide, by decide, ?_⟩
  intro h
  exact absurd h.length_eq (by decide)

end Board

end Kanban
