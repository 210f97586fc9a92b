import Kanban.Proofs.Board.Issue
import Kanban.Proofs.Except

/-!
# The lines of a board

The lines of a board are those of its tasks, its audit log and its review flag, one after the other,
and each task and entry has the lines that it has on its own, under its place in the list.  This
takes for granted that there are lines: where a priority, a column or an action holds an integer
that is too long, that one value leaves the whole board without any (`Board.composes_iff`).
-/

namespace Kanban

open Checked Issue

/-! ### Values that are shown -/

theorem Members.isShort_get?_iff {m : Members} {name : Text} :
  (∀ v ∈ m.get? name, v.isShort = true) ↔ (m.value name).isShort = true
  := by
  rw [Members.value]
  cases m.get? name <;> simp [Json.isShort]

/-- The items of a short list are short. -/
theorem Json.isShort_of_mem {items : List Json} (h : areShort items = true) {v : Json}
    (hv : v ∈ items) :
  v.isShort = true
  := by
  induction items with
  | nil => cases hv
  | cons w items ih =>
      obtain ⟨hw, hitems⟩ := Bool.and_eq_true_iff.mp h
      rcases List.mem_cons.mp hv with rfl | hv
      · exact hw
      · apply ih hitems hv

/-- The members of a short object are short. -/
theorem Members.isShort_value {m : Members} (h : Json.isShort (.obj m) = true) (name : Text) :
  (m.value name).isShort = true
  := by
  induction m with
  | nil => rfl
  | cons p m ih =>
      obtain ⟨hp, hm⟩ := Bool.and_eq_true_iff.mp h
      rw [value, get?]
      split_ifs
      · apply hp
      · apply ih hm

theorem Members.value_eq_arr_iff {m : Members} {name : Text} {items : List Json} :
  m.value name = .arr items ↔ m.get? name = some (.arr items)
  := by
  rw [Members.value]
  cases m.get? name <;> simp

/-- The priority and the column of a task can be shown, whatever they are. -/
def Task.Showable (v : Json) : Prop :=
  ∀ m : Members, v = .obj m →
    (m.value Field.priority.key).isShort = true ∧ (m.value Field.column.key).isShort = true

/-- The action of an entry can be shown, whatever it is. -/
def Entry.Showable (v : Json) : Prop :=
  ∀ m : Members, v = .obj m → (m.value "action").isShort = true

/-- The priorities and columns of all tasks and the actions of all entries can be shown. -/
structure Board.Showable (m : Members) : Prop where
  tasks : ∀ items, m.value "tasks" = .arr items → ∀ v ∈ items, Task.Showable v
  audit : ∀ items, m.value "audit" = .arr items → ∀ v ∈ items, Entry.Showable v

/-- Short values can be shown. -/
theorem Board.showable_of_isShort {m : Members} (h : Json.isShort (.obj m) = true) :
  Showable m
  := by
  have hitem {name : Text} {items : List Json} (hitems : m.value name = .arr items) (v : Json)
      (hv : v ∈ items) : v.isShort = true := by
    have hvalue := Members.isShort_value h name
    rw [hitems] at hvalue
    apply Json.isShort_of_mem hvalue hv
  constructor
  · rintro items hitems v hv m rfl
    have hm := hitem hitems _ hv
    exact ⟨Members.isShort_value hm _, Members.isShort_value hm _⟩
  · rintro items hitems v hv m rfl
    apply Members.isShort_value (hitem hitems _ hv)

theorem Task.told_read_iff {v : Json} :
  (read v).Told ↔ Showable v
  := by
  have htags {o : Option Json} : (Check.list Check.item o).Told :=
    Check.told_list_iff.mpr fun _ _ _ _ => Check.lone_item.told
  cases v with
  | obj m =>
      simp only [read, check, ofMembers, Members.check, told_map, told_seq, told_fmap, told_under,
        Check.lone_uuid.told, Check.lone_title.told, Check.lone_optionalText.told,
        Check.told_oneOf_iff, htags, Check.lone_estimate.told, Check.lone_time.told,
        Check.lone_optionalTime.told, Check.lone_score.told, Check.priority, Check.column,
        Members.isShort_get?_iff, true_and, and_true]
      simp [Showable]
  | _ =>
      apply iff_of_true (Lone.fault rfl).told
      rintro _ ⟨⟩

theorem Entry.told_read_iff {v : Json} :
  (read v).Told ↔ Showable v
  := by
  cases v with
  | obj m =>
      simp only [read, ofMembers, Members.check, told_seq, told_fmap, told_under,
        Check.lone_uuid.told, Check.lone_text.told, Check.lone_time.told, Check.told_oneOf_iff,
        Check.told_changes, Check.lone_actorLabel.told, Check.action, Members.isShort_get?_iff,
        true_and, and_true]
      simp [Showable]
  | _ =>
      apply iff_of_true (Lone.fault rfl).told
      rintro _ ⟨⟩

namespace Board

theorem told_read_iff {m : Members} :
  (read (.obj m)).Told ↔ Showable m
  := by
  simp only [read, ofMembers, Members.check, told_seq, told_fmap, told_under,
    Check.told_list_iff, Check.lone_flag.told, and_true, Task.told_read_iff, Entry.told_read_iff,
    ← Members.value_eq_arr_iff]
  constructor
  · rintro ⟨tasks, audit⟩
    exact ⟨tasks, audit⟩
  · rintro ⟨tasks, audit⟩
    exact ⟨tasks, audit⟩

/-- All issues of a short value have words. -/
theorem told_of_isShort {v : Json} (hv : v.isShort = true) :
  (read v).Told
  := by
  cases v with
  | obj m => apply told_read_iff.mpr (showable_of_isShort hv)
  | _ => exact (Lone.fault rfl).told

end Board

/-! ### Lines of lists -/

theorem map_told_injective :
  Function.Injective (List.map (Prod.map id some) : List (Text × Text) → _)
  := List.map_injective_iff.mpr (Function.injective_id.prodMap (Option.some_injective Text))

/-- The lines of the items are what is shown of them, place by place. -/
theorem flatMap_shown {α : Type} {read : Json → Checked α} {items : List Json}
    {parts : List (List (Text × Text))}
    (h : List.Forall₂ (fun v lines => (read v).lines? = some lines) items parts)
    (g : ℕ → Text → Text) (first : ℕ) :
  ((items.zipIdx first).flatMap fun (v, i) => (read v).shown.map (Prod.map (g i) id))
    = ((parts.zipIdx first).flatMap fun (lines, i) => lines.map (Prod.map (g i) id)).map
      (Prod.map id some)
  := by
  induction h generalizing first with
  | nil => rfl
  | cons hv _ ih =>
      rw [List.zipIdx_cons, List.zipIdx_cons, List.flatMap_cons, List.flatMap_cons, ih,
        List.map_append]
      dsimp only
      rw [lines?_eq_some_iff.mp hv, List.map_map, List.map_map]
      rfl

/-- The lines of a list under a name are those of its items, each under the name and its place. -/
theorem Check.exists_parts {α : Type} {read : Json → Checked α} {name : Text} (hname : name ≠ "")
    {items : List Json} {lines : List (Text × Text)}
    (h : ((list read (some (.arr items))).under name).lines? = some lines) :
  ∃ parts, List.Forall₂ (fun v lines => (read v).lines? = some lines) items parts
    ∧ lines = parts.zipIdx.flatMap fun (lines, i) =>
      lines.map (Prod.map (within (name ++ "." ++ toString i)) id)
  := by
  have htold : ∀ v ∈ items, ∃ lines, (read v).lines? = some lines := by
    intro v hv
    apply exists_lines?_iff.mpr
    have h := exists_lines?_iff.mp ⟨_, h⟩
    rw [told_under, told_list_iff] at h
    apply h items rfl v hv
  obtain ⟨parts, hparts⟩ := exists_forall₂_iff.mpr htold
  refine ⟨parts, hparts, map_told_injective ?_⟩
  rw [← lines?_eq_some_iff.mp h, shown_list_under hname]
  apply flatMap_shown hparts (fun i => within (name ++ "." ++ toString i))

namespace Board

/-! ### The parts of a board -/

/-- The lines about the tasks of a board, by the value of that member. -/
def taskLines? (v : Option Json) : Option (List (Text × Text)) :=
  ((Check.list Task.read v).under "tasks").lines?

/-- The lines about the audit log of a board, by the value of that member. -/
def auditLines? (v : Option Json) : Option (List (Text × Text)) :=
  ((Check.list Entry.read v).under "audit").lines?

/-- The lines about the review flag of a board, by the value of that member. -/
def modeLines? (v : Option Json) : Option (List (Text × Text)) :=
  ((Check.flag v).under "reviewMode").lines?

/-- A path into the first entry of a log, leading to the same place in another entry. -/
def renumber (i : ℕ) (path : Text) : Text :=
  "audit." ++ toString i ++ Text.ofList (path.toList.drop (Text.length "audit.0"))

theorem renumber_within (i : ℕ) (path : Text) :
  renumber i (within "audit.0" path) = within ("audit." ++ toString i) path
  := by
  obtain ⟨rest, hrest⟩ := exists_within path
  rw [hrest, hrest, renumber, Text.toList_append, List.drop_left' (by rfl), Text.ofList_toList]

/-- The lines of the board are those of its parts, in order; those of its tasks are the ones that
each task has on its own, and those of the audit log the ones that each entry has as the only one of
a log, with its place for that of the first. -/
structure Composes (m : Members) (tasks audit mode : List (Text × Text)) : Prop where
  lines : (read (.obj m)).lines? = some (tasks ++ audit ++ mode)
  tasksPart : taskLines? (m.get? "tasks") = some tasks
  auditPart : auditLines? (m.get? "audit") = some audit
  modePart : modeLines? (m.get? "reviewMode") = some mode
  eachTask : ∀ items, m.value "tasks" = .arr items →
    ∃ parts, List.Forall₂ (fun v lines => (Task.read v).lines? = some lines) items parts
      ∧ tasks = parts.zipIdx.flatMap fun (lines, i) =>
        lines.map (Prod.map (within ("tasks." ++ toString i)) id)
  eachEntry : ∀ items, m.value "audit" = .arr items →
    ∃ parts,
      List.Forall₂ (fun v lines => auditLines? (some (.arr [v])) = some lines) items parts
      ∧ (∀ lines ∈ parts, ∃ rest : List (Text × Text),
        lines = rest.map (Prod.map (fun path : Text => "audit.0" ++ path) id))
      ∧ audit = parts.zipIdx.flatMap fun (lines, i) => lines.map (Prod.map (renumber i) id)
  accepted : (∃ b, read (.obj m) = .ok b) ↔ tasks ++ audit ++ mode = []

theorem shown_ofMembers (m : Members) :
  (read (.obj m)).shown
    = ((Check.list Task.read (m.get? "tasks")).under "tasks").shown
      ++ ((Check.list Entry.read (m.get? "audit")).under "audit").shown
      ++ ((Check.flag (m.get? "reviewMode")).under "reviewMode").shown
  := by
  simp [read, ofMembers, Checked.shown, Members.check]

/-- A log of one entry has the lines of that entry, in the first place. -/
theorem auditLines?_singleton {v : Json} {lines : List (Text × Text)}
    (h : (Entry.read v).lines? = some lines) :
  auditLines? (some (.arr [v])) = some (lines.map (Prod.map (within "audit.0") id))
  := by
  have hzero : ("audit" ++ "." ++ toString 0 : Text) = "audit.0" := by decide
  rw [auditLines?, lines?_eq_some_iff, Check.shown_list_under (by decide), List.zipIdx_singleton,
    List.flatMap_singleton]
  dsimp only
  rw [hzero, lines?_eq_some_iff.mp h, List.map_map, List.map_map]
  rfl

theorem Showable.composes {m : Members} (h : Showable m) :
  ∃ tasks audit mode, Composes m tasks audit mode
  := by
  have htold := told_read_iff.mpr h
  simp only [read, ofMembers, Members.check, told_seq, told_fmap] at htold
  obtain ⟨⟨htasks, haudit⟩, hmode⟩ := htold
  obtain ⟨tasks, htasks⟩ := exists_lines?_iff.mpr htasks
  obtain ⟨audit, haudit⟩ := exists_lines?_iff.mpr haudit
  obtain ⟨mode, hmode⟩ := exists_lines?_iff.mpr hmode
  have hlines : (read (.obj m)).shown = (tasks ++ audit ++ mode).map (Prod.map id some) := by
    rw [shown_ofMembers, lines?_eq_some_iff.mp htasks, lines?_eq_some_iff.mp haudit,
      lines?_eq_some_iff.mp hmode, List.map_append, List.map_append]
  refine ⟨tasks, audit, mode, lines?_eq_some_iff.mpr hlines, htasks, haudit, hmode, ?_, ?_, ?_⟩
  · intro items hitems
    rw [Members.value_eq_arr_iff.mp hitems] at htasks
    apply Check.exists_parts (by decide) htasks
  · intro items hitems
    rw [Members.value_eq_arr_iff.mp hitems] at haudit
    obtain ⟨parts, hparts, rfl⟩ := Check.exists_parts (by decide) haudit
    refine ⟨parts.map (List.map (Prod.map (within "audit.0") id)), ?_, ?_, ?_⟩
    · apply List.forall₂_map_right_iff.mpr
      apply hparts.imp
      intro v lines hv
      apply auditLines?_singleton hv
    · intro lines hmem
      obtain ⟨part, -, rfl⟩ := List.mem_map.mp hmem
      use part.map (Prod.map (within "") id)
      rw [List.map_map]
      apply List.map_congr_left
      rintro ⟨path, message⟩ -
      obtain ⟨rest, hrest⟩ := exists_within path
      simp [hrest]
    · rw [List.zipIdx_map, List.flatMap_map]
      apply List.flatMap_congr
      rintro ⟨part, i⟩ -
      dsimp only [Prod.map]
      rw [List.map_map]
      apply List.map_congr_left
      rintro ⟨path, message⟩ -
      exact Prod.ext (renumber_within i path).symm rfl
  · rw [← shown_eq_nil_iff, hlines, List.map_eq_nil_iff]

/-- The lines of a board are put together from those of its parts exactly if its priorities, columns
and actions can be shown. -/
theorem composes_iff {m : Members} :
  (∃ tasks audit mode, Composes m tasks audit mode) ↔ Showable m
  := by
  constructor
  · rintro ⟨tasks, audit, mode, h⟩
    apply told_read_iff.mp
    apply exists_lines?_iff.mp ⟨_, h.lines⟩
  · apply Showable.composes

/-- One priority of 4301 digits leaves a board without lines, though its first task alone has
some. -/
theorem not_composes_long :
  (∃ lines, (Task.read (.obj [])).lines? = some lines)
    ∧ ¬ ∃ tasks audit mode,
      Composes [("tasks", .arr [.obj [], .obj [("priority", .num (.int (10 ^ 4300)))]])]
        tasks audit mode
  := by
  constructor
  · apply exists_lines?_iff.mpr
    apply Task.told_read_iff.mpr
    rintro m ⟨⟩
    exact ⟨rfl, rfl⟩
  · rintro ⟨tasks, audit, mode, h⟩
    have hshow := told_read_iff.mp (exists_lines?_iff.mp ⟨_, h.lines⟩)
    have hpriority := (hshow.tasks _ rfl _ (List.mem_cons_of_mem _ List.mem_cons_self) _ rfl).1
    revert hpriority
    decide +kernel

end Board

end Kanban
