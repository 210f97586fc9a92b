import Kanban.Proofs.Board.Lines
import Kanban.Proofs.Task

/-!
# The checks of a task, field by field

Each field of a task is checked on its own.  A check of a single value finds at most one issue
(`Checked.Lone`), since a check that needs the value of another is made only where the other
succeeds, and only a list of tags may have more than one.  So the lines of a task are those of its
fields in the order in which they are written, and a change of one field leaves those of the others
where they are.

This ends where a priority or a column holds an integer that is too long to be shown: then none of
the fields has its lines any more, though nothing else has changed (`Task.byField_iff`).
-/

namespace Kanban

open Checked

namespace Field

/-- The check of a field by the value of its member, if there is one. -/
def check (f : Field) (v : Option Json) : Checked Unit :=
  let c : Checked Unit :=
    match f with
    | .id => (Check.uuid v).map fun _ => ()
    | .title => (Check.title v).map fun _ => ()
    | .description => (Check.optionalText v).map fun _ => ()
    | .priority => (Check.priority v).map fun _ => ()
    | .tags => (Check.list Check.item v).map fun _ => ()
    | .estimate => (Check.estimate v).map fun _ => ()
    | .createdAt => (Check.time f.key v).map fun _ => ()
    | .dueAt => (Check.optionalTime f.key v).map fun _ => ()
    | .column => (Check.column v).map fun _ => ()
    | .reviewerNote => (Check.optionalText v).map fun _ => ()
    | .score => (Check.score v).map fun _ => ()
    | .scoreComment => (Check.optionalText v).map fun _ => ()
  c.under f.key

theorem key_ne_empty (f : Field) :
  f.key ≠ ""
  := by
  cases f <;> decide

/-- Only the elements of a list of tags may be more than one issue. -/
theorem shown_check_lone (f : Field) (v : Option Json)
    (hv : (f.check v).Told) (h : f = .tags → ∀ items, v ≠ some (.arr items)) :
  (f.check v).shown = [] ∨ ∃ message, (f.check v).shown = [(f.key, some message)]
  := by
  apply Lone.shown_under (key_ne_empty f)
  cases f with
  | id => apply Check.lone_uuid.map
  | title => apply Check.lone_title.map
  | priority =>
      rw [check, told_under, told_map] at hv
      apply (Check.lone_oneOf (Check.told_oneOf_iff.mp hv)).map
  | tags => apply (Check.lone_list (h rfl)).map
  | estimate => apply Check.lone_estimate.map
  | createdAt => apply Check.lone_time.map
  | dueAt => apply Check.lone_optionalTime.map
  | column =>
      rw [check, told_under, told_map] at hv
      apply (Check.lone_oneOf (Check.told_oneOf_iff.mp hv)).map
  | score => apply Check.lone_score.map
  | description | reviewerNote | scoreComment => apply Check.lone_optionalText.map

/-- Only a priority or a column is shown in an issue, and has to be one that can be. -/
theorem told_check {f : Field} {v : Option Json}
    (h : f = .priority ∨ f = .column → ∀ w ∈ v, w.isShort = true) :
  (f.check v).Told
  := by
  rw [check.eq_def, told_under]
  cases f with
  | id => apply Check.lone_uuid.map.told
  | title => apply Check.lone_title.map.told
  | priority => exact told_map.mpr (Check.told_oneOf_iff.mpr (h (.inl rfl)))
  | tags => exact told_map.mpr (Check.told_list_iff.mpr fun _ _ _ _ => Check.lone_item.told)
  | estimate => apply Check.lone_estimate.map.told
  | createdAt => apply Check.lone_time.map.told
  | dueAt => apply Check.lone_optionalTime.map.told
  | column => exact told_map.mpr (Check.told_oneOf_iff.mpr (h (.inr rfl)))
  | score => apply Check.lone_score.map.told
  | description | reviewerNote | scoreComment => apply Check.lone_optionalText.map.told

/-- A line for each of some tags that is no text, at its place. -/
def tagLines (items : List Json) : List (Text × Text) :=
  items.zipIdx.flatMap fun
    | (.str _, _) => []
    | (v, i) => [("tags." ++ toString i, "Expected string, received " ++ v.kind)]

theorem lines?_check_tags (items : List Json) :
  (check .tags (some (.arr items))).lines? = some (tagLines items)
  := by
  have hmap : (check .tags (some (.arr items))).shown
      = ((Check.list Check.item (some (.arr items))).under Field.tags.key).shown := by
    simp [check, Checked.shown]
  rw [lines?_eq_some_iff, hmap, Check.shown_list_under (by decide), tagLines, List.map_flatMap]
  apply List.flatMap_congr
  rintro ⟨v, i⟩ -
  cases v <;> rfl

end Field

/-- If two functions agree on all elements of a list but one, what they make of the list is the
same before and after that element. -/
theorem exists_flatMap_eq_append {α β : Type} {l : List α} (hl : l.Nodup) {a : α} (ha : a ∈ l)
    {f g : α → List β} (hfg : ∀ b, b ≠ a → f b = g b) :
  ∃ front back, l.flatMap f = front ++ f a ++ back ∧ l.flatMap g = front ++ g a ++ back
  := by
  obtain ⟨s, t, rfl⟩ := List.append_of_mem ha
  have hnot : a ∉ s ++ t := (List.nodup_middle.mp hl).notMem
  have hs : s.flatMap f = s.flatMap g := by
    apply List.flatMap_congr
    intro b hb
    apply hfg
    rintro rfl
    exact hnot (List.mem_append_left _ hb)
  have ht : t.flatMap f = t.flatMap g := by
    apply List.flatMap_congr
    intro b hb
    apply hfg
    rintro rfl
    exact hnot (List.mem_append_right _ hb)
  use s.flatMap f, t.flatMap f
  simp [hs, ht]

namespace Task

theorem shown_read (m : Members) :
  (read (.obj m)).shown = Field.all.flatMap fun f => (f.check (m.get? f.key)).shown
  := by
  simp [read, check, ofMembers, Checked.shown, Members.check, Field.all, Field.check]

/-- The lines of a task are those of its fields, one after the other.  Those of a field are the
ones that its member has on its own, and they are at most one but for the tags. -/
structure ByField (m : Members) (part : Field → List (Text × Text)) : Prop where
  lines : (read (.obj m)).lines? = some (Field.all.flatMap part)
  each : ∀ f, (f.check (m.get? f.key)).lines? = some (part f)
  lone : ∀ f, (f = .tags → ∀ items, m.get? f.key ≠ some (.arr items)) →
    part f = [] ∨ ∃ message, part f = [(f.key, message)]
  tags : ∀ items, m.get? Field.tags.key = some (.arr items) → part .tags = Field.tagLines items

/-- What the field of one of two tasks has for lines stands in the same place as what it has in the
other, with the same lines before and after it. -/
structure Framed (f : Field) (m m' : Members) (front part part' back : List (Text × Text)) :
    Prop where
  left : (f.check (m.get? f.key)).lines? = some part
  right : (f.check (m'.get? f.key)).lines? = some part'
  lines : (read (.obj m)).lines? = some (front ++ part ++ back)
  lines' : (read (.obj m')).lines? = some (front ++ part' ++ back)

theorem showable_of_lines? {m : Members} {lines : List (Text × Text)}
    (h : (read (.obj m)).lines? = some lines) :
  Showable (.obj m)
  := told_read_iff.mp (exists_lines?_iff.mp ⟨lines, h⟩)

theorem Showable.byField {m : Members} (h : Showable (.obj m)) :
  ∃ part, ByField m part
  := by
  have htold (f : Field) : (f.check (m.get? f.key)).Told := by
    apply Field.told_check
    rintro (rfl | rfl)
    · apply Members.isShort_get?_iff.mpr (h m rfl).1
    · apply Members.isShort_get?_iff.mpr (h m rfl).2
  choose part hpart using fun f => exists_lines?_iff.mpr (htold f)
  use part
  constructor
  · rw [lines?_eq_some_iff, shown_read, List.map_flatMap]
    apply List.flatMap_congr
    intro f _
    apply lines?_eq_some_iff.mp (hpart f)
  · exact hpart
  · intro f hf
    have hshown := lines?_eq_some_iff.mp (hpart f)
    rcases Field.shown_check_lone f _ (htold f) hf with hnone | ⟨message, hone⟩
    · left
      rw [← List.map_eq_nil_iff, ← hshown, hnone]
    · right
      use message
      apply map_told_injective
      rw [← hshown, hone]
      rfl
  · intro items hitems
    apply Option.some.inj
    rw [← hpart .tags, hitems, Field.lines?_check_tags]

/-- The lines of a task are put together from those of its fields exactly if its priority and its
column can be shown, and a change of one field leaves the lines of the others where they are exactly
if this is so before and after it. -/
theorem byField_iff (m : Members) :
  Field.all.map Field.key
      = ["id", "title", "description", "priority", "tags", "estimateMinutes", "createdAt", "dueAt",
        "state", "reviewerNote", "score", "scoreComment"]
    ∧ ((∃ part, ByField m part) ↔ Showable (.obj m))
    ∧ ∀ (f : Field) (m' : Members), (∀ g : Field, g ≠ f → m.get? g.key = m'.get? g.key) →
      ((∃ front part part' back, Framed f m m' front part part' back)
        ↔ Showable (.obj m) ∧ Showable (.obj m'))
  := by
  refine ⟨rfl, ?_, ?_⟩
  · constructor
    · rintro ⟨part, h⟩
      apply showable_of_lines? h.lines
    · apply Showable.byField
  · intro f m' hsame
    constructor
    · rintro ⟨front, part, part', back, h⟩
      exact ⟨showable_of_lines? h.lines, showable_of_lines? h.lines'⟩
    · rintro ⟨hm, hm'⟩
      obtain ⟨part, hpart⟩ := hm.byField
      obtain ⟨part', hpart'⟩ := hm'.byField
      have hothers (g : Field) (hg : g ≠ f) : part g = part' g := by
        apply Option.some.inj
        rw [← hpart.each, ← hpart'.each, hsame g hg]
      obtain ⟨front, back, hlines, hlines'⟩ :=
        exists_flatMap_eq_append Field.nodup_all (Field.mem_all f) hothers
      refine ⟨front, part f, part' f, back, hpart.each f, hpart'.each f, ?_, ?_⟩
      · rw [hpart.lines, hlines]
      · rw [hpart'.lines, hlines']

/-- A title that is too short and one that is missing have a line each in the same place. -/
theorem framed_title :
  (∀ g : Field, g ≠ .title → Members.get? g.key [("title", .str "ab")] = Members.get? g.key [])
    ∧ ∃ front part part' back, Framed .title [("title", .str "ab")] [] front part part' back
  := by
  have hsame (g : Field) (hg : g ≠ .title) :
      Members.get? g.key [("title", .str "ab")] = Members.get? g.key [] := by
    cases g <;> first | rfl | exact absurd rfl hg
  have hshow {m : Members} (hm : Json.isShort (.obj m) = true) : Showable (.obj m) := by
    rintro _ ⟨⟩
    exact ⟨Members.isShort_value hm _, Members.isShort_value hm _⟩
  exact ⟨hsame, ((byField_iff _).2.2 .title _ hsame).mpr ⟨hshow rfl, hshow rfl⟩⟩

/-- A priority of 4301 digits hides the line about the title. -/
theorem not_byField_long :
  (Field.title.check (some (.str "ab"))).lines?
      = some [(("title" : Text), ("String must contain at least 3 character(s)" : Text))]
    ∧ ¬ ∃ part,
      ByField [("title", .str "ab"), ("priority", .num (.int (10 ^ 4300)))] part
  := by
  constructor
  · rfl
  · rintro ⟨part, h⟩
    have hpriority := (showable_of_lines? h.lines _ rfl).1
    revert hpriority
    decide +kernel

end Task

end Kanban
