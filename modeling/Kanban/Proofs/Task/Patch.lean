import Kanban.Proofs.Board.Command
import Kanban.Proofs.Json.Equality
import Kanban.Proofs.Task.Mirror

/-!
# Changes as patches

The changes between two records name exactly the fields that may change and differ, and lead from
the one record to the other: carried out on the written form of the first they give the fields of
the second, and taken back they give those of the first again (`Change.ExactPatch`).  Two lists of
changes in a row do what the changes from the start to the end do (`Change.exactPatch_between`).
Values are compared by `Json.same`, which is an equivalence on records of definite values.
-/

namespace Kanban

/-! ### The fields that may change -/

/-- The names of the fields that may change, in the order in which changes are listed. -/
def Field.mutableNames : List Text :=
  ["title", "description", "priority", "tags", "estimateMinutes", "dueAt", "state",
    "reviewerNote", "score", "scoreComment"]

theorem Field.mutableNames_eq :
  mutableNames = mutable.map key
  := rfl

/-- The members under the names of fields that may change. -/
def Members.mutable (m : Members) : Members := m.filter (·.1 ∈ Field.mutableNames)

theorem Members.value_mutable (m : Members) (name : Text) :
  m.mutable.value name = if name ∈ Field.mutableNames then m.value name else .null
  := by
  rw [value]
  rw [mutable, get?_filter (fun k => decide (k ∈ Field.mutableNames))]
  split_ifs <;> simp_all [value]

theorem Members.Tidy.mutable {m : Members} (h : m.Tidy) :
  m.mutable.Tidy
  := by
  constructor
  · apply h.nodup.sublist ((List.filter_sublist ..).map _)
  · intro p hp
    apply h.present p (List.mem_of_mem_filter hp)

/-- The fields that may change are the same when each of them has the same value. -/
theorem Members.same_mutable {m m' : Members} (h : m.Tidy) (h' : m'.Tidy)
    (hvalues : ∀ f ∈ Field.mutable, (m.value f.key).same (m'.value f.key) = true) :
  (Json.obj m.mutable).same (.obj m'.mutable) = true
  := by
  rw [← Json.agree_same]
  apply h.mutable.agree h'.mutable
  intro name
  rw [Json.agree_same, value_mutable, value_mutable, Field.mutableNames_eq]
  split_ifs with hname
  · obtain ⟨f, hf, rfl⟩ := List.mem_map.mp hname
    apply hvalues f hf
  · rfl

/-! ### Records of definite values -/

/-- All values of a record are definite. -/
def Record.Definite (r : Record) : Prop := ∀ f, (r f).Definite

/-- The record of a task is definite when its numbers have values. -/
theorem Task.definite_record {t : Task} (hestimate : t.estimate.IsValue)
    (hscore : ∀ n ∈ t.score, n.IsValue) :
  t.record.Definite
  := by
  have htext (s : Option Text) : (Json.ofText? s).Definite := by
    cases s <;> trivial
  intro f
  cases f with
  | description => apply htext
  | dueAt => apply htext
  | reviewerNote => apply htext
  | scoreComment => apply htext
  | tags =>
      apply Json.definite_arr_iff.mpr
      intro x hx
      obtain ⟨s, -, rfl⟩ := List.mem_map.mp hx
      trivial
  | estimate => apply hestimate
  | score =>
      change Json.Definite ((t.score.map Json.num).getD .null)
      cases h : t.score with
      | none => trivial
      | some n => apply hscore n h
  | _ => trivial

namespace Change

variable {a b c : Record}

/-! ### What the changes do -/

/-- The change back. -/
def inverse (c : Change) : Change := ⟨c.field, c.after, c.before⟩

theorem mem_between_iff {c : Change} :
  c ∈ between a b
    ↔ ∃ f ∈ Field.mutable, (a f).same (b f) = false ∧ c = ⟨f.key, a f, b f⟩
  := by
  rw [between, List.mem_map]
  constructor
  · rintro ⟨f, hf, rfl⟩
    obtain ⟨hf, hdiffers⟩ := List.mem_filter.mp hf
    exact ⟨f, hf, by simpa using hdiffers, rfl⟩
  · rintro ⟨f, hf, hdiffers, rfl⟩
    exact ⟨f, List.mem_filter.mpr ⟨hf, by simp [hdiffers]⟩, rfl⟩

/-- A field that may change has its new value after the changes if it differs; every other field
is as it was. -/
theorem value_edit_between (m : Members) (f : Field) :
  (m.edit (between a b)).value f.key
    = if f ∈ Field.mutable ∧ (a f).same (b f) = false then b f else m.value f.key
  := by
  split_ifs with h
  · have hmem : ⟨f.key, a f, b f⟩ ∈ between a b := mem_between_iff.mpr ⟨f, h.1, h.2, rfl⟩
    apply Members.value_edit_of_mem (Board.nodup_names_between a b) hmem
  · apply Members.value_edit_of_not_mem
    intro hname
    obtain ⟨c, hc, hkey⟩ := List.mem_map.mp hname
    obtain ⟨g, hg, hdiffers, rfl⟩ := mem_between_iff.mp hc
    obtain rfl := Field.key_injective hkey
    apply h ⟨hg, hdiffers⟩

/-- Where the values before the changes were those of the first record, they are those of the
second one afterwards. -/
theorem same_edit_between (hb : b.Definite) {m : Members} {f : Field} (hf : f ∈ Field.mutable)
    (hm : (m.value f.key).same (a f) = true) :
  ((m.edit (between a b)).value f.key).same (b f) = true
  := by
  rw [value_edit_between]
  split_ifs with h
  · apply (hb f).same_self
  · have hsame : (a f).same (b f) = true := by simpa [hf] using h
    apply Json.same_trans hm hsame

theorem same_comm (ha : a.Definite) (hb : b.Definite) (f : Field) :
  (b f).same (a f) = (a f).same (b f)
  := by
  rw [Bool.eq_iff_iff]
  exact ⟨(hb f).same_symm (ha f), (ha f).same_symm (hb f)⟩

/-- The changes back are those between the records in the other order. -/
theorem between_comm (ha : a.Definite) (hb : b.Definite) :
  between b a = (between a b).map inverse
  := by
  rw [between, between, List.map_map]
  simp only [same_comm ha hb]
  rfl

/-! ### Exact patches -/

/-- The changes between two records are an exact patch of their written forms. -/
structure ExactPatch (a b : Record) : Prop where
  /-- The names are those under which the written forms differ, where `null` stands for a member
  that is missing. -/
  names : (between a b).map Change.field
    = Field.mutableNames.filter fun name => !(a.members.value name).same (b.members.value name)
  values : ∀ c ∈ between a b,
    c.before = a.members.value c.field ∧ c.after = b.members.value c.field
  forth : (Json.obj (a.members.edit (between a b)).mutable).same (.obj b.members.mutable) = true
  back : (Json.obj (b.members.edit ((between a b).map inverse)).mutable).same
    (.obj a.members.mutable) = true
  swapped : between b a = (between a b).map inverse

theorem names_between (a b : Record) :
  (between a b).map Change.field
    = Field.mutableNames.filter fun name => !(a.members.value name).same (b.members.value name)
  := by
  rw [between, List.map_map, Field.mutableNames_eq, List.filter_map]
  simp only [Function.comp_def, Record.value_members]

theorem values_between {x : Change} (h : x ∈ between a b) :
  x.before = a.members.value x.field ∧ x.after = b.members.value x.field
  := by
  obtain ⟨f, -, -, rfl⟩ := mem_between_iff.mp h
  constructor
  · apply (Record.value_members a f).symm
  · apply (Record.value_members b f).symm

/-- The changes carried out on the first record give the second one. -/
theorem edit_between (ha : a.Definite) (hb : b.Definite) :
  (Json.obj (a.members.edit (between a b)).mutable).same (.obj b.members.mutable) = true
  := by
  apply Members.same_mutable (a.tidy_members.edit _) b.tidy_members
  intro f hf
  rw [Record.value_members b]
  apply same_edit_between hb hf
  rw [Record.value_members]
  apply (ha f).same_self

/-- Two lists of changes in a row do what the changes from the start to the end do. -/
theorem edit_between_between (ha : a.Definite) (hb : b.Definite) (hc : c.Definite) :
  (Json.obj ((a.members.edit (between a b)).edit (between b c)).mutable).same
    (.obj (a.members.edit (between a c)).mutable) = true
  := by
  have hstart (f : Field) : (a.members.value f.key).same (a f) = true := by
    rw [Record.value_members]
    apply (ha f).same_self
  have hdefinite (f : Field) : ((a.members.edit (between a c)).value f.key).Definite := by
    rw [value_edit_between, Record.value_members]
    split_ifs
    · apply hc
    · apply ha
  apply Members.same_mutable ((a.tidy_members.edit _).edit _) (a.tidy_members.edit _)
  intro f hf
  have htwo := same_edit_between hc hf (same_edit_between hb hf (hstart f))
  have hone := same_edit_between hc hf (hstart f)
  apply Json.same_trans htwo
  apply (hdefinite f).same_symm (hc f) hone

/-- The changes between records of definite values are an exact patch, and patches in a row make up
the patch from the start to the end. -/
theorem exactPatch_between (ha : a.Definite) (hb : b.Definite) (hc : c.Definite) :
  ExactPatch a b
    ∧ (Json.obj ((a.members.edit (between a b)).edit (between b c)).mutable).same
      (.obj (a.members.edit (between a c)).mutable) = true
  := by
  refine ⟨⟨names_between a b, fun _ => values_between, edit_between ha hb, ?_,
    between_comm ha hb⟩, edit_between_between ha hb hc⟩
  rw [← between_comm ha hb]
  apply edit_between hb ha

/-- A task with a score that is an integer. -/
def hedge : Task :=
  ⟨"00000000-0000-4000-8000-000000000001", "Hedge", none, .low, ["garden"], .int 5,
    "2020-01-01T00:00:00Z", none, .todo, none, some (.int 5), none⟩

/-- The task with a description, and with its score as a double. -/
def trimmed : Task :=
  { hedge with
    description := some "Trim it"
    score := some (.float (.finite false (5 <<< 50) (-50) (by decide))) }

/-- The task as it was, but for the column, and without a score. -/
def overgrown : Task := { hedge with column := .done, score := none }

/-- The description comes and goes; the score does not change before it is dropped. -/
theorem exactPatch_hedge :
  hedge.record.Definite ∧ trimmed.record.Definite ∧ overgrown.record.Definite
    ∧ (between hedge.record trimmed.record).map Change.field = ["description"]
    ∧ (between trimmed.record overgrown.record).map Change.field = ["description", "state", "score"]
    ∧ ExactPatch hedge.record trimmed.record
    ∧ (Json.obj ((hedge.record.members.edit (between hedge.record trimmed.record)).edit
        (between trimmed.record overgrown.record)).mutable).same
      (.obj (hedge.record.members.edit (between hedge.record overgrown.record)).mutable) = true
  := by
  have hhedge : hedge.record.Definite :=
    Task.definite_record rfl (by simp [hedge, Number.IsValue, Number.place?])
  have htrimmed : trimmed.record.Definite :=
    Task.definite_record rfl (by simp [trimmed, Number.IsValue, Number.place?])
  have hovergrown : overgrown.record.Definite := Task.definite_record rfl (by simp [overgrown])
  obtain ⟨hpatch, hrow⟩ := exactPatch_between hhedge htrimmed hovergrown
  exact ⟨hhedge, htrimmed, hovergrown, by decide +kernel, by decide +kernel, hpatch, hrow⟩

end Change

end Kanban
