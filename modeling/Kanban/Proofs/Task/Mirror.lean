import Kanban.Proofs.Json.Edit
import Kanban.Proofs.Task

/-!
# Members that mirror a task

Members mirror a task when they agree with its written form, field by field, and hold nothing
else.  Editing some of the fields gives members that mirror the edited task
(`Mirrors.edit`), even if another number is left as it was because it has the same value.  How
numbers are compared is left open, as long as numbers of the same value cannot be told apart
(`Number.Compares`).
-/

namespace Kanban

/-! ### Comparisons of numbers -/

/-- A comparison by which a number with a value is equal to itself, and which cannot tell apart
numbers of the same value. -/
structure Number.Compares (eq : Number → Number → Bool) : Prop where
  refl : ∀ {n : Number}, n.IsValue → eq n n = true
  trans : ∀ {l m n : Number}, eq l m = true → m.same n = true → eq l n = true

theorem Number.compares_alike :
  Compares Number.alike
  := by
  constructor
  · intro n _
    rw [Number.alike_iff]
  · intro l m n h h'
    rw [Number.alike_iff] at h ⊢
    obtain ⟨p, hm, hn⟩ := Number.same_iff.mp h'
    rw [h, hm, hn]

theorem Number.compares_same :
  Compares Number.same
  := by
  constructor
  · intro n hn
    apply Number.same_self_iff.mpr hn
  · apply Number.same_trans

variable {eq : Number → Number → Bool} {m : Members} {t u : Task}

/-- The numbers of a task are equal to themselves. -/
structure Task.Reflexive (eq : Number → Number → Bool) (t : Task) : Prop where
  estimate : eq t.estimate t.estimate = true
  score : ∀ n ∈ t.score, eq n n = true

theorem Task.reflexive_alike (t : Task) :
  t.Reflexive Number.alike
  := by
  constructor
  · rw [Number.alike_iff]
  · intro n _
    rw [Number.alike_iff]

theorem Number.Compares.reflexive (heq : Number.Compares eq) (ht : t.Valid) :
  t.Reflexive eq
  := by
  constructor
  · apply heq.refl (Number.isValue_of_isFinite ht.estimate.1)
  · intro n hn
    apply heq.refl (Number.isValue_of_isFinite (ht.score n hn).1)

/-! ### Values of fields -/

theorem Json.agree_ofText?_iff {v : Json} {s : Option Text} :
  v.agree eq (.ofText? s) = true ↔ v = .ofText? s
  := by
  cases s <;> simp [Json.ofText?]

theorem Json.agree_strs_iff {v : Json} {ss : List Text} :
  v.agree eq (.strs ss) = true ↔ v = .strs ss
  := by
  constructor
  · intro h
    cases v with
    | arr vs =>
        have hitems := List.forall₂_map_right_iff.mp (Json.agree_arr_iff.mp h)
        rw [Json.strs, Json.arr.injEq]
        rw [← List.forall₂_eq_eq_eq, List.forall₂_map_right_iff]
        apply hitems.imp
        intro x s hx
        apply Json.agree_str_iff.mp hx
    | _ => cases h
  · rintro rfl
    apply Json.agree_arr_iff.mpr
    apply List.forall₂_same.mpr
    intro x hx
    obtain ⟨s, -, rfl⟩ := List.mem_map.mp hx
    rw [Json.agree_str_iff]

theorem Json.agree_num_iff {v : Json} {n : Number} :
  v.agree eq (.num n) = true ↔ ∃ m, v.number? = some m ∧ eq m n = true
  := by
  cases v <;> simp [Json.agree, Json.number?]

/-- A field of a task that is no number agrees only with itself. -/
theorem Task.agree_record_iff
    {f : Field} (hestimate : f ≠ .estimate) (hscore : f ≠ .score) {v : Json} :
  v.agree eq (t.record f) = true ↔ v = t.record f
  := by
  cases f with
  | estimate => contradiction
  | score => contradiction
  | description => apply Json.agree_ofText?_iff
  | dueAt => apply Json.agree_ofText?_iff
  | reviewerNote => apply Json.agree_ofText?_iff
  | scoreComment => apply Json.agree_ofText?_iff
  | tags => apply Json.agree_strs_iff
  | _ => apply Json.agree_str_iff

theorem Task.Reflexive.agree_record (ht : t.Reflexive eq) (f : Field) :
  (t.record f).agree eq (t.record f) = true
  := by
  cases f with
  | estimate => apply ht.estimate
  | score =>
      change Json.agree eq ((t.score.map Json.num).getD .null) ((t.score.map Json.num).getD .null)
        = true
      cases hscore : t.score with
      | none => rfl
      | some n => apply ht.score n hscore
  | _ =>
      rw [Task.agree_record_iff (by simp) (by simp)]

theorem Number.Compares.agree_num_trans (heq : Number.Compares eq) {v : Json} {n n' : Number}
    (h : v.agree eq (.num n) = true) (hsame : n.same n' = true) :
  v.agree eq (.num n') = true
  := by
  obtain ⟨m, hm, hn⟩ := Json.agree_num_iff.mp h
  apply Json.agree_num_iff.mpr ⟨m, hm, heq.trans hn hsame⟩

/-- A value that agrees with a field agrees with whatever has the same value as that field. -/
theorem Number.Compares.agree_trans (heq : Number.Compares eq) {v : Json} {f : Field}
    (h : v.agree eq (t.record f) = true) (hsame : (t.record f).same (u.record f) = true) :
  v.agree eq (u.record f) = true
  := by
  rw [← Json.agree_same] at hsame
  cases f with
  | estimate => apply heq.agree_num_trans h hsame
  | score =>
      change v.agree eq ((t.score.map Json.num).getD .null) = true at h
      change Json.agree Number.same ((t.score.map Json.num).getD .null)
        ((u.score.map Json.num).getD .null) = true at hsame
      change v.agree eq ((u.score.map Json.num).getD .null) = true
      cases ht : t.score with
      | none =>
          rw [ht] at h hsame
          rw [Json.null_agree_iff.mp hsame]
          apply h
      | some n =>
          rw [ht] at h hsame
          cases hu : u.score with
          | none =>
              rw [hu] at hsame
              cases hsame
          | some n' =>
              rw [hu] at hsame
              apply heq.agree_num_trans h hsame
  | _ =>
      rw [Task.agree_record_iff (by simp) (by simp)] at h hsame ⊢
      rw [h, hsame]

/-! ### Members that mirror a task -/

/-- Members that agree with a task in all fields, and have no others. -/
structure Mirrors (eq : Number → Number → Bool) (m : Members) (t : Task) : Prop where
  tidy : m.Tidy
  fields : ∀ f : Field, (m.value f.key).agree eq (t.record f) = true
  rest : ∀ name, (∀ f : Field, f.key ≠ name) → m.value name = .null

theorem Record.tidy_members (r : Record) :
  r.members.Tidy
  := by
  constructor
  · apply r.nodup_names_members
  · intro p hp
    obtain ⟨f, rfl, hf⟩ := Record.mem_members hp
    rwa [← Bool.not_eq_true, Record.isNull_iff]

theorem Record.value_members_rest (r : Record) {name : Text} (h : ∀ f : Field, f.key ≠ name) :
  r.members.value name = .null
  := by
  rw [Members.value]
  cases hget : r.members.get? name with
  | none => rfl
  | some v =>
      obtain ⟨f, hf, -⟩ := Record.mem_members (Members.mem_of_get? hget)
      cases h f (congrArg Prod.fst hf).symm

theorem Task.Reflexive.mirrors (ht : t.Reflexive eq) :
  Mirrors eq t.record.members t
  := by
  constructor
  · apply Record.tidy_members
  · intro f
    rw [Record.value_members]
    apply ht.agree_record
  · intro name h
    apply Record.value_members_rest _ h

theorem Mirrors.agree (h : Mirrors eq m t) :
  (Json.obj m).agree eq t.toJson = true
  := by
  apply h.tidy.agree t.record.tidy_members
  intro name
  by_cases hname : ∃ f : Field, f.key = name
  · obtain ⟨f, rfl⟩ := hname
    rw [Record.value_members]
    apply h.fields
  · rw [not_exists] at hname
    rw [h.rest name hname, Record.value_members_rest _ hname, Json.agree_null_iff]

/-- The changes of some fields from one task to another. -/
def Task.changes (t u : Task) (fs : List Field) : List Change :=
  fs.map fun f => ⟨f.key, t.record f, u.record f⟩

theorem Mirrors.check (h : Mirrors eq m t) (u : Task) (fs : List Field) :
  ((t.changes u fs).all fun c => (m.value c.field).agree eq c.before) = true
  := by
  rw [List.all_eq_true]
  intro c hc
  obtain ⟨f, -, rfl⟩ := List.mem_map.mp hc
  apply h.fields

/-- Members mirror a task after the changes of some fields to those of the task, if it does not
matter for the other fields which task is mirrored. -/
theorem Mirrors.edit (h : Mirrors eq m t) {fs : List Field} (hnodup : fs.Nodup)
    (hchanged : ∀ f ∈ fs, (u.record f).agree eq (u.record f) = true)
    (hkept : ∀ f ∉ fs, ∀ v : Json, v.agree eq (t.record f) = true →
      v.agree eq (u.record f) = true) :
  Mirrors eq (m.edit (t.changes u fs)) u
  := by
  have hfields : (t.changes u fs).map Change.field = fs.map Field.key := by
    rw [Task.changes, List.map_map]
    rfl
  have hnames : ((t.changes u fs).map Change.field).Nodup := by
    rw [hfields]
    apply hnodup.map fun f g => Field.key_injective
  constructor
  · apply h.tidy.edit
  · intro f
    by_cases hf : f ∈ fs
    · have hmem : ⟨f.key, t.record f, u.record f⟩ ∈ t.changes u fs := List.mem_map_of_mem hf
      have hvalue := Members.value_edit_of_mem hnames hmem m
      dsimp only at hvalue
      rw [hvalue]
      apply hchanged f hf
    · rw [Members.value_edit_of_not_mem]
      · apply hkept f hf _ (h.fields f)
      · rw [hfields]
        intro hkey
        obtain ⟨g, hg, hgf⟩ := List.mem_map.mp hkey
        rw [Field.key_injective hgf] at hg
        apply hf hg
  · intro name hname
    rw [Members.value_edit_of_not_mem]
    · apply h.rest name hname
    · rw [hfields]
      intro hkey
      obtain ⟨f, -, hf⟩ := List.mem_map.mp hkey
      apply hname f hf

end Kanban
