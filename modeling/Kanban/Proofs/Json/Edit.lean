import Kanban.Audit
import Kanban.Proofs.Json.Comparison
import Kanban.Proofs.Json.RoundTrip

/-!
# Editing members

`Members.set` sets a member, or leaves it out where the value is `null`, and `Members.edit` does
this for a list of changes; the changes decide every value after that.  Members under distinct
names without `null` values agree as objects as soon as they agree in all values
(`Members.Tidy.agree`), whatever the order in which they stand.
-/

namespace Kanban.Members

theorem mem_of_get? {m : Members} {name : Text} {v : Json} (h : m.get? name = some v) :
  (name, v) ∈ m
  := by
  induction m with
  | nil => cases h
  | cons p m ih =>
      rw [get?] at h
      split_ifs at h with hname
      · obtain rfl := Option.some.inj h
        rw [← hname]
        apply List.mem_cons_self
      · apply List.mem_cons_of_mem _ (ih h)

theorem get?_of_mem {m : Members} (h : (m.map Prod.fst).Nodup) {name : Text} {v : Json}
    (hmem : (name, v) ∈ m) :
  m.get? name = some v
  := by
  induction m with
  | nil => cases hmem
  | cons p m ih =>
      rw [List.map_cons, List.nodup_cons] at h
      rw [get?]
      rcases List.mem_cons.mp hmem with rfl | hmem
      · rw [if_pos rfl]
      · have hne : p.1 ≠ name := by
          rintro rfl
          apply h.1 (List.mem_map.mpr ⟨_, hmem, rfl⟩)
        rw [if_neg hne, ih h.2 hmem]

theorem get?_eq_none_iff {m : Members} {name : Text} :
  m.get? name = none ↔ name ∉ m.map Prod.fst
  := by
  induction m with
  | nil => simp [get?]
  | cons p m ih =>
      rw [get?]
      by_cases h : p.1 = name
      · simp [h]
      · rw [if_neg h, ih]
        simp [Ne.symm h]

theorem get?_put (m : Members) (name : Text) (v : Json) (n : Text) :
  (m.put name v).get? n = if n = name then some v else m.get? n
  := by
  induction m with
  | nil => simp [put, get?, eq_comm]
  | cons p m ih =>
      obtain ⟨k, w⟩ := p
      rw [put]
      by_cases hk : k = name
      · rw [if_pos hk, get?, get?]
        grind
      · rw [if_neg hk, get?, get?, ih]
        grind

/-- The members under some of the names. -/
theorem get?_filter (p : Text → Bool) (m : Members) (name : Text) :
  Members.get? name (m.filter fun x => p x.1) = if p name then m.get? name else none
  := by
  induction m with
  | nil => simp [get?]
  | cons x m ih =>
      obtain ⟨k, w⟩ := x
      rw [List.filter_cons, get?]
      by_cases hk : p k = true
      · rw [if_pos hk, get?, ih]
        grind
      · rw [if_neg hk, ih]
        grind

theorem get?_filter_ne (m : Members) (name n : Text) :
  Members.get? n (m.filter (·.1 ≠ name)) = if n = name then none else m.get? n
  := by
  rw [get?_filter (fun k => decide (k ≠ name))]
  grind

/-! ### Setting members -/

/-- The member `name` set to a value; with `null` it is left out. -/
def set (m : Members) (name : Text) (v : Json) : Members :=
  if v.isNull then m.filter (·.1 ≠ name) else m.put name v

theorem get?_set_of_ne (m : Members) {name n : Text} (h : n ≠ name) (v : Json) :
  (m.set name v).get? n = m.get? n
  := by
  rw [set]
  split_ifs
  · rw [get?_filter_ne, if_neg h]
  · rw [get?_put, if_neg h]

theorem value_set (m : Members) (name : Text) (v : Json) (n : Text) :
  (m.set name v).value n = if n = name then v else m.value n
  := by
  rw [set, value]
  cases hv : v.isNull with
  | true =>
      obtain rfl : v = .null := by
        cases v <;> first | rfl | cases hv
      rw [if_pos rfl, get?_filter_ne]
      split_ifs <;> rfl
  | false =>
      rw [if_neg (by simp), get?_put]
      split_ifs <;> rfl

/-- The members after a list of changes. -/
def edit (m : Members) (cs : List Change) : Members :=
  cs.foldl (fun m c => m.set c.field c.after) m

theorem value_edit_of_not_mem {cs : List Change} {n : Text} (h : n ∉ cs.map Change.field)
    (m : Members) :
  (m.edit cs).value n = m.value n
  := by
  induction cs generalizing m with
  | nil => rfl
  | cons c cs ih =>
      rw [List.map_cons, List.mem_cons, not_or] at h
      change ((m.set c.field c.after).edit cs).value n = _
      rw [ih h.2, value_set, if_neg h.1]

/-- A member has the value of the change that names it. -/
theorem value_edit_of_mem {cs : List Change} (h : (cs.map Change.field).Nodup) {c : Change}
    (hc : c ∈ cs) (m : Members) :
  (m.edit cs).value c.field = c.after
  := by
  induction cs generalizing m with
  | nil => cases hc
  | cons d cs ih =>
      rw [List.map_cons, List.nodup_cons] at h
      change ((m.set d.field d.after).edit cs).value c.field = _
      rcases List.mem_cons.mp hc with rfl | hc
      · rw [value_edit_of_not_mem h.1, value_set, if_pos rfl]
      · apply ih h.2 hc

/-! ### Members under distinct names -/

/-- Members under distinct names, none of which is `null`. -/
structure Tidy (m : Members) : Prop where
  nodup : (m.map Prod.fst).Nodup
  present : ∀ p ∈ m, p.2.isNull = false

theorem Tidy.set {m : Members} (h : m.Tidy) (name : Text) (v : Json) :
  (m.set name v).Tidy
  := by
  rw [Members.set]
  cases hv : v.isNull with
  | true =>
      rw [if_pos rfl]
      constructor
      · apply h.nodup.sublist ((List.filter_sublist ..).map _)
      · intro p hp
        apply h.present p (List.mem_of_mem_filter hp)
  | false =>
      rw [if_neg (by simp)]
      constructor
      · apply nodup_names_put h.nodup
      · intro p hp
        rcases mem_put hp with hp | hp
        · apply h.present p hp
        · rw [hp, hv]

theorem Tidy.edit {m : Members} (h : m.Tidy) (cs : List Change) :
  (m.edit cs).Tidy
  := by
  induction cs generalizing m with
  | nil => apply h
  | cons c cs ih => apply ih (h.set c.field c.after)

/-- Among tidy members a name is found exactly where it has a value. -/
theorem Tidy.mem_names_iff {m : Members} (h : m.Tidy) {name : Text} :
  name ∈ m.map Prod.fst ↔ (m.value name).isNull = false
  := by
  constructor
  · intro hname
    obtain ⟨⟨k, v⟩, hp, rfl⟩ := List.mem_map.mp hname
    rw [value]
    rw [get?_of_mem h.nodup hp]
    apply h.present _ hp
  · intro hvalue
    rw [value] at hvalue
    cases hget : m.get? name with
    | none => simp [hget, Json.isNull] at hvalue
    | some v => apply List.mem_map.mpr ⟨_, mem_of_get? hget, rfl⟩

theorem value_of_mem {m : Members} (h : (m.map Prod.fst).Nodup) {p : Text × Json}
    (hp : p ∈ m) :
  m.value p.1 = p.2
  := by
  rw [value]
  rw [get?_of_mem h hp]
  rfl

/-- Tidy members that agree in all values agree as objects. -/
theorem Tidy.agree {eq : Number → Number → Bool} {m m' : Members} (h : m.Tidy) (h' : m'.Tidy)
    (hvalues : ∀ name, (m.value name).agree eq (m'.value name) = true) :
  Json.agree eq (.obj m) (.obj m') = true
  := by
  have hnames (name : Text) : name ∈ m.map Prod.fst ↔ name ∈ m'.map Prod.fst := by
    have hvalue := hvalues name
    rw [h.mem_names_iff, h'.mem_names_iff]
    generalize m.value name = v, m'.value name = w at *
    cases v <;> cases w <;> simp_all [Json.isNull]
  apply Json.agree_obj_iff.mpr
  constructor
  · have hperm := (List.perm_ext_iff_of_nodup h.nodup h'.nodup).mpr hnames
    simpa using hperm.length_eq
  · intro p hp
    obtain ⟨q, hq, hpq⟩ := List.mem_map.mp ((hnames p.1).mp (List.mem_map_of_mem hp))
    have hvalue := hvalues p.1
    rw [value_of_mem h.nodup hp, ← hpq, value_of_mem h'.nodup hq] at hvalue
    refine ⟨q.2, ?_, hvalue⟩
    rw [← hpq]
    apply get?_of_mem h'.nodup hq

end Kanban.Members
