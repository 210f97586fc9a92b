import Kanban.Board.Snapshot
import Mathlib

/-!
# When checks succeed

Each check of a single value succeeds with a result exactly when the value is the written form
of that result and the result is in range.  A check of several values succeeds when every one
of them does.
-/

namespace Kanban

/-- What stands in the second of two related lists is related to something in the first. -/
theorem exists_mem_left {α β : Type} {R : α → β → Prop} {as : List α} {bs : List β}
    (h : List.Forall₂ R as bs) {b : β} (hb : b ∈ bs) :
  ∃ a ∈ as, R a b
  := by
  induction h with
  | nil => cases hb
  | cons hab _ ih =>
      rcases List.mem_cons.mp hb with rfl | hb
      · exact ⟨_, List.mem_cons_self, hab⟩
      · obtain ⟨a, ha, hr⟩ := ih hb
        exact ⟨a, List.mem_cons_of_mem _ ha, hr⟩

namespace Checked

variable {α β γ : Type}

@[simp]
theorem fault_ne_ok (f : Fault) (a : α) :
  fault f ≠ ok a
  := nofun

@[simp]
theorem map_eq_ok_iff {f : α → β} {c : Checked α} {b : β} :
  c.map f = ok b ↔ ∃ a, c = ok a ∧ f a = b
  := by
  cases c <;> simp [map]

@[simp]
theorem fmap_eq_ok_iff {f : α → β} {c : Checked α} {b : β} :
  f <$> c = ok b ↔ ∃ a, c = ok a ∧ f a = b
  := map_eq_ok_iff

@[simp]
theorem both_eq_ok_iff {c : Checked α} {d : Checked β} {p : α × β} :
  c.both d = ok p ↔ c = ok p.1 ∧ d = ok p.2
  := by
  cases c <;> cases d <;> simp [both, Prod.ext_iff]

@[simp]
theorem seq_eq_ok_iff {f : Checked (α → β)} {c : Checked α} {b : β} :
  f <*> c = ok b ↔ ∃ g, f = ok g ∧ ∃ a, c = ok a ∧ g a = b
  := by
  change (f.both c).map _ = ok b ↔ _
  simp only [map_eq_ok_iff, both_eq_ok_iff, Prod.exists]
  constructor
  · rintro ⟨g, a, ⟨hf, hc⟩, hb⟩
    exact ⟨g, hf, a, hc, hb⟩
  · rintro ⟨g, hf, a, hc, hb⟩
    exact ⟨g, a, ⟨hf, hc⟩, hb⟩

@[simp]
theorem andThen_eq_ok_iff {c : Checked α} {f : α → Checked β} {b : β} :
  c.andThen f = ok b ↔ ∃ a, c = ok a ∧ f a = ok b
  := by
  cases c <;> simp [andThen]

@[simp]
theorem under_eq_ok_iff {part : Text} {c : Checked α} {a : α} :
  c.under part = ok a ↔ c = ok a
  := by
  cases c <;> simp [under]

/-- All checks of a list succeed exactly with the list of their results. -/
@[simp]
theorem all_eq_ok_iff {cs : List (Checked α)} {as : List α} :
  all cs = ok as ↔ List.Forall₂ (fun c a => c = ok a) cs as
  := by
  induction cs generalizing as with
  | nil => simp [all, eq_comm]
  | cons c cs ih =>
      simp only [all, map_eq_ok_iff, both_eq_ok_iff, Prod.exists, ih, List.forall₂_cons_left_iff]
      constructor
      · rintro ⟨a, as', ⟨hc, hcs⟩, rfl⟩
        exact ⟨a, as', hc, hcs, rfl⟩
      · rintro ⟨a, as', hc, hcs, rfl⟩
        exact ⟨a, as', ⟨hc, hcs⟩, rfl⟩

/-- A check that succeeds with what it is given, under a condition. -/
theorem ite_fault_eq_ok_iff {p : Prop} [Decidable p] {f : Fault} {a b : α} :
  (if p then fault f else ok a) = ok b ↔ ¬ p ∧ a = b
  := by
  split_ifs with h <;> simp [h]

theorem ite_ok_eq_ok_iff {p : Prop} [Decidable p] {f : Fault} {a b : α} :
  (if p then ok a else fault f) = ok b ↔ p ∧ a = b
  := by
  split_ifs with h <;> simp [h]

end Checked

open Checked

/-! ### Names -/

theorem Priority.ofName?_eq_some_iff {s : Text} {p : Priority} :
  ofName? s = some p ↔ s = p.name
  := by
  constructor
  · intro h
    have hname := List.find?_some (by exact h)
    apply (beq_iff_eq.mp hname).symm
  · rintro rfl
    apply ofName?_name

theorem Column.ofName?_eq_some_iff {s : Text} {c : Column} :
  ofName? s = some c ↔ s = c.name
  := by
  constructor
  · intro h
    have hname := List.find?_some (by exact h)
    apply (beq_iff_eq.mp hname).symm
  · rintro rfl
    apply ofName?_name

theorem Action.ofName?_eq_some_iff {s : Text} {a : Action} :
  ofName? s = some a ↔ s = a.name
  := by
  constructor
  · intro h
    have hname := List.find?_some (by exact h)
    apply (beq_iff_eq.mp hname).symm
  · rintro rfl
    apply ofName?_name

/-! ### Checks of single values -/

namespace Check

/-- A text that denotes a moment. -/
def Readable (s : Text) : Prop := (Moment.ofText? s).isSome = true

/-- The estimate of a task: a whole number from zero on. -/
def IsEstimate (n : Number) : Prop :=
  n.isFinite = true ∧ n.isWhole = true ∧ n.lt (.int 0) = false

/-- A score: a number from zero to ten. -/
def IsScore (n : Number) : Prop :=
  n.isFinite = true ∧ n.lt (.int 0) = false ∧ Number.lt (.int greatestScore) n = false

variable {v : Option Json}

@[simp]
theorem item_eq_ok_iff {v : Json} {s : Text} :
  item v = ok s ↔ v = .str s
  := by
  cases v <;> simp [item]

@[simp]
theorem text_eq_ok_iff {s : Text} :
  text v = ok s ↔ v.getD .null = .str s
  := by
  rcases v with _ | v
  · simp [text]
  · cases v <;> simp [text, item]

@[simp]
theorem optionalText_eq_ok_iff {s : Option Text} :
  optionalText v = ok s ↔ v.getD .null = .ofText? s
  := by
  rcases v with _ | v
  · cases s <;> simp [optionalText, Json.ofText?]
  · cases v <;> cases s <;> simp [optionalText, Json.ofText?, item, map, fault]

@[simp]
theorem uuid_eq_ok_iff {s : Text} :
  uuid v = ok s ↔ v.getD .null = .str s ∧ isUuid s = true
  := by
  rcases v with _ | v
  · simp [uuid]
  · simp only [uuid, andThen_eq_ok_iff, item_eq_ok_iff, ite_ok_eq_ok_iff, Option.getD_some]
    grind

@[simp]
theorem title_eq_ok_iff {s : Text} :
  title v = ok s ↔ v.getD .null = .str s ∧ leastTitle ≤ s.length
  := by
  simp only [title, andThen_eq_ok_iff, text_eq_ok_iff, ite_fault_eq_ok_iff, Nat.not_lt]
  grind

@[simp]
theorem moment_eq_ok_iff {name s t : Text} :
  moment name s = ok t ↔ s = t ∧ Readable t
  := by
  simp only [moment, ite_ok_eq_ok_iff, Readable]
  grind

@[simp]
theorem time_eq_ok_iff {name s : Text} :
  time name v = ok s ↔ v.getD .null = .str s ∧ Readable s
  := by
  simp only [time, andThen_eq_ok_iff, text_eq_ok_iff, moment_eq_ok_iff]
  grind

@[simp]
theorem optionalTime_eq_ok_iff {name : Text} {s : Option Text} :
  optionalTime name v = ok s ↔ v.getD .null = .ofText? s ∧ ∀ t ∈ s, Readable t
  := by
  simp only [optionalTime, andThen_eq_ok_iff, optionalText_eq_ok_iff]
  constructor
  · rintro ⟨t | t, hv, h⟩
    · obtain rfl := ok.inj h
      simpa using hv
    · obtain ⟨u, hu, rfl⟩ := Checked.map_eq_ok_iff.mp h
      obtain ⟨rfl, ht⟩ := moment_eq_ok_iff.mp hu
      apply And.intro hv
      simpa using ht
  · rintro ⟨hv, hs⟩
    refine ⟨s, hv, ?_⟩
    cases s with
    | none => rfl
    | some t => simpa using hs

theorem oneOf_eq_ok_iff {α : Type} {names : List Text} {ofName? : Text → Option α} {a : α} :
  oneOf names ofName? v = ok a ↔ ∃ s, v.getD .null = .str s ∧ ofName? s = some a
  := by
  rcases v with _ | v
  · simp [oneOf]
  · cases v with
    | str s => cases h : ofName? s <;> simp [oneOf, h]
    | _ => simp [oneOf]

@[simp]
theorem priority_eq_ok_iff {p : Priority} :
  priority v = ok p ↔ v.getD .null = .str p.name
  := by
  simp [priority, oneOf_eq_ok_iff, Priority.ofName?_eq_some_iff]

@[simp]
theorem column_eq_ok_iff {c : Column} :
  column v = ok c ↔ v.getD .null = .str c.name
  := by
  simp [column, oneOf_eq_ok_iff, Column.ofName?_eq_some_iff]

@[simp]
theorem action_eq_ok_iff {a : Action} :
  action v = ok a ↔ v.getD .null = .str a.name
  := by
  simp [action, oneOf_eq_ok_iff, Action.ofName?_eq_some_iff]

@[simp]
theorem number_eq_ok_iff {v : Json} {n : Number} :
  number v = ok n ↔ v = .num n ∧ n.isFinite = true
  := by
  cases v <;> simp only [number, finite, ite_ok_eq_ok_iff, fault_ne_ok, Json.num.injEq] <;> grind

@[simp]
theorem notNegative_eq_ok_iff {m n : Number} :
  notNegative m = ok n ↔ m = n ∧ n.lt (.int 0) = false
  := by
  simp only [notNegative, ite_fault_eq_ok_iff]
  grind

@[simp]
theorem estimate_eq_ok_iff {n : Number} :
  estimate v = ok n ↔ v.getD .null = .num n ∧ IsEstimate n
  := by
  rcases v with _ | v
  · simp [estimate]
  · simp only [estimate, andThen_eq_ok_iff, number_eq_ok_iff, Option.getD_some, IsEstimate]
    constructor
    · rintro ⟨m, ⟨rfl, hfinite⟩, h⟩
      split_ifs at h with hwhole
      · obtain ⟨rfl, hneg⟩ := notNegative_eq_ok_iff.mp h
        exact ⟨rfl, hfinite, hwhole, hneg⟩
      · cases h
    · rintro ⟨rfl, hfinite, hwhole, hneg⟩
      refine ⟨n, ⟨rfl, hfinite⟩, ?_⟩
      simp [hwhole, hneg]

@[simp]
theorem score_eq_ok_iff {n : Option Number} :
  score v = ok n ↔ v.getD .null = (n.map Json.num).getD .null ∧ ∀ x ∈ n, IsScore x
  := by
  have hnum (w : Json) : ((number w).andThen fun n => (notNegative n).andThen fun n =>
      if Number.lt (.int greatestScore) n then fault (.above greatestScore) else ok (some n))
        = ok n ↔ ∃ x, w = .num x ∧ IsScore x ∧ some x = n := by
    simp only [andThen_eq_ok_iff, number_eq_ok_iff, notNegative_eq_ok_iff, ite_fault_eq_ok_iff,
      IsScore]
    grind
  rcases v with _ | v
  · cases n <;> simp [score]
  · cases v with
    | null => cases n <;> simp [score]
    | _ =>
      simp only [score, hnum, Option.getD_some]
      cases n <;> simp
      try grind

theorem list_eq_ok_iff {α : Type} {read : Json → Checked α} {as : List α} :
  list read v = ok as
    ↔ ∃ items, v.getD .null = .arr items ∧ List.Forall₂ (fun x a => read x = ok a) items as
  := by
  have hitems (items : List Json) (n : ℕ) :
      List.Forall₂ (fun x a => read x.1 = ok a) (items.zipIdx n) as
        ↔ List.Forall₂ (fun x a => read x = ok a) items as := by
    induction items generalizing n as with
    | nil => simp
    | cons x items ih => simp [List.zipIdx_cons, List.forall₂_cons_left_iff, ih]
  rcases v with _ | v
  · simp [list]
  · cases v <;> simp [list, hitems]

@[simp]
theorem tags_eq_ok_iff {ts : List Text} :
  list item v = ok ts ↔ v.getD .null = .strs ts
  := by
  have hitems (items : List Json) :
      List.Forall₂ (fun x a => x = Json.str a) items ts ↔ items = ts.map .str := by
    rw [← List.forall₂_map_right_iff (R := Eq), List.forall₂_eq_eq_eq]
  simp only [list_eq_ok_iff, item_eq_ok_iff, hitems, Json.strs]
  grind

@[simp]
theorem flag_eq_ok_iff {b : Bool} :
  flag v = ok b ↔ v.getD .null = .bool b
  := by
  rcases v with _ | v
  · simp [flag]
  · cases v <;> simp [flag]

@[simp]
theorem actorLabel_eq_ok_iff {u : Unit} :
  actorLabel v = ok u ↔ v.getD .null = .str Entry.actorLabel
  := by
  rcases v with _ | v
  · simp [actorLabel]
  · cases v <;> simp [actorLabel]

@[simp]
theorem change_eq_ok_iff {name : Text} {v : Json} {c : Change} :
  change name v = ok c
    ↔ ∃ m, v = .obj m ∧ c = ⟨name, Members.value m "before", Members.value m "after"⟩
  := by
  cases v with
  | obj m => simp [change, eq_comm]
  | _ => simp [change]

theorem changes_eq_ok_iff {cs : List Change} :
  changes v = ok cs
    ↔ ∃ m, v.getD .null = .obj m ∧ List.Forall₂ (fun x c => change x.1 x.2 = ok c) m cs
  := by
  rcases v with _ | v
  · simp [changes]
  · cases v <;> simp [changes, List.forall₂_map_left_iff]

end Check

/-! ### Members -/

@[simp]
theorem Members.check_eq_ok_iff
    {α : Type} {m : Members} {name : Text} {check : Option Json → Checked α} {a : α} :
  m.check name check = ok a ↔ check (m.get? name) = ok a
  := under_eq_ok_iff

end Kanban
