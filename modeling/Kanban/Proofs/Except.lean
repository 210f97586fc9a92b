import Mathlib

/-!
# Results of computations that may fail

When a computation gives a result, its parts have given theirs.
-/

namespace Kanban

theorem bind_eq_ok_iff {ε α β : Type} {x : Except ε α} {f : α → Except ε β} {b : β} :
  x >>= f = .ok b ↔ ∃ a, x = .ok a ∧ f a = .ok b
  := by
  cases x <;> simp [bind, Except.bind]

@[simp]
theorem throw_ne_ok {ε α : Type} {e : ε} {a : α} :
  (throw e : Except ε α) ≠ .ok a
  := by
  simp [throw, throwThe, MonadExceptOf.throw]

theorem isOk_iff {ε α : Type} {x : Except ε α} :
  x.isOk = true ↔ ∃ a, x = .ok a
  := by
  cases x <;> simp [Except.isOk, Except.toBool]

@[simp]
theorem pure_eq_ok_iff {ε α : Type} {a b : α} :
  (pure a : Except ε α) = .ok b ↔ a = b
  := by
  simp [pure, Except.pure]

theorem map_eq_ok_iff {ε α β : Type} {x : Except ε α} {f : α → β} {b : β} :
  x.map f = .ok b ↔ ∃ a, x = .ok a ∧ f a = b
  := by
  cases x <;> simp [Except.map]

theorem mapError_eq_ok_iff {ε ε' α : Type} {x : Except ε α} {f : ε → ε'} {a : α} :
  x.mapError f = .ok a ↔ x = .ok a
  := by
  cases x <;> simp [Except.mapError]

theorem toOption_eq_some_iff {ε α : Type} {x : Except ε α} {a : α} :
  x.toOption = some a ↔ x = .ok a
  := by
  cases x <;> simp [Except.toOption]

theorem fmap_eq_ok_iff {ε α β : Type} {x : Except ε α} {f : α → β} {b : β} :
  f <$> x = .ok b ↔ ∃ a, x = .ok a ∧ f a = b
  := map_eq_ok_iff

theorem mapM_eq_ok_iff {ε α β : Type} {f : α → Except ε β} {as : List α} {bs : List β} :
  as.mapM f = .ok bs ↔ List.Forall₂ (fun a b => f a = .ok b) as bs
  := by
  induction as generalizing bs with
  | nil =>
      rw [List.mapM_nil, pure_eq_ok_iff, List.forall₂_nil_left_iff, eq_comm]
  | cons a as ih =>
      simp only [List.mapM_cons, bind_eq_ok_iff, pure_eq_ok_iff, ih, List.forall₂_cons_left_iff]
      grind

theorem optionMapM_eq_ok_iff {ε α β : Type} {f : α → Except ε β} {x : Option α} {y : Option β} :
  x.mapM f = .ok y ↔ Option.Rel (fun a b => f a = .ok b) x y
  := by
  cases x with
  | none =>
      rw [Option.mapM_none, pure_eq_ok_iff]
      constructor
      · rintro rfl
        constructor
      · rintro ⟨⟩
        rfl
  | some a =>
      rw [Option.mapM_some]
      constructor
      · intro h
        obtain ⟨b, hb, rfl⟩ := fmap_eq_ok_iff.mp h
        exact .some hb
      · rintro ⟨⟩
        apply fmap_eq_ok_iff.mpr
        exact ⟨_, ‹_›, rfl⟩

theorem mapM_fmap {ε α β γ : Type} {f : α → Except ε β} {g : β → γ} {as : List α} :
  (as.mapM fun a => g <$> f a) = List.map g <$> as.mapM f
  := by
  induction as with
  | nil => rfl
  | cons a as ih =>
      rw [List.mapM_cons, List.mapM_cons, ih]
      cases f a with
      | error e => rfl
      | ok b => cases as.mapM f <;> rfl

/-- Every member of a list is related to something exactly when the list is related to one. -/
theorem exists_forall₂_iff {α β : Type} {R : α → β → Prop} {as : List α} :
  (∃ bs, List.Forall₂ R as bs) ↔ ∀ a ∈ as, ∃ b, R a b
  := by
  induction as with
  | nil => simp
  | cons a as ih =>
      rw [List.forall_mem_cons, ← ih]
      simp only [List.forall₂_cons_left_iff]
      constructor
      · rintro ⟨_, b, bs, hb, hbs, -⟩
        exact ⟨⟨b, hb⟩, bs, hbs⟩
      · rintro ⟨⟨b, hb⟩, bs, hbs⟩
        exact ⟨_, b, bs, hb, hbs, rfl⟩

/-- A computation can be carried out for all members of a list exactly when it can be carried
out for each of them. -/
theorem exists_mapM_iff {ε α β : Type} {f : α → Except ε β} {as : List α} :
  (∃ bs, as.mapM f = .ok bs) ↔ ∀ a ∈ as, ∃ b, f a = .ok b
  := by
  simp only [mapM_eq_ok_iff]
  apply exists_forall₂_iff

theorem exists_optionMapM_iff {ε α β : Type} {f : α → Except ε β} {x : Option α} :
  (∃ y, x.mapM f = .ok y) ↔ ∀ a ∈ x.toList, ∃ b, f a = .ok b
  := by
  cases x with
  | none => simp
  | some a => simp [fmap_eq_ok_iff]

theorem filterAuxM_eq_ok_iff {ε α : Type} {p : α → Except ε Bool} {as acc bs : List α} :
  as.filterAuxM p acc = .ok bs
    ↔ (∀ a ∈ as, ∃ b, p a = .ok b)
      ∧ bs = (as.filter fun a => (p a).toOption == some true).reverse ++ acc
  := by
  induction as generalizing acc with
  | nil =>
      rw [List.filterAuxM, pure_eq_ok_iff, eq_comm]
      simp
  | cons a as ih =>
      rw [List.filterAuxM, bind_eq_ok_iff, List.forall_mem_cons]
      cases ha : p a with
      | error e => simp
      | ok b =>
          simp only [Except.ok.injEq, exists_eq_left', ih]
          cases b <;> simp [ha, Except.toOption]

/-- A computation that filters a list gives the members of which it says so, if it can be carried
out for each of them. -/
theorem filterM_eq_ok_iff {ε α : Type} {p : α → Except ε Bool} {as bs : List α} :
  as.filterM p = .ok bs
    ↔ (∀ a ∈ as, ∃ b, p a = .ok b) ∧ bs = as.filter fun a => (p a).toOption == some true
  := by
  simp only [List.filterM, bind_eq_ok_iff, pure_eq_ok_iff, filterAuxM_eq_ok_iff]
  constructor
  · rintro ⟨_, ⟨hall, rfl⟩, rfl⟩
    apply And.intro hall
    simp
  · rintro ⟨hall, rfl⟩
    refine ⟨_, ⟨hall, rfl⟩, ?_⟩
    simp

theorem filterAuxM_ite {ε α : Type} {p : α → Prop} [DecidablePred p] {f : α → Except ε Bool}
    {as acc : List α} :
  as.filterAuxM (fun a => if p a then f a else pure false) acc
    = (as.filter fun a => p a).filterAuxM f acc
  := by
  induction as generalizing acc with
  | nil => rfl
  | cons a as ih =>
      rw [List.filterAuxM]
      by_cases ha : p a
      · rw [if_pos ha, List.filter_cons_of_pos (by simpa using ha), List.filterAuxM]
        apply bind_congr
        intro b
        apply ih
      · rw [if_neg ha, List.filter_cons_of_neg (by simpa using ha), pure_bind]
        apply ih

/-- A computation that is carried out for some members only, and drops the others, filters those
members. -/
theorem filterM_ite {ε α : Type} {p : α → Prop} [DecidablePred p] {f : α → Except ε Bool}
    {as : List α} :
  as.filterM (fun a => if p a then f a else pure false) = (as.filter fun a => p a).filterM f
  := by
  rw [List.filterM, List.filterM, filterAuxM_ite]

end Kanban
