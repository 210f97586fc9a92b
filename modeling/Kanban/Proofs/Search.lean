import Kanban.Proofs.Except
import Kanban.Search

/-!
# When a search can be carried out

A search text is a query unless a word of it bounds the estimate by a number of too many digits
(`Query.exists_ofText_iff`).  Tasks can then be searched unless one of them has to be due within
a week in which the calendar ends (`Query.exists_filterBy_iff`).
-/

namespace Kanban

theorem Text.isSome_digitsValue?_iff {cs : List Point} :
  (digitsValue? cs).isSome = true ↔ ∀ c ∈ cs, isDigit c = true
  := by
  have hfrom (n : Nat) : (cs.foldlM (fun n c => (digitValue? c).map (10 * n + ·)) n).isSome = true
      ↔ ∀ c ∈ cs, isDigit c = true := by
    induction cs generalizing n with
    | nil => simp
    | cons c cs ih =>
        rw [List.foldlM_cons, List.forall_mem_cons, isDigit]
        cases digitValue? c with
        | none => simp
        | some d => simpa using ih (10 * n + d)
  apply hfrom

/-! ### Words -/

namespace Search

theorem after?_eq_some_iff {start : Text} {cs rest : List Point} :
  after? start cs = some rest ↔ cs = start.toList ++ rest
  := by
  rw [after?]
  split_ifs with h
  · obtain ⟨tail, rfl⟩ := List.isPrefixOf_iff_prefix.mp h
    rw [← Text.length_toList, List.drop_left, Option.some.injEq, List.append_cancel_left_eq]
  · constructor
    · rintro ⟨⟩
    · rintro rfl
      apply absurd _ h
      rw [List.isPrefixOf_iff_prefix]
      apply List.prefix_append

/-- A number of more digits than are allowed, after a sign that may be missing. -/
def LongBound (cs : List Point) : Prop :=
  maxDigits < (splitSign cs).2.length ∧ ∀ c ∈ (splitSign cs).2, Text.isDigit c = true

/-- The word bounds the estimate by a number of more digits than are allowed. -/
def Overlong (word : List Point) : Prop :=
  ∃ rest, after? "est:" (Text.lower word) = some rest ∧ LongBound rest

instance (cs : List Point) : Decidable (LongBound cs) := inferInstanceAs (Decidable (_ ∧ _))

instance (word : List Point) : Decidable (Overlong word) :=
  decidable_of_iff (∃ rest ∈ after? "est:" (Text.lower word), LongBound rest) (by
    simp [Overlong])

theorem exists_estimateBound?_iff {cs : List Point} :
  (∃ bound, estimateBound? cs = .ok bound) ↔ ¬ LongBound cs
  := by
  rw [estimateBound?, LongBound, ← Text.isSome_digitsValue?_iff]
  obtain ⟨comparison, ds⟩ := splitSign cs
  dsimp only
  split
  · simp
  next hvalue => simp [hvalue]
  next hvalue =>
    rw [hvalue]
    split_ifs with hlong <;> simp [hlong]

theorem Clause.exists_ofWord_iff {word : List Point} :
  (∃ c, ofWord word = .ok c) ↔ ¬ Overlong word
  := by
  rw [ofWord, Overlong]
  generalize Text.lower word = cs
  cases hest : after? "est:" cs with
  | some rest =>
      obtain rfl := after?_eq_some_iff.mp hest
      have htag : after? "tag:" (("est:" : Text).toList ++ rest) = none := rfl
      have hpriority : after? "p:" (("est:" : Text).toList ++ rest) = none := rfl
      have hdue : after? "due:" (("est:" : Text).toList ++ rest) = none := rfl
      simp only [htag, hpriority, hdue, Option.bind_none, bind_eq_ok_iff, Option.some.injEq,
        exists_eq_left', ← exists_estimateBound?_iff]
      constructor
      · rintro ⟨c, bound, hbound, -⟩
        exact ⟨bound, hbound⟩
      · rintro ⟨_ | bound, hbound⟩
        · exact ⟨_, _, hbound, rfl⟩
        · exact ⟨_, _, hbound, rfl⟩
  | none =>
      apply iff_of_true _ (by simp)
      dsimp only
      split
      · exact ⟨_, rfl⟩
      · split
        · exact ⟨_, rfl⟩
        · split <;> exact ⟨_, rfl⟩

end Search

/-! ### Queries -/

namespace Query

open Search

/-- A text is a query unless a word of it has a number of too many digits. -/
theorem exists_ofText_iff {s : Text} :
  (∃ q, ofText s = .ok q) ↔ ∀ w ∈ Text.words s.toList, ¬ Overlong w
  := by
  simp only [← Clause.exists_ofWord_iff, ← exists_mapM_iff, ofText, bind_eq_ok_iff, pure_eq_ok_iff]
  constructor
  · rintro ⟨q, cs, hcs, -⟩
    exact ⟨cs, hcs⟩
  · rintro ⟨cs, hcs⟩
    exact ⟨_, cs, hcs, rfl⟩

/-- To answer whether the task matches it would have to be compared with a time a week from now,
when there is no such time. -/
structure Outlasts (q : Query) (now : Moment) (t : Task) : Prop where
  considered : q.textMatches t = true ∧ q.tagsMatch t = true ∧ q.priorityMatches t = true
  week : q.due = some .week
  ahead : ∃ m, t.dueAt.bind Moment.ofText? = some m ∧ now.instant ≤ m.instant
  ended : now.addDays? 7 = none

variable {q : Query} {now : Moment}

theorem exists_dueHolds_iff {d : Due} {t : Task} :
  (∃ b, dueHolds d now t = .ok b)
    ↔ ¬ (d = .week ∧ (∃ m, t.dueAt.bind Moment.ofText? = some m ∧ now.instant ≤ m.instant)
      ∧ now.addDays? 7 = none)
  := by
  rw [dueHolds]
  cases t.dueAt.bind Moment.ofText? with
  | none => simp
  | some m =>
      cases d with
      | overdue => simp
      | week =>
          dsimp only
          split_ifs with hpast
          · simp [not_le.mpr hpast]
          · cases now.addDays? 7 <;> simp [not_lt.mp hpast]

theorem exists_holds_iff {t : Task} :
  (∃ b, q.holds now t = .ok b) ↔ ¬ q.Outlasts now t
  := by
  rw [holds]
  split_ifs with hconsidered
  · simp only [Bool.and_eq_true, and_assoc] at hconsidered
    have hdue : (∃ b, q.dueMatches now t = .ok b) ↔ ¬ q.Outlasts now t := by
      rw [dueMatches]
      cases hd : q.due with
      | none =>
          apply iff_of_true ⟨_, rfl⟩
          intro h
          cases hd.symm.trans h.week
      | some d =>
          apply exists_dueHolds_iff.trans
          apply not_congr
          constructor
          · rintro ⟨rfl, hahead, hended⟩
            exact ⟨hconsidered, hd, hahead, hended⟩
          · intro h
            exact ⟨Option.some.inj (hd.symm.trans h.week), h.ahead, h.ended⟩
    rw [← hdue]
    simp only [bind_eq_ok_iff, pure_eq_ok_iff]
    constructor
    · rintro ⟨b, c, hc, -⟩
      exact ⟨c, hc⟩
    · rintro ⟨c, hc⟩
      exact ⟨_, c, hc, rfl⟩
  · apply iff_of_true ⟨_, rfl⟩
    intro h
    apply hconsidered
    simpa [and_assoc] using h.considered

/-- Tasks can be searched unless one of them would have to be compared with a time after the end
of the calendar. -/
theorem exists_filterBy_iff {tasks : List Task} :
  (∃ ts, q.filterBy (some now) tasks = .ok ts) ↔ ∀ t ∈ tasks, ¬ q.Outlasts now t
  := by
  simp only [filterBy, filter, filterM_eq_ok_iff, ← exists_holds_iff]
  constructor
  · rintro ⟨ts, hall, -⟩
    apply hall
  · intro hall
    exact ⟨_, hall, rfl⟩

end Query

end Kanban
