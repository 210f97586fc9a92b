import Kanban.Board.Report
import Kanban.Proofs.Board.Check
import Kanban.Proofs.Except
import Kanban.Proofs.Number.Range
import Kanban.Proofs.Number.Value
import Kanban.Proofs.Task

/-!
# When there is a mean

The sum of scores is an integer as long as only integers have been added, and a double from the
first double on.  No score is so large that it cannot become a double, but the sum of very many
integers may be; then there is no mean.  In every other case there is one
(`Review.exists_ofTasks_iff`).
-/

namespace Kanban

/-- A quotient that is no larger than a score is rounded to no infinity. -/
theorem Double.ofQuotient_ne_infinite {num den : Nat} (hden : den ≠ 0)
    (h : num ≤ Check.greatestScore * den) (negative sign : Bool) :
  ofQuotient negative num den ≠ .infinite sign
  := by
  have hpos : (0 : ℚ) < den := by positivity
  have hsmall : (num : ℚ) / den < 2 ^ (1023 : Int) := by
    rw [div_lt_iff₀ hpos]
    calc (num : ℚ) ≤ 10 * den := by exact_mod_cast h
      _ < 2 ^ (4 : Int) * den := by
          apply mul_lt_mul_of_pos_right _ hpos
          norm_num
      _ ≤ 2 ^ (1023 : Int) * den := by
          apply mul_le_mul_of_nonneg_right _ hpos.le
          apply zpow_le_zpow_right₀ one_le_two (by decide)
  intro hinfinite
  have hfinite := isFinite_ofQuotient negative hden hsmall
  rw [hinfinite] at hfinite
  cases hfinite

theorem Double.exists_ofInt? {n : Int} (h : n.natAbs ≤ Check.greatestScore) :
  ∃ x, Double.ofInt? n = some x
  := by
  have hsmall : n.natAbs ≤ Check.greatestScore * 1 := by rwa [mul_one]
  rw [ofInt?]
  cases hx : ofQuotient (n < 0) n.natAbs 1 with
  | infinite sign => exact absurd hx (ofQuotient_ne_infinite one_ne_zero hsmall _ sign)
  | nan => exact ⟨_, rfl⟩
  | finite => exact ⟨_, rfl⟩

namespace Number

/-- Integers that make a number too large for a double when they are added to it, and after them
a double. -/
def Overflows (start : Int) (ns : List Number) : Prop :=
  ∃ (is : List Int) (x : Double) (rest : List Number), ns = is.map .int ++ .float x :: rest
    ∧ Double.ofInt? (start + is.sum) = none

variable {ns : List Number} {a b : Int} {x : Double}

theorem bounds_of_isScore (h : Check.IsScore (.int a)) :
  0 ≤ a ∧ a ≤ Check.greatestScore
  := by
  obtain ⟨-, hlow, hhigh⟩ := h
  rw [int_lt_int, decide_eq_false_iff_not] at hlow hhigh
  omega

theorem overflows_int_cons :
  Overflows a (.int b :: ns) ↔ Overflows (a + b) ns
  := by
  constructor
  · rintro ⟨_ | ⟨i, is⟩, x, rest, hns, hsum⟩
    · cases hns
    · obtain ⟨hi, htail⟩ := List.cons.inj hns
      obtain rfl := int.inj hi
      refine ⟨is, x, rest, htail, ?_⟩
      rwa [add_assoc, ← List.sum_cons]
  · rintro ⟨is, x, rest, hns, hsum⟩
    refine ⟨b :: is, x, rest, congrArg _ hns, ?_⟩
    rwa [List.sum_cons, ← add_assoc]

theorem overflows_float_cons :
  Overflows a (.float x :: ns) ↔ Double.ofInt? a = none
  := by
  constructor
  · rintro ⟨_ | ⟨i, is⟩, y, rest, hns, hsum⟩
    · rwa [List.sum_nil, add_zero] at hsum
    · cases hns
  · intro h
    refine ⟨[], x, ns, rfl, ?_⟩
    rwa [List.sum_nil, add_zero]

/-! ### Sums of scores -/

/-- From the first double on every score can be added. -/
theorem exists_sum_float (h : ∀ n ∈ ns, Check.IsScore n) (x : Double) :
  ∃ y, ns.foldlM add (.float x) = .ok (.float y)
  := by
  induction ns generalizing x with
  | nil => exact ⟨x, rfl⟩
  | cons n ns ih =>
      obtain ⟨hn, hns⟩ := List.forall_mem_cons.mp h
      rw [List.foldlM_cons]
      cases n with
      | float z => apply ih hns
      | int b =>
          obtain ⟨hlow, hhigh⟩ := bounds_of_isScore hn
          obtain ⟨z, hz⟩ := Double.exists_ofInt? (n := b) (by omega)
          rw [add, widen, hz]
          apply ih hns

/-- Scores can be added unless the sum is too large when the first double comes.  A sum that is an
integer is no larger than the number of scores allows. -/
theorem sum_int_spec (h : ∀ n ∈ ns, Check.IsScore n) (a : Int) :
  (Overflows a ns ∧ ∀ s, ns.foldlM add (.int a) ≠ .ok s)
    ∨ (¬ Overflows a ns ∧ ∃ s, ns.foldlM add (.int a) = .ok s
      ∧ ∀ b, s = .int b → a ≤ b ∧ b ≤ a + Check.greatestScore * ns.length)
  := by
  induction ns generalizing a with
  | nil =>
      right
      refine ⟨?_, .int a, rfl, ?_⟩
      · rintro ⟨is, x, rest, hns, -⟩
        simp at hns
      · intro b hb
        obtain rfl := int.inj hb
        simp
  | cons n ns ih =>
      obtain ⟨hn, hns⟩ := List.forall_mem_cons.mp h
      rw [List.foldlM_cons]
      cases n with
      | int b =>
          obtain ⟨hlow, hhigh⟩ := bounds_of_isScore hn
          rw [overflows_int_cons]
          apply (ih hns (a + b)).imp_right
          rintro ⟨hfits, s, hs, hbounds⟩
          refine ⟨hfits, s, hs, ?_⟩
          intro c hc
          obtain ⟨hle, hge⟩ := hbounds c hc
          rw [List.length_cons]
          push_cast
          constructor <;> linarith
      | float x =>
          rw [overflows_float_cons, add, widen]
          cases hz : Double.ofInt? a with
          | none =>
              left
              exact ⟨rfl, fun s hs => by cases hs⟩
          | some z =>
              right
              obtain ⟨y, hy⟩ := exists_sum_float hns (z.add x)
              refine ⟨by simp, .float y, hy, ?_⟩
              rintro b ⟨⟩

/-- The mean of numbers that are no larger than a score can be given. -/
theorem exists_divCount {n : Nat} (hn : n ≠ 0) {s : Number}
    (h : ∀ b, s = .int b → 0 ≤ b ∧ b ≤ Check.greatestScore * n) :
  ∃ x, s.divCount n = .ok x
  := by
  cases s with
  | float x => exact ⟨_, rfl⟩
  | int b =>
      obtain ⟨hlow, hhigh⟩ := h b rfl
      have hsmall : b.natAbs ≤ Check.greatestScore * n := by omega
      rw [divCount]
      cases hx : Double.ofQuotient (b < 0) b.natAbs n with
      | infinite sign => exact absurd hx (Double.ofQuotient_ne_infinite hn hsmall _ sign)
      | nan => exact ⟨_, rfl⟩
      | finite => exact ⟨_, rfl⟩

end Number

namespace Review

/-- There is a mean of scores unless their sum becomes too large for a double. -/
theorem exists_ofScores_iff {scores : List (Option Number)}
    (h : ∀ n ∈ scores.filterMap id, Check.IsScore n) :
  (∃ r, ofScores scores = .ok r) ↔ ¬ Number.Overflows 0 (scores.filterMap id)
  := by
  rw [ofScores]
  dsimp only
  generalize scores.filterMap id = given at h ⊢
  cases given with
  | nil =>
      apply iff_of_true ⟨_, rfl⟩
      rintro ⟨is, x, rest, hns, -⟩
      simp at hns
  | cons n ns =>
      simp only [bind_eq_ok_iff, pure_eq_ok_iff]
      rcases Number.sum_int_spec h 0 with ⟨hoverflows, hfails⟩ | ⟨hfits, s, hs, hbounds⟩
      · apply iff_of_false _ (not_not_intro hoverflows)
        rintro ⟨r, s, hs, -⟩
        apply hfails s hs
      · rw [zero_add] at hbounds
        obtain ⟨x, hx⟩ := Number.exists_divCount (Nat.succ_ne_zero ns.length) hbounds
        apply iff_of_true ⟨_, s, hs, x, hx, rfl⟩ hfits

/-- The scores of valid tasks have a mean unless their sum becomes too large for a double. -/
theorem exists_ofTasks_iff {tasks : List Task} (h : ∀ t ∈ tasks, t.Valid) :
  (∃ r, ofTasks tasks = .ok r) ↔ ¬ Number.Overflows 0 (tasks.filterMap Task.score)
  := by
  have hgiven : (tasks.map (·.score)).filterMap id = tasks.filterMap Task.score := by
    rw [List.filterMap_map]
    rfl
  rw [ofTasks, ← hgiven]
  apply exists_ofScores_iff
  rw [hgiven]
  intro n hn
  obtain ⟨t, ht, hscore⟩ := List.mem_filterMap.mp hn
  apply (h t ht).score n hscore

end Review

end Kanban
