import Kanban.Proofs.Number.Rounding

/-!
# Quotients within the range of doubles

At its exponent a quotient has 53 bits before the point, and as many or one more after it was
rounded.  So a quotient below `2 ^ 1023` is rounded to a finite double, and not to an infinity
(`Double.isFinite_ofQuotient`).
-/

namespace Kanban

theorem roundHalfEven_bounds (num den : Nat) :
  num / den ≤ roundHalfEven num den ∧ roundHalfEven num den ≤ num / den + 1
  := by
  unfold roundHalfEven
  dsimp only
  split_ifs <;> omega

namespace Double

variable {num den : Nat} {q : Int}

theorem roundAt_le (hden : 0 < den) {n : Nat} (h : (num : ℚ) / den / 2 ^ q < n) :
  roundAt num den q ≤ n
  := by
  have hpos : 0 < den <<< q.toNat := shifted_pos hden q
  have hlt : (num <<< (-q).toNat) / (den <<< q.toNat) < n := by
    rw [Nat.div_lt_iff_lt_mul hpos]
    rw [← shifted_quotient, div_lt_iff₀ (by exact_mod_cast hpos)] at h
    exact_mod_cast h
  have hround := (roundHalfEven_bounds (num <<< (-q).toNat) (den <<< q.toNat)).2
  rw [roundAt]
  omega

theorem le_roundAt (hden : 0 < den) {n : Nat} (h : n ≤ (num : ℚ) / den / 2 ^ q) :
  n ≤ roundAt num den q
  := by
  have hpos : 0 < den <<< q.toNat := shifted_pos hden q
  have hle : n ≤ (num <<< (-q).toNat) / (den <<< q.toNat) := by
    rw [Nat.le_div_iff_mul_le hpos]
    rw [← shifted_quotient, le_div_iff₀ (by exact_mod_cast hpos)] at h
    exact_mod_cast h
  apply hle.trans (roundHalfEven_bounds _ _).1

/-- At its exponent a quotient has 53 bits before the point, unless the exponent is the least one;
then it may have fewer. -/
theorem exponentFor_bits (hnum : num ≠ 0) (hden : den ≠ 0) :
  (num : ℚ) / den < 2 ^ (exponentFor num den + 53)
    ∧ ((2 : ℚ) ^ (exponentFor num den + 52) ≤ num / den ∨ exponentFor num den = -1074)
  := by
  constructor
  · have hnext : exponentFor num den + 53 = exponentFor num den + 1 + 52 := by ring
    by_contra hge
    rw [not_lt, hnext] at hge
    have := le_exponentFor hnum hden hge
    omega
  · rw [or_iff_not_imp_left, not_le]
    intro hlt
    have hprevious : exponentFor num den + 52 = exponentFor num den - 1 + 53 := by ring
    rw [hprevious] at hlt
    have := exponentFor_le hnum hden hlt
    have := least_le_exponentFor num den
    omega

/-- A mantissa of 53 bits at an exponent that is not too large makes a finite double. -/
theorem isFinite_ofParts (negative : Bool) {m : Nat} (h : Canonical m q) :
  (ofParts negative m q).isFinite = true
  := by
  rw [ofParts, dif_pos h]
  rfl

/-- A quotient of moderate size is rounded to a finite double. -/
theorem isFinite_ofQuotient (negative : Bool) (hden : den ≠ 0)
    (h : (num : ℚ) / den < 2 ^ (1023 : Int)) :
  (ofQuotient negative num den).isFinite = true
  := by
  rw [ofQuotient]
  split_ifs with hnum
  · rfl
  · dsimp only
    have hleast := least_le_exponentFor num den
    have hlargest : exponentFor num den ≤ 970 := by
      have := exponentFor_le hnum hden (e := 970) h
      omega
    obtain ⟨hhigh, hlow⟩ := exponentFor_bits hnum hden
    generalize exponentFor num den = q at *
    have hpow : (0 : ℚ) < 2 ^ q := by positivity
    have hround : roundAt num den q ≤ 1 <<< 53 := by
      apply roundAt_le (Nat.pos_of_ne_zero hden)
      rw [zpow_add₀ two_ne_zero, mul_comm] at hhigh
      rw [div_lt_iff₀ hpow, cast_one_shiftLeft]
      exact_mod_cast hhigh
    split_ifs with hfull
    · apply isFinite_ofParts
      exact ⟨by decide, by omega, by omega, .inl le_rfl⟩
    · apply isFinite_ofParts
      refine ⟨by omega, hleast, by omega, ?_⟩
      apply hlow.imp_left
      intro hlow
      apply le_roundAt (Nat.pos_of_ne_zero hden)
      rw [zpow_add₀ two_ne_zero, mul_comm] at hlow
      rw [le_div_iff₀ hpow, cast_one_shiftLeft]
      exact_mod_cast hlow

end Double

end Kanban
