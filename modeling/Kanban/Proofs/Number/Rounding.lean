import Kanban.Number.Shortest
import Mathlib

/-!
# Rounding to the nearest double

The value of a canonical pair `m`, `q` is `m · 2 ^ q`, and the rationals nearest to it are
those of `Double.Nearest m q`: they lie in an interval whose ends belong to it when `m` is
even.  A quotient in the interval is rounded to the pair (`Double.ofQuotient_eq`).
-/

namespace Kanban

theorem zpow_eq_div (b : ℚ) (q : Int) :
  b ^ q = b ^ q.toNat / b ^ (-q).toNat
  := by
  rcases le_total 0 q with h | h
  · obtain ⟨n, rfl⟩ := Int.eq_ofNat_of_zero_le h
    simp
  · obtain ⟨n, hn⟩ := Int.eq_ofNat_of_zero_le (Int.neg_nonneg_of_nonpos h)
    obtain rfl : q = -n := by omega
    simp

theorem cast_one_shiftLeft (n : Nat) :
  ((1 <<< n : Nat) : ℚ) = 2 ^ n
  := by
  simp [Nat.shiftLeft_eq]

/-! ### Rounding half to even -/

/-- The rationals that are rounded to `m`: those at a distance of less than a half, and those
at a distance of a half when `m` is even. -/
def RoundsTo (m : Nat) (y : ℚ) : Prop :=
  (m : ℚ) - 1 / 2 ≤ y ∧ y ≤ m + 1 / 2 ∧ (m % 2 = 1 → (m : ℚ) - 1 / 2 < y ∧ y < m + 1 / 2)

theorem roundHalfEven_eq
    {num den m : Nat} (hden : 0 < den) (h : RoundsTo m ((num : ℚ) / den)) :
  roundHalfEven num den = m
  := by
  obtain ⟨hlow, hhigh, hodd⟩ := h
  have hden' : (0 : ℚ) < den := by exact_mod_cast hden
  -- the distances as inequalities between naturals
  have low : 2 * m * den ≤ 2 * num + den := by
    rw [le_div_iff₀ hden'] at hlow
    have : (2 * m * den : ℚ) ≤ 2 * num + den := by linarith
    exact_mod_cast this
  have high : 2 * num ≤ 2 * m * den + den := by
    rw [div_le_iff₀ hden'] at hhigh
    have : (2 * num : ℚ) ≤ 2 * m * den + den := by linarith
    exact_mod_cast this
  have strict : m % 2 = 1 → 2 * m * den < 2 * num + den ∧ 2 * num < 2 * m * den + den := by
    intro hm
    obtain ⟨h₁, h₂⟩ := hodd hm
    rw [lt_div_iff₀ hden'] at h₁
    rw [div_lt_iff₀ hden'] at h₂
    have h₃ : (2 * m * den : ℚ) < 2 * num + den := by linarith
    have h₄ : (2 * num : ℚ) < 2 * m * den + den := by linarith
    constructor
    · exact_mod_cast h₃
    · exact_mod_cast h₄
  have hsplit : den * (num / den) + num % den = num := Nat.div_add_mod num den
  have hrest : num % den < den := Nat.mod_lt num hden
  unfold roundHalfEven
  generalize num / den = q at *
  generalize num % den = r at *
  have hq : q ≤ m := by
    by_contra hlt
    have : (m + 1) * den ≤ q * den := Nat.mul_le_mul_right den (by omega)
    nlinarith
  have hq' : m ≤ q + 1 := by
    by_contra hlt
    have : (q + 2) * den ≤ m * den := Nat.mul_le_mul_right den (by omega)
    nlinarith
  obtain rfl | rfl : m = q ∨ m = q + 1 := by omega
  · have hr : 2 * r ≤ den := by nlinarith
    have hr' : m % 2 = 1 → 2 * r < den := fun hm => by
      have := (strict hm).2
      nlinarith
    simp only
    split_ifs <;> omega
  · have hr : den ≤ 2 * r := by nlinarith
    have hr' : (q + 1) % 2 = 1 → den < 2 * r := fun hm => by
      have := (strict hm).1
      nlinarith
    simp only
    split_ifs <;> omega

namespace Double

/-- The quotient that is rounded, in multiples of a power of two. -/
theorem shifted_quotient (num den : Nat) (q : Int) :
  ((num <<< (-q).toNat : Nat) : ℚ) / (den <<< q.toNat : Nat) = num / den / 2 ^ q
  := by
  rw [zpow_eq_div, Nat.shiftLeft_eq, Nat.shiftLeft_eq]
  push_cast
  field_simp

theorem shifted_pos {den : Nat} (hden : 0 < den) (q : Int) :
  0 < den <<< q.toNat
  := by
  rw [Nat.shiftLeft_eq]
  positivity

theorem roundAt_eq
    {num den m : Nat} {q : Int} (hden : 0 < den) (h : RoundsTo m ((num : ℚ) / den / 2 ^ q)) :
  roundAt num den q = m
  := by
  apply roundHalfEven_eq (shifted_pos hden q)
  rw [shifted_quotient]
  apply h

/-! ### The exponent of a quotient -/

section exponentFor

variable {num den : Nat}

/-- A positive quotient lies between the powers of two that the lengths of its terms tell. -/
theorem quotient_bounds (hnum : num ≠ 0) (hden : den ≠ 0) :
  (2 : ℚ) ^ ((num.log2 : Int) - den.log2 - 1) < num / den
    ∧ (num : ℚ) / den < 2 ^ ((num.log2 : Int) - den.log2 + 1)
  := by
  have hden' : (0 : ℚ) < den := by positivity
  have hn : (2 : ℚ) ^ num.log2 ≤ num := by exact_mod_cast Nat.log2_self_le hnum
  have hn' : (num : ℚ) < 2 ^ (num.log2 + 1) := by exact_mod_cast Nat.lt_log2_self
  have hd : (2 : ℚ) ^ den.log2 ≤ den := by exact_mod_cast Nat.log2_self_le hden
  have hd' : (den : ℚ) < 2 ^ (den.log2 + 1) := by exact_mod_cast Nat.lt_log2_self
  constructor
  · rw [lt_div_iff₀ hden']
    calc (2 : ℚ) ^ ((num.log2 : Int) - den.log2 - 1) * den
        < 2 ^ ((num.log2 : Int) - den.log2 - 1) * 2 ^ (den.log2 + 1) := by gcongr
      _ = 2 ^ num.log2 := by
          rw [← zpow_natCast, ← zpow_natCast, ← zpow_add₀ two_ne_zero]
          congr 1
          push_cast
          ring
      _ ≤ num := hn
  · rw [div_lt_iff₀ hden']
    calc (num : ℚ) < 2 ^ (num.log2 + 1) := hn'
      _ = 2 ^ ((num.log2 : Int) - den.log2 + 1) * 2 ^ den.log2 := by
          rw [← zpow_natCast, ← zpow_natCast, ← zpow_add₀ two_ne_zero]
          congr 1
          push_cast
          ring
      _ ≤ 2 ^ ((num.log2 : Int) - den.log2 + 1) * den := by gcongr

/-- The comparison by which the exponent is found. -/
theorem shiftLeft_le_shiftLeft_iff (hden : den ≠ 0) (q : Int) :
  den <<< (q.toNat + 53) ≤ num <<< (-q).toNat ↔ (2 : ℚ) ^ (q + 53) ≤ num / den
  := by
  have hden' : (0 : ℚ) < den := by positivity
  have hpow : (0 : ℚ) < 2 ^ (-q).toNat := by positivity
  rw [le_div_iff₀ hden', zpow_add₀ two_ne_zero, zpow_eq_div, div_mul_eq_mul_div,
    div_mul_eq_mul_div, div_le_iff₀ hpow, Nat.shiftLeft_eq, Nat.shiftLeft_eq,
    ← Nat.cast_le (α := ℚ)]
  push_cast
  rw [pow_add, mul_comm (den : ℚ)]
  rfl

theorem exponentFor_le
    (hnum : num ≠ 0) (hden : den ≠ 0) {e : Int} (h : (num : ℚ) / den < 2 ^ (e + 53)) :
  exponentFor num den ≤ max e (-1074)
  := by
  have hlow := (quotient_bounds hnum hden).1
  unfold exponentFor
  dsimp only
  split_ifs with hc
  · rw [shiftLeft_le_shiftLeft_iff hden] at hc
    have := (zpow_lt_zpow_iff_right₀ one_lt_two).mp (hc.trans_lt h)
    omega
  · have := (zpow_lt_zpow_iff_right₀ one_lt_two).mp (hlow.trans h)
    omega

theorem le_exponentFor
    (hnum : num ≠ 0) (hden : den ≠ 0) {e : Int} (h : (2 : ℚ) ^ (e + 52) ≤ num / den) :
  e ≤ exponentFor num den
  := by
  have hhigh := (quotient_bounds hnum hden).2
  unfold exponentFor
  dsimp only
  split_ifs with hc
  · have := (zpow_lt_zpow_iff_right₀ one_lt_two).mp (h.trans_lt hhigh)
    omega
  · rw [shiftLeft_le_shiftLeft_iff hden, not_le] at hc
    have := (zpow_lt_zpow_iff_right₀ one_lt_two).mp (h.trans_lt hc)
    omega

theorem least_le_exponentFor (num den : Nat) :
  -1074 ≤ exponentFor num den
  := by
  rw [exponentFor]
  apply le_max_right

end exponentFor

/-! ### Quotients near a double -/

/-- The value `x` is nearest to `m · 2 ^ q` of all doubles: it lies between the ends of the
interval around it, or on one of them when `m` is even. -/
def Nearest (m : Nat) (q : Int) (x : ℚ) : Prop :=
  (Decimal.lowerEnd m q : ℚ) * 2 ^ (q - 2) ≤ x ∧ x ≤ Decimal.upperEnd m * 2 ^ (q - 2)
    ∧ (m % 2 = 1 → (Decimal.lowerEnd m q : ℚ) * 2 ^ (q - 2) < x
        ∧ x < Decimal.upperEnd m * 2 ^ (q - 2))

theorem two_zpow_quarter (q : Int) :
  (2 : ℚ) ^ (q - 2) = 2 ^ q / 4
  := by
  rw [zpow_sub₀ two_ne_zero]
  norm_num

theorem lowerEnd_of_ne {m : Nat} {q : Int} (hm : m ≠ 0) (h : m ≠ 1 <<< 52 ∨ q ≤ -1074) :
  (Decimal.lowerEnd m q : ℚ) = 4 * m - 2
  := by
  rw [Decimal.lowerEnd]
  rw [if_neg (by omega), Nat.cast_sub (by omega)]
  push_cast
  rfl

theorem le_lowerEnd {m : Nat} (q : Int) (hm : m ≠ 0) :
  (4 * m - 2 : ℚ) ≤ Decimal.lowerEnd m q
  := by
  rw [Decimal.lowerEnd]
  split_ifs <;> rw [Nat.cast_sub (by omega)] <;> push_cast <;> linarith

/-- A value nearest to `m · 2 ^ q` is rounded to `m` at the exponent `q`. -/
theorem Nearest.roundsTo
    {m : Nat} {q : Int} {x : ℚ} (hm : m ≠ 0) (h : Nearest m q x) :
  RoundsTo m (x / 2 ^ q)
  := by
  obtain ⟨hlow, hhigh, hodd⟩ := h
  have hpow : (0 : ℚ) < 2 ^ q := by positivity
  have hend := le_lowerEnd q hm
  have hup : (Decimal.upperEnd m : ℚ) = 4 * m + 2 := by simp [Decimal.upperEnd]
  rw [two_zpow_quarter] at hlow hhigh hodd
  rw [hup] at hhigh hodd
  refine ⟨?_, ?_, fun hm => ⟨?_, ?_⟩⟩
  · rw [le_div_iff₀ hpow]
    nlinarith
  · rw [div_le_iff₀ hpow]
    nlinarith
  · rw [lt_div_iff₀ hpow]
    nlinarith [(hodd hm).1]
  · rw [div_lt_iff₀ hpow]
    nlinarith [(hodd hm).2]

/-- A value nearest to a double has no more bits before the point than it. -/
theorem Nearest.lt
    {m : Nat} {q : Int} {x : ℚ} (hm : m ≠ 0) (hc : Canonical m q) (h : Nearest m q x) :
  x / 2 ^ q < 2 ^ 53
  := by
  obtain ⟨-, hhigh, hodd⟩ := h.roundsTo hm
  have hlt : m < 2 ^ 53 := hc.1
  rcases Nat.lt_or_ge m (2 ^ 53 - 1) with hm' | hm'
  · have : (m : ℚ) + 1 ≤ 9007199254740991 := by
      exact_mod_cast (by omega : m + 1 ≤ 9007199254740991)
    linarith
  · obtain rfl : m = 2 ^ 53 - 1 := by omega
    have := (hodd (by norm_num)).2
    push_cast at this
    norm_num at this ⊢
    linarith

theorem Nearest.pos {m : Nat} {q : Int} {x : ℚ} (hm : m ≠ 0) (h : Nearest m q x) :
  0 < x
  := by
  have hend := le_lowerEnd q hm
  have hm' : (1 : ℚ) ≤ m := by exact_mod_cast Nat.one_le_iff_ne_zero.mpr hm
  have hpow : (0 : ℚ) < 2 ^ (q - 2) := by positivity
  apply lt_of_lt_of_le _ h.1
  apply mul_pos _ hpow
  linarith

section ofQuotient

variable {num den m : Nat} {q : Int} {x : ℚ}

/-- A quotient with as many bits as the double nearest to it has the exponent of that double. -/
theorem Nearest.exponentFor_eq
    (hnum : num ≠ 0) (hden : den ≠ 0) (hm : m ≠ 0) (hc : Canonical m q)
    (h : Nearest m q ((num : ℚ) / den)) (hbits : 2 ^ 52 ≤ (num : ℚ) / den / 2 ^ q ∨ q = -1074) :
  exponentFor num den = q
  := by
  have hpow : (0 : ℚ) < 2 ^ q := by positivity
  have hleast : -1074 ≤ q := hc.2.1
  apply le_antisymm
  · have hlt : (num : ℚ) / den < 2 ^ (q + 53) := by
      rw [zpow_add₀ two_ne_zero, mul_comm, ← div_lt_iff₀ hpow]
      apply h.lt hm hc
    have := exponentFor_le hnum hden hlt
    omega
  · rcases hbits with hbits | rfl
    · rw [le_div_iff₀ hpow] at hbits
      apply le_exponentFor hnum hden
      rw [zpow_add₀ two_ne_zero, mul_comm]
      apply hbits
    · apply least_le_exponentFor

/-- A value with fewer bits than the double nearest to it lies just below a power of two, where
doubles are twice as dense. -/
theorem Nearest.below
    (hm : m ≠ 0) (hc : Canonical m q) (h : Nearest m q x) (hbits : x / 2 ^ q < 2 ^ 52)
    (hleast : q ≠ -1074) :
  m = 1 <<< 52 ∧ (2 ^ 54 - 1 : ℚ) / 4 ≤ x / 2 ^ q
  := by
  have hpow : (0 : ℚ) < 2 ^ q := by positivity
  obtain ⟨-, hq, -, hfull⟩ := hc
  have hlow := h.1
  rw [two_zpow_quarter] at hlow
  have hm52 : m = 1 <<< 52 := by
    by_contra hne
    rw [lowerEnd_of_ne hm (.inl hne)] at hlow
    rw [div_lt_iff₀ hpow] at hbits
    have hmany : (2 ^ 52 + 1 : ℚ) ≤ m := by
      exact_mod_cast (by omega : 2 ^ 52 + 1 ≤ m)
    nlinarith
  apply And.intro hm52
  have hend : (Decimal.lowerEnd m q : ℚ) = 2 ^ 54 - 1 := by
    rw [Decimal.lowerEnd, if_pos ⟨hm52, by omega⟩, hm52, Nat.cast_sub (by decide)]
    push_cast [cast_one_shiftLeft]
    norm_num
  rw [hend] at hlow
  rw [le_div_iff₀ hpow]
  linarith

theorem div_two_zpow_sub_one (x : ℚ) (q : Int) :
  x / 2 ^ (q - 1) = 2 * (x / 2 ^ q)
  := by
  rw [zpow_sub₀ two_ne_zero]
  field_simp

/-- A quotient just below a power of two has the exponent before it. -/
theorem exponentFor_below
    (hnum : num ≠ 0) (hden : den ≠ 0) (hq : -1074 < q)
    (hlow : (2 ^ 54 - 1 : ℚ) / 4 ≤ (num : ℚ) / den / 2 ^ q)
    (hbits : (num : ℚ) / den / 2 ^ q < 2 ^ 52) :
  exponentFor num den = q - 1
  := by
  have hpow : (0 : ℚ) < 2 ^ (q - 1) := by positivity
  apply le_antisymm
  · have hlt : (num : ℚ) / den < 2 ^ (q - 1 + 53) := by
      rw [zpow_add₀ two_ne_zero, mul_comm, ← div_lt_iff₀ hpow, div_two_zpow_sub_one]
      norm_num at hbits ⊢
      linarith
    have := exponentFor_le hnum hden hlt
    omega
  · apply le_exponentFor hnum hden
    rw [zpow_add₀ two_ne_zero, mul_comm, ← le_div_iff₀ hpow, div_two_zpow_sub_one]
    norm_num at hlow ⊢
    linarith

/-- A quotient that is nearest to a double is rounded to it. -/
theorem ofQuotient_eq
    (negative : Bool) (hden : den ≠ 0) (hm : m ≠ 0) (hc : Canonical m q)
    (h : Nearest m q ((num : ℚ) / den)) :
  ofQuotient negative num den = .finite negative m q hc
  := by
  have hnum : num ≠ 0 := by
    rintro rfl
    simpa using h.pos hm
  by_cases hbits : 2 ^ 52 ≤ (num : ℚ) / den / 2 ^ q ∨ q = -1074
  · have hexp := h.exponentFor_eq hnum hden hm hc hbits
    have hround : roundAt num den q = m := roundAt_eq (by omega) (h.roundsTo hm)
    have hlt : m < 2 ^ 53 := hc.1
    rw [ofQuotient, if_neg hnum]
    simp only [hexp, hround]
    rw [if_neg (by omega), ofParts, dif_pos hc]
  · -- the mantissa is rounded up to a power of two, which takes one more bit
    rw [not_or, not_le] at hbits
    obtain ⟨hm52, hlow⟩ := h.below hm hc hbits.1 hbits.2
    have hq : -1074 ≤ q := hc.2.1
    have hexp := exponentFor_below hnum hden (by omega) hlow hbits.1
    have hround : roundAt num den (q - 1) = 1 <<< 53 := by
      apply roundAt_eq (by omega)
      rw [div_two_zpow_sub_one, RoundsTo, cast_one_shiftLeft]
      have hhigh := hbits.1
      refine ⟨by linarith, by linarith, fun hodd => absurd hodd (by decide)⟩
    rw [ofQuotient, if_neg hnum]
    simp only [hexp, hround, if_pos, sub_add_cancel]
    rw [ofParts, dif_pos (by rwa [hm52] at hc)]
    simp only [hm52]

end ofQuotient

end Double

end Kanban
