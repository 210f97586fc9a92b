import Kanban.Proofs.Number.Rounding

/-!
# Shortest decimals read back

The shortest decimal of a double lies in the interval of values nearest to the double
(`Decimal.shortest_nearest`), and every decimal in that interval, whatever its digits and
exponent are, is rounded to the double (`Double.ofDecimal_eq`).
-/

namespace Kanban

namespace Decimal

/-- The value of a decimal. -/
def value (d : Decimal) : ℚ := d.digits * 10 ^ d.exponent

/-- The factors of a comparison are `10 ^ p` and `2 ^ (q - 2)`, both multiplied by the same
number so that they are whole. -/
theorem factors_eq (p q : Int) :
  ∃ k : ℚ, 0 < k ∧ ((factors p q).1 : ℚ) = k * 10 ^ p ∧ ((factors p q).2 : ℚ) = k * 2 ^ (q - 2)
  := by
  use 10 ^ (-p).toNat * 2 ^ (2 - q).toNat
  refine ⟨by positivity, ?_, ?_⟩
  · rw [zpow_eq_div 10 p]
    simp only [factors, Nat.shiftLeft_eq, Nat.pow_eq]
    push_cast
    field_simp
  · rw [zpow_eq_div 2 (q - 2), neg_sub]
    simp only [factors, Nat.shiftLeft_eq, Nat.pow_eq]
    push_cast
    field_simp

theorem inInterval_iff (m : Nat) (q : Int) (d : Nat) (p : Int) :
  inInterval m q d p = true ↔ Double.Nearest m q (value ⟨d, p⟩)
  := by
  obtain ⟨k, hk, ha, hb⟩ := factors_eq p q
  have hle (c d : Nat) : c * (factors p q).2 ≤ d * (factors p q).1
      ↔ (c : ℚ) * 2 ^ (q - 2) ≤ d * 10 ^ p := by
    rw [← Nat.cast_le (α := ℚ), Nat.cast_mul, Nat.cast_mul, ha, hb, mul_left_comm,
      mul_left_comm (d : ℚ), mul_le_mul_iff_right₀ hk]
  have hge (c d : Nat) : d * (factors p q).1 ≤ c * (factors p q).2
      ↔ (d : ℚ) * 10 ^ p ≤ c * 2 ^ (q - 2) := by
    rw [← Nat.cast_le (α := ℚ), Nat.cast_mul, Nat.cast_mul, ha, hb, mul_left_comm,
      mul_left_comm (c : ℚ), mul_le_mul_iff_right₀ hk]
  have hlt (c d : Nat) : c * (factors p q).2 < d * (factors p q).1
      ↔ (c : ℚ) * 2 ^ (q - 2) < d * 10 ^ p := by
    rw [← not_le, hge, not_le]
  have hgt (c d : Nat) : d * (factors p q).1 < c * (factors p q).2
      ↔ (d : ℚ) * 10 ^ p < c * 2 ^ (q - 2) := by
    rw [← not_le, hle, not_le]
  rw [inInterval, Double.Nearest, value]
  dsimp only
  rcases Nat.mod_two_eq_zero_or_one m with hm | hm
  · simp [hm, hle, hge]
  · simp only [hm, one_ne_zero, ↓reduceIte, Bool.and_eq_true, decide_eq_true_eq, hlt, hgt,
      forall_const]
    constructor
    · rintro ⟨h₁, h₂⟩
      refine ⟨h₁.le, h₂.le, h₁, h₂⟩
    · rintro ⟨-, -, h⟩
      apply h

theorem lowerEnd_lt {m : Nat} (q : Int) (hm : m ≠ 0) :
  (lowerEnd m q : ℚ) < 4 * m
  := by
  have : lowerEnd m q < 4 * m := by
    rw [lowerEnd]
    split_ifs <;> omega
  exact_mod_cast this

/-- A double is nearest to itself. -/
theorem nearest_self {m : Nat} (q : Int) (hm : m ≠ 0) :
  Double.Nearest m q (m * 2 ^ q)
  := by
  have hpow : (0 : ℚ) < 2 ^ q := by positivity
  have hlow := lowerEnd_lt q hm
  have hup : (upperEnd m : ℚ) = 4 * m + 2 := by simp [upperEnd]
  rw [Double.Nearest]
  rw [Double.two_zpow_quarter, hup]
  refine ⟨?_, ?_, fun _ => ⟨?_, ?_⟩⟩ <;> nlinarith

theorem value_exact (m : Nat) (q : Int) :
  (exact m q).value = m * 2 ^ q
  := by
  rw [exact, value]
  split_ifs with hq
  · obtain ⟨n, rfl⟩ := Int.eq_ofNat_of_zero_le hq
    simp [Nat.shiftLeft_eq]
  · obtain ⟨n, hn⟩ := Int.eq_ofNat_of_zero_le (Int.neg_nonneg_of_nonpos (not_le.mp hq).le)
    obtain rfl : q = -n := by omega
    have hten : (10 : ℚ) ^ n = 5 ^ n * 2 ^ n := by rw [← mul_pow]; norm_num
    simp only [neg_neg, Int.toNat_natCast, Nat.pow_eq, Nat.cast_mul, Nat.cast_pow,
      Nat.cast_ofNat, zpow_neg, zpow_natCast, hten]
    field_simp

theorem onGrid?_nearest
    {m : Nat} {q p : Int} {d : Decimal} (h : onGrid? m q p = some d) :
  Double.Nearest m q d.value
  := by
  suffices inInterval m q d.digits d.exponent = true from (inInterval_iff ..).mp this
  rw [onGrid?] at h
  dsimp only at h
  split at h
  next hd hd' =>
    cases h
    rw [nearer]
    dsimp only
    split_ifs
    · apply hd
    · apply hd'
    · apply hd
    · apply hd'
  next hd _ =>
    cases h
    apply hd
  next _ hd =>
    cases h
    apply hd
  next => cases h

/-- The shortest decimal of a double is nearest to it. -/
theorem shortest_nearest {m : Nat} (q : Int) (hm : m ≠ 0) :
  Double.Nearest m q (shortest m q).value
  := by
  rw [shortest]
  cases h : (List.range 20).findSome? fun i : Nat => onGrid? m q (exponentAbove m q - i) with
  | none =>
      rw [Option.getD_none, value_exact]
      apply nearest_self q hm
  | some d =>
      obtain ⟨i, -, hi⟩ := List.exists_of_findSome?_eq_some h
      apply onGrid?_nearest hi

end Decimal

namespace Double

theorem eight_zpow (e : Int) :
  (8 : ℚ) ^ e = 2 ^ (3 * e)
  := by
  rw [zpow_mul]
  norm_num

section ofDecimal

variable {n m : Nat} {e q : Int}

/-- A decimal nearest to a double has no large exponent. -/
theorem Nearest.exponent_le
    (hn : n ≠ 0) (hm : m ≠ 0) (hc : Canonical m q) (h : Nearest m q (n * 10 ^ e)) :
  3 * e ≤ 1024
  := by
  by_contra! hlarge
  have hn' : (1 : ℚ) ≤ n := by exact_mod_cast Nat.one_le_iff_ne_zero.mpr hn
  have hlt := h.lt hm hc
  rw [div_lt_iff₀ (by positivity), ← zpow_natCast, ← zpow_add₀ two_ne_zero] at hlt
  have hpow : (2 : ℚ) ^ (3 * e) ≤ n * 10 ^ e := by
    rw [← eight_zpow]
    calc (8 : ℚ) ^ e ≤ 10 ^ e := zpow_le_zpow_left₀ (by omega) (by norm_num) (by norm_num)
      _ ≤ n * 10 ^ e := le_mul_of_one_le_left (by positivity) hn'
  have := (zpow_lt_zpow_iff_right₀ one_lt_two).mp (hpow.trans_lt hlt)
  have := hc.2.2.1
  omega

/-- A value nearest to a double is not below a half of the least one. -/
theorem Nearest.two_zpow_le {x : ℚ} (hm : m ≠ 0) (hc : Canonical m q) (h : Nearest m q x) :
  (2 : ℚ) ^ (-1075 : Int) ≤ x
  := by
  have hend := le_lowerEnd q hm
  have hm' : (1 : ℚ) ≤ m := by exact_mod_cast Nat.one_le_iff_ne_zero.mpr hm
  calc (2 : ℚ) ^ (-1075 : Int) ≤ 2 ^ (q - 1) :=
        zpow_le_zpow_right₀ one_le_two (by have := hc.2.1; omega)
    _ = 2 * 2 ^ (q - 2) := by
        rw [← zpow_one_add₀ two_ne_zero]
        congr 1
        ring
    _ ≤ Decimal.lowerEnd m q * 2 ^ (q - 2) := by
        gcongr
        linarith
    _ ≤ x := h.1

/-- A decimal nearest to a double has no small exponent for its digits. -/
theorem Nearest.le_exponent (hm : m ≠ 0) (hc : Canonical m q) (h : Nearest m q (n * 10 ^ e)) :
  -1080 ≤ (n.log2 : Int) + 1 + 3 * e
  := by
  by_contra! hsmall
  have hlog : (n : ℚ) < 2 ^ (n.log2 + 1) := by exact_mod_cast Nat.lt_log2_self
  have hten : (10 : ℚ) ^ e ≤ 8 ^ e := by
    obtain ⟨k, hk⟩ := Int.eq_ofNat_of_zero_le (show 0 ≤ -e by omega)
    obtain rfl : e = -k := by omega
    rw [zpow_neg, zpow_neg, zpow_natCast, zpow_natCast]
    gcongr
    norm_num
  have hhigh : n * 10 ^ e < (2 : ℚ) ^ ((n.log2 : Int) + 1 + 3 * e) := by
    rw [zpow_add₀ two_ne_zero, ← eight_zpow]
    calc (n : ℚ) * 10 ^ e < 2 ^ (n.log2 + 1) * 10 ^ e := by gcongr
      _ ≤ 2 ^ (n.log2 + 1) * 8 ^ e := by gcongr
      _ = 2 ^ ((n.log2 : Int) + 1) * 8 ^ e := by
          rw [← zpow_natCast]
          push_cast
          rfl
  have := (zpow_lt_zpow_iff_right₀ one_lt_two).mp ((h.two_zpow_le hm hc).trans_lt hhigh)
  omega

/-- A decimal that is nearest to a double is rounded to it. -/
theorem ofDecimal_eq
    (negative : Bool) {d : Decimal} (hm : m ≠ 0) (hc : Canonical m q)
    (h : Nearest m q d.value) :
  ofDecimal negative d.digits d.exponent = .finite negative m q hc
  := by
  obtain ⟨n, e⟩ := d
  change Nearest m q (n * 10 ^ e) at h
  change ofDecimal negative n e = _
  have hpos := h.pos hm
  have hn : n ≠ 0 := by
    rintro rfl
    simp at hpos
  have hlarge := h.exponent_le hn hm hc
  have hsmall := h.le_exponent hm hc
  rw [ofDecimal, if_neg hn, if_neg (by omega), if_neg (by omega)]
  apply ofQuotient_eq negative (by simp [Nat.pow_eq]) hm hc
  have hquot : ((n * Nat.pow 10 e.toNat : Nat) : ℚ) / (Nat.pow 10 (-e).toNat : Nat)
      = n * 10 ^ e := by
    rw [zpow_eq_div, Nat.pow_eq, Nat.pow_eq]
    push_cast
    ring
  rw [hquot]
  apply h

end ofDecimal

end Double

end Kanban
