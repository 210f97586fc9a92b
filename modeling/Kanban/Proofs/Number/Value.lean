import Kanban.Proofs.Json.Numeral

/-!
# The values of numbers

Two numbers are alike when they have the same place in the order, or when neither has one.
This is `Number.same` but for not-a-number, which is alike to itself.  The settled form of a
number has the same place (`Number.place?_settled`), so whatever is decided by the value of a
number is the same for both.  The value of a finite number is a rational (`Number.value?`), and
the order of numbers is that of their values (`Number.lt_iff_of_value?`).
-/

namespace Kanban.Number

/-- The two numbers have the same value, or neither of them is a number. -/
def alike (a b : Number) : Bool := a.place? == b.place?

@[simp]
theorem alike_iff {a b : Number} :
  a.alike b = true ↔ a.place? = b.place?
  := beq_iff_eq

theorem same_iff {a b : Number} :
  a.same b = true ↔ ∃ p, a.place? = some p ∧ b.place? = some p
  := by
  rw [same]
  cases ha : a.place? <;> cases hb : b.place? <;> simp
  grind

theorem same_symm {a b : Number} (h : a.same b = true) :
  b.same a = true
  := by
  obtain ⟨p, ha, hb⟩ := same_iff.mp h
  apply same_iff.mpr ⟨p, hb, ha⟩

theorem same_trans {a b c : Number} (hab : a.same b = true) (hbc : b.same c = true) :
  a.same c = true
  := by
  obtain ⟨p, ha, hb⟩ := same_iff.mp hab
  obtain ⟨q, hb', hc⟩ := same_iff.mp hbc
  obtain rfl := Option.some.inj (hb.symm.trans hb')
  apply same_iff.mpr ⟨p, ha, hc⟩

/-- A number that has a value. -/
def IsValue (a : Number) : Prop := a.place?.isSome = true

theorem same_self_iff {a : Number} :
  a.same a = true ↔ a.IsValue
  := by
  simp [same_iff, IsValue, Option.isSome_iff_exists]

theorem isValue_of_isFinite {a : Number} (h : a.isFinite = true) :
  a.IsValue
  := by
  rcases a with n | _ | _ | _
  · rfl
  · contradiction
  · contradiction
  · rfl

theorem unit_pos :
  (0 : Int) < Double.unit
  := by
  rw [Double.unit, Nat.one_shiftLeft]
  positivity

/-- Numbers with an integer's value, by that integer. -/
theorem place?_of_toInt? {a : Number} {n : Int} (h : a.toInt? = some n) :
  a.place? = some (0, n * Double.unit)
  := by
  rcases a with k | x
  · obtain rfl := Option.some.inj h
    rfl
  · cases x with
    | finite negative m q canonical =>
        simp only [toInt?, Double.units?] at h
        split_ifs at h with hmod
        obtain rfl := Option.some.inj h
        rw [Int.ediv_mul_cancel (Int.dvd_of_emod_eq_zero hmod)]
        rfl
    | _ => cases h

theorem place?_settled (a : Number) :
  a.settled.place? = a.place?
  := by
  rw [settled]
  cases h : a.toInt? with
  | none => rfl
  | some n =>
      rw [place?_of_toInt? h]
      rfl

theorem settled_lt (a b : Number) :
  a.settled.lt b = a.lt b
  := by
  unfold lt
  rw [place?_settled]

theorem settled_settled (a : Number) :
  a.settled.settled = a.settled
  := by
  unfold settled
  cases h : a.toInt? with
  | none => simp [h]
  | some n => rfl

theorem settled_of_isWhole {a : Number} (h : a.isWhole = true) :
  ∃ n, a.toInt? = some n ∧ a.settled = .int n
  := by
  obtain ⟨n, hn⟩ := Option.isSome_iff_exists.mp h
  refine ⟨n, hn, ?_⟩
  rw [settled, hn]

theorem int_lt_int (m n : Int) :
  lt (.int m) (.int n) = decide (m < n)
  := by
  have h : m * Double.unit < n * Double.unit ↔ m < n := Int.mul_lt_mul_right unit_pos
  simp [lt, place?, h]

/-! ### Values as rationals -/

/-- The value of a finite number. -/
def value? : Number → Option ℚ
  | .int n => some n
  | .float (.finite negative m q _) => some ((if negative then -1 else 1) * m * 2 ^ q)
  | .float _ => none

variable {a b : Number} {x y : ℚ}

theorem isFinite_iff :
  a.isFinite = true ↔ ∃ x, a.value? = some x
  := by
  rcases a with n | _ | _ | _ <;> simp [isFinite, Double.isFinite, value?]

theorem cast_unitsOf (negative : Bool) (m : Nat) {q : Int} (hq : -1074 ≤ q) :
  (Double.unitsOf negative m q : ℚ) = (if negative then -1 else 1) * m * 2 ^ q * Double.unit
  := by
  have hshift : ((m <<< (q + 1074).toNat : Nat) : ℚ) = m * 2 ^ q * Double.unit := by
    obtain ⟨n, hn⟩ := Int.eq_ofNat_of_zero_le (by omega : 0 ≤ q + 1074)
    obtain rfl : q = n - 1074 := by omega
    rw [Nat.shiftLeft_eq, Double.unit, cast_one_shiftLeft, mul_assoc]
    rw [← zpow_natCast (2 : ℚ) 1074, ← zpow_add₀ (by norm_num)]
    simp
  rw [Double.unitsOf]
  cases negative with
  | false =>
      rw [if_neg Bool.false_ne_true, if_neg Bool.false_ne_true, Int.cast_natCast, hshift, one_mul]
  | true =>
      rw [if_pos rfl, if_pos rfl, Int.cast_neg, Int.cast_natCast, hshift, neg_mul, neg_mul, neg_mul,
        one_mul]

/-- The place of a finite number counts how many times `2 ^ -1074` goes into its value. -/
theorem place?_of_value? (h : a.value? = some x) :
  ∃ u : Int, a.place? = some (0, u) ∧ u = x * Double.unit
  := by
  rcases a with n | _ | _ | ⟨negative, m, q, canonical⟩
  · obtain rfl := Option.some.inj h
    exact ⟨_, rfl, by push_cast; rfl⟩
  · cases h
  · cases h
  · obtain rfl := Option.some.inj h
    exact ⟨_, rfl, cast_unitsOf negative m canonical.2.1⟩

theorem lt_iff_of_value? (ha : a.value? = some x) (hb : b.value? = some y) :
  a.lt b = true ↔ x < y
  := by
  obtain ⟨u, hu, hux⟩ := place?_of_value? ha
  obtain ⟨w, hw, hwy⟩ := place?_of_value? hb
  have hunit : (0 : ℚ) < Double.unit := by exact_mod_cast unit_pos
  have hcast : u < w ↔ x < y := by
    rw [← Int.cast_lt (R := ℚ), hux, hwy]
    apply mul_lt_mul_iff_left₀ hunit
  simp [lt, hu, hw, hcast]

/-- The integer of the same value, by that value. -/
theorem toInt?_eq_some_iff {n : Int} :
  a.toInt? = some n ↔ a.value? = some (n : ℚ)
  := by
  rcases a with k | _ | _ | ⟨negative, m, q, canonical⟩
  · simp [toInt?, value?]
  · simp [toInt?, value?, Double.units?]
  · simp [toInt?, value?, Double.units?]
  · have hunit : (Double.unit : ℚ) ≠ 0 := by exact_mod_cast unit_pos.ne'
    have hunits : Double.unitsOf negative m q = n * Double.unit
        ↔ (if negative then -1 else 1) * m * 2 ^ q = (n : ℚ) := by
      rw [← Int.cast_inj (α := ℚ), cast_unitsOf negative m canonical.2.1, Int.cast_mul,
        Int.cast_natCast, mul_left_inj' hunit]
    rw [value?, Option.some.injEq, ← hunits, toInt?, Double.units?]
    dsimp only
    constructor
    · intro h
      split_ifs at h with hmod
      obtain rfl := Option.some.inj h
      apply (Int.ediv_mul_cancel (Int.dvd_of_emod_eq_zero hmod)).symm
    · intro h
      rw [h, if_pos (Int.mul_emod_left _ _), Int.mul_ediv_cancel _ unit_pos.ne']

/-! ### Settled numbers are legible -/

theorem legible_of_lt {n : Int} (h : n.natAbs < 10 ^ Number.maxDigits) :
  Legible (.int n)
  := (Json.length_digits_le_iff (by decide)).mpr h

theorem legible_of_small {n : Int} (h : n.natAbs < 10 ^ 3) :
  Legible (.int n)
  := by
  apply legible_of_lt
  apply h.trans_le (Nat.pow_le_pow_right _ _) <;> decide

theorem natAbs_unitsOf (negative : Bool) (m : Nat) (q : Int) :
  (Double.unitsOf negative m q).natAbs = m * 2 ^ (q + 1074).toNat
  := by
  rw [← Nat.shiftLeft_eq]
  rw [Double.unitsOf]
  cases negative
  · apply Int.natAbs_natCast
  · apply (Int.natAbs_neg _).trans (Int.natAbs_natCast _)

/-- A double that is whole has the value of an integer of at most 1024 bits. -/
theorem natAbs_lt_of_toInt? {x : Double} {n : Int} (h : toInt? (.float x) = some n) :
  n.natAbs < 2 ^ 1024
  := by
  cases x with
  | finite negative m q canonical =>
      simp only [toInt?, Double.units?] at h
      split_ifs at h with hmod
      obtain rfl := Option.some.inj h
      obtain ⟨hm, -, hq, -⟩ := canonical
      have hunit : (Double.unit : Int).natAbs = 2 ^ 1074 := by
        have hpow (k : ℕ) : ((1 <<< k : ℕ) : Int).natAbs = 2 ^ k := by
          rw [Int.natAbs_natCast, Nat.one_shiftLeft]
        apply hpow
      have hpow {k a b : ℕ} (h : 53 + k ≤ a + b) : 2 ^ 53 * 2 ^ k ≤ 2 ^ a * 2 ^ b := by
        rw [← pow_add, ← pow_add]
        apply Nat.pow_le_pow_right (by decide) h
      rw [Int.natAbs_ediv_of_dvd (Int.dvd_of_emod_eq_zero hmod), natAbs_unitsOf, hunit]
      rw [Nat.one_shiftLeft] at hm
      apply Nat.div_lt_of_lt_mul
      apply (Nat.mul_lt_mul_of_pos_right hm (by positivity)).trans_le
      apply hpow
      omega
  | _ => cases h

theorem legible_settled {a : Number} (h : a.Legible) :
  a.settled.Legible
  := by
  rw [settled]
  cases hn : a.toInt? with
  | none => apply h
  | some n =>
      cases a with
      | int k =>
          obtain rfl := Option.some.inj hn
          apply h
      | float x =>
          have hpow (k : ℕ) : 2 ^ k ≤ 10 ^ k := Nat.pow_le_pow_left (by decide) k
          apply legible_of_lt
          apply (natAbs_lt_of_toInt? hn).trans_le
          apply (hpow _).trans
          apply Nat.pow_le_pow_right <;> decide

end Kanban.Number
