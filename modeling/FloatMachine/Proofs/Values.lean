import FloatMachine.Word
import Mathlib.Algebra.Order.Floor.Semifield
import Mathlib.Data.Rat.Floor
import Mathlib.Tactic.FieldSimp
import Mathlib.Tactic.Positivity
import Mathlib.Tactic.Ring

/-! The numbers that words stand for. Sign, exponent and fraction give a finite word its exact
rational value; counted in the least positive unit, that value is a whole number, and so the
integer part of a word can be taken without rounding. -/

namespace FloatMachine.Word

/-- The number in the exponent bits. -/
def exponent (w : Word) : Nat := w.magnitude / Nat.pow 2 52

/-- The number in the bits behind the exponent. -/
def fraction (w : Word) : Nat := w.magnitude % Nat.pow 2 52

/-- The sign bit as a factor. -/
def sign (w : Word) : ℚ := if w.isNegative then -1 else 1

/-- The number a finite word stands for. Without exponent bits the leading one is missing. -/
def value (w : Word) : ℚ :=
  if w.exponent = 0 then w.sign * (w.fraction / 2 ^ 52) * 2 ^ (-1022 : ℤ)
  else w.sign * (1 + w.fraction / 2 ^ 52) * 2 ^ ((w.exponent : ℤ) - 1023)

theorem units_of_exponent_zero {w : Word} (h : w.exponent = 0) : w.units = w.fraction := by
  simp only [exponent] at h
  simp only [units, h, ite_true, fraction]

theorem units_of_exponent_succ {w : Word} {e : Nat} (h : w.exponent = e + 1) :
    w.units = (Nat.pow 2 52 + w.fraction) * Nat.pow 2 e := by
  simp only [exponent] at h
  simp only [units, h, Nat.add_sub_cancel, fraction, if_neg (Nat.succ_ne_zero e)]

theorem cast_two_pow (n : Nat) : ((Nat.pow 2 n : Nat) : ℚ) = 2 ^ n := by
  rw [Nat.pow_eq, Nat.cast_pow, Nat.cast_ofNat]

theorem cast_unitsPerOne : (unitsPerOne : ℚ) = 2 ^ 1074 := by
  unfold unitsPerOne
  -- The exponent is kept behind a name, so that nothing computes the power.
  generalize 1074 = n
  exact cast_two_pow n

theorem unitsPerOne_pos : (0 : ℚ) < unitsPerOne := by
  rw [cast_unitsPerOne]
  exact pow_pos two_pos 1074

theorem two_zpow_eq {k : ℤ} {n : Nat} (h : k + (1074 : Nat) = n) :
    (2 : ℚ) ^ k = 2 ^ n / unitsPerOne := by
  rw [eq_sub_of_add_eq h, zpow_sub₀ two_ne_zero, zpow_natCast, zpow_natCast, cast_unitsPerOne]

theorem value_eq (w : Word) : w.value = w.sign * (w.units / unitsPerOne) := by
  cases he : w.exponent with
  | zero =>
      simp only [value, he, ite_true, units_of_exponent_zero he,
        two_zpow_eq (show (-1022 : ℤ) + (1074 : Nat) = (52 : Nat) by norm_num)]
      generalize (unitsPerOne : ℚ) = unit
      field_simp
  | succ e =>
      have hk : ((e + 1 : Nat) : ℤ) - 1023 + (1074 : Nat) = (52 + e : Nat) := by
        push_cast
        ring
      simp only [value, he, if_neg (Nat.succ_ne_zero e)]
      rw [two_zpow_eq hk, units_of_exponent_succ he, Nat.cast_mul, Nat.cast_add, cast_two_pow,
        cast_two_pow, pow_add]
      generalize (unitsPerOne : ℚ) = unit
      field_simp

theorem units_eq_zero_iff {w : Word} : w.units = 0 ↔ w.isZero = true := by
  have hsplit : Nat.pow 2 52 * w.exponent + w.fraction = w.magnitude := Nat.div_add_mod _ _
  simp only [isZero, decide_eq_true_eq]
  cases he : w.exponent with
  | zero =>
      rw [he, Nat.mul_zero, Nat.zero_add] at hsplit
      rw [units_of_exponent_zero he, hsplit]
  | succ e =>
      have hpow : 0 < Nat.pow 2 e := Nat.pow_pos (by decide)
      have hpos : 0 < w.units := by
        rw [units_of_exponent_succ he]
        exact Nat.mul_pos (Nat.add_pos_left (by decide) _) hpow
      have hmagnitude : 0 < w.magnitude := by
        rw [← hsplit, he, Nat.mul_succ]
        exact Nat.add_pos_left (Nat.add_pos_right _ (by decide)) _
      omega

theorem value_nonneg_iff {w : Word} :
    0 ≤ w.value ↔ w.isZero = true ∨ w.isNegative = false := by
  have hunits : 0 ≤ (w.units : ℚ) / unitsPerOne :=
    div_nonneg (Nat.cast_nonneg _) unitsPerOne_pos.le
  rw [value_eq, sign, ← units_eq_zero_iff]
  cases hn : w.isNegative with
  | false =>
      simp only [Bool.false_eq_true, ite_false, one_mul, or_true, iff_true]
      exact hunits
  | true =>
      simp only [ite_true, neg_one_mul, neg_nonneg, Bool.true_eq_false, or_false]
      constructor
      · intro h
        have heq := le_antisymm h hunits
        rw [div_eq_zero_iff, Nat.cast_eq_zero] at heq
        exact heq.resolve_right unitsPerOne_pos.ne'
      · intro h
        rw [h, Nat.cast_zero, zero_div]

theorem floor_value {w : Word} (h : 0 ≤ w.value) : ⌊w.value⌋₊ = w.units / unitsPerOne := by
  rw [value_nonneg_iff] at h
  rw [value_eq, sign]
  rcases h with h | h
  · rw [units_eq_zero_iff.mpr h, Nat.cast_zero, zero_div, mul_zero, Nat.floor_zero, Nat.zero_div]
  · simp only [h, Bool.false_eq_true, ite_false, one_mul]
    exact Nat.floor_div_eq_div _ _

/-- A word is an index exactly if it is finite and not below zero, and then its integer part is
the index. -/
theorem index?_eq_some {w : Word} {n : Nat} :
    w.index? = some n ↔ w.isFinite = true ∧ 0 ≤ w.value ∧ ⌊w.value⌋₊ = n := by
  have hcond : (w.isFinite && (w.isZero || !w.isNegative)) = true ↔
      w.isFinite = true ∧ 0 ≤ w.value := by
    rw [value_nonneg_iff]
    simp
  unfold index?
  by_cases h : (w.isFinite && (w.isZero || !w.isNegative)) = true
  · obtain ⟨hf, hv⟩ := hcond.mp h
    rw [if_pos h, floor_value hv]
    simp [hf, hv]
  · rw [if_neg h]
    simp only [reduceCtorEq, false_iff]
    rintro ⟨hf, hv, _⟩
    exact h (hcond.mpr ⟨hf, hv⟩)

end FloatMachine.Word
