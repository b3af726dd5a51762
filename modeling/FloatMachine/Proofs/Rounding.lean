import FloatMachine.Decimal.Shortest
import FloatMachine.Proofs.Values

/-! Decimals that round to a given word. Rounding looks at the quotient only, so zeros at the end of
a coefficient may be moved into the exponent and back. The decimal found for a finite word rounds to
this word again, whether it was met on a grid or is the exact expansion. -/

namespace FloatMachine

namespace Word

/-! ## Quotients -/

theorem roundHalfEven_mul {k : Nat} (hk : 0 < k) (num den : Nat) :
    roundHalfEven (k * num) (k * den) = roundHalfEven num den := by
  have hlt : ∀ x y : Nat, k * x < k * y ↔ x < y := fun x y => Nat.mul_lt_mul_left hk
  simp only [roundHalfEven, Nat.mul_div_mul_left num den hk, Nat.mul_mod_mul_left,
    Nat.mul_left_comm 2 k, hlt]

theorem roundHalfEven_mul_right {den : Nat} (hden : 0 < den) (n : Nat) :
    roundHalfEven (n * den) den = n := by
  simp [roundHalfEven, Nat.mul_div_cancel n hden, hden]

theorem nearestMagnitude_mul {k : Nat} (hk : 0 < k) (num den : Nat) :
    nearestMagnitude (k * num) (k * den) = nearestMagnitude num den := by
  have hscaled : k * num * unitsPerOne = k * (num * unitsPerOne) := Nat.mul_assoc _ _ _
  simp only [nearestMagnitude, hscaled, Nat.mul_div_mul_left _ den hk]
  rw [Nat.mul_assoc k, roundHalfEven_mul hk]

/-! ## Exact values -/

theorem zero_lt_unitsPerOne : 0 < unitsPerOne := Nat.cast_pos.mp unitsPerOne_pos

theorem magnitude_eq (w : Word) : w.exponent * Nat.pow 2 52 + w.fraction = w.magnitude := by
  rw [Nat.mul_comm]
  exact Nat.div_add_mod _ _

theorem fraction_lt (w : Word) : w.fraction < Nat.pow 2 52 := Nat.mod_lt _ (by decide)

theorem log2_units_of_exponent_succ {w : Word} {e : Nat} (h : w.exponent = e + 1) :
    Nat.log2 w.units = 52 + e := by
  have hpow : 0 < 2 ^ e := Nat.pow_pos (by decide)
  have hfraction := w.fraction_lt
  rw [units_of_exponent_succ h]
  simp only [Nat.pow_eq] at hfraction ⊢
  have hne : (2 ^ 52 + w.fraction) * 2 ^ e ≠ 0 :=
    Nat.mul_ne_zero (by omega) hpow.ne'
  rw [Nat.log2_eq_iff hne, Nat.add_right_comm, Nat.pow_add, Nat.pow_add]
  exact ⟨Nat.mul_le_mul_right _ (by omega), Nat.mul_lt_mul_of_pos_right (by omega) hpow⟩

theorem nearestMagnitude_units {w : Word} (h : w.isFinite = true) :
    nearestMagnitude w.units unitsPerOne = w.magnitude := by
  have hfinite : w.magnitude < infinityMagnitude := of_decide_eq_true h
  have hround : ∀ shift, roundHalfEven (w.units * unitsPerOne) (unitsPerOne * Nat.pow 2 shift) =
      roundHalfEven w.units (Nat.pow 2 shift) := by
    intro shift
    rw [Nat.mul_comm w.units, roundHalfEven_mul zero_lt_unitsPerOne]
  have hmagnitude := w.magnitude_eq
  simp only [nearestMagnitude, hround, Nat.mul_div_cancel _ zero_lt_unitsPerOne]
  cases he : w.exponent with
  | zero =>
      have hlog : Nat.log2 w.units - 52 = 0 := by
        have hlt : w.units < 2 ^ 52 := units_of_exponent_zero he ▸ w.fraction_lt
        by_cases hzero : w.units = 0
        · rw [hzero]
          rfl
        · have := (Nat.log2_lt hzero).mpr hlt
          omega
      have hone : roundHalfEven w.units (Nat.pow 2 0) = w.units := by
        simpa using roundHalfEven_mul_right Nat.one_pos w.units
      rw [he, Nat.zero_mul, Nat.zero_add] at hmagnitude
      rw [hlog, hone, units_of_exponent_zero he, Nat.zero_mul, Nat.zero_add, hmagnitude]
      exact Nat.min_eq_left hfinite.le
  | succ e =>
      have hround : roundHalfEven w.units (Nat.pow 2 e) = Nat.pow 2 52 + w.fraction := by
        rw [units_of_exponent_succ he]
        exact roundHalfEven_mul_right (Nat.pow_pos (by decide)) _
      rw [he, Nat.succ_mul, Nat.add_assoc] at hmagnitude
      rw [log2_units_of_exponent_succ he, Nat.add_sub_cancel_left, hround, hmagnitude]
      exact Nat.min_eq_left hfinite.le

theorem two_pow_le {j k : Nat} (h : j ≤ k) : Nat.pow 2 j ≤ Nat.pow 2 k :=
  Nat.pow_le_pow_right (by decide) h

theorem units_lt {w : Word} {k bound : Nat} (hbound : Nat.pow 2 k ≤ bound)
    (h : 52 + w.exponent ≤ k) : w.units < bound := by
  have hfraction := w.fraction_lt
  apply Nat.lt_of_lt_of_le _ hbound
  cases he : w.exponent with
  | zero =>
      rw [units_of_exponent_zero he]
      exact Nat.lt_of_lt_of_le hfraction (two_pow_le (by omega))
  | succ e =>
      have hlt : Nat.pow 2 52 + w.fraction < Nat.pow 2 53 := by
        simp only [Nat.pow_eq] at hfraction ⊢
        omega
      rw [units_of_exponent_succ he]
      calc
        (Nat.pow 2 52 + w.fraction) * Nat.pow 2 e < Nat.pow 2 53 * Nat.pow 2 e :=
          Nat.mul_lt_mul_of_pos_right hlt (Nat.pow_pos (by decide))
        _ = Nat.pow 2 (53 + e) := (Nat.pow_add 2 53 e).symm
        _ ≤ Nat.pow 2 k := two_pow_le (by omega)

theorem exponent_lt {w : Word} (h : w.isFinite = true) : w.exponent < 2047 :=
  Nat.div_lt_of_lt_mul (Nat.mul_comm _ _ ▸ of_decide_eq_true h)

end Word

namespace Decimal

/-! ## Trailing zeros -/

theorem digitCount_mul_ten {n : Nat} (hn : 0 < n) : digitCount (n * 10) = digitCount n + 1 := by
  have happend := Nat.toDigits_append_toDigits (b := 10) (by decide) hn
    (show 0 < 10 by decide)
  rw [digitCount, digitCount, Nat.mul_comm, ← Nat.add_zero (10 * n), ← happend]
  simp

theorem pos_of_ten_pow_le {c k : Nat} (h : Nat.pow 10 k ≤ c) : 0 < c :=
  Nat.lt_of_lt_of_le (Nat.pow_pos (by decide)) h

theorem lt_digitCount_mul {n c k : Nat} (hk : 0 < k) (hn : 0 < n) (h : Nat.pow 10 k ≤ c) :
    k < digitCount (n * c) := by
  have hle : Nat.pow 10 k ≤ n * c := h.trans (Nat.le_mul_of_pos_left c hn)
  rw [digitCount, ← Nat.not_le, Nat.length_toDigits_le_iff (by decide) hk]
  exact Nat.not_lt.mpr hle

theorem digitCount_mul_le {n c j k : Nat} (hk : 0 < k) (hn : n < Nat.pow 10 j)
    (hc : c ≤ Nat.pow 10 k) : digitCount (n * c) ≤ j + k := by
  have hpow : 0 < Nat.pow 10 k := Nat.pow_pos (by decide)
  rw [digitCount, Nat.length_toDigits_le_iff (by decide) (by omega), Nat.pow_add]
  calc
    n * c ≤ n * Nat.pow 10 k := Nat.mul_le_mul_left n hc
    _ < Nat.pow 10 j * Nat.pow 10 k := Nat.mul_lt_mul_of_pos_right hn hpow

theorem ratio_negSucc (c e : Nat) :
    (⟨c, Int.negSucc e⟩ : Decimal).ratio = (c, Nat.pow 10 (e + 1)) := rfl

theorem ratio_mul_ten (c : Nat) (e : Int) :
    ∃ k, 0 < k ∧ (⟨c * 10, e⟩ : Decimal).ratio =
      (k * (⟨c, e + 1⟩ : Decimal).ratio.1, k * (⟨c, e + 1⟩ : Decimal).ratio.2) := by
  cases e with
  | ofNat e =>
      refine ⟨1, Nat.one_pos, ?_⟩
      have hnext : Int.ofNat e + 1 = Int.ofNat (e + 1) := rfl
      simp only [ratio, hnext, Nat.one_mul, Nat.pow_eq, Nat.pow_succ]
      rw [Nat.mul_assoc, Nat.mul_comm 10]
  | negSucc e =>
      refine ⟨10, by decide, ?_⟩
      cases e with
      | zero =>
          have hnext : Int.negSucc 0 + 1 = Int.ofNat 0 := rfl
          simp only [ratio, hnext, Nat.pow_eq, Nat.pow_zero, Nat.mul_one, Nat.zero_add, Nat.pow_one]
          rw [Nat.mul_comm c]
      | succ e =>
          have hnext : Int.negSucc (e + 1) + 1 = Int.negSucc e := rfl
          simp only [ratio, hnext, Nat.pow_eq, Nat.pow_succ 10 (e + 1)]
          rw [Nat.mul_comm c, Nat.mul_comm _ 10]

theorem nearestMagnitude_mul_ten (c : Nat) (e : Int) :
    (⟨c * 10, e⟩ : Decimal).nearestMagnitude = (⟨c, e + 1⟩ : Decimal).nearestMagnitude := by
  rcases Nat.eq_zero_or_pos c with rfl | hc
  · simp [nearestMagnitude]
  · obtain ⟨k, hk, hratio⟩ := ratio_mul_ten c e
    have hsize : e + ((digitCount c + 1 : Nat) : Int) = e + 1 + digitCount c := by
      push_cast
      ring
    have hzero : c * 10 = 0 ↔ c = 0 := by omega
    simp only [nearestMagnitude, digitCount_mul_ten hc, hratio, Word.nearestMagnitude_mul hk,
      hsize, hzero]

theorem nearestMagnitude_mul_pow (c k : Nat) (e : Int) :
    (⟨c * Nat.pow 10 k, e⟩ : Decimal).nearestMagnitude =
      (⟨c, e + k⟩ : Decimal).nearestMagnitude := by
  induction k generalizing e with
  | zero => simp
  | succ k ih =>
      have hpow : c * Nat.pow 10 (k + 1) = c * Nat.pow 10 k * 10 := by
        rw [Nat.pow_eq, Nat.pow_eq, Nat.pow_succ, Nat.mul_assoc]
      have hexponent : e + 1 + (k : Int) = e + (k + 1 : Nat) := by
        push_cast
        ring
      rw [hpow, nearestMagnitude_mul_ten, ih, hexponent]

@[simp] theorem nearestMagnitude_trim (d : Decimal) :
    d.trim.nearestMagnitude = d.nearestMagnitude := by
  fun_induction trim d with
  | case1 d h ih =>
      have hmul : d.coefficient / 10 * 10 = d.coefficient := by
        simp only [Bool.and_eq_true, decide_eq_true_eq] at h
        omega
      rw [ih, ← nearestMagnitude_mul_ten, hmul]
  | case2 => rfl

theorem nearestMagnitude_of_size {c : Nat} {e : Int} (hne : c ≠ 0)
    (hfloor : -330 ≤ e + digitCount c) (hbound : e + digitCount c ≤ 310) :
    (⟨c, e⟩ : Decimal).nearestMagnitude =
      Word.nearestMagnitude (⟨c, e⟩ : Decimal).ratio.1 (⟨c, e⟩ : Decimal).ratio.2 := by
  have hlow : ¬ (decide (c = 0) || decide (e + (digitCount c : Int) < exponentFloor)) = true := by
    simp only [Bool.or_eq_true, decide_eq_true_eq]
    simp only [exponentFloor]
    omega
  have hhigh : ¬ exponentBound < e + (digitCount c : Int) := by
    simp only [exponentBound]
    omega
  simp only [nearestMagnitude]
  rw [if_neg hlow, if_neg hhigh]

/-! ## The shortest decimal -/

theorem nearestMagnitude_of_neighbour {magnitude num den : Nat} {scale : Int} {d : Decimal}
    (h : neighbour? magnitude num den scale = some d) : d.nearestMagnitude = magnitude := by
  simp only [neighbour?] at h
  split at h
  · cases h
    simp_all
  · split at h
    · cases h
      simp_all
    · cases h

theorem ten_pow_le_five_pow : Nat.pow 10 743 ≤ Nat.pow 5 1074 := by decide +kernel

theorem five_pow_le_ten_pow : Nat.pow 5 1074 ≤ Nat.pow 10 751 := by decide +kernel

theorem two_pow_le_ten_pow : Nat.pow 2 2099 ≤ Nat.pow 10 632 := by decide +kernel

theorem ten_pow_eq : Nat.pow 10 (1073 + 1) = Nat.pow 5 1074 * Word.unitsPerOne := by
  decide +kernel

/-- The exact expansion is within the bounds of the reader, and rounds to the word it expands. The
power of five is a variable here, of which nothing but its size is needed. -/
theorem nearestMagnitude_expansion {w : Word} (h : w.isFinite = true) (hunits : w.units ≠ 0)
    {five : Nat} (hten : Nat.pow 10 (1073 + 1) = five * Word.unitsPerOne)
    (hlower : Nat.pow 10 743 ≤ five) (hupper : five ≤ Nat.pow 10 751) :
    (⟨w.units * five, -1074⟩ : Decimal).nearestMagnitude = w.magnitude := by
  have hpos := pos_of_ten_pow_le hlower
  have hratio : (⟨w.units * five, -1074⟩ : Decimal).ratio =
      (five * w.units, five * Word.unitsPerOne) := by
    rw [← hten, Nat.mul_comm five]
    exact ratio_negSucc _ 1073
  have hexponent := Word.exponent_lt h
  have hlt := Word.units_lt two_pow_le_ten_pow (show 52 + w.exponent ≤ 2099 by omega)
  have hleast := lt_digitCount_mul (by decide) (Nat.pos_of_ne_zero hunits) hlower
  have hmost := digitCount_mul_le (by decide) hlt hupper
  rw [nearestMagnitude_of_size (Nat.mul_ne_zero hunits hpos.ne') (by omega) (by omega), hratio,
    Word.nearestMagnitude_mul hpos, Word.nearestMagnitude_units h]

/-- The decimal found for a finite word rounds to this word. -/
theorem nearestMagnitude_shortest {w : Word} (h : w.isFinite = true) :
    (shortest w).nearestMagnitude = w.magnitude := by
  simp only [shortest]
  by_cases hunits : w.units = 0
  · have hzero : w.magnitude = 0 := of_decide_eq_true (Word.units_eq_zero_iff.mp hunits)
    rw [if_pos hunits, hzero]
    simp [nearestMagnitude]
  · rw [if_neg hunits]
    split
    · rename_i d hfound
      obtain ⟨n, _, hn⟩ := List.exists_of_findSome?_eq_some hfound
      rw [nearestMagnitude_trim]
      exact nearestMagnitude_of_neighbour hn
    · rw [nearestMagnitude_trim]
      exact nearestMagnitude_expansion h hunits ten_pow_eq ten_pow_le_five_pow
        five_pow_le_ten_pow

end Decimal

end FloatMachine
