import FloatMachine.Proofs.Faults
import FloatMachine.Proofs.Floats

/-! From words to whole numbers. There are two ways to find out whether a word names a place below a
bound: to compare its integer part, still a floating-point number, and to convert it after that, or
to convert it at once, which cuts it to 64 bits, and to compare the whole number. Both ways agree
with the exact value of the word. -/

namespace FloatMachine

namespace Word

/-! ## Integer parts -/

/-- The magnitude without the bits of the fraction that are worth less than one. -/
def wholeMagnitude (w : Word) : Nat :=
  if w.exponent < 1023 then 0
  else w.magnitude - w.magnitude % Nat.pow 2 (1075 - w.exponent)

/-- The word without its fraction: rounded towards zero, with the same sign. Words without a
fraction, infinities and NaNs stay as they are. -/
def trunc (w : Word) : Word := ofMagnitude w.isNegative w.wholeMagnitude

theorem magnitude_ofMagnitude {negative : Bool} {n : Nat} (h : n < Nat.pow 2 63) :
    (ofMagnitude negative n).magnitude = n := by
  simp only [ofMagnitude, magnitude, UInt64.toNat_ofNat', Nat.pow_eq] at h ⊢
  split <;> omega

theorem isNegative_ofMagnitude {negative : Bool} {n : Nat} (h : n < Nat.pow 2 63) :
    (ofMagnitude negative n).isNegative = negative := by
  simp only [ofMagnitude, isNegative, UInt64.toNat_ofNat', Nat.pow_eq] at h ⊢
  cases negative with
  | false =>
      simp only [Bool.false_eq_true, if_false, decide_eq_false_iff_not]
      omega
  | true =>
      simp only [if_true, decide_eq_true_eq]
      omega

theorem magnitude_lt (w : Word) : w.magnitude < Nat.pow 2 63 := Nat.mod_lt _ (by decide)

theorem wholeMagnitude_le (w : Word) : w.wholeMagnitude ≤ w.magnitude := by
  unfold wholeMagnitude
  split
  · exact Nat.zero_le _
  · exact Nat.sub_le _ _

theorem isNegative_trunc (w : Word) : w.trunc.isNegative = w.isNegative :=
  isNegative_ofMagnitude (Nat.lt_of_le_of_lt w.wholeMagnitude_le w.magnitude_lt)

theorem magnitude_trunc (w : Word) : w.trunc.magnitude = w.wholeMagnitude :=
  magnitude_ofMagnitude (Nat.lt_of_le_of_lt w.wholeMagnitude_le w.magnitude_lt)

theorem isFinite_trunc {w : Word} (h : w.isFinite = true) : w.trunc.isFinite = true := by
  have hfinite : w.magnitude < infinityMagnitude := of_decide_eq_true h
  refine decide_eq_true ?_
  rw [magnitude_trunc]
  exact Nat.lt_of_le_of_lt w.wholeMagnitude_le hfinite

theorem cut_mul_pow (m : Nat) {e s c unit : Nat} (hc : Nat.pow 2 c = unit) (hs : s = c - e) :
    m / Nat.pow 2 s * Nat.pow 2 s * Nat.pow 2 e = m * Nat.pow 2 e / unit * unit := by
  subst hc
  simp only [Nat.pow_eq]
  rcases Nat.le_total e c with h | h
  · obtain rfl : c = e + s := by omega
    rw [Nat.pow_add, Nat.mul_comm m, Nat.mul_div_mul_left _ _ (Nat.pow_pos (by decide)),
      Nat.mul_assoc, Nat.mul_comm (2 ^ s)]
  · obtain ⟨d, rfl⟩ := Nat.exists_eq_add_of_le h
    obtain rfl : s = 0 := by omega
    rw [Nat.pow_zero, Nat.div_one, Nat.mul_one, Nat.pow_add, Nat.mul_left_comm,
      Nat.mul_div_cancel_left _ (Nat.pow_pos (by decide)), Nat.mul_comm]

theorem add_mod_two_pow (a f : Nat) {s : Nat} (hs : s ≤ 52) :
    (a * Nat.pow 2 52 + f) % Nat.pow 2 s = f % Nat.pow 2 s := by
  have hsplit : Nat.pow 2 52 = Nat.pow 2 s * Nat.pow 2 (52 - s) := by
    simp only [Nat.pow_eq]
    rw [← Nat.pow_add, Nat.add_sub_of_le hs]
  rw [hsplit, Nat.mul_left_comm, Nat.mul_add_mod]

theorem parts_trunc {w : Word} {e s : Nat} (he : w.exponent = e + 1) (hs : s = 1074 - e)
    (hle : s ≤ 52) : w.trunc.exponent = e + 1 ∧
      w.trunc.fraction = w.fraction - w.fraction % Nat.pow 2 s := by
  have hlow : ¬ w.exponent < 1023 := by omega
  have hsub : 1075 - w.exponent = s := by omega
  have hrest := Nat.mod_le w.fraction (Nat.pow 2 s)
  have hlt := w.fraction_lt
  have hmagnitude : w.trunc.magnitude =
      w.exponent * Nat.pow 2 52 + (w.fraction - w.fraction % Nat.pow 2 s) := by
    rw [magnitude_trunc, wholeMagnitude, if_neg hlow, hsub, ← w.magnitude_eq,
      add_mod_two_pow _ _ hle, Nat.add_sub_assoc hrest]
  generalize w.fraction % Nat.pow 2 s = rest at hmagnitude
  rw [exponent, fraction, hmagnitude, he]
  simp only [Nat.pow_eq] at hlt ⊢
  omega

theorem units_trunc (w : Word) : w.trunc.units = w.units / unitsPerOne * unitsPerOne := by
  by_cases hlow : w.exponent < 1023
  · have hzero : w.trunc.isZero = true := by
      rw [isZero, magnitude_trunc, wholeMagnitude, if_pos hlow]
      rfl
    have hsmall : w.units < unitsPerOne :=
      units_lt two_pow_eq_unitsPerOne.le (show 52 + w.exponent ≤ 1074 by omega)
    rw [units_eq_zero_iff.mpr hzero, Nat.div_eq_of_lt hsmall, Nat.zero_mul]
  · obtain ⟨e, he⟩ : ∃ e, w.exponent = e + 1 := ⟨w.exponent - 1, by omega⟩
    obtain ⟨s, hs⟩ : ∃ s, s = 1074 - e := ⟨_, rfl⟩
    have hle : s ≤ 52 := by omega
    obtain ⟨hexponent, hfraction⟩ := parts_trunc he hs hle
    have hrest : (Nat.pow 2 52 + w.fraction) % Nat.pow 2 s = w.fraction % Nat.pow 2 s := by
      have hone := add_mod_two_pow 1 w.fraction hle
      rwa [Nat.one_mul] at hone
    have hcut := cut_mul_pow (Nat.pow 2 52 + w.fraction) two_pow_eq_unitsPerOne hs
    rw [Nat.div_mul_self_eq_mod_sub_self, hrest, Nat.add_sub_assoc (Nat.mod_le _ _)] at hcut
    rw [units_of_exponent_succ hexponent, units_of_exponent_succ he, hfraction, hcut]

theorem value_trunc {w : Word} (h : 0 ≤ w.value) : w.trunc.value = ⌊w.value⌋₊ := by
  rw [floor_value h, value_eq, units_trunc, Nat.cast_mul,
    mul_div_cancel_right₀ _ unitsPerOne_pos.ne', sign, isNegative_trunc]
  rcases value_nonneg_iff.mp h with hzero | hsign
  · rw [units_eq_zero_iff.mpr hzero, Nat.zero_div, Nat.cast_zero, mul_zero]
  · rw [hsign]
    simp

/-! ## Bounds as floating-point numbers -/

theorem value_zero : zero.value = 0 := by
  rw [value_eq, units_eq_zero_iff.mpr (by decide), Nat.cast_zero, zero_div, mul_zero]

theorem zero_le_toFloat_iff {w : Word} (h : w.isFinite = true) : 0 ≤ w.toFloat ↔ 0 ≤ w.value := by
  have hzero : (0 : Float) = zero.toFloat := by decide +kernel
  rw [hzero, toFloat_le_iff (by decide) h, value_zero]

theorem toFloat_lt_zero_iff {w : Word} (h : w.isFinite = true) :
    w.toFloat < 0 ↔ ¬ 0 ≤ w.value := by
  have hzero : (0 : Float) = zero.toFloat := by decide +kernel
  rw [hzero, toFloat_lt_iff h (by decide), value_zero, not_le]

/-- The size of the memory as a word. -/
def memoryBound : Word := ⟨0x4090000000000000⟩

theorem value_memoryBound : memoryBound.value = memorySize := by
  have hexponent : memoryBound.exponent = 1033 := by decide
  have hfraction : memoryBound.fraction = 0 := by decide
  have hsign : memoryBound.isNegative = false := by decide
  rw [value, hexponent, hfraction, sign, hsign]
  norm_num

theorem trunc_lt_memorySize_iff {w : Word} (h : w.isFinite = true) (hv : 0 ≤ w.value) :
    w.trunc.toFloat < Float.ofNat memorySize ↔ ⌊w.value⌋₊ < memorySize := by
  have hbound : Float.ofNat memorySize = memoryBound.toFloat := by decide +kernel
  rw [hbound, toFloat_lt_iff (isFinite_trunc h) (by decide), value_trunc hv, value_memoryBound,
    Nat.cast_lt]

end Word

/-! ## Range tests -/

/-- The number of the cell a word names, found by comparing floating-point numbers: the integer part
is held against the size of the memory before the word is converted. -/
def Address.compute (w : Word) : Except Fault Nat :=
  if w.toFloat.isFinite && 0 ≤ w.toFloat && w.trunc.toFloat < Float.ofNat memorySize then
    .ok w.toFloat.toUInt64.toNat
  else .error (.memoryOutOfBounds w memorySize)

/-- The offset a word names, found by converting the word first and comparing the result with the
size of the image. -/
def Action.computeTarget (image : Image) (w : Word) : Except Fault Nat :=
  if !w.toFloat.isFinite || w.toFloat < 0 then .error (.jumpOutOfRange w image.size)
  else if image.size ≤ w.toFloat.toUInt64.toNat then .error (.jumpOutOfRange w image.size)
  else .ok w.toFloat.toUInt64.toNat

/-- The word is finite and not below zero, and its integer part is below the bound. -/
structure Word.Within (w : Word) (bound : Nat) : Prop where
  finite : w.isFinite = true
  nonneg : 0 ≤ w.value
  lt : ⌊w.value⌋₊ < bound

theorem address_eq_ok_iff {w : Word} {address : Address} :
    Address.ofWord w = .ok address ↔ w.Within memorySize ∧ ⌊w.value⌋₊ = address.val := by
  rw [address_eq_ok, Word.index?_eq_some]
  constructor
  · rintro ⟨hf, hv, hfloor⟩
    exact ⟨⟨hf, hv, hfloor ▸ address.isLt⟩, hfloor⟩
  · rintro ⟨⟨hf, hv, _⟩, hfloor⟩
    exact ⟨hf, hv, hfloor⟩

theorem address_of_not_within {w : Word} (h : ¬ w.Within memorySize) :
    Address.ofWord w = .error (.memoryOutOfBounds w memorySize) := by
  cases ha : Address.ofWord w with
  | error fault => rw [address_error ha]
  | ok address => exact absurd (address_eq_ok_iff.mp ha).1 h

theorem target_eq_ok_iff {image : Image} {w : Word} {offset : Nat} :
    Action.target image w = .ok offset ↔ w.Within image.size ∧ ⌊w.value⌋₊ = offset := by
  rw [target_eq_ok, Word.index?_eq_some]
  constructor
  · rintro ⟨⟨hf, hv, rfl⟩, hlt⟩
    exact ⟨⟨hf, hv, hlt⟩, rfl⟩
  · rintro ⟨⟨hf, hv, hlt⟩, rfl⟩
    exact ⟨⟨hf, hv, rfl⟩, hlt⟩

theorem target_of_not_within {image : Image} {w : Word} (h : ¬ w.Within image.size) :
    Action.target image w = .error (.jumpOutOfRange w image.size) := by
  cases ht : Action.target image w with
  | error fault => rw [target_error ht]
  | ok offset => exact absurd (target_eq_ok_iff.mp ht).1 h

theorem toNat_toUInt64_of_within {w : Word} {bound : Nat} (h : w.Within bound)
    (hbound : bound ≤ Nat.pow 2 64) : w.toFloat.toUInt64.toNat = ⌊w.value⌋₊ := by
  rw [Word.toNat_toUInt64 h.finite h.nonneg]
  exact Nat.min_eq_left (Nat.le_sub_one_of_lt (Nat.lt_of_lt_of_le h.lt hbound))

/-- Comparing before converting finds the cell that the integer part names. -/
theorem address_compute (w : Word) : (Address.ofWord w).map Fin.val = Address.compute w := by
  have htest : (w.toFloat.isFinite && 0 ≤ w.toFloat &&
      w.trunc.toFloat < Float.ofNat memorySize) = true ↔ w.Within memorySize := by
    simp only [Bool.and_eq_true, decide_eq_true_eq, Word.toFloat_isFinite]
    constructor
    · rintro ⟨⟨hf, hv⟩, hlt⟩
      have hv := (Word.zero_le_toFloat_iff hf).mp hv
      exact ⟨hf, hv, (Word.trunc_lt_memorySize_iff hf hv).mp hlt⟩
    · rintro ⟨hf, hv, hlt⟩
      exact ⟨⟨hf, (Word.zero_le_toFloat_iff hf).mpr hv⟩,
        (Word.trunc_lt_memorySize_iff hf hv).mpr hlt⟩
  unfold Address.compute
  by_cases h : w.Within memorySize
  · have hword : Address.ofWord w = .ok ⟨⌊w.value⌋₊, h.lt⟩ := address_eq_ok_iff.mpr ⟨h, rfl⟩
    rw [if_pos (htest.mpr h), hword, toNat_toUInt64_of_within h (by decide)]
    rfl
  · rw [if_neg (mt htest.mp h), address_of_not_within h]
    rfl

/-- Converting before comparing finds the same offset as long as the image is shorter than the
largest number a word is cut to. -/
theorem target_compute {image : Image} (hsize : image.size < Nat.pow 2 63) (w : Word) :
    Action.target image w = Action.computeTarget image w := by
  have htest : (!w.toFloat.isFinite || w.toFloat < 0) = true ↔
      ¬ (w.isFinite = true ∧ 0 ≤ w.value) := by
    rw [Word.toFloat_isFinite]
    cases hf : w.isFinite with
    | false => simp
    | true => simp [Word.toFloat_lt_zero_iff hf]
  have hlimit : Nat.pow 2 63 ≤ Nat.pow 2 64 - 1 := by decide
  unfold Action.computeTarget
  by_cases h : w.Within image.size
  · have hoffset := toNat_toUInt64_of_within h (by omega)
    rw [if_neg (mt htest.mp (not_not.mpr ⟨h.finite, h.nonneg⟩)), hoffset,
      if_neg (Nat.not_le.mpr h.lt)]
    exact target_eq_ok_iff.mpr ⟨h, rfl⟩
  · rw [target_of_not_within h]
    by_cases hv : w.isFinite = true ∧ 0 ≤ w.value
    · have hle : image.size ≤ ⌊w.value⌋₊ := Nat.le_of_not_lt fun hlt => h ⟨hv.1, hv.2, hlt⟩
      rw [if_neg (mt htest.mp (not_not.mpr hv)), Word.toNat_toUInt64 hv.1 hv.2,
        if_pos (Nat.le_min.mpr ⟨hle, by omega⟩)]
    · rw [if_pos (htest.mpr hv)]

end FloatMachine
