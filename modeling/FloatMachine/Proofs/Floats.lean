import FloatMachine.Proofs.Differences
import FloatMachine.Proofs.Numerals

/-! Words as floating-point numbers. The bits of a word are read as a sign, a mantissa and an
exponent, and the number of units of the word is the mantissa shifted by the exponent. So finite
words are ordered as their values, and their conversion to a whole number of 64 bits gives the
integer part, cut to the largest number of 64 bits. -/

namespace FloatMachine.Word

open Float.Model (Format UnpackedFloat)
open Float.Model.UnpackedFloat (Sign unpackExponent unpackMantissa unpackSign)

/-- The sign bit, read as a sign. -/
def signBit (w : Word) : Sign := if w.isNegative then .negative else .positive

/-- The number that the bits of a word are read as. -/
def unpacked (w : Word) : UnpackedFloat := .unpack Format.binary64 w.bits.toBitVec

/-- The finite numbers that words are read as: signed zeros, and mantissas of up to 53 bits, which
have all their bits unless the exponent is the least one. -/
inductive Number (w : Word) : UnpackedFloat → Prop where
  | zero (h : w.isZero = true) : Number w (.zero w.signBit)
  | finite {m k : Nat} (hmagnitude : w.magnitude = k * Nat.pow 2 52 + m)
      (hunits : w.units = m * Nat.pow 2 k) (hm : 0 < m) (hlt : m < Nat.pow 2 53)
      (hk : k = 0 ∨ Nat.pow 2 52 ≤ m) : Number w (.finite w.signBit m (k - 1074) hm)

/-- What a word is read as. -/
inductive Reading (w : Word) : UnpackedFloat → Prop where
  | nan (h : w.isNaN = true) : Reading w .notANumber
  | infinity (h : w.magnitude = infinityMagnitude) : Reading w (.infinity w.signBit)
  | number {x : UnpackedFloat} (h : w.isFinite = true) (hx : Number w x) : Reading w x

theorem Number.congr {w : Word} {s : Sign} {m n : Nat} {d e : Int} {hm : 0 < m} {hn : 0 < n}
    (h : Number w (.finite s m d hm)) (hmn : n = m) (hde : e = d) :
    Number w (.finite s n e hn) := by
  subst hmn hde
  exact h

theorem units_pos {w : Word} {m k : Nat} (h : w.units = m * Nat.pow 2 k) (hm : 0 < m) :
    0 < w.units :=
  h ▸ Nat.mul_pos hm (Nat.pow_pos (by decide))

theorem number_of_exponent_zero {w : Word} (h : w.exponent = 0) (hm : 0 < w.fraction) :
    Number w (.finite w.signBit w.fraction ((0 : Nat) - 1074) hm) := by
  refine .finite ?_ ?_ hm (Nat.lt_trans w.fraction_lt (by decide)) (.inl rfl)
  · rw [← w.magnitude_eq, h]
  · rw [units_of_exponent_zero h]
    exact (Nat.mul_one _).symm

theorem number_of_exponent_succ {w : Word} {k : Nat} (h : w.exponent = k + 1)
    (hm : 0 < Nat.pow 2 52 + w.fraction) :
    Number w (.finite w.signBit (Nat.pow 2 52 + w.fraction) (k - 1074) hm) := by
  refine .finite ?_ (units_of_exponent_succ h) hm ?_ (.inr (Nat.le_add_right _ _))
  · rw [← w.magnitude_eq, h, Nat.succ_mul, Nat.add_assoc]
  · have hlt := w.fraction_lt
    simp only [Nat.pow_eq] at hlt ⊢
    omega

theorem Reading.number_of_isFinite {w : Word} {x : UnpackedFloat} (h : Reading w x)
    (hf : w.isFinite = true) : Number w x := by
  have hfinite : w.magnitude < infinityMagnitude := of_decide_eq_true hf
  cases h with
  | nan h => exact absurd hfinite (lt_asymm (of_decide_eq_true h))
  | infinity h => exact absurd hfinite h.not_lt
  | number _ hx => exact hx

theorem toNat_unpackExponent (w : Word) :
    (@unpackExponent Format.binary64 w.bits.toBitVec).toNat = w.exponent := by
  simp only [unpackExponent, BitVec.toNat_cast, BitVec.extractLsb_toNat, exponent, magnitude,
    Nat.shiftRight_eq_div_pow, UInt64.toNat_toBitVec, Nat.pow_eq]
  omega

theorem toNat_unpackMantissa (w : Word) :
    (@unpackMantissa Format.binary64 w.bits.toBitVec).toNat = w.fraction := by
  simp only [unpackMantissa, BitVec.toNat_cast, BitVec.extractLsb_toNat, fraction, magnitude,
    Nat.shiftRight_eq_div_pow, UInt64.toNat_toBitVec, Nat.pow_eq]
  omega

theorem ofBitVec_unpackSign (w : Word) :
    Sign.ofBitVec (@unpackSign Format.binary64 w.bits.toBitVec) = w.signBit := by
  have hlt := w.bits.toNat_lt
  have hsign : (@unpackSign Format.binary64 w.bits.toBitVec).toNat =
      w.bits.toNat / Nat.pow 2 63 := by
    have hopen : (@unpackSign Format.binary64 w.bits.toBitVec).toNat =
        (w.bits.toBitVec.extractLsb 63 63).toNat := rfl
    rw [hopen, BitVec.extractLsb_toNat, Nat.shiftRight_eq_div_pow, UInt64.toNat_toBitVec]
    simp only [Nat.pow_eq]
    omega
  by_cases h : Nat.pow 2 63 ≤ w.bits.toNat
  · have hone : @unpackSign Format.binary64 w.bits.toBitVec ≠ 0#1 := by
      intro hzero
      rw [hzero] at hsign
      simp only [BitVec.toNat_ofNat, Nat.pow_eq] at hsign h
      omega
    simp [Sign.ofBitVec, signBit, isNegative, h, hone]
  · have hzero : @unpackSign Format.binary64 w.bits.toBitVec = 0#1 := by
      apply BitVec.eq_of_toNat_eq
      rw [hsign, Nat.div_eq_of_lt (Nat.lt_of_not_le h)]
      rfl
    simp [Sign.ofBitVec, signBit, isNegative, h, hzero]

theorem append_toNat (m : BitVec 52) : (1#1 ++ m).toNat = Nat.pow 2 52 + m.toNat := by
  rw [BitVec.toNat_append, ← Nat.shiftLeft_add_eq_or_of_lt m.isLt, Nat.shiftLeft_eq]
  rfl

theorem field_eq_iff {n : Nat} {field : BitVec n} {k : Nat} (h : field.toNat = k) (c : BitVec n) :
    field = c ↔ k = c.toNat := by
  rw [← h, BitVec.toNat_inj]

theorem reading_unpacked (w : Word) : Reading w w.unpacked := by
  have hmagnitude := w.magnitude_eq
  have hfraction := w.fraction_lt
  have hlt : w.exponent < 2048 :=
    w.toNat_unpackExponent ▸ (@unpackExponent Format.binary64 w.bits.toBitVec).isLt
  have htop := field_eq_iff w.toNat_unpackExponent (-1#11)
  have hlow := field_eq_iff w.toNat_unpackExponent 0#11
  have hempty := field_eq_iff w.toNat_unpackMantissa 0#52
  simp only [Nat.pow_eq] at hfraction hmagnitude
  unfold unpacked UnpackedFloat.unpack
  dsimp only
  rw [ofBitVec_unpackSign]
  by_cases he : w.exponent = 2047
  · rw [if_pos (htop.mpr he)]
    by_cases hm : w.fraction = 0
    · rw [if_pos (hempty.mpr hm)]
      refine .infinity ?_
      rw [← hmagnitude, he, hm]
      rfl
    · rw [if_neg (mt hempty.mp hm)]
      refine .nan (decide_eq_true ?_)
      simp only [infinityMagnitude, Nat.pow_eq]
      omega
  · have hfinite : w.isFinite = true := by
      refine decide_eq_true ?_
      simp only [infinityMagnitude, Nat.pow_eq]
      omega
    rw [if_neg (mt htop.mp he)]
    refine .number hfinite ?_
    by_cases hz : w.exponent = 0
    · rw [if_pos (hlow.mpr hz)]
      by_cases hm : w.fraction = 0
      · rw [dif_pos (hempty.mpr hm)]
        refine .zero (decide_eq_true ?_)
        rw [← hmagnitude, hz, hm]
      · rw [dif_neg (mt hempty.mp hm)]
        refine (number_of_exponent_zero hz (Nat.pos_of_ne_zero hm)).congr w.toNat_unpackMantissa ?_
        rw [toNat_unpackExponent, hz]
        rfl
    · obtain ⟨k, hk⟩ := Nat.exists_eq_succ_of_ne_zero hz
      have hpos : 0 < Nat.pow 2 52 + w.fraction := Nat.add_pos_left (by decide) _
      rw [if_neg (mt hlow.mp hz)]
      refine (number_of_exponent_succ hk hpos).congr ?_ ?_
      · rw [append_toNat, toNat_unpackMantissa]
      · rw [toNat_unpackExponent, hk]
        change ((k + 1 : Nat) : Int) - ((1023 : Nat) + (52 : Nat)) = k - 1074
        omega

/-! ## Packing -/

theorem eq_of_parts {v w : Word} (hsign : v.isNegative = w.isNegative)
    (hmagnitude : v.magnitude = w.magnitude) : v = w := by
  rw [← ofMagnitude_magnitude v, hsign, hmagnitude, ofMagnitude_magnitude]

theorem ofComponents_eq {w : Word} {e : BitVec 11} {m : BitVec 52}
    (h : e.toNat * Nat.pow 2 52 + m.toNat = w.magnitude) : ofComponents w.signBit e m = w := by
  apply eq_of_parts
  · rw [isNegative_ofComponents, signBit]
    cases w.isNegative <;> rfl
  · rw [magnitude_ofComponents, h]

theorem ofUnpacked_of_finite {w : Word} {m k : Nat} (h : w.isFinite = true)
    (hmagnitude : w.magnitude = k * Nat.pow 2 52 + m) (hm : 0 < m) (hlt : m < Nat.pow 2 53)
    (hk : k = 0 ∨ Nat.pow 2 52 ≤ m) : ofUnpacked (.finite w.signBit m (k - 1074) hm) = w := by
  have hfinite : w.magnitude < 2047 * Nat.pow 2 52 := of_decide_eq_true h
  have hbiased : ((k : Int) - 1074 + Format.binary64.exponentBias + (52 : Nat)).toNat = k + 1 := by
    change ((k : Int) - 1074 + (1023 : Nat) + (52 : Nat)).toNat = k + 1
    omega
  simp only [Nat.pow_eq] at hmagnitude hlt hk hfinite
  unfold ofUnpacked UnpackedFloat.pack
  dsimp only
  rw [hbiased, if_neg (by omega)]
  by_cases hnormal : 2 ^ 52 ≤ m
  · have hlog : m.log2 = 52 := (Nat.log2_eq_iff hm.ne').mpr ⟨hnormal, hlt⟩
    have hbits : m.log2 + 1 = Format.binary64.mantissaBits := by rw [hlog]; rfl
    rw [if_pos hbits]
    apply ofComponents_eq
    simp only [BitVec.toNat_ofNat, Nat.pow_eq]
    omega
  · have hlog : m.log2 < 52 := (Nat.log2_lt hm.ne').mpr (Nat.lt_of_not_le hnormal)
    have hbits : m.log2 + 1 ≠ Format.binary64.mantissaBits := by
      change m.log2 + 1 ≠ 53
      omega
    rw [if_neg hbits]
    apply ofComponents_eq
    simp only [BitVec.toNat_ofNat, Nat.pow_eq]
    omega

theorem Number.ofUnpacked_eq {w : Word} {x : UnpackedFloat} (h : Number w x)
    (hf : w.isFinite = true) : ofUnpacked x = w := by
  cases h with
  | zero h =>
      have hzero : w.magnitude = 0 := of_decide_eq_true h
      exact ofComponents_eq hzero.symm
  | finite hmagnitude _ hm hlt hk => exact ofUnpacked_of_finite hf hmagnitude hm hlt hk

theorem Reading.ofUnpacked_eq {w : Word} {x : UnpackedFloat} (h : Reading w x) :
    ofUnpacked x = w.canonical := by
  have hnumber : w.magnitude ≤ infinityMagnitude → w.canonical = w := by
    intro hle
    rw [canonical, if_neg]
    simpa [isNaN] using hle
  cases h with
  | nan h =>
      rw [canonical, if_pos h]
      decide
  | infinity h =>
      rw [hnumber h.le]
      exact ofComponents_eq h.symm
  | number hf hx =>
      have hfinite : w.magnitude < infinityMagnitude := of_decide_eq_true hf
      rw [hnumber hfinite.le]
      exact hx.ofUnpacked_eq hf

/-- Reading a word gives what its bits say, for packing a number and unpacking it again leads back
to the same number. -/
theorem reading_toFloat (w : Word) : Reading w w.toFloat.toModel.unpack := by
  have hunpack : w.toFloat.toModel.unpack = (ofUnpacked w.unpacked).unpacked := rfl
  rw [hunpack, w.reading_unpacked.ofUnpacked_eq, canonical]
  split
  next h => exact .nan h
  next => exact w.reading_unpacked

theorem toFloat_isFinite (w : Word) : w.toFloat.isFinite = w.isFinite := by
  change w.toFloat.toModel.unpack.isFinite = w.isFinite
  have hreading := w.reading_toFloat
  generalize w.toFloat.toModel.unpack = x at hreading ⊢
  cases hreading with
  | nan h =>
      have hlarge : infinityMagnitude < w.magnitude := of_decide_eq_true h
      exact (decide_eq_false hlarge.not_gt).symm
  | infinity h => exact (decide_eq_false h.not_lt).symm
  | number h hx =>
      rw [h]
      cases hx <;> rfl

/-! ## Order -/

/-- The exact value of a finite word, as a number of units with a sign. -/
def signedUnits (w : Word) : Int := w.signBit.apply w.units

theorem value_eq_signedUnits (w : Word) : w.value = w.signedUnits / unitsPerOne := by
  rw [value_eq, sign, signedUnits, signBit]
  generalize (unitsPerOne : ℚ) = unit
  cases w.isNegative with
  | false => simp [Sign.apply]
  | true => simp [Sign.apply, neg_div]

theorem signedUnits_of_isZero {w : Word} (h : w.isZero = true) : w.signedUnits = 0 := by
  rw [signedUnits, units_eq_zero_iff.mpr h]
  cases w.signBit <;> rfl

/-- Of two mantissas with different exponents, the one with the larger exponent has more units. -/
theorem units_lt_units {m n k j : Nat} (hm : m < Nat.pow 2 53) (hn : j = 0 ∨ Nat.pow 2 52 ≤ n)
    (hlt : k < j) : m * Nat.pow 2 k < n * Nat.pow 2 j := by
  have hn : Nat.pow 2 52 ≤ n := hn.resolve_left (Nat.ne_zero_of_lt hlt)
  calc
    m * Nat.pow 2 k < Nat.pow 2 53 * Nat.pow 2 k :=
      Nat.mul_lt_mul_of_pos_right hm (Nat.pow_pos (by decide))
    _ = Nat.pow 2 52 * Nat.pow 2 (k + 1) := by
      simp only [Nat.pow_eq]
      ring
    _ ≤ n * Nat.pow 2 j := Nat.mul_le_mul hn (two_pow_le hlt)

/-- Comparing exponents first and mantissas second compares the numbers of units. -/
theorem compare_units {m n k j : Nat} (hm : m < Nat.pow 2 53) (hn : n < Nat.pow 2 53)
    (hk : k = 0 ∨ Nat.pow 2 52 ≤ m) (hj : j = 0 ∨ Nat.pow 2 52 ≤ n) :
    (Ord.compare ((k : Int) - 1074) (j - 1074)).then (Ord.compare m n) =
      Ord.compare ((m * Nat.pow 2 k : Nat) : Int) (n * Nat.pow 2 j : Nat) := by
  rcases Nat.lt_trichotomy k j with hlt | rfl | hlt
  · have hunits : ((m * Nat.pow 2 k : Nat) : Int) < (n * Nat.pow 2 j : Nat) :=
      Int.ofNat_lt.mpr (units_lt_units hm hj hlt)
    rw [Int.compare_eq_lt.mpr hunits, Int.compare_eq_lt.mpr (by omega)]
    rfl
  · have hpow : 0 < Nat.pow 2 k := Nat.pow_pos (by decide)
    rw [Int.compare_eq_eq.mpr rfl]
    rcases Nat.lt_trichotomy m n with hmn | rfl | hmn
    · have hunits : ((m * Nat.pow 2 k : Nat) : Int) < (n * Nat.pow 2 k : Nat) :=
        Int.ofNat_lt.mpr (Nat.mul_lt_mul_of_pos_right hmn hpow)
      rw [Int.compare_eq_lt.mpr hunits, Nat.compare_eq_lt.mpr hmn]
      rfl
    · rw [Int.compare_eq_eq.mpr rfl, Nat.compare_eq_eq.mpr rfl]
      rfl
    · have hunits : ((n * Nat.pow 2 k : Nat) : Int) < (m * Nat.pow 2 k : Nat) :=
        Int.ofNat_lt.mpr (Nat.mul_lt_mul_of_pos_right hmn hpow)
      rw [Int.compare_eq_gt.mpr hunits, Nat.compare_eq_gt.mpr hmn]
      rfl
  · have hunits : ((n * Nat.pow 2 j : Nat) : Int) < (m * Nat.pow 2 k : Nat) :=
      Int.ofNat_lt.mpr (units_lt_units hn hk hlt)
    rw [Int.compare_eq_gt.mpr hunits, Int.compare_eq_gt.mpr (by omega)]
    rfl

theorem compare_neg (u v : Int) : Ord.compare (-u) (-v) = (Ord.compare u v).swap := by
  rcases Int.lt_trichotomy u v with h | rfl | h
  · rw [Int.compare_eq_lt.mpr h, Int.compare_eq_gt.mpr (by omega)]
    rfl
  · rw [Int.compare_eq_eq.mpr rfl, Int.compare_eq_eq.mpr rfl]
    rfl
  · rw [Int.compare_eq_gt.mpr h, Int.compare_eq_lt.mpr (by omega)]
    rfl

theorem Number.compare_eq {a b : Word} {x y : UnpackedFloat} (ha : Number a x)
    (hb : Number b y) : x.compare y = some (Ord.compare a.signedUnits b.signedUnits) := by
  cases ha with
  | zero hza =>
      rw [signedUnits_of_isZero hza]
      cases hb with
      | zero hzb =>
          rw [signedUnits_of_isZero hzb]
          rfl
      | finite _ hunits hm _ _ =>
          have hpos := units_pos hunits hm
          rw [signedUnits]
          cases b.signBit with
          | positive => exact congrArg some (Int.compare_eq_lt.mpr (Int.natCast_pos.mpr hpos)).symm
          | negative =>
              have hneg : -(b.units : Int) < 0 := by omega
              exact congrArg some (Int.compare_eq_gt.mpr hneg).symm
  | finite _ hunits hm hlt hk =>
      have hpos := units_pos hunits hm
      rw [signedUnits]
      cases hb with
      | zero hzb =>
          rw [signedUnits_of_isZero hzb]
          cases a.signBit with
          | positive => exact congrArg some (Int.compare_eq_gt.mpr (Int.natCast_pos.mpr hpos)).symm
          | negative =>
              have hneg : -(a.units : Int) < 0 := by omega
              exact congrArg some (Int.compare_eq_lt.mpr hneg).symm
      | finite _ hunits' hm' hlt' hk' =>
          have hpos' := units_pos hunits' hm'
          have hunit := compare_units hlt hlt' hk hk'
          rw [← hunits, ← hunits'] at hunit
          rw [signedUnits]
          cases a.signBit with
          | positive =>
              cases b.signBit with
              | positive => exact congrArg some hunit
              | negative =>
                  have hlarger : -(b.units : Int) < a.units := by omega
                  exact congrArg some (Int.compare_eq_gt.mpr hlarger).symm
          | negative =>
              cases b.signBit with
              | positive =>
                  have hsmaller : -(a.units : Int) < b.units := by omega
                  exact congrArg some (Int.compare_eq_lt.mpr hsmaller).symm
              | negative =>
                  change some (Ordering.swap _) = some (Ord.compare (-(a.units : Int)) (-b.units))
                  rw [hunit, compare_neg]

theorem toFloat_compare {a b : Word} (ha : a.isFinite = true) (hb : b.isFinite = true) :
    a.toFloat.toModel.unpack.compare b.toFloat.toModel.unpack =
      some (Ord.compare a.signedUnits b.signedUnits) :=
  (a.reading_toFloat.number_of_isFinite ha).compare_eq (b.reading_toFloat.number_of_isFinite hb)

theorem value_lt_value_iff {a b : Word} : a.value < b.value ↔ a.signedUnits < b.signedUnits := by
  rw [value_eq_signedUnits, value_eq_signedUnits, div_lt_div_iff_of_pos_right unitsPerOne_pos,
    Int.cast_lt]

theorem value_le_value_iff {a b : Word} : a.value ≤ b.value ↔ a.signedUnits ≤ b.signedUnits := by
  rw [← not_lt, value_lt_value_iff, not_lt]

theorem toFloat_lt_iff {a b : Word} (ha : a.isFinite = true) (hb : b.isFinite = true) :
    a.toFloat < b.toFloat ↔ a.value < b.value := by
  have hlt : a.toFloat < b.toFloat ↔
      a.toFloat.toModel.unpack.compare b.toFloat.toModel.unpack = some .lt :=
    decide_eq_true_iff.trans beq_iff_eq
  rw [hlt, toFloat_compare ha hb, Option.some.injEq, Int.compare_eq_lt, value_lt_value_iff]

theorem toFloat_le_iff {a b : Word} (ha : a.isFinite = true) (hb : b.isFinite = true) :
    a.toFloat ≤ b.toFloat ↔ a.value ≤ b.value := by
  have hle : a.toFloat ≤ b.toFloat ↔
      (a.toFloat.toModel.unpack.compare b.toFloat.toModel.unpack).any (·.isLE) = true :=
    decide_eq_true_iff
  rw [hle, toFloat_compare ha hb, Option.any_some, Int.isLE_compare, value_le_value_iff]

/-! ## Conversion -/

open Float.Model.UnpackedFloat (ExtendedMantissa roundToInt)

theorem mantissa_shiftRight (x : ExtendedMantissa) (n : Nat) :
    (x >>> n).mantissa = x.mantissa / Nat.pow 2 n := by
  induction n with
  | zero => exact (Nat.div_one _).symm
  | succ n ih =>
      change (x >>> n).mantissa / 2 = _
      rw [ih, Nat.div_div_eq_div_mul, Nat.pow_eq, Nat.pow_eq, Nat.pow_succ]

theorem roundToInt_positive (m k : Nat) {c unit : Nat} (hc : Nat.pow 2 c = unit) :
    roundToInt .positive m ((k : Int) - c) = (m * Nat.pow 2 k / unit : Nat) := by
  subst hc
  have hround : ∀ e : Int, roundToInt .positive m e =
      ((⟨m <<< (e - 0).toNat, false, false⟩ : ExtendedMantissa) >>>
        (0 - (e - (e - 0).toNat)).toNat).mantissa := fun e => rfl
  rw [hround, mantissa_shiftRight]
  simp only [Nat.shiftLeft_eq, Nat.pow_eq]
  congr 1
  rcases Nat.le_total c k with h | h
  · obtain ⟨d, rfl⟩ := Nat.exists_eq_add_of_le h
    have hleft : ((c + d : Nat) - (c : Int) - 0).toNat = d := by omega
    have hright : (0 - ((c + d : Nat) - (c : Int) - (d : Nat))).toNat = 0 := by omega
    rw [hleft, hright, Nat.pow_add, Nat.pow_zero, Nat.div_one, Nat.mul_left_comm,
      Nat.mul_div_cancel_left _ (Nat.pow_pos (by decide))]
  · obtain ⟨d, rfl⟩ := Nat.exists_eq_add_of_le h
    have hleft : ((k : Int) - (k + d : Nat) - 0).toNat = 0 := by omega
    have hright : (0 - ((k : Int) - (k + d : Nat) - (0 : Nat))).toNat = d := by omega
    rw [hleft, hright, Nat.pow_add, Nat.pow_zero, Nat.mul_one, Nat.mul_comm m,
      Nat.mul_div_mul_left _ _ (Nat.pow_pos (by decide))]

theorem two_pow_eq_unitsPerOne : Nat.pow 2 1074 = unitsPerOne := by
  -- The power is kept behind a name, so that nothing computes it.
  generalize hpower : Nat.pow 2 1074 = power
  unfold unitsPerOne
  exact hpower.symm

theorem toNat_ofNatClamp (n : Nat) :
    (UInt64.ofNatClamp n).toNat = min n (Nat.pow 2 64 - 1) := by
  unfold UInt64.ofNatClamp
  split
  next h =>
    rw [UInt64.toNat_ofNatLT]
    exact (Nat.min_eq_left (Nat.le_sub_one_of_lt h)).symm
  next h =>
    rw [UInt64.toNat_ofNatLT]
    exact (Nat.min_eq_right (Nat.le_trans (Nat.sub_le _ 1) (Nat.le_of_not_lt h))).symm

/-- Converted to 64 bits, a word that is finite and not below zero gives its integer part, or the
largest number of 64 bits if that is smaller. -/
theorem toNat_toUInt64 {w : Word} (h : w.isFinite = true) (hv : 0 ≤ w.value) :
    w.toFloat.toUInt64.toNat = min ⌊w.value⌋₊ (Nat.pow 2 64 - 1) := by
  have hopen : ∀ x : UnpackedFloat,
      x.toUInt64 = UInt64.ofNatClamp (x.toInt 0 (UInt64.size - 1)).toNat := fun x => rfl
  change w.toFloat.toModel.unpack.toUInt64.toNat = _
  have hnumber := w.reading_toFloat.number_of_isFinite h
  generalize w.toFloat.toModel.unpack = x at hnumber ⊢
  rw [hopen, toNat_ofNatClamp, floor_value hv]
  cases hnumber with
  | zero hz =>
      rw [units_eq_zero_iff.mpr hz, Nat.zero_div]
      rfl
  | @finite m k _ hunits hm _ _ =>
      have hpos := units_pos hunits hm
      have hsign : w.signBit = .positive := by
        have hzero : w.isZero ≠ true := fun hz => hpos.ne' (units_eq_zero_iff.mpr hz)
        rw [signBit, (value_nonneg_iff.mp hv).resolve_left hzero]
        rfl
      have hround : roundToInt .positive m (k - 1074) = (w.units / unitsPerOne : Nat) := by
        have hcut := roundToInt_positive m k two_pow_eq_unitsPerOne
        rw [hunits]
        exact hcut
      have hint : (UnpackedFloat.finite w.signBit m (k - 1074) hm).toInt 0 (UInt64.size - 1) =
          roundToInt w.signBit m (k - 1074) := rfl
      rw [hint, hsign, hround, Int.toNat_natCast]

end FloatMachine.Word
