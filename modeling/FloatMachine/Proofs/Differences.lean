import FloatMachine.Word

/-! Differences of words. Exchanging the two words of a difference changes its sign and nothing
else, whatever is rounded on the way: the sign has no part in finding the nearest word. So the order
of two words, which is read off their difference, is turned round with them. -/

namespace FloatMachine

open Float.Model (Format UnpackedFloat)
open Float.Model.UnpackedFloat (Sign Accuracy packComponents)

/-! ## Unpacked numbers -/

/-- The numbers differ in the sign alone. It does not matter which sign a zero has. -/
inductive Opposed : UnpackedFloat → UnpackedFloat → Prop where
  | neg (x : UnpackedFloat) : Opposed x x.neg
  | zero (s t : Sign) : Opposed (.zero s) (.zero t)

theorem roundWithAccuracy_neg (spec : Format) (s : Sign) (m : Nat) (e : Int)
    (accuracy : Accuracy) :
    UnpackedFloat.roundWithAccuracy spec (-s) m e accuracy =
      (UnpackedFloat.roundWithAccuracy spec s m e accuracy).neg := by
  unfold UnpackedFloat.roundWithAccuracy
  dsimp only
  rw [apply_dite UnpackedFloat.neg]
  rfl

theorem round_neg (spec : Format) (s : Sign) (m : Nat) (e : Int) :
    UnpackedFloat.round spec (-s) m e = (UnpackedFloat.round spec s m e).neg :=
  roundWithAccuracy_neg spec s _ _ _

theorem normalize_of_pos (spec : Format) {m : Int} (h : 0 < m) (e : Int) (zeroSign : Sign) :
    UnpackedFloat.normalize spec m e zeroSign = .round spec .positive m.toNat e := by
  rw [UnpackedFloat.normalize, Int.compare_eq_gt.mpr h]

theorem normalize_of_neg (spec : Format) {m : Int} (h : m < 0) (e : Int) (zeroSign : Sign) :
    UnpackedFloat.normalize spec m e zeroSign = .round spec .negative (-m).toNat e := by
  rw [UnpackedFloat.normalize, Int.compare_eq_lt.mpr h]

theorem normalize_opposed (spec : Format) (m e : Int) (zeroSign : Sign) :
    Opposed (UnpackedFloat.normalize spec m e zeroSign)
      (UnpackedFloat.normalize spec (-m) e zeroSign) := by
  rcases Int.lt_trichotomy m 0 with hm | rfl | hm
  · rw [normalize_of_neg spec hm, normalize_of_pos spec (Int.neg_pos_of_neg hm)]
    exact round_neg spec .negative (-m).toNat e ▸ .neg _
  · exact .zero zeroSign zeroSign
  · rw [normalize_of_pos spec hm, normalize_of_neg spec (Int.neg_neg_of_pos hm), Int.neg_neg]
    exact round_neg spec .positive m.toNat e ▸ .neg _

theorem sub_finite (spec : Format) (s t : Sign) {m n : Nat} (e f : Int) (hm : 0 < m)
    (hn : 0 < n) :
    UnpackedFloat.sub spec (.finite s m e hm) (.finite t n f hn) =
      UnpackedFloat.normalize spec
        (s.apply (UnpackedFloat.decreaseExponent m e (min e f)).1 -
          t.apply (UnpackedFloat.decreaseExponent n f (min e f)).1)
        (min e f) .positive := rfl

theorem sub_opposed (spec : Format) (x y : UnpackedFloat) :
    Opposed (UnpackedFloat.sub spec x y) (UnpackedFloat.sub spec y x) := by
  cases x with
  | notANumber => cases y <;> exact .neg _
  | infinity s =>
      cases y with
      | infinity t => cases s <;> cases t <;> exact .neg _
      | notANumber | zero _ | finite => exact .neg _
  | zero s =>
      cases y with
      -- Here the sign need not turn: the difference of a zero and itself is positive.
      | zero t => cases s <;> cases t <;> exact .zero _ _
      | infinity t | finite t => cases t <;> exact .neg _
      | notANumber => exact .neg _
  | finite s m e hm =>
      cases y with
      | finite t n f hn =>
          rw [sub_finite, sub_finite, Int.min_comm f e, ← Int.neg_sub (s.apply _)]
          exact normalize_opposed spec _ _ _
      | infinity t => cases t <;> exact .neg _
      | notANumber | zero _ => exact .neg _

namespace Word

/-! ## Words by their parts -/

/-- The word with the given sign, exponent bits and fraction bits. -/
def ofComponents (s : Sign) (e : BitVec 11) (m : BitVec 52) : Word :=
  ⟨UInt64.ofBitVec (packComponents Format.binary64 s e m)⟩

theorem toNat_ofComponents (s : Sign) (e : BitVec 11) (m : BitVec 52) :
    (ofComponents s e m).bits.toNat =
      s.toBitVec.toNat * Nat.pow 2 63 + (e.toNat * Nat.pow 2 52 + m.toNat) := by
  simp only [ofComponents, UInt64.toNat_ofBitVec, packComponents, BitVec.toNat_append]
  rw [← Nat.shiftLeft_add_eq_or_of_lt m.isLt, ← Nat.shiftLeft_add_eq_or_of_lt e.isLt]
  simp only [Nat.shiftLeft_eq, Nat.pow_eq]
  omega

theorem magnitude_ofComponents (s : Sign) (e : BitVec 11) (m : BitVec 52) :
    (ofComponents s e m).magnitude = e.toNat * Nat.pow 2 52 + m.toNat := by
  have he : e.toNat < 2048 := e.isLt
  have hm : m.toNat < 4503599627370496 := m.isLt
  simp only [magnitude, toNat_ofComponents, Nat.pow_eq]
  omega

theorem isNegative_ofComponents (s : Sign) (e : BitVec 11) (m : BitVec 52) :
    (ofComponents s e m).isNegative = decide (s.toBitVec = 1#1) := by
  have he : e.toNat < 2048 := e.isLt
  have hm : m.toNat < 4503599627370496 := m.isLt
  simp only [isNegative, toNat_ofComponents]
  cases s with
  | negative => simp [Sign.toBitVec]
  | positive =>
      simp [Sign.toBitVec]
      omega

/-! ## Opposite words -/

/-- The words have the same magnitude and, unless they are no numbers or zeros, opposite signs. -/
structure Opposite (v w : Word) : Prop where
  magnitude_eq : w.magnitude = v.magnitude
  sign_cases : v.isNaN = true ∨ v.isZero = true ∨ w.isNegative = !v.isNegative

theorem ofComponents_opposite (s : Sign) (e : BitVec 11) (m : BitVec 52) :
    Opposite (ofComponents s e m) (ofComponents (-s) e m) := by
  refine ⟨?_, .inr (.inr ?_)⟩
  · rw [magnitude_ofComponents, magnitude_ofComponents]
  · rw [isNegative_ofComponents, isNegative_ofComponents]
    cases s <;> rfl

/-- The word that holds a number. -/
def ofUnpacked (x : UnpackedFloat) : Word := ⟨UInt64.ofBitVec (x.pack Format.binary64)⟩

theorem ofUnpacked_opposite {x y : UnpackedFloat} (h : Opposed x y) :
    Opposite (ofUnpacked x) (ofUnpacked y) := by
  cases h with
  | zero s t =>
      refine ⟨?_, .inr (.inl ?_)⟩
      · cases s <;> cases t <;> decide
      · cases s <;> decide
  | neg =>
      cases x with
      | notANumber => exact ⟨rfl, .inl (by decide)⟩
      | infinity s | zero s => exact ofComponents_opposite s _ _
      | finite s m e hm =>
          unfold ofUnpacked UnpackedFloat.neg UnpackedFloat.pack
          dsimp only
          split
          · exact ofComponents_opposite s _ _
          · split <;> exact ofComponents_opposite s _ _

theorem sub_opposite (a b : Word) : Opposite (b.sub a) (a.sub b) :=
  ofUnpacked_opposite (sub_opposed Format.binary64 _ _)

/-! ## Orders -/

theorem compare_of_isNaN {a b : Word} (h : (b.sub a).isNaN = true) : a.compare b = .eq := by
  simp [compare, h]

/-- The tolerance is positive, so a difference that counts has a sign. -/
theorem not_isZero_of_tolerance_le {w : Word} (h : ¬ w.magnitude < tolerance.magnitude) :
    ¬ w.isZero = true := by
  intro hzero
  rw [isZero, decide_eq_true_eq] at hzero
  rw [hzero] at h
  exact h (by decide)

/-- Two words that have changed places compare the other way round. -/
theorem compare_swap (a b : Word) : b.compare a = (a.compare b).swap := by
  obtain ⟨hmagnitude, hsign⟩ := sub_opposite a b
  have hnan : (a.sub b).isNaN = (b.sub a).isNaN := by rw [isNaN, isNaN, hmagnitude]
  simp only [compare, hnan, hmagnitude]
  split
  · rfl
  · rename_i hlarge
    simp only [Bool.or_eq_true, decide_eq_true_eq, not_or] at hlarge
    rw [(hsign.resolve_left hlarge.1).resolve_left (not_isZero_of_tolerance_le hlarge.2)]
    cases (b.sub a).isNegative <;> rfl

end Word

end FloatMachine
