import FloatMachine.Decimal.Reader
import FloatMachine.Decimal.Style
import FloatMachine.Proofs.Rounding
import FloatMachine.Text.Blank
import Mathlib.Data.List.TakeWhile

/-! Texts of words and what they read as. A plain text is a sign and a numeral, or a name; the
numeral is made of digits with at most one point, and moving the point into the exponent gives a
decimal that rounds as the shortest one does. So every word is read back from its text, a NaN as the
standard one. -/

namespace FloatMachine

namespace Decimal

/-! ## Numerals -/

/-- All characters are decimal digits. -/
def AreDigits (cs : List Char) : Prop := ∀ c ∈ cs, c.isDigit = true

theorem AreDigits.append {front rest : List Char} (hfront : AreDigits front)
    (hrest : AreDigits rest) : AreDigits (front ++ rest) := by
  intro c hc
  rcases List.mem_append.mp hc with hc | hc
  · exact hfront c hc
  · exact hrest c hc

theorem areDigits_replicate (n : Nat) : AreDigits (List.replicate n '0') := by
  intro c hc
  rw [List.eq_of_mem_replicate hc]
  decide

theorem areDigits_toDigits (n : Nat) : AreDigits (Nat.toDigits 10 n) :=
  fun _ hc => Nat.isDigit_of_mem_toDigits (by decide) (by decide) hc

/-- Digits in front of a point and behind it, at least one in front. -/
structure Parts (whole fraction : List Char) : Prop where
  areDigits_whole : AreDigits whole
  areDigits_fraction : AreDigits fraction
  whole_ne_nil : whole ≠ []

/-- A whole part and a fraction; a fraction without digits has no point. -/
def numeral (whole fraction : List Char) : List Char :=
  if fraction.isEmpty then whole else whole ++ '.' :: fraction

theorem readDigits_of_areDigits {digits : List Char} (h : AreDigits digits) :
    readDigits digits = (digits, []) := by
  rw [readDigits, List.takeWhile_eq_self_iff.mpr h, List.dropWhile_eq_nil_iff.mpr h]

theorem readDigits_point {digits : List Char} (h : AreDigits digits) (rest : List Char) :
    readDigits (digits ++ '.' :: rest) = (digits, '.' :: rest) := by
  have hpoint : Char.isDigit '.' = false := by decide
  rw [readDigits, List.takeWhile_append_of_pos h, List.dropWhile_append_of_pos h]
  simp [hpoint]

theorem read?_numeral {whole fraction : List Char} (h : Parts whole fraction) :
    read? (numeral whole fraction) =
      some ⟨ofDigits (whole ++ fraction), -(fraction.length : Int)⟩ := by
  cases fraction with
  | nil =>
      have hwhole := readDigits_of_areDigits h.areDigits_whole
      simp [numeral, read?, hwhole, h.whole_ne_nil, readExponent?]
  | cons c rest =>
      have hrest := readDigits_of_areDigits h.areDigits_fraction
      simp [numeral, read?, readDigits_point h.areDigits_whole, hrest, readExponent?]

/-! ## Positional notation -/

theorem ofDigits_eq (digits : List Char) : ofDigits digits = Nat.ofDigitChars 10 digits 0 := rfl

theorem ofDigits_toDigits (n : Nat) : ofDigits (Nat.toDigits 10 n) = n :=
  Nat.ofDigitChars_ten_toDigits

theorem ofDigits_zeros_append (n : Nat) (digits : List Char) :
    ofDigits (List.replicate n '0' ++ digits) = ofDigits digits := by
  rw [ofDigits_eq, Nat.ofDigitChars_append, Nat.ofDigitChars_replicate_zero, Nat.mul_zero,
    ofDigits_eq]

theorem ofDigits_append_zeros (digits : List Char) (n : Nat) :
    ofDigits (digits ++ List.replicate n '0') = ofDigits digits * Nat.pow 10 n := by
  rw [ofDigits_eq, Nat.ofDigitChars_append, Nat.ofDigitChars_replicate_zero, ofDigits_eq,
    Nat.mul_comm, Nat.pow_eq]

/-- The digits in front of the point, filled up with zeros. -/
def wholeDigits (digits : List Char) (point : Int) : List Char :=
  if point ≤ 0 then ['0']
  else digits.take point.toNat ++ List.replicate (point.toNat - digits.length) '0'

/-- The digits behind the point, with zeros in front of them. -/
def fractionDigits (digits : List Char) (point : Int) : List Char :=
  List.replicate (-point).toNat '0' ++ digits.drop point.toNat

theorem areDigits_wholeDigits {digits : List Char} (h : AreDigits digits) (point : Int) :
    AreDigits (wholeDigits digits point) := by
  unfold wholeDigits
  split
  · exact areDigits_replicate 1
  · exact AreDigits.append (fun c hc => h c (List.mem_of_mem_take hc)) (areDigits_replicate _)

theorem areDigits_fractionDigits {digits : List Char} (h : AreDigits digits) (point : Int) :
    AreDigits (fractionDigits digits point) :=
  (areDigits_replicate _).append fun c hc => h c (List.mem_of_mem_drop hc)

theorem wholeDigits_ne_nil {digits : List Char} (h : digits ≠ []) (point : Int) :
    wholeDigits digits point ≠ [] := by
  unfold wholeDigits
  split
  · simp
  · simp only [ne_eq, List.append_eq_nil_iff, List.take_eq_nil_iff, h, or_false, not_and]
    omega

theorem parts_toDigits (n : Nat) (point : Int) :
    Parts (wholeDigits (Nat.toDigits 10 n) point) (fractionDigits (Nat.toDigits 10 n) point) where
  areDigits_whole := areDigits_wholeDigits (areDigits_toDigits n) point
  areDigits_fraction := areDigits_fractionDigits (areDigits_toDigits n) point
  whole_ne_nil := wholeDigits_ne_nil Nat.toDigits_ne_nil point

/-- Where the point stands inside the digits or in front of them, it only moves the exponent;
behind them, zeros are put between. The decimal rounds to the same word in each case. -/
theorem nearestMagnitude_positional (digits : List Char) (point : Int) :
    (⟨ofDigits (wholeDigits digits point ++ fractionDigits digits point),
      -((fractionDigits digits point).length : Int)⟩ : Decimal).nearestMagnitude =
      (⟨ofDigits digits, point - digits.length⟩ : Decimal).nearestMagnitude := by
  by_cases hpoint : point ≤ 0
  · have htoNat : point.toNat = 0 := by omega
    have hexponent : -(((-point).toNat + digits.length : Nat) : Int) = point - digits.length := by
      omega
    have hdigits : ['0'] ++ (List.replicate (-point).toNat '0' ++ digits) =
        List.replicate ((-point).toNat + 1) '0' ++ digits := rfl
    simp only [wholeDigits, fractionDigits, if_pos hpoint, htoNat, List.drop_zero, hdigits,
      ofDigits_zeros_append, List.length_append, List.length_replicate, hexponent]
  · have hzero : (-point).toNat = 0 := by omega
    simp only [wholeDigits, fractionDigits, if_neg hpoint, hzero, List.replicate_zero,
      List.nil_append, List.length_drop]
    rcases Nat.lt_or_ge point.toNat digits.length with hlt | hge
    · have hfill : point.toNat - digits.length = 0 := by omega
      have hexponent : -((digits.length - point.toNat : Nat) : Int) = point - digits.length := by
        omega
      rw [hfill, hexponent, List.replicate_zero, List.append_nil, List.take_append_drop]
    · have hexponent : -((digits.length - point.toNat : Nat) : Int) +
          (point.toNat - digits.length : Nat) = point - digits.length := by
        omega
      rw [List.take_of_length_le hge, List.drop_of_length_le hge, List.append_nil,
        ofDigits_append_zeros, nearestMagnitude_mul_pow, hexponent]

end Decimal

/-! ## Characters -/

theorem isBlank_of_isDigit {c : Char} (h : c.isDigit = true) : Text.isBlank c = false := by
  simp only [Char.isDigit, Bool.and_eq_true, decide_eq_true_eq] at h
  have hlower : 48 ≤ c.toNat := h.1
  have hupper : c.toNat ≤ 57 := h.2
  simp only [Text.isBlank, Text.blankRanges, List.any_cons, List.any_nil, Bool.or_false,
    Bool.or_eq_false_iff, Bool.and_eq_false_imp, decide_eq_true_eq, decide_eq_false_iff_not]
  omega

theorem not_isBlank_of_all {cs : List Char} (h : (cs.all fun c => !Text.isBlank c) = true) :
    ∀ c ∈ cs, Text.isBlank c = false := by
  intro c hc
  have hall := List.all_eq_true.mp h c hc
  rwa [Bool.not_eq_true'] at hall

theorem ne_of_isDigit {c d : Char} (h : c.isDigit = true) (hd : d.isDigit = false) : c ≠ d := by
  rintro rfl
  rw [h] at hd
  cases hd

theorem toLower_of_isDigit {c : Char} (h : c.isDigit = true) : c.toLower = c := by
  simp only [Char.isDigit, Bool.and_eq_true, decide_eq_true_eq] at h
  have hupper : c.toNat ≤ 57 := h.2
  unfold Char.toLower
  split
  · rename_i hc
    have : 65 ≤ c.toNat := hc.1
    omega
  · rfl

namespace Decimal

/-- A text that starts with a digit and has digits and points only. -/
structure IsNumeral (cs : List Char) : Prop where
  head : ∃ c rest, cs = c :: rest ∧ c.isDigit = true
  chars : ∀ c ∈ cs, c.isDigit = true ∨ c = '.'

theorem isNumeral_numeral {whole fraction : List Char} (h : Parts whole fraction) :
    IsNumeral (numeral whole fraction) := by
  obtain ⟨c, rest, rfl⟩ := List.exists_cons_of_ne_nil h.whole_ne_nil
  have hc : c.isDigit = true := h.areDigits_whole c List.mem_cons_self
  unfold numeral
  split
  · exact ⟨⟨c, rest, rfl, hc⟩, fun d hd => .inl (h.areDigits_whole d hd)⟩
  · refine ⟨⟨c, rest ++ '.' :: fraction, rfl, hc⟩, ?_⟩
    intro d hd
    rcases List.mem_append.mp hd with hd | hd
    · exact .inl (h.areDigits_whole d hd)
    · rcases List.mem_cons.mp hd with hd | hd
      · exact .inr hd
      · exact .inl (h.areDigits_fraction d hd)

theorem IsNumeral.not_isBlank {cs : List Char} (h : IsNumeral cs) :
    ∀ c ∈ cs, Text.isBlank c = false := by
  intro c hc
  rcases h.chars c hc with hc | rfl
  · exact isBlank_of_isDigit hc
  · decide

end Decimal

namespace NumberStyle

open Decimal

theorem positional_plain (digits : List Char) (point : Int) :
    plain.positional digits point =
      numeral (wholeDigits digits point) (fractionDigits digits point) := rfl

theorem layOut_plain (d : Decimal) :
    plain.layOut d = numeral
      (wholeDigits (Nat.toDigits 10 d.coefficient) (d.exponent + digitCount d.coefficient))
      (fractionDigits (Nat.toDigits 10 d.coefficient) (d.exponent + digitCount d.coefficient)) := by
  have hplain : ∀ e, plain.isPositional e = true := fun _ => rfl
  rw [← positional_plain]
  simp only [layOut, digitCount, hplain, Bool.or_true, ite_true]

theorem isNumeral_layOut (d : Decimal) : IsNumeral (plain.layOut d) := by
  rw [layOut_plain]
  exact isNumeral_numeral (parts_toDigits _ _)

theorem read?_layOut (d : Decimal) (negative : Bool) :
    (Decimal.read? (plain.layOut d)).map (Word.ofDecimal negative) =
      some (Word.ofDecimal negative d) := by
  have hround := nearestMagnitude_positional (Nat.toDigits 10 d.coefficient)
    (d.exponent + digitCount d.coefficient)
  have hexponent : d.exponent + (digitCount d.coefficient : Int) -
      (Nat.toDigits 10 d.coefficient).length = d.exponent := by
    rw [digitCount]
    omega
  rw [hexponent, ofDigits_toDigits] at hround
  rw [layOut_plain, read?_numeral (parts_toDigits _ _), Option.map_some, Word.ofDecimal, hround,
    Word.ofDecimal]

end NumberStyle

/-! ## Words -/

namespace Word

theorem readSign_cons {c : Char} (hminus : c ≠ '-') (hplus : c ≠ '+') (negative : Bool)
    (rest : List Char) :
    Decimal.readSign (if negative then '-' :: c :: rest else c :: rest) =
      (negative, c :: rest) := by
  cases negative with
  | true => rfl
  | false => simp [Decimal.readSign, hminus, hplus]

theorem read?_of_isNumeral {cs : List Char} (h : Decimal.IsNumeral cs) (negative : Bool) :
    read? (if negative then '-' :: cs else cs) =
      (Decimal.read? cs).map (ofDecimal negative) := by
  obtain ⟨c, rest, rfl, hc⟩ := h.head
  have hsign := readSign_cons (ne_of_isDigit hc (by decide)) (ne_of_isDigit hc (by decide))
    negative rest
  -- No name starts with a digit.
  have hi : c ≠ 'i' := ne_of_isDigit hc (by decide)
  have hn : c ≠ 'n' := ne_of_isDigit hc (by decide)
  simp [read?, hsign, toLower_of_isDigit hc, hi, hn]

theorem ofMagnitude_magnitude (w : Word) : ofMagnitude w.isNegative w.magnitude = w := by
  obtain ⟨bits⟩ := w
  have hlt := bits.toNat_lt
  simp only [ofMagnitude, isNegative, magnitude, Nat.pow_eq, decide_eq_true_eq, Word.mk.injEq]
  apply UInt64.toNat_inj.mp
  rw [UInt64.toNat_ofNat']
  split <;> omega

/-- The word itself, but the standard NaN in place of any other. -/
def canonical (w : Word) : Word := if w.isNaN then .nan false else w

theorem read?_chars (w : Word) : read? (NumberStyle.plain.chars w) = some w.canonical := by
  unfold NumberStyle.chars canonical
  by_cases hnan : w.isNaN = true
  · simp only [hnan, ite_true]
    decide +kernel
  · simp only [hnan, Bool.false_eq_true, ite_false]
    by_cases hfinite : w.isFinite = true
    · have hword := ofMagnitude_magnitude w
      rw [← Decimal.nearestMagnitude_shortest hfinite, ← ofDecimal] at hword
      rw [if_pos hfinite, read?_of_isNumeral (NumberStyle.isNumeral_layOut _),
        NumberStyle.read?_layOut, hword]
    · have hmagnitude : w.magnitude = infinityMagnitude := by
        simp only [isNaN, isFinite, decide_eq_true_eq] at hnan hfinite
        omega
      have hword := ofMagnitude_magnitude w
      rw [hmagnitude, ← infinity] at hword
      have hname : ['i', 'n', 'f'].map Char.toLower = "inf".toList := by decide
      rw [if_neg hfinite, read?, readSign_cons (by decide) (by decide)]
      simp only [hname, decide_true, Bool.true_or, ite_true, hword]

theorem chars_ne_nil (w : Word) : NumberStyle.plain.chars w ≠ [] := by
  intro h
  have hread := read?_chars w
  rw [h] at hread
  cases hread

theorem chars_not_isBlank (w : Word) :
    ∀ c ∈ NumberStyle.plain.chars w, Text.isBlank c = false := by
  have hnumber : ∀ c ∈ (if w.isFinite then NumberStyle.plain.layOut (Decimal.shortest w)
      else ['i', 'n', 'f']), Text.isBlank c = false := by
    split
    · exact (NumberStyle.isNumeral_layOut _).not_isBlank
    · exact not_isBlank_of_all (by decide)
  simp only [NumberStyle.chars]
  generalize (if w.isFinite then NumberStyle.plain.layOut (Decimal.shortest w)
    else ['i', 'n', 'f']) = number at hnumber ⊢
  split
  · exact not_isBlank_of_all (by decide)
  · split
    · intro c hc
      rcases List.mem_cons.mp hc with rfl | hc
      · decide
      · exact hnumber c hc
    · exact hnumber

end Word

end FloatMachine
