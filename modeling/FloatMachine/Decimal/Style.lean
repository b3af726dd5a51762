import FloatMachine.Decimal.Shortest

/-!
# Writing words as text

Both styles write the shortest decimal that reads back. They differ in when an exponent is used
and in whether an integer keeps a fraction digit.
-/

namespace FloatMachine

/-- How a decimal is laid out. -/
structure NumberStyle where
  /-- Whether a nonzero number whose leading digit stands for `10 ^ e` is written without an
  exponent. -/
  isPositional : Int → Bool
  /-- Whether a number without a fraction is written with the fraction digit `0`. -/
  keepsFraction : Bool

namespace NumberStyle

/-- Never an exponent, no fraction on integers: `7`, `0.25`, `100000000000000000000`. -/
def plain : NumberStyle := ⟨fun _ => true, false⟩

/-- An exponent below `1e-4` and from `1e16` on, otherwise at least one fraction digit: `7.0`,
`1e16`, `1.2345e-5`. -/
def detailed : NumberStyle := ⟨fun e => -4 ≤ e && e < 16, true⟩

/-- Digits with `point` of them in front of the point, filled up with zeros on either side. -/
def positional (style : NumberStyle) (digits : List Char) (point : Int) : List Char :=
  let whole := digits.take point.toNat
  let fraction := List.replicate (-point).toNat '0' ++ digits.drop point.toNat
  let whole :=
    if point ≤ 0 then ['0'] else whole ++ List.replicate (point.toNat - digits.length) '0'
  if fraction.isEmpty then if style.keepsFraction then whole ++ ['.', '0'] else whole
  else whole ++ '.' :: fraction

/-- One digit in front of the point, then the exponent. -/
def scientific (digits : List Char) (exponent : Int) : List Char :=
  let fraction := digits.drop 1
  digits.take 1 ++ (if fraction.isEmpty then [] else '.' :: fraction)
    ++ 'e' :: (toString exponent).toList

/-- The text of a decimal. -/
def layOut (style : NumberStyle) (d : Decimal) : List Char :=
  let digits := Nat.toDigits 10 d.coefficient
  let point := d.exponent + digits.length
  if d.coefficient = 0 || style.isPositional (point - 1) then style.positional digits point
  else scientific digits (point - 1)

/-- The characters of a word: a sign, also on zero, then the number. A NaN has no sign. -/
def chars (style : NumberStyle) (w : Word) : List Char :=
  if w.isNaN then ['N', 'a', 'N']
  else
    let number := if w.isFinite then style.layOut (Decimal.shortest w) else ['i', 'n', 'f']
    if w.isNegative then '-' :: number else number

/-- The text of a word. -/
def text (style : NumberStyle) (w : Word) : String := String.ofList (style.chars w)

end NumberStyle

end FloatMachine
