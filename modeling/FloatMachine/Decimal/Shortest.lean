import FloatMachine.Word

/-!
# Decimal numbers and words

A decimal is a coefficient and a power of ten. `Word.ofDecimal` rounds a decimal to the nearest
word; `Decimal.shortest` goes the other way and finds, for a finite word, the decimal with the
fewest digits that rounds back to it.
-/

namespace FloatMachine

/-- The number `coefficient * 10 ^ exponent`. -/
structure Decimal where
  coefficient : Nat
  exponent : Int
deriving DecidableEq

namespace Decimal

/-- The number of decimal digits of a natural number; zero has one. -/
def digitCount (n : Nat) : Nat := (Nat.toDigits 10 n).length

/-- The decimal as a quotient of natural numbers. -/
def ratio (d : Decimal) : Nat × Nat :=
  match d.exponent with
  | .ofNat e => (d.coefficient * Nat.pow 10 e, 1)
  | .negSucc e => (d.coefficient, Nat.pow 10 (e + 1))

/-- Decimals from `10 ^ 310` on round to infinity. -/
def exponentBound : Int := 310

/-- Decimals below `10 ^ -330` round to zero. -/
def exponentFloor : Int := -330

/-- The magnitude of the word nearest to a decimal. The two bounds keep the powers of ten small;
beyond them the answer is infinity or zero. -/
def nearestMagnitude (d : Decimal) : Nat :=
  let size := d.exponent + digitCount d.coefficient
  if d.coefficient = 0 || size < exponentFloor then 0
  else if exponentBound < size then Word.infinityMagnitude
  else Word.nearestMagnitude d.ratio.1 d.ratio.2

/-- The same number without trailing zeros in the coefficient. -/
def trim (d : Decimal) : Decimal :=
  if d.coefficient % 10 = 0 && d.coefficient ≠ 0 then
    trim ⟨d.coefficient / 10, d.exponent + 1⟩
  else d
termination_by d.coefficient
decreasing_by simp_all; omega

/-! ## The shortest decimal -/

/-- The exponent of the leading digit of `num / den`, which must not be zero: the `e` with
`10 ^ e ≤ num / den < 10 ^ (e + 1)`. -/
def leadingExponent (num den : Nat) : Int :=
  if den ≤ num then Int.ofNat (digitCount (num / den) - 1)
  else
    let digits := digitCount (den / num)
    if den ≤ num * Nat.pow 10 (digits - 1) then -Int.ofNat (digits - 1) else -Int.ofNat digits

/-- `num / den` divided by `10 ^ scale`, again as a quotient. -/
def rescale (num den : Nat) (scale : Int) : Nat × Nat :=
  match scale with
  | .ofNat e => (num, den * Nat.pow 10 e)
  | .negSucc e => (num * Nat.pow 10 (e + 1), den)

/-- The decimal nearest to `num / den` among its two neighbours on the grid of multiples of
`10 ^ scale`, if it reads back as `magnitude`; failing that, the other one, if it does. Of two
equally near the larger one comes first. -/
def neighbour? (magnitude num den : Nat) (scale : Int) : Option Decimal :=
  let (num, den) := rescale num den scale
  let below : Decimal := ⟨num / den, scale⟩
  let above : Decimal := ⟨num / den + 1, scale⟩
  let readsBack (d : Decimal) : Bool := d.nearestMagnitude = magnitude
  let aboveIsNearer : Bool := den ≤ 2 * (num % den)
  if readsBack below && !(aboveIsNearer && readsBack above) then some below
  else if readsBack above then some above
  else none

/-- The first hit among 1, 2, … 17 digits. Seventeen always suffice; the exact expansion, which a
binary fraction always has, closes the definition. -/
def shortest (w : Word) : Decimal :=
  let num := w.units
  let den := Word.unitsPerOne
  if num = 0 then ⟨0, 0⟩
  else
    let lead := leadingExponent num den
    let grid (n : Nat) : Option Decimal := neighbour? w.magnitude num den (lead - n)
    match (List.range 17).findSome? grid with
    | some d => d.trim
    | none => (⟨num * Nat.pow 5 1074, -1074⟩ : Decimal).trim

end Decimal

/-- The word nearest to a decimal, with the given sign. -/
def Word.ofDecimal (negative : Bool) (d : Decimal) : Word :=
  .ofMagnitude negative d.nearestMagnitude

end FloatMachine
