/-!
# Machine words

Everything the machine stores or computes is a 64-bit binary floating-point number. A word is
kept as its bits, so that storing and loading never change it, not even a signalling NaN or the
sign of a zero. Decisions (is it finite, which cell does it name, how do two words compare) are
made on the bits, in `Nat`; only the arithmetic itself goes through `Float`.
-/

namespace FloatMachine

/-- A machine value, told apart from others by its bits. -/
structure Word where
  bits : UInt64
deriving DecidableEq, Inhabited

namespace Word

/-! ## Parts of a word -/

/-- The word with all bits clear, positive zero. -/
def zero : Word := ⟨0⟩

/-- The bits without the sign. Magnitudes of finite words are ordered as their values. -/
def magnitude (w : Word) : Nat := w.bits.toNat % Nat.pow 2 63

/-- The sign bit is set. This holds also of negative zero and of some NaNs. -/
def isNegative (w : Word) : Bool := Nat.pow 2 63 ≤ w.bits.toNat

/-- The magnitude of the two infinities; larger magnitudes are NaNs. -/
def infinityMagnitude : Nat := 2047 * Nat.pow 2 52

def isNaN (w : Word) : Bool := infinityMagnitude < w.magnitude

def isFinite (w : Word) : Bool := w.magnitude < infinityMagnitude

/-- Positive and negative zero. -/
def isZero (w : Word) : Bool := w.magnitude = 0

/-- The word with a given sign and magnitude. -/
def ofMagnitude (negative : Bool) (magnitude : Nat) : Word :=
  ⟨UInt64.ofNat (if negative then Nat.pow 2 63 + magnitude else magnitude)⟩

/-- Positive or negative infinity. -/
def infinity (negative : Bool) : Word := ofMagnitude negative infinityMagnitude

/-- A quiet NaN. -/
def nan (negative : Bool) : Word := ofMagnitude negative (2047 * Nat.pow 2 52 + Nat.pow 2 51)

/-! ## The exact value -/

/-- Values are counted in units of `2 ^ -1074`, the least positive one. -/
def unitsPerOne : Nat := Nat.pow 2 1074

/-- The absolute value of a finite word, as a number of units. -/
def units (w : Word) : Nat :=
  let exponent := w.magnitude / Nat.pow 2 52
  let fraction := w.magnitude % Nat.pow 2 52
  if exponent = 0 then fraction else (Nat.pow 2 52 + fraction) * Nat.pow 2 (exponent - 1)

/-- The integer part of a finite word that is not below zero; negative zero counts as zero. -/
def index? (w : Word) : Option Nat :=
  if w.isFinite && (w.isZero || !w.isNegative) then some (w.units / unitsPerOne) else none

/-! ## Rounding -/

/-- The integer nearest to `num / den`, the even one of two equally near. -/
def roundHalfEven (num den : Nat) : Nat :=
  let quotient := num / den
  let remainder := num % den
  if 2 * remainder < den then quotient
  else if den < 2 * remainder then quotient + 1
  else quotient + quotient % 2

/-- The magnitude nearest to `num / den`, the even one of two equally near. Values too large for a
finite word give the magnitude of infinity. -/
def nearestMagnitude (num den : Nat) : Nat :=
  let scaled := num * unitsPerOne
  let shift := Nat.log2 (scaled / den) - 52
  min (shift * Nat.pow 2 52 + roundHalfEven scaled (den * Nat.pow 2 shift)) infinityMagnitude

/-! ## Arithmetic -/

def toFloat (w : Word) : Float := Float.ofBits w.bits

def ofFloat (x : Float) : Word := ⟨x.toBits⟩

def add (a b : Word) : Word := ofFloat (a.toFloat + b.toFloat)

def sub (a b : Word) : Word := ofFloat (a.toFloat - b.toFloat)

def mul (a b : Word) : Word := ofFloat (a.toFloat * b.toFloat)

def div (a b : Word) : Word := ofFloat (a.toFloat / b.toFloat)

def sqrt (a : Word) : Word := ofFloat a.toFloat.sqrt

def sin (a : Word) : Word := ofFloat a.toFloat.sin

def cos (a : Word) : Word := ofFloat a.toFloat.cos

/-! ## Comparison -/

/-- Equality of numbers: the two zeros are equal, and a NaN is not even equal to itself. -/
def equals (a b : Word) : Bool :=
  !a.isNaN && (a = b || (a.isZero && b.isZero))

/-- Differences below this bound, `1e-7`, count as none. -/
def tolerance : Word := ⟨0x3e7ad7f29abcaf48⟩

/-- The order of two words up to the tolerance, read off the difference `b - a`. A difference that
is not a number counts as none. -/
def compare (a b : Word) : Ordering :=
  let difference := b.sub a
  if difference.isNaN || difference.magnitude < tolerance.magnitude then .eq
  else if difference.isNegative then .gt
  else .lt

end Word

end FloatMachine
