import FloatMachine.Decimal.Shortest

/-!
# Reading words from text

A number is an optional sign followed by `inf`, `infinity` or `nan` in any case, or by decimal
digits with at most one point and an optional exponent. At least one digit must be present. The
value is rounded to the nearest word.
-/

namespace FloatMachine

namespace Decimal

/-- A leading sign, and what follows it. -/
def readSign : List Char → Bool × List Char
  | '-' :: rest => (true, rest)
  | '+' :: rest => (false, rest)
  | rest => (false, rest)

/-- The leading decimal digits, and what follows them. -/
def readDigits (cs : List Char) : List Char × List Char :=
  (cs.takeWhile Char.isDigit, cs.dropWhile Char.isDigit)

/-- The number that a list of decimal digits stands for. -/
def ofDigits (digits : List Char) : Nat :=
  digits.foldl (fun n c => 10 * n + (c.toNat - '0'.toNat)) 0

/-- What may stand behind the digits: nothing, or an exponent up to the end of the text. -/
def readExponent? : List Char → Option Int
  | [] => some 0
  | c :: rest =>
    if c = 'e' || c = 'E' then
      let (negative, rest) := readSign rest
      let (digits, rest) := readDigits rest
      if digits.isEmpty || !rest.isEmpty then none
      else if negative then some (-Int.ofNat (ofDigits digits))
      else some (Int.ofNat (ofDigits digits))
    else none

/-- An unsigned decimal. -/
def read? (cs : List Char) : Option Decimal :=
  let (whole, rest) := readDigits cs
  let (fraction, rest) :=
    match rest with
    | '.' :: rest => readDigits rest
    | rest => ([], rest)
  if whole.isEmpty && fraction.isEmpty then none
  else
    (readExponent? rest).map fun exponent =>
      ⟨ofDigits (whole ++ fraction), exponent - fraction.length⟩

end Decimal

/-- The word a text stands for, if it is a number. -/
def Word.read? (cs : List Char) : Option Word :=
  let (negative, rest) := Decimal.readSign cs
  let name := rest.map Char.toLower
  if name = "inf".toList || name = "infinity".toList then some (.infinity negative)
  else if name = "nan".toList then some (.nan negative)
  else (Decimal.read? rest).map (Word.ofDecimal negative)

end FloatMachine
