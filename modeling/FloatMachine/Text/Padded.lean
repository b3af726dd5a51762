/-!
# Numbers in columns

Numbers filled up on the left to a least width, in base ten and sixteen.
-/

namespace FloatMachine.Text

/-- The text filled up on the left to `width` characters. -/
def padLeft (width : Nat) (fill : Char) (text : String) : String :=
  String.ofList (List.replicate (width - text.length) fill) ++ text

/-- The text filled up on the right to `width` characters. -/
def padRight (width : Nat) (fill : Char) (text : String) : String :=
  text ++ String.ofList (List.replicate (width - text.length) fill)

/-- The decimal digits of a number, at least `width` of them. -/
def decimal (width n : Nat) : String :=
  padLeft width '0' (String.ofList (Nat.toDigits 10 n))

/-- The mark `0x` and the lower-case hexadecimal digits of a number, at least `width` of them. -/
def hexadecimal (width n : Nat) : String :=
  "0x" ++ padLeft width '0' (String.ofList (Nat.toDigits 16 n))

end FloatMachine.Text
