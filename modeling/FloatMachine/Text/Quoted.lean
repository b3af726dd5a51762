import FloatMachine.Text.Hidden

/-!
# Quoted text

A quoted text stands between double quotes. Quotes, backslashes, the common control characters
and everything that is not shown as itself are written as escapes.
-/

namespace FloatMachine.Text

/-- The escape `\u{…}` with the code point in lower-case hexadecimal digits. -/
def escapeCode (c : Char) : List Char :=
  ['\\', 'u', '\x7b'] ++ Nat.toDigits 16 c.toNat ++ ['\x7d']

/-- One character of a quoted text. A single quote needs no escape. -/
def escape (c : Char) : List Char :=
  match c with
  | '\x00' => ['\\', '0']
  | '\t' => ['\\', 't']
  | '\r' => ['\\', 'r']
  | '\n' => ['\\', 'n']
  | '\\' => ['\\', '\\']
  | '"' => ['\\', '"']
  | _ => if isHidden c then escapeCode c else [c]

/-- The text between double quotes, with escapes. -/
def quoted (text : String) : String :=
  String.ofList ('"' :: text.toList.flatMap escape ++ ['"'])

end FloatMachine.Text
