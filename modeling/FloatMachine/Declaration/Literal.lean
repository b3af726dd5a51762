import FloatMachine.Declaration.Trivia
import FloatMachine.Text.Identifier
import FloatMachine.Text.Quoted

/-!
# String literals

Reading and writing string literals of Rust. A literal is either quoted, with escapes, or raw
between quotes that are followed by as many number signs as stand in front.
-/

namespace FloatMachine.Literal

/-! ## Writing -/

/-- The characters of a quoted literal. A NUL in front of an octal digit is written at full
length, since the short form would look like part of a number. -/
def writeChars : List Char → List Char
  | [] => []
  | '\x00' :: rest =>
    match rest with
    | next :: _ =>
      if '0' ≤ next && next ≤ '7' then ['\\', 'x', '0', '0'] ++ writeChars rest
      else ['\\', '0'] ++ writeChars rest
    | [] => ['\\', '0']
  | c :: rest => Text.escape c ++ writeChars rest

/-- The literal with a given value. -/
def write (text : String) : String :=
  String.ofList ('"' :: writeChars text.toList ++ ['"'])

/-! ## Reading -/

/-- The value of a hexadecimal digit. -/
def hexDigit? (c : Char) : Option Nat :=
  if c.isDigit then some (c.toNat - '0'.toNat)
  else if 'a' ≤ c && c ≤ 'f' then some (c.toNat - 'a'.toNat + 10)
  else if 'A' ≤ c && c ≤ 'F' then some (c.toNat - 'A'.toNat + 10)
  else none

/-- The number written by hexadecimal digits. -/
def hexNumber? (digits : List Char) : Option Nat :=
  digits.foldlM (fun n c => (hexDigit? c).map (16 * n + ·)) 0

/-- The ASCII character with a code of two hexadecimal digits. -/
def ascii? (high low : Char) : Option Char :=
  (hexNumber? [high, low]).bind fun n => if n < 128 then some (Char.ofNat n) else none

/-- The character with a code of one to six hexadecimal digits, behind each of which underscores
may stand. -/
def scalar? (code : List Char) : Option Char :=
  let digits := code.filter (· ≠ '_')
  if code.head? = some '_' || digits.isEmpty || 6 < digits.length then none
  else (hexNumber? digits).bind fun n => if n.isValidChar then some (Char.ofNat n) else none

/-- The text without the ends of lines, spaces and tabs at its beginning. -/
def dropIndent : List Char → List Char
  | '\r' :: '\n' :: rest => dropIndent rest
  | c :: rest => if c = '\n' || c = ' ' || c = '\t' then dropIndent rest else c :: rest
  | [] => []

/-- What stands behind a backslash: the characters it stands for, and the rest. A backslash at the
end of a line swallows the indentation of the next one. -/
def readEscape : List Char → Option (List Char × List Char)
  | 'n' :: rest => some (['\n'], rest)
  | 'r' :: rest => some (['\r'], rest)
  | 't' :: rest => some (['\t'], rest)
  | '0' :: rest => some (['\x00'], rest)
  | '\\' :: rest => some (['\\'], rest)
  | '\'' :: rest => some (['\''], rest)
  | '"' :: rest => some (['"'], rest)
  | 'x' :: high :: low :: rest => (ascii? high low).map fun c => ([c], rest)
  | 'u' :: '{' :: rest =>
    match rest.dropWhile (· ≠ '}') with
    | [] => none
    | _ :: behind => (scalar? (rest.takeWhile (· ≠ '}'))).map fun c => ([c], behind)
  | '\n' :: rest => some ([], dropIndent rest)
  | '\r' :: '\n' :: rest => some ([], dropIndent rest)
  | _ => none

theorem dropIndent_length_le (cs : List Char) : (dropIndent cs).length ≤ cs.length := by
  fun_induction dropIndent cs with
  | case1 rest ih =>
    simp only [List.length_cons]
    omega
  | case2 c rest _ _ ih =>
    simp only [List.length_cons]
    omega
  | case3 => exact Nat.le_refl _
  | case4 => exact Nat.le_refl _

/-- An escape is not empty. -/
theorem readEscape_length_lt {cs value rest : List Char}
    (h : readEscape cs = some (value, rest)) : rest.length < cs.length := by
  unfold readEscape at h
  split at h
  case h_8 high low tail =>
    obtain ⟨_, _, same⟩ := Option.map_eq_some_iff.mp h
    cases same
    exact Nat.lt_succ_of_lt (Nat.lt_succ_of_lt (Nat.lt_succ_self _))
  case h_9 tail =>
    split at h
    case h_1 => cases h
    case h_2 close behind stop =>
      obtain ⟨_, _, same⟩ := Option.map_eq_some_iff.mp h
      cases same
      have shorter : (tail.dropWhile (· ≠ '}')).length ≤ tail.length :=
        (List.dropWhile_suffix _).length_le
      rw [stop] at shorter
      exact Nat.lt_succ_of_lt (Nat.lt_succ_of_lt shorter)
  case h_10 tail =>
    cases h
    exact Nat.lt_succ_of_le (dropIndent_length_le tail)
  case h_11 tail =>
    cases h
    exact Nat.lt_succ_of_lt (Nat.lt_succ_of_le (dropIndent_length_le tail))
  case h_12 => cases h
  all_goals
    cases h
    exact Nat.lt_succ_self _

/-- The value of a quoted literal from behind its first quote on, and what follows it. The end of a
line is one newline, however it is written; a carriage return elsewhere is refused. -/
def readQuoted : List Char → Option (List Char × List Char)
  | [] => none
  | '"' :: rest => some ([], rest)
  | '\\' :: rest =>
    match h : readEscape rest with
    | none => none
    | some (value, behind) =>
      have : behind.length < rest.length := readEscape_length_lt h
      (readQuoted behind).map fun (more, last) => (value ++ more, last)
  | '\r' :: '\n' :: rest => (readQuoted rest).map fun (more, last) => ('\n' :: more, last)
  | '\r' :: _ => none
  | c :: rest => (readQuoted rest).map fun (more, last) => (c :: more, last)
termination_by cs => cs.length
decreasing_by
  · exact Nat.lt_succ_of_lt this
  · exact Nat.lt_succ_of_lt (Nat.lt_succ_self _)
  · exact Nat.lt_succ_self _

/-- The value of a raw literal from behind its first quote on, and what follows it. A carriage
return that does not end a line is refused. -/
def readRaw (signs : Nat) : List Char → Option (List Char × List Char)
  | [] => none
  | '\r' :: '\n' :: rest =>
    (readRaw signs rest).map fun (more, last) => ('\r' :: '\n' :: more, last)
  | '\r' :: _ => none
  | c :: rest =>
    if c = '"' && rest.take signs = List.replicate signs '#' then some ([], rest.drop signs)
    else (readRaw signs rest).map fun (more, last) => (c :: more, last)

/-- The value of the literal at the beginning of a text, and what follows it. The quotes of a raw
literal have at most 255 number signs. -/
def readFirst : List Char → Option (List Char × List Char)
  | '"' :: rest => readQuoted rest
  | 'r' :: rest =>
    let signs := (rest.takeWhile (· = '#')).length
    match rest.drop signs with
    | '"' :: body => if signs < 256 then readRaw signs body else none
    | _ => none
  | _ => none

/-- A text without the byte order mark at its beginning. -/
def dropOrderMark : List Char → List Char
  | '\ufeff' :: rest => rest
  | cs => cs

/-- The value of a text that is one string literal and nothing else. Directly behind the literal
there may be a suffix, which is an identifier and has no meaning. -/
def read? (text : String) : Option String :=
  match readFirst (Trivia.drop (dropOrderMark text.toList)) with
  | some (value, rest) =>
    if (Trivia.drop (Text.dropIdentifier rest)).isEmpty then some (String.ofList value) else none
  | none => none

end FloatMachine.Literal
