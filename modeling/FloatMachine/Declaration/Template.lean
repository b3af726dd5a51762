import FloatMachine.Text.Blank

/-!
# Message templates

A template is text with placeholders between braces. A placeholder is a name, optionally followed
by a colon and a format specification. Doubled braces stand for themselves.
-/

namespace FloatMachine.Template

/-- The name in front of the colon, without blanks around it. -/
def nameOf (placeholder : List Char) : List Char :=
  Text.trimBlanks (placeholder.takeWhile (· ≠ ':'))

/-- What follows the next closing brace. -/
def afterBrace (template : List Char) : List Char :=
  (template.dropWhile (· ≠ '}')).drop 1

theorem length_afterBrace_le (template : List Char) :
    (afterBrace template).length ≤ template.length := by
  have := (List.dropWhile_sublist (fun c => decide (c ≠ '}')) (l := template)).length_le
  simp only [afterBrace, List.length_drop]
  omega

/-- The names of all placeholders from left to right. A placeholder reaches up to the next closing
brace or, for want of one, to the end; other closing braces are text. -/
def placeholders : List Char → List (List Char)
  | [] => []
  | '{' :: '{' :: rest => placeholders rest
  | '{' :: rest => nameOf (rest.takeWhile (· ≠ '}')) :: placeholders (afterBrace rest)
  | _ :: rest => placeholders rest
termination_by template => template.length
decreasing_by
  · simp only [List.length_cons]
    omega
  · exact Nat.lt_succ_of_le (length_afterBrace_le rest)
  · exact Nat.lt_succ_self rest.length

/-- The fields a template refers to: the names that are not empty, each at its first use. -/
def references (template : List Char) : List (List Char) :=
  ((placeholders template).filter (!·.isEmpty)).eraseDups

/-- Puts the letter `f` in front of every name that begins with a digit, which turns the number of
a field into an identifier. -/
def nameNumbers : List Char → List Char
  | [] => []
  | '{' :: '{' :: rest => '{' :: '{' :: nameNumbers rest
  | '{' :: c :: rest =>
    if c.isDigit then '{' :: 'f' :: c :: nameNumbers rest else '{' :: nameNumbers (c :: rest)
  | c :: rest => c :: nameNumbers rest

end FloatMachine.Template
