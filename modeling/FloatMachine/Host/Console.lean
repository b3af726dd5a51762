import FloatMachine.Decimal.Reader
import FloatMachine.Decimal.Style
import FloatMachine.Host
import FloatMachine.Text.Blank

/-!
# Consoles

A host that exchanges decimal text. Input is taken line by line and cut into tokens, each of which
should be a number; output is one number a line. The writing side may have room for a limited
number of bytes only.
-/

namespace FloatMachine

/-- A host over a stream of bytes and a text. -/
structure Console where
  /-- The input that has not been looked at. -/
  unread : List UInt8 := []
  /-- Tokens of the line last read that are still to be delivered. -/
  pending : List (List Char) := []
  /-- Everything written so far. -/
  written : String := ""
  /-- How many more bytes can be written; none means no limit. -/
  room : Option Nat := none

namespace Console

/-! ## Reading -/

/-- The byte that ends a line. -/
def newline : UInt8 := 10

/-- The first line, without the newline that ends it. -/
def firstLine (bytes : List UInt8) : List UInt8 := bytes.takeWhile (· ≠ newline)

/-- What follows the first line and its newline. -/
def afterLine (bytes : List UInt8) : List UInt8 := (bytes.dropWhile (· ≠ newline)).drop 1

theorem length_afterLine_lt (byte : UInt8) (bytes : List UInt8) :
    (afterLine (byte :: bytes)).length < (byte :: bytes).length := by
  have := (List.dropWhile_sublist (fun b => decide (b ≠ newline)) (l := bytes)).length_le
  simp only [afterLine, List.dropWhile_cons, List.length_drop]
  split
  · simp only [List.length_cons]
    omega
  · simp

/-- The characters of a line, if it is well-formed text. -/
def decodeLine (line : List UInt8) : Option (List Char) :=
  (String.fromUTF8? ⟨line.toArray⟩).map String.toList

/-- The fault of a host that has nothing more to read. -/
def endOfInput : Fault := .io "unexpected end of input"

/-- The fault of a line that is not well-formed text. -/
def malformedLine : Fault := .io "stream did not contain valid UTF-8"

/-- The fault of a host that cannot take all of a line. -/
def writeFailed : Fault := .io "failed to write whole buffer"

/-- Looks for the next line that has a token and gives its first token, the others, and the input
behind it. A line that is not well-formed text is a fault, and is passed over as a whole. -/
def nextLine (unread : List UInt8) :
    Except Fault (List Char × List (List Char)) × List UInt8 :=
  match unread with
  | [] => (.error endOfInput, [])
  | byte :: bytes =>
    let rest := afterLine (byte :: bytes)
    match decodeLine (firstLine (byte :: bytes)) with
    | none => (.error malformedLine, rest)
    | some line =>
      match Text.tokens line with
      | [] => nextLine rest
      | token :: tokens => (.ok (token, tokens), rest)
termination_by unread.length
decreasing_by exact length_afterLine_lt byte bytes

/-- The next token. -/
def readToken : EStateM Fault Console (List Char) := do
  let console ← get
  match console.pending with
  | token :: pending =>
    set { console with pending }
    return token
  | [] =>
    match nextLine console.unread with
    | (.ok (token, pending), unread) =>
      set { console with unread, pending }
      return token
    | (.error fault, unread) =>
      set { console with unread }
      throw fault

/-- The next token as a word. A token that is no number is used up all the same. -/
def read : EStateM Fault Console Word := do
  let token ← readToken
  match Word.read? token with
  | some w => return w
  | none => throw (.invalidInput (String.ofList token))

/-- Nothing can be read without more input. -/
def isExhausted (console : Console) : Bool :=
  console.pending.isEmpty &&
    match (nextLine console.unread).1 with
    | .ok _ => false
    | .error fault => fault = endOfInput

/-! ## Writing -/

/-- The line that shows a word. -/
def line (w : Word) : List Char := NumberStyle.plain.chars w ++ ['\n']

/-- Writes a word on a line of its own. Where room runs out, the part that fits is written. -/
def write (w : Word) : EStateM Fault Console Unit := do
  let console ← get
  match console.room with
  | none => set { console with written := console.written ++ String.ofList (line w) }
  | some room =>
    let fitting := (line w).take room
    set { console with
      written := console.written ++ String.ofList fitting
      room := some (room - fitting.length) }
    if room < (line w).length then throw writeFailed

instance : Host Console := ⟨read, write⟩

end Console

end FloatMachine
