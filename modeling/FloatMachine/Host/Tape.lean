import FloatMachine.Host

/-!
# Tapes

The simplest host: a queue of words to read and a record of the words written.
-/

namespace FloatMachine

/-- A host that holds its input and its output as words. -/
structure Tape where
  input : List Word := []
  output : Array Word := #[]
deriving DecidableEq

namespace Tape

/-- Takes the next word off the input. -/
def read : EStateM Fault Tape Word := do
  let tape ← get
  match tape.input with
  | [] => throw (.io "input exhausted")
  | w :: input =>
    set { tape with input }
    return w

/-- Appends a word to the output. -/
def write (w : Word) : EStateM Fault Tape Unit :=
  modify fun tape => { tape with output := tape.output.push w }

/-- Appends words to the input. -/
def feed (words : List Word) (tape : Tape) : Tape := { tape with input := tape.input ++ words }

instance : Host Tape := ⟨read, write⟩

end Tape

end FloatMachine
