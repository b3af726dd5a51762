import FloatMachine.Log
import FloatMachine.Session

/-!
# Traces

A traced run leaves a record for every instruction it fetches, with the operands on the stack just
before the instruction is carried out. Tracing looks at the session and never changes it.
-/

namespace FloatMachine

/-- What a trace line says about the operand. -/
def Fetched.operandLabel (fetched : Fetched) : String :=
  if fetched.instruction.hasOperand then
    match Mode.ofOpcode? fetched.opcode with
    | some mode => mode.label
    | none => "?"
  else "-"

/-- The words of a stack between brackets, the topmost one last. -/
def Stack.text (stack : List Word) : String :=
  "[" ++ ", ".intercalate (stack.reverse.map NumberStyle.detailed.text) ++ "]"

/-- The record of a fetched instruction: its offset, name, opcode byte and operand, and the
stack. -/
def Fetched.record (fetched : Fetched) (stack : List Word) : Record where
  level := .debug
  message :=
    Text.padLeft 6 ' ' (toString fetched.offset) ++ ": "
      ++ Text.padRight 4 ' ' fetched.instruction.mnemonic
      ++ " (" ++ Text.hexadecimal 2 fetched.opcode.toNat ++ ") " ++ fetched.operandLabel
      ++ " stack=" ++ Stack.text stack

namespace Session

variable {σ : Type}

/-- The record of the instruction that the next step fetches, if it fetches one. -/
def nextRecord? (s : Session σ) : Option Record :=
  match s.image.fetch s.machine.ip with
  | .ok fetched => some (fetched.record s.machine.stack)
  | .error _ => none

/-- Takes up to `fuel` steps and puts the record of each behind those of a journal. -/
def resumeTraced [Host σ] :
    Nat → Session σ → Array Record → Option Ending × Session σ × Array Record
  | 0, s, journal => (none, s, journal)
  | fuel + 1, s, journal =>
    let journal :=
      match s.nextRecord? with
      | some record => journal.push record
      | none => journal
    match step s with
    | .ok .next s => resumeTraced fuel s journal
    | .ok .halt s => (some .halted, s, journal)
    | .error fault s => (some (.failed fault), s, journal)

end Session

end FloatMachine
