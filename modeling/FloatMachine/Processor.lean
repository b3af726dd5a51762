import FloatMachine.Image.Buffer
import FloatMachine.Operand

/-!
# The processor

Sixteen registers, a flat memory of 1024 cells and a stack of operands. Register zero doubles as
scratch space for operands that have to be computed.
-/

namespace FloatMachine

/-- The register that receives computed operands. -/
def scratch : Register := 0

/-- The number of memory cells. -/
abbrev memorySize : Nat := 1024

/-- A memory cell, by address. -/
abbrev Address := Fin memorySize

/-- The most operands the stack holds. -/
def stackCapacity : Nat := 4096

/-- The working state of the machine. -/
structure Processor where
  registers : Vector Word registerCount := Vector.replicate registerCount .zero
  memory : Vector Word memorySize := Vector.replicate memorySize .zero
  /-- The operands, the topmost one first. -/
  stack : List Word := []

/-- The cell a word names by its integer part. -/
def Address.ofWord (w : Word) : Except Fault Address :=
  match w.index? with
  | some n =>
    if h : n < memorySize then .ok ⟨n, h⟩ else .error (.memoryOutOfBounds w memorySize)
  | none => .error (.memoryOutOfBounds w memorySize)

/-- The cell with a given number. -/
def Address.ofNat (n : Nat) : Except OutOfBounds Address :=
  if h : n < memorySize then .ok ⟨n, h⟩ else .error ⟨memorySize, n⟩

namespace Stack

/-- Puts a word on top, if there is room. -/
def push (w : Word) (stack : List Word) : Except Fault (List Word) :=
  if stack.length < stackCapacity then .ok (w :: stack) else .error (.stackOverflow stackCapacity)

/-- Takes the topmost word off. -/
def pop : List Word → Except Fault (Word × List Word)
  | [] => .error .stackUnderflow
  | w :: stack => .ok (w, stack)

/-- The topmost word. -/
def peek : List Word → Except Fault Word
  | [] => .error .stackUnderflow
  | w :: _ => .ok w

end Stack

namespace Processor

/-- The words of two sequences are equal as numbers, place by place. -/
def equalWords (a b : List Word) : Bool :=
  a.length = b.length && (a.zip b).all fun (x, y) => x.equals y

/-- Two processors hold equal numbers everywhere. -/
def equals (a b : Processor) : Bool :=
  equalWords a.registers.toList b.registers.toList && equalWords a.stack b.stack
    && equalWords a.memory.toList b.memory.toList

end Processor

end FloatMachine
