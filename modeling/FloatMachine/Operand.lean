import FloatMachine.Image
import FloatMachine.Instruction

/-!
# Operands

Behind an opcode byte stands a register number, a literal word, or a register number followed by
a literal word, as the upper bits of the opcode say. Decoding an operand depends on the image
alone.
-/

namespace FloatMachine

/-- The number of registers. -/
abbrev registerCount : Nat := 16

/-- A register, by number. -/
abbrev Register := Fin registerCount

/-- The register an index byte stands for. -/
def Register.ofByte (index : UInt8) : Except Fault Register :=
  if h : index.toNat < registerCount then .ok ⟨index.toNat, h⟩
  else .error (.invalidRegister index registerCount)

/-- How the value of an operand is found. -/
inductive Mode where
  | register
  | literal
  /-- The sum of a register and a literal. -/
  | sum
deriving DecidableEq

namespace Mode

/-- The mode given by the register and literal bits; one of them must be set. -/
def ofOpcode? (opcode : UInt8) : Option Mode :=
  match opcode &&& Opcode.registerBit != 0, opcode &&& Opcode.literalBit != 0 with
  | true, true => some .sum
  | true, false => some .register
  | false, true => some .literal
  | false, false => none

/-- The mode of the opcode found at an offset. -/
def decode (opcode : UInt8) (offset : Nat) : Except Fault Mode :=
  match ofOpcode? opcode with
  | some mode => .ok mode
  | none => .error (.invalidAddressingMode opcode offset)

/-- The number of operand bytes. -/
def size : Mode → Nat
  | register => 1
  | literal => 8
  | sum => 9

def label : Mode → String
  | register => "Register"
  | literal => "Immediate"
  | sum => "Register+Immediate"

end Mode

/-- The memory bit of an opcode is set. -/
def Opcode.isIndirect (opcode : UInt8) : Bool := opcode &&& Opcode.memoryBit ≠ 0

/-- The part of an operand that the register and literal bits select. -/
inductive Base where
  | register (index : Register)
  /-- A literal, with the offset of its first byte. -/
  | literal (offset : Nat) (value : Word)
  | sum (index : Register) (value : Word)
deriving DecidableEq

namespace Base

def mode : Base → Mode
  | register .. => .register
  | literal .. => .literal
  | sum .. => .sum

end Base

/-- A decoded operand. -/
structure Operand where
  base : Base
  /-- The value of the base is an address in memory. -/
  indirect : Bool
deriving DecidableEq

namespace Operand

/-- Checks that `size` bytes follow the opcode byte at an offset. -/
def ensureAvailable (image : Image) (offset size : Nat) : Except Fault Unit :=
  let available := image.size - (offset + 1)
  if size ≤ available then .ok () else .error (.unexpectedEnd offset size available)

/-- The size of the operand behind the opcode at an offset. The operand bytes must be there; what
they hold does not matter. -/
def sizeAt (image : Image) (opcode : UInt8) (offset : Nat) : Except Fault Nat := do
  let mode ← Mode.decode opcode offset
  ensureAvailable image offset mode.size
  return mode.size

/-- The base behind the opcode at an offset, whose bytes are all there. -/
def baseAt (image : Image) (offset : Nat) : Mode → Except Fault Base
  | .register => do
    let index ← Register.ofByte (image.byteAt (offset + 1))
    return .register index
  | .literal => .ok (.literal (offset + 1) (image.wordAt (offset + 1)))
  | .sum => do
    let index ← Register.ofByte (image.byteAt (offset + 1))
    return .sum index (image.wordAt (offset + 2))

/-- The operand behind the opcode at an offset. The checks come in this order: a mode is given,
the operand bytes are there, the register exists. -/
def decode (image : Image) (opcode : UInt8) (offset : Nat) : Except Fault Operand := do
  let mode ← Mode.decode opcode offset
  ensureAvailable image offset mode.size
  let base ← baseAt image offset mode
  return ⟨base, Opcode.isIndirect opcode⟩

end Operand

end FloatMachine
