import FloatMachine.Decimal.Style
import FloatMachine.Text.Padded
import FloatMachine.Text.Quoted

/-!
# Faults

Everything that can go wrong between opening an image and halting, with the facts needed to
report it. The wording of the reports is here and nowhere else.
-/

namespace FloatMachine

/-- The causes for which loading or running an image stops. -/
inductive Fault where
  /-- The image file could not be opened or read. -/
  | load (path reason : String)
  /-- Memory for an image was refused. -/
  | allocation (requested : Nat)
  /-- The image is shorter than a header. -/
  | truncatedHeader (length expected : Nat)
  | badSignature (found expected : UInt32)
  | unsupportedVersion (found expected : UInt8)
  /-- The low bits of an opcode byte name no instruction. -/
  | invalidInstruction (opcode : UInt8) (offset : Nat)
  /-- An opcode byte says neither register nor literal where an operand is needed. -/
  | invalidAddressingMode (opcode : UInt8) (offset : Nat)
  /-- The image ends inside an operand. -/
  | unexpectedEnd (ip requested available : Nat)
  | invalidRegister (index : UInt8) (available : Nat)
  /-- A word used as an address names no memory cell. -/
  | memoryOutOfBounds (address : Word) (capacity : Nat)
  /-- A word used as a jump target names no byte of the code. -/
  | jumpOutOfRange (target : Word) (size : Nat)
  /-- A store into a literal of the image. -/
  | literalNotWritable (offset : Nat)
  /-- Execution ran past the end of the image. -/
  | missingHalt (ip : Nat)
  /-- A token of the input is not a number. -/
  | invalidInput (input : String)
  /-- The host could not read or write. -/
  | io (reason : String)
  | stackOverflow (capacity : Nat)
  | stackUnderflow
  | callOverflow (depth : Nat)
  | returnWithoutCall
deriving DecidableEq

/-- What a fault says about the image or the run, and so how a run that meets it ends. -/
inductive FaultKind where
  | load
  | allocation
  | format
  | decode
  | resource
deriving DecidableEq

namespace Fault

def kind : Fault → FaultKind
  | load .. => .load
  | allocation .. => .allocation
  | truncatedHeader .. | badSignature .. | unsupportedVersion .. => .format
  | stackOverflow .. | stackUnderflow | callOverflow .. | returnWithoutCall => .resource
  | invalidInstruction .. | invalidAddressingMode .. | unexpectedEnd .. | invalidRegister ..
  | memoryOutOfBounds .. | jumpOutOfRange .. | literalNotWritable .. | missingHalt ..
  | invalidInput .. | io .. => .decode

/-- The sentence that reports a fault. -/
def message : Fault → String
  | load path reason => s!"cannot load {path}: {reason}"
  | allocation requested => s!"allocation of {requested} bytes failed"
  | truncatedHeader length expected =>
    s!"image is {length} bytes, shorter than the {expected}-byte header"
  | badSignature found expected =>
    let found := Text.hexadecimal 8 found.toNat
    let expected := Text.hexadecimal 8 expected.toNat
    s!"bad signature {found}, expected {expected}"
  | unsupportedVersion found expected => s!"unsupported version {found}, expected {expected}"
  | invalidInstruction opcode offset =>
    let opcode := Text.hexadecimal 2 opcode.toNat
    s!"invalid instruction {opcode} at offset {offset}"
  | invalidAddressingMode opcode offset =>
    let opcode := Text.hexadecimal 2 opcode.toNat
    s!"invalid addressing mode in {opcode} at offset {offset}"
  | unexpectedEnd ip requested available =>
    s!"unexpected end of bytecode at offset {ip}: requested {requested} bytes, "
      ++ s!"{available} available"
  | invalidRegister index available =>
    s!"register index {index} out of bounds (available: {available})"
  | memoryOutOfBounds address capacity =>
    let address := NumberStyle.plain.text address
    s!"RAM address {address} out of bounds (capacity: {capacity})"
  | jumpOutOfRange target size =>
    let target := NumberStyle.plain.text target
    s!"jump target {target} out of range (code size: {size})"
  | literalNotWritable offset => s!"immediate operand at offset {offset} is not writable"
  | missingHalt ip =>
    s!"execution reached offset {ip} past the end of the image without HLT"
  | invalidInput input =>
    let input := Text.quoted input
    s!"invalid numeric input: {input}"
  | io reason => s!"io error: {reason}"
  | stackOverflow capacity => s!"operand stack overflow (capacity: {capacity})"
  | stackUnderflow => "operand stack underflow"
  | callOverflow depth => s!"call stack overflow (depth: {depth})"
  | returnWithoutCall => "return without call"

end Fault

end FloatMachine
