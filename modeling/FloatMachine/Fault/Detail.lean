import FloatMachine.Fault

/-!
# Faults in full

Beside its sentence a fault has a record form that shows its name and every field. Texts are
quoted there, and words are written in the detailed style.
-/

namespace FloatMachine.Fault

/-- The name of a fault and its fields, each with its value as text. -/
def fields : Fault → String × List (String × String)
  | load path reason => ("Load", [("path", Text.quoted path), ("reason", Text.quoted reason)])
  | allocation requested => ("AllocationFailed", [("requested", toString requested)])
  | truncatedHeader length expected =>
    ("TruncatedHeader", [("len", toString length), ("expected", toString expected)])
  | badSignature found expected =>
    ("BadSignature", [("found", toString found), ("expected", toString expected)])
  | unsupportedVersion found expected =>
    ("UnsupportedVersion", [("found", toString found), ("expected", toString expected)])
  | invalidInstruction opcode offset =>
    ("InvalidInstruction", [("opcode", toString opcode), ("offset", toString offset)])
  | invalidAddressingMode opcode offset =>
    ("InvalidAddressingMode", [("opcode", toString opcode), ("offset", toString offset)])
  | unexpectedEnd ip requested available =>
    ("UnexpectedEndOfBytecode", [("ip", toString ip), ("requested", toString requested),
      ("available", toString available)])
  | invalidRegister index available =>
    ("InvalidRegisterIndex", [("index", toString index), ("available", toString available)])
  | memoryOutOfBounds address capacity =>
    ("RamOutOfBounds", [("address", NumberStyle.detailed.text address),
      ("capacity", toString capacity)])
  | jumpOutOfRange target size =>
    ("JumpOutOfRange", [("target", NumberStyle.detailed.text target), ("size", toString size)])
  | literalNotWritable offset => ("ImmediateNotWritable", [("offset", toString offset)])
  | missingHalt ip => ("MissingHalt", [("ip", toString ip)])
  | invalidInput input => ("InvalidInput", [("input", Text.quoted input)])
  | io reason => ("Io", [("reason", Text.quoted reason)])
  | stackOverflow capacity => ("StackOverflow", [("capacity", toString capacity)])
  | stackUnderflow => ("StackUnderflow", [])
  | callOverflow depth => ("CallStackOverflow", [("depth", toString depth)])
  | returnWithoutCall => ("ReturnWithoutCall", [])

/-- The name of a fault. -/
def name (fault : Fault) : String := fault.fields.1

/-- The record form: the name alone, or the name and the fields between braces. -/
def detail (fault : Fault) : String :=
  match fault.fields with
  | (name, []) => name
  | (name, fields) =>
    let body := ", ".intercalate (fields.map fun (label, value) => label ++ ": " ++ value)
    name ++ " \x7b " ++ body ++ " \x7d"

end FloatMachine.Fault
