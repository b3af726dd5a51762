/-!
# The instruction set

An opcode byte holds the number of an instruction in its low five bits. The upper three bits say
how an operand is found; instructions without an operand ignore them.
-/

namespace FloatMachine

namespace Opcode

/-- The bits that hold the number of the instruction. -/
def commandMask : UInt8 := 0x1f

/-- The operand has a literal word. -/
def literalBit : UInt8 := 0x20

/-- The operand has a register. -/
def registerBit : UInt8 := 0x40

/-- The operand's value is an address in memory. -/
def memoryBit : UInt8 := 0x80

end Opcode

/-- Operations on the two topmost words of the stack. -/
inductive BinaryOperation where
  | add
  | sub
  | mul
  | div
deriving DecidableEq

/-- Operations on the topmost word of the stack. -/
inductive UnaryOperation where
  | sqrt
  | sin
  | cos
deriving DecidableEq

/-- What a conditional jump asks of the two topmost words. -/
inductive Condition where
  | above
  | aboveOrEqual
  | below
  | belowOrEqual
  | equal
  | notEqual
deriving DecidableEq

/-- Whether the order of the lower word to the topmost one meets a condition. -/
def Condition.holds : Condition → Ordering → Bool
  | above, order => order = .gt
  | aboveOrEqual, order => order ≠ .lt
  | below, order => order = .lt
  | belowOrEqual, order => order ≠ .gt
  | equal, order => order = .eq
  | notEqual, order => order ≠ .eq

/-- Instructions that concern the machine alone. -/
inductive Command where
  | push
  | pop
  | dup
  | binary (operation : BinaryOperation)
  | unary (operation : UnaryOperation)
  | jump
  | jumpIf (condition : Condition)
  | call
  | ret
deriving DecidableEq

/-- An instruction stops the run, exchanges a word with the host or is a command to the machine. -/
inductive Instruction where
  | halt
  | input
  | output
  | command (command : Command)
deriving DecidableEq

namespace Command

/-- An operand follows the opcode byte. -/
def hasOperand : Command → Bool
  | push | pop | jump | jumpIf _ | call => true
  | dup | binary _ | unary _ | ret => false

def opcode : Command → UInt8
  | push => 0x01
  | pop => 0x02
  | binary .add => 0x03
  | binary .sub => 0x04
  | binary .mul => 0x05
  | binary .div => 0x06
  | unary .sqrt => 0x07
  | unary .sin => 0x08
  | unary .cos => 0x09
  | dup => 0x0c
  | jump => 0x0d
  | jumpIf .above => 0x0e
  | jumpIf .aboveOrEqual => 0x0f
  | jumpIf .below => 0x10
  | jumpIf .belowOrEqual => 0x11
  | jumpIf .equal => 0x12
  | jumpIf .notEqual => 0x13
  | call => 0x14
  | ret => 0x15

def mnemonic : Command → String
  | push => "PUSH"
  | pop => "POP"
  | binary .add => "ADD"
  | binary .sub => "SUB"
  | binary .mul => "MUL"
  | binary .div => "DIV"
  | unary .sqrt => "SQRT"
  | unary .sin => "SIN"
  | unary .cos => "COS"
  | dup => "DUP"
  | jump => "JMP"
  | jumpIf .above => "JA"
  | jumpIf .aboveOrEqual => "JAE"
  | jumpIf .below => "JB"
  | jumpIf .belowOrEqual => "JBE"
  | jumpIf .equal => "JE"
  | jumpIf .notEqual => "JNE"
  | call => "CALL"
  | ret => "RET"

end Command

namespace Instruction

/-- An operand follows the opcode byte. -/
def hasOperand : Instruction → Bool
  | command c => c.hasOperand
  | halt | input | output => false

/-- The number of an instruction, which is its opcode byte with the upper bits clear. -/
def opcode : Instruction → UInt8
  | halt => 0x00
  | input => 0x0a
  | output => 0x0b
  | command c => c.opcode

def mnemonic : Instruction → String
  | halt => "HLT"
  | input => "IN"
  | output => "OUT"
  | command c => c.mnemonic

/-- The instruction set, by groups: stopping, stack transfer, arithmetic, host, control flow. -/
def all : List Instruction :=
  [halt, command .push, command .pop, command .dup,
    command (.binary .add), command (.binary .sub), command (.binary .mul),
    command (.binary .div), command (.unary .sqrt), command (.unary .sin), command (.unary .cos),
    input, output,
    command .jump, command (.jumpIf .above), command (.jumpIf .aboveOrEqual),
    command (.jumpIf .below), command (.jumpIf .belowOrEqual), command (.jumpIf .equal),
    command (.jumpIf .notEqual), command .call, command .ret]

/-- The instruction with a given number. -/
def ofOpcode? (opcode : UInt8) : Option Instruction :=
  all.find? fun instruction => instruction.opcode = opcode

end Instruction

end FloatMachine
