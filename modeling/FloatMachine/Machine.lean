import FloatMachine.Image.Header
import FloatMachine.Processor

/-!
# The machine

A machine is a processor, a position in the image and the return points of active calls. What an
instruction does to it is an action: it ends with a value or a fault, and in both cases with the
state it has reached. While an instruction is carried out, the position rests on the last byte
taken so far.
-/

namespace FloatMachine

/-- The most calls that can be active. -/
def callCapacity : Nat := 1024

/-- The state of a machine. The image is not part of it, for no instruction can change it. -/
structure Machine extends Processor where
  /-- The position in the image, an offset from its start. -/
  ip : Nat := Image.headerSize
  /-- The positions to return to, the latest call first. -/
  frames : List Nat := []

/-- A state change of the machine that may end in a fault. -/
abbrev Action := EStateM Fault Machine

/-- Where an instruction reads or writes a word. -/
inductive Location where
  | register (index : Register)
  | memory (address : Address)
  /-- A literal of the image, which can only be read. -/
  | literal (offset : Nat) (value : Word)
deriving DecidableEq

namespace Machine

/-- The word at a location. -/
def read (m : Machine) : Location → Word
  | .register index => m.registers[index]
  | .memory address => m.memory[address]
  | .literal _ value => value

/-- Computes a register plus a literal in the scratch register, which counts as zero while the
sum is formed. -/
def loadSum (index : Register) (value : Word) (m : Machine) : Machine :=
  let cleared := m.registers.set scratch .zero
  { m with registers := cleared.set scratch (cleared[index].add value) }

/-- Where a base is found once it has been loaded. -/
def baseLocation : Base → Location
  | .register index => .register index
  | .literal offset value => .literal offset value
  | .sum .. => .register scratch

/-- Brings a base into place and moves on to the last byte of the operand. -/
def loadBase (base : Base) (m : Machine) : Machine :=
  let loaded :=
    match base with
    | .sum index value => m.loadSum index value
    | .register _ | .literal .. => m
  { loaded with ip := m.ip + base.mode.size }

end Machine

namespace Action

/-- A computation that does not look at the machine. -/
def lift {α : Type} : Except Fault α → Action α
  | .ok a => pure a
  | .error fault => throw fault

/-! ## The stack -/

def push (w : Word) : Action Unit := do
  let m ← get
  let stack ← lift (Stack.push w m.stack)
  set { m with stack }

def pop : Action Word := do
  let m ← get
  let (w, stack) ← lift (Stack.pop m.stack)
  set { m with stack }
  return w

def peek : Action Word := do
  lift (Stack.peek (← get).stack)

/-! ## Operands -/

/-- Turns a decoded operand into a location. An indirect one names a memory cell by its value. -/
def locate (operand : Operand) : Action Location := do
  modify (Machine.loadBase operand.base)
  let location := Machine.baseLocation operand.base
  if operand.indirect then
    let address ← lift (Address.ofWord ((← get).read location))
    return .memory address
  else return location

/-- The location meant by the operand behind the opcode at the current position. -/
def resolve (image : Image) (opcode : UInt8) : Action Location := do
  let operand ← lift (Operand.decode image opcode (← get).ip)
  locate operand

/-- Moves over the operand without looking at its value. -/
def skip (image : Image) (opcode : UInt8) : Action Unit := do
  let m ← get
  let size ← lift (Operand.sizeAt image opcode m.ip)
  set { m with ip := m.ip + size }

/-- Stores a word. -/
def write (location : Location) (w : Word) : Action Unit := do
  match location with
  | .register index => modify fun m => { m with registers := m.registers.set index w }
  | .memory address => modify fun m => { m with memory := m.memory.set address w }
  | .literal offset _ => throw (.literalNotWritable offset)

/-! ## Transfer of control -/

/-- The offset into the code that a word names by its integer part. It must be smaller than the
image. -/
def target (image : Image) (w : Word) : Except Fault Nat :=
  match w.index? with
  | some offset =>
    if offset < image.size then .ok offset else .error (.jumpOutOfRange w image.size)
  | none => .error (.jumpOutOfRange w image.size)

/-- Moves to the byte in front of the place the operand names. -/
def jump (image : Image) (opcode : UInt8) : Action Unit := do
  let location ← resolve image opcode
  let offset ← lift (target image ((← get).read location))
  modify fun m => { m with ip := Image.headerSize + offset - 1 }

/-- Jumps, or moves over the operand if the jump is not taken. -/
def jumpWhen (image : Image) (opcode : UInt8) (taken : Bool) : Action Unit :=
  if taken then jump image opcode else skip image opcode

/-- Remembers a return point. -/
def pushFrame (returnPoint : Nat) : Action Unit := do
  let m ← get
  if m.frames.length < callCapacity then set { m with frames := returnPoint :: m.frames }
  else throw (.callOverflow m.frames.length)

/-- Goes back to the latest return point. -/
def popFrame : Action Unit := do
  let m ← get
  match m.frames with
  | [] => throw .returnWithoutCall
  | returnPoint :: frames => set { m with ip := returnPoint, frames }

end Action

/-! ## Commands -/

def BinaryOperation.apply : BinaryOperation → Word → Word → Word
  | add => Word.add
  | sub => Word.sub
  | mul => Word.mul
  | div => Word.div

def UnaryOperation.apply : UnaryOperation → Word → Word
  | sqrt => Word.sqrt
  | sin => Word.sin
  | cos => Word.cos

/-- Carries out a command whose opcode byte stands at the current position. The position ends on
the last byte of the command, or in front of the place control is transferred to. -/
def Command.execute (image : Image) (opcode : UInt8) : Command → Action Unit
  | push => do
    let source ← Action.resolve image opcode
    Action.push ((← get).read source)
  | pop => do
    let destination ← Action.resolve image opcode
    let w ← Action.pop
    Action.write destination w
  | dup => do
    let w ← Action.peek
    Action.push w
  | binary operation => do
    let b ← Action.pop
    let a ← Action.pop
    Action.push (operation.apply a b)
  | unary operation => do
    let a ← Action.pop
    Action.push (operation.apply a)
  | jump => Action.jump image opcode
  | jumpIf condition => do
    let b ← Action.pop
    let a ← Action.pop
    Action.jumpWhen image opcode (condition.holds (a.compare b))
  | call => do
    let ip := (← get).ip
    let mode ← Action.lift (Mode.decode opcode ip)
    Action.pushFrame (ip + mode.size)
    Action.jump image opcode
  | ret => Action.popFrame

end FloatMachine
