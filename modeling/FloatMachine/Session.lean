import FloatMachine.Host
import FloatMachine.Machine

/-!
# Sessions

A session is a machine that runs an image against a host. Its step fetches the opcode byte at the
current position, carries out the instruction and moves on to the next opcode byte.
-/

namespace FloatMachine

/-- What follows an instruction that was carried out. -/
inductive Flow where
  /-- The next instruction. -/
  | next
  /-- The end of the run. -/
  | halt
deriving DecidableEq

/-- An opcode byte that names an instruction, and where it was found. -/
structure Fetched where
  offset : Nat
  opcode : UInt8
  instruction : Instruction
deriving DecidableEq

/-- Fetches the opcode byte at an offset. -/
def Image.fetch (image : Image) (offset : Nat) : Except Fault Fetched :=
  match image.byte? offset with
  | none => .error (.missingHalt offset)
  | some opcode =>
    match Instruction.ofOpcode? (opcode &&& Opcode.commandMask) with
    | none => .error (.invalidInstruction opcode offset)
    | some instruction => .ok ⟨offset, opcode, instruction⟩

/-- A machine, the image it runs and its host. -/
structure Session (σ : Type) where
  image : Image
  machine : Machine := {}
  host : σ

namespace Session

variable {σ : Type}

/-- Lets an action on the machine act on the session. -/
def onMachine {α : Type} (action : Action α) : EStateM Fault (Session σ) α := fun s =>
  match action s.machine with
  | .ok a machine => .ok a { s with machine }
  | .error fault machine => .error fault { s with machine }

/-- Lets an action on the host act on the session. -/
def onHost {α : Type} (action : EStateM Fault σ α) : EStateM Fault (Session σ) α := fun s =>
  match action s.host with
  | .ok a host => .ok a { s with host }
  | .error fault host => .error fault { s with host }

/-- Moves on to the byte behind the instruction. -/
def advance : EStateM Fault (Session σ) Unit :=
  modify fun s => { s with machine := { s.machine with ip := s.machine.ip + 1 } }

/-- Carries out a fetched instruction. A word read from the host is lost if the stack is full. -/
def execute [Host σ] (fetched : Fetched) : EStateM Fault (Session σ) Flow := do
  match fetched.instruction with
  | .halt => return .halt
  | .input =>
    let w ← onHost Host.read
    onMachine (Action.push w)
    return .next
  | .output =>
    let w ← onMachine Action.pop
    onHost (Host.write w)
    return .next
  | .command command =>
    onMachine (command.execute (← get).image fetched.opcode)
    return .next

/-- Fetches and carries out one instruction. The position stays on an instruction that halts. -/
def step [Host σ] : EStateM Fault (Session σ) Flow := do
  let s ← get
  match s.image.fetch s.machine.ip with
  | .error fault => throw fault
  | .ok fetched =>
    match ← execute fetched with
    | .halt => return .halt
    | .next =>
      advance
      return .next

/-! ## Runs -/

/-- How a run ends. -/
inductive Ending where
  | halted
  | failed (fault : Fault)
deriving DecidableEq, Inhabited

/-- Takes up to `fuel` steps, fewer if one does not lead on. Tells how the run ended, if it did. -/
def resume [Host σ] : Nat → Session σ → Option Ending × Session σ
  | 0, s => (none, s)
  | fuel + 1, s =>
    match step s with
    | .ok .next s => resume fuel s
    | .ok .halt s => (some .halted, s)
    | .error fault s => (some (.failed fault), s)

/-- Checks the header and goes to the first instruction. -/
def start (s : Session σ) : Except Fault (Session σ) := do
  s.image.validate
  return { s with machine := { s.machine with ip := Image.headerSize } }

/-- A run from the first instruction, for up to `fuel` steps. An image with a bad header is not
run at all. -/
def run [Host σ] (fuel : Nat) (s : Session σ) : Option Ending × Session σ :=
  match s.start with
  | .ok s => s.resume fuel
  | .error fault => (some (.failed fault), s)

end Session

end FloatMachine
