import FloatMachine.Proofs.Runs

/-! A machine that does not know its own bounds. Registers, cells and positions are plain numbers
of 64 bits, and every place where one is used as an index, or where two are added or subtracted,
is a guard: beside the sequence or outside the 64 bits, the machine crashes. Every check that
precedes such a place is made here too, also where it can be seen to be superfluous. -/

namespace FloatMachine.Guarded

/-- Why a guarded action stops. -/
inductive Stop where
  | fault (fault : Fault)
  /-- An index beside its sequence, or a number outside the 64 bits. -/
  | crash

/-- A machine whose parts carry no bounds. -/
structure State where
  registers : Array Word
  memory : Array Word
  stack : List Word
  ip : Nat
  frames : List Nat

abbrev Action := EStateM Stop State

/-! ## Guards -/

/-- The first number that does not fit into 64 bits. -/
def limit : Nat := Nat.pow 2 64

def plus (a b : Nat) : Except Stop Nat :=
  if a + b < limit then .ok (a + b) else .error .crash

def minus (a b : Nat) : Except Stop Nat :=
  if b ≤ a then .ok (a - b) else .error .crash

def load (words : Array Word) (index : Nat) : Except Stop Word :=
  match words[index]? with
  | some w => .ok w
  | none => .error .crash

def store (words : Array Word) (index : Nat) (w : Word) : Except Stop (Array Word) :=
  if index < words.size then .ok (words.setIfInBounds index w) else .error .crash

/-- A number cut to the largest one of 64 bits. -/
def saturate (n : Nat) : Nat := min n (limit - 1)

def fail {α : Type} (fault : Fault) : Except Stop α := .error (.fault fault)

/-- A computation that does not look at the machine. -/
def lift {α : Type} : Except Stop α → Action α
  | .ok a => pure a
  | .error stop => throw stop

/-! ## Operands -/

/-- The opcode byte at an offset, with its mode. -/
def modeAt (image : Image) (offset : Nat) : Except Stop (UInt8 × Mode) :=
  match image.byte? offset with
  | none => fail (.missingHalt offset)
  | some opcode =>
    match Mode.ofOpcode? opcode with
    | none => fail (.invalidAddressingMode opcode offset)
    | some mode => .ok (opcode, mode)

/-- Checks that so many bytes follow the one at an offset. -/
def ensureAvailable (image : Image) (offset count : Nat) : Except Stop Unit := do
  let next ← plus offset 1
  if image.size - next < count then fail (.unexpectedEnd offset count (image.size - next))
  else return ()

def checkRegister (index : UInt8) : Except Stop UInt8 :=
  if index.toNat < registerCount then .ok index else fail (.invalidRegister index registerCount)

def registerIndexAt (image : Image) (offset : Nat) : Except Stop UInt8 :=
  match image.byte? offset with
  | none => fail (.unexpectedEnd offset 1 0)
  | some index => checkRegister index

def literalAt (image : Image) (offset : Nat) : Except Stop Word :=
  match image.word? offset with
  | none => fail (.unexpectedEnd offset Image.wordSize (image.size - offset))
  | some w => .ok w

def getRegister (registers : Array Word) (index : UInt8) : Except Stop Word := do
  let index ← checkRegister index
  load registers index.toNat

def setRegister (registers : Array Word) (index : UInt8) (w : Word) :
    Except Stop (Array Word) := do
  let index ← checkRegister index
  store registers index.toNat w

/-- Where an instruction reads or writes a word, by numbers alone. -/
inductive Location where
  | register (index : UInt8)
  | memory (address : Nat)
  | literal (offset : Nat)

def read (image : Image) (s : State) : Location → Except Stop Word
  | .register index => getRegister s.registers index
  | .memory address => load s.memory address
  | .literal offset => literalAt image offset

/-- The cell a word names. The check comes before the word is cut to 64 bits. -/
def address (w : Word) : Except Stop Nat :=
  match w.index? with
  | some n => if n < memorySize then .ok (saturate n) else fail (.memoryOutOfBounds w memorySize)
  | none => fail (.memoryOutOfBounds w memorySize)

/-- Adds a register and a literal in the scratch register, which is cleared before. -/
def loadSum (index : UInt8) (w : Word) (registers : Array Word) : Except Stop (Array Word) := do
  let cleared ← setRegister registers 0 .zero
  let base ← getRegister cleared index
  setRegister cleared 0 (base.add w)

/-- The location of a base. -/
def locateBase (image : Image) (start : Nat) : Mode → Action Location
  | .register => do
    let offset ← lift (plus start 1)
    let index ← lift (registerIndexAt image offset)
    return .register index
  | .literal => do
    let offset ← lift (plus start 1)
    return .literal offset
  | .sum => do
    let offset ← lift (plus start 1)
    let index ← lift (registerIndexAt image offset)
    let offset ← lift (plus start 2)
    let w ← lift (literalAt image offset)
    let registers ← lift (loadSum index w (← get).registers)
    modify fun s => { s with registers }
    return .register 0

/-- The cell an indirect operand names; the location of its base for any other. -/
def followBase (image : Image) (indirect : Bool) (location : Location) : Action Location := do
  if indirect then
    let w ← lift (read image (← get) location)
    let cell ← lift (address w)
    return .memory cell
  else return location

def resolve (image : Image) : Action Location := do
  let start := (← get).ip
  let (opcode, mode) ← lift (modeAt image start)
  lift (ensureAvailable image start mode.size)
  let location ← locateBase image start mode
  let ip ← lift (plus start mode.size)
  modify fun s => { s with ip }
  followBase image (Opcode.isIndirect opcode) location

def skip (image : Image) : Action Unit := do
  let start := (← get).ip
  let (_, mode) ← lift (modeAt image start)
  lift (ensureAvailable image start mode.size)
  let ip ← lift (plus start mode.size)
  modify fun s => { s with ip }

def write (location : Location) (w : Word) : Action Unit := do
  match location with
  | .register index =>
    let registers ← lift (setRegister (← get).registers index w)
    modify fun s => { s with registers }
  | .memory address =>
    let memory ← lift (store (← get).memory address w)
    modify fun s => { s with memory }
  | .literal offset => lift (fail (.literalNotWritable offset))

/-! ## Commands -/

def push (w : Word) : Action Unit := do
  let s ← get
  if s.stack.length < stackCapacity then set { s with stack := w :: s.stack }
  else lift (fail (.stackOverflow stackCapacity))

def pop : Action Word := do
  let s ← get
  match s.stack with
  | [] => lift (fail .stackUnderflow)
  | w :: stack =>
    set { s with stack }
    return w

def peek : Action Word := do
  match (← get).stack with
  | [] => lift (fail .stackUnderflow)
  | w :: _ => return w

/-- The offset a word names. The word is cut to 64 bits before it is compared with the image. -/
def target (image : Image) (w : Word) : Except Stop Nat :=
  match w.index? with
  | some n =>
    if saturate n < image.size then .ok (saturate n) else fail (.jumpOutOfRange w image.size)
  | none => fail (.jumpOutOfRange w image.size)

def jump (image : Image) : Action Unit := do
  let location ← resolve image
  let w ← lift (read image (← get) location)
  let offset ← lift (target image w)
  let landing ← lift (plus Image.headerSize offset)
  let ip ← lift (minus landing 1)
  modify fun s => { s with ip }

def pushFrame (returnPoint : Nat) : Action Unit := do
  let s ← get
  if s.frames.length < callCapacity then set { s with frames := returnPoint :: s.frames }
  else lift (fail (.callOverflow s.frames.length))

def popFrame : Action Unit := do
  let s ← get
  match s.frames with
  | [] => lift (fail .returnWithoutCall)
  | returnPoint :: frames => set { s with ip := returnPoint, frames }

def execute (image : Image) : Command → Action Unit
  | .push => do
    let source ← resolve image
    let w ← lift (read image (← get) source)
    push w
  | .pop => do
    let destination ← resolve image
    let w ← pop
    write destination w
  | .dup => do
    let w ← peek
    push w
  | .binary operation => do
    let b ← pop
    let a ← pop
    push (operation.apply a b)
  | .unary operation => do
    let a ← pop
    push (operation.apply a)
  | .jump => jump image
  | .jumpIf condition => do
    let b ← pop
    let a ← pop
    if condition.holds (a.compare b) then jump image else skip image
  | .call => do
    let start := (← get).ip
    let (_, mode) ← lift (modeAt image start)
    let returnPoint ← lift (plus start mode.size)
    pushFrame returnPoint
    jump image
  | .ret => popFrame

/-! ## Sessions -/

/-- A guarded machine, the image it runs and its host. -/
structure Session (σ : Type) where
  image : Image
  machine : State
  host : σ

namespace Session

variable {σ : Type}

/-- A guarded machine that has not run yet. -/
def fresh (image : Image) (host : σ) : Session σ where
  image
  machine :=
    { registers := Array.replicate registerCount .zero
      memory := Array.replicate memorySize .zero
      stack := []
      ip := Image.headerSize
      frames := [] }
  host

def onMachine {α : Type} (action : Action α) : EStateM Stop (Session σ) α := fun s =>
  match action s.machine with
  | .ok a machine => .ok a { s with machine }
  | .error stop machine => .error stop { s with machine }

def onHost {α : Type} (action : EStateM Fault σ α) : EStateM Stop (Session σ) α := fun s =>
  match action s.host with
  | .ok a host => .ok a { s with host }
  | .error fault host => .error (.fault fault) { s with host }

def execute [Host σ] : Instruction → EStateM Stop (Session σ) Flow
  | .halt => return .halt
  | .input => do
    let w ← onHost Host.read
    onMachine (push w)
    return .next
  | .output => do
    let w ← onMachine pop
    onHost (Host.write w)
    return .next
  | .command command => do
    onMachine (Guarded.execute (← get).image command)
    return .next

def advance : EStateM Stop (Session σ) Unit :=
  onMachine do
    let ip ← lift (plus (← get).ip 1)
    modify fun m => { m with ip }

def step [Host σ] : EStateM Stop (Session σ) Flow := do
  let s ← get
  match s.image.fetch s.machine.ip with
  | .error fault => throw (.fault fault)
  | .ok fetched =>
    match ← execute fetched.instruction with
    | .halt => return .halt
    | .next =>
      advance
      return .next

/-- How a guarded run ends. -/
inductive Ending where
  | halted
  | failed (fault : Fault)
  | crashed

def Ending.ofStop : Stop → Ending
  | .fault fault => .failed fault
  | .crash => .crashed

def resume [Host σ] : Nat → Session σ → Option Ending × Session σ
  | 0, s => (none, s)
  | fuel + 1, s =>
    match step s with
    | .ok .next s => resume fuel s
    | .ok .halt s => (some .halted, s)
    | .error stop s => (some (.ofStop stop), s)

def run [Host σ] (fuel : Nat) (s : Session σ) : Option Ending × Session σ :=
  match s.image.validate with
  | .ok _ => resume fuel { s with machine := { s.machine with ip := Image.headerSize } }
  | .error fault => (some (.failed fault), s)

def call [Host σ] : FloatMachine.Session.Call → Session σ → Option Ending × Session σ
  | .step => resume 1
  | .run fuel => run fuel

def calls [Host σ] :
    List FloatMachine.Session.Call → Session σ → List (Option Ending) × Session σ
  | [], s => ([], s)
  | c :: history, s =>
    let answered := s.call c
    let rest := answered.2.calls history
    (answered.1 :: rest.1, rest.2)

end Session

end FloatMachine.Guarded
