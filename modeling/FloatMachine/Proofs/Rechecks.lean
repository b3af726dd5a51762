import FloatMachine.Proofs.Bytes
import FloatMachine.Proofs.Guarded.Agreement

/-! Checks that are made again. By the time an operand is read, it is known that its opcode byte,
all the bytes behind it and its register exist. The machine of this module looks at each of them
once more, wherever it needs one, and raises an alarm if something is missing. It does what the
machine does whatever the alarms are, so that no alarm is ever raised. -/

namespace FloatMachine.Rechecked

/-- A check that has been made before. -/
inductive Recheck where
  /-- There is an opcode byte at an offset. -/
  | opcode (offset : Nat)
  /-- There is a register number at an offset. -/
  | index (offset : Nat)
  /-- There are eight bytes at an offset. -/
  | literal (offset : Nat)
  /-- A register that is read or written exists. -/
  | register (index : UInt8)

/-- The faults that are raised where such a check fails. -/
abbrev Alarms := Recheck → Fault

/-- The alarms that say what is missing. -/
def usual (image : Image) : Alarms
  | .opcode offset => .missingHalt offset
  | .index offset => .unexpectedEnd offset 1 0
  | .literal offset => .unexpectedEnd offset Image.wordSize (image.size - offset)
  | .register index => .invalidRegister index registerCount

/-- Where an instruction reads or writes a word, by numbers from the image. -/
inductive Location where
  | register (index : UInt8)
  | memory (address : Address)
  | literal (offset : Nat)

section Machine

variable (alarms : Alarms) (image : Image)

/-! ## Operands -/

/-- The opcode byte at an offset, with its mode. -/
def modeAt (offset : Nat) : Except Fault (UInt8 × Mode) :=
  match image.byte? offset with
  | none => .error (alarms (.opcode offset))
  | some opcode => (Mode.decode opcode offset).map (opcode, ·)

/-- The register number at an offset. That the register exists is checked here for the first
time. -/
def indexAt (offset : Nat) : Except Fault UInt8 :=
  match image.byte? offset with
  | none => .error (alarms (.index offset))
  | some index =>
    if index.toNat < registerCount then .ok index else .error (.invalidRegister index registerCount)

def literalAt (offset : Nat) : Except Fault Word :=
  match image.word? offset with
  | none => .error (alarms (.literal offset))
  | some w => .ok w

def registerAt (index : UInt8) : Except Fault Register :=
  if h : index.toNat < registerCount then .ok ⟨index.toNat, h⟩
  else .error (alarms (.register index))

def getRegister (index : UInt8) : Action Word := do
  let index ← Action.lift (registerAt alarms index)
  return (← get).read (.register index)

def setRegister (index : UInt8) (w : Word) : Action Unit := do
  let index ← Action.lift (registerAt alarms index)
  Action.write (.register index) w

def read : Location → Action Word
  | .register index => getRegister alarms index
  | .memory address => return (← get).read (.memory address)
  | .literal offset => Action.lift (literalAt alarms image offset)

def write (location : Location) (w : Word) : Action Unit :=
  match location with
  | .register index => setRegister alarms index w
  | .memory address => Action.write (.memory address) w
  | .literal offset => throw (.literalNotWritable offset)

/-- Adds a register and a literal in the scratch register, which is cleared before. -/
def loadSum (index : UInt8) (w : Word) : Action Unit := do
  setRegister alarms 0 .zero
  let base ← getRegister alarms index
  setRegister alarms 0 (base.add w)

/-- The location of a base. -/
def locateBase (start : Nat) : Mode → Action Location
  | .register => do
    let index ← Action.lift (indexAt alarms image (start + 1))
    return .register index
  | .literal => return .literal (start + 1)
  | .sum => do
    let index ← Action.lift (indexAt alarms image (start + 1))
    let w ← Action.lift (literalAt alarms image (start + 2))
    loadSum alarms index w
    return .register 0

/-- The cell an indirect operand names; the location of its base for any other. -/
def followBase (indirect : Bool) (location : Location) : Action Location := do
  if indirect then
    let w ← read alarms image location
    let address ← Action.lift (Address.ofWord w)
    return .memory address
  else return location

def resolve : Action Location := do
  let start := (← get).ip
  let (opcode, mode) ← Action.lift (modeAt alarms image start)
  Action.lift (Operand.ensureAvailable image start mode.size)
  let location ← locateBase alarms image start mode
  modify fun m => { m with ip := start + mode.size }
  followBase alarms image (Opcode.isIndirect opcode) location

def skip : Action Unit := do
  let start := (← get).ip
  let (_, mode) ← Action.lift (modeAt alarms image start)
  Action.lift (Operand.ensureAvailable image start mode.size)
  modify fun m => { m with ip := start + mode.size }

/-! ## Commands -/

def jump : Action Unit := do
  let location ← resolve alarms image
  let w ← read alarms image location
  let offset ← Action.lift (Action.target image w)
  modify fun m => { m with ip := Image.headerSize + offset - 1 }

def execute : Command → Action Unit
  | .push => do
    let source ← resolve alarms image
    let w ← read alarms image source
    Action.push w
  | .pop => do
    let destination ← resolve alarms image
    let w ← Action.pop
    write alarms destination w
  | .dup => do
    let w ← Action.peek
    Action.push w
  | .binary operation => do
    let b ← Action.pop
    let a ← Action.pop
    Action.push (operation.apply a b)
  | .unary operation => do
    let a ← Action.pop
    Action.push (operation.apply a)
  | .jump => jump alarms image
  | .jumpIf condition => do
    let b ← Action.pop
    let a ← Action.pop
    if condition.holds (a.compare b) then jump alarms image else skip alarms image
  | .call => do
    let start := (← get).ip
    let (_, mode) ← Action.lift (modeAt alarms image start)
    Action.pushFrame (start + mode.size)
    jump alarms image
  | .ret => Action.popFrame

end Machine

/-! ## Steps -/

variable {σ : Type} [Host σ]

/-- Carries out a fetched instruction. Without an operand there is nothing to check. -/
def executeFetched (alarms : Alarms) (fetched : Fetched) : EStateM Fault (Session σ) Flow := do
  match fetched.instruction with
  | .command command =>
    Session.onMachine (execute alarms (← get).image command)
    return .next
  | .halt | .input | .output => Session.execute fetched

def step (alarms : Alarms) : EStateM Fault (Session σ) Flow := do
  let s ← get
  match s.image.fetch s.machine.ip with
  | .error fault => throw fault
  | .ok fetched =>
    match ← executeFetched alarms fetched with
    | .halt => return .halt
    | .next =>
      Session.advance
      return .next

/-! ## Checks that hold -/

section Checks

variable (alarms : Alarms) {image : Image}

theorem modeAt_eq {offset : Nat} {opcode : UInt8} (h : image.byte? offset = some opcode) :
    modeAt alarms image offset = (Mode.decode opcode offset).map (opcode, ·) := by
  rw [modeAt, h]

theorem indexAt_eq {offset : Nat} (h : offset < image.size) :
    indexAt alarms image offset =
      (Register.ofByte (image.byteAt offset)).map Guarded.registerByte := by
  simp only [indexAt, Image.byte?_of_lt h, Register.ofByte]
  by_cases hlt : (image.byteAt offset).toNat < registerCount
  · simp [hlt, Guarded.registerByte, Except.map]
  · simp [hlt, Except.map]

theorem literalAt_eq {offset : Nat} {w : Word} (h : image.word? offset = some w) :
    literalAt alarms image offset = .ok w := by
  rw [literalAt, h]

theorem registerAt_eq (index : Register) :
    registerAt alarms (Guarded.registerByte index) = .ok index := by
  simp only [registerAt, Guarded.toNat_registerByte, index.isLt, dite_true]

theorem getRegister_eq (index : Register) (m : Machine) :
    getRegister alarms (Guarded.registerByte index) m = .ok (m.read (.register index)) m := by
  simp only [getRegister, bind_apply, registerAt_eq]
  rfl

theorem setRegister_eq (index : Register) (w : Word) (m : Machine) :
    setRegister alarms (Guarded.registerByte index) w m =
      .ok () { m with registers := m.registers.set index w index.isLt } := by
  simp only [setRegister, bind_apply, registerAt_eq]
  rfl

theorem loadSum_eq (index : Register) (w : Word) (m : Machine) :
    loadSum alarms (Guarded.registerByte index) w m = .ok () (m.loadSum index w) := by
  have hzero : (0 : UInt8) = Guarded.registerByte scratch := rfl
  simp only [loadSum, bind_apply, hzero, setRegister_eq, getRegister_eq]
  rfl

end Checks

/-! ## Actions -/

def Location.ofLocation : FloatMachine.Location → Location
  | .register index => .register (Guarded.registerByte index)
  | .memory address => .memory address
  | .literal offset _ => .literal offset

/-- A result with another value. -/
def relabel {ε σ α β : Type} (f : α → β) : EStateM.Result ε σ α → EStateM.Result ε σ β
  | .ok a s => .ok (f a) s
  | .error e s => .error e s

/-- Two sequences of actions have one result if they have one up to the first action and go on alike
from there. -/
theorem bind_eq_of_relabel {ε σ α β γ : Type} {f : α → β} {x : EStateM ε σ α} {y : EStateM ε σ β}
    {k : α → EStateM ε σ γ} {l : β → EStateM ε σ γ} {s : σ} (h : y s = relabel f (x s))
    (hk : ∀ a t, x s = .ok a t → l (f a) t = k a t) : (y >>= l) s = (x >>= k) s := by
  rw [bind_apply, bind_apply, h]
  cases hx : x s with
  | error e t => rfl
  | ok a t => exact hk a t hx

theorem bind_eq_of_eq {ε σ α γ : Type} {x : EStateM ε σ α} {k l : α → EStateM ε σ γ} {s : σ}
    (hk : ∀ a t, x s = .ok a t → l a t = k a t) : (x >>= l) s = (x >>= k) s :=
  bind_eq_of_relabel (f := id) (by cases x s <;> rfl) hk

section Actions

variable (alarms : Alarms) {image : Image} {opcode : UInt8} {m : Machine}

theorem read_eq {location : FloatMachine.Location} (h : Guarded.Readable image location) :
    read alarms image (.ofLocation location) m = .ok (m.read location) m := by
  cases location with
  | register index => exact getRegister_eq alarms index m
  | memory address => rfl
  | literal offset value =>
      simp only [read, Location.ofLocation, literalAt_eq alarms h]
      rfl

theorem write_eq (location : FloatMachine.Location) (w : Word) (m : Machine) :
    write alarms (.ofLocation location) w m = Action.write location w m := by
  cases location with
  | register index => exact setRegister_eq alarms index w m
  | memory address => rfl
  | literal offset value => rfl

theorem locateBase_eq {mode : Mode} (h : m.ip + mode.size < image.size) :
    locateBase alarms image m.ip mode m =
      match Operand.baseAt image m.ip mode with
      | .ok base => .ok (.ofLocation (Machine.baseLocation base))
          { m.loadBase base with ip := m.ip }
      | .error fault => .error fault m := by
  cases mode with
  | literal => rfl
  | register =>
      simp only [Mode.size] at h
      simp only [locateBase, Operand.baseAt, bind_apply, indexAt_eq alarms h]
      cases Register.ofByte (image.byteAt (m.ip + 1)) <;> rfl
  | sum =>
      simp only [Mode.size] at h
      have hword : image.word? (m.ip + 2) = some (image.wordAt (m.ip + 2)) :=
        if_pos (by simp only [Image.wordSize]; omega)
      simp only [locateBase, Operand.baseAt, bind_apply,
        indexAt_eq alarms (show m.ip + 1 < image.size by omega)]
      cases Register.ofByte (image.byteAt (m.ip + 1)) with
      | error fault => rfl
      | ok index =>
          simp only [Except.map, Action.lift_ok, literalAt_eq alarms hword, loadSum_eq]
          rfl

theorem followBase_eq {operand : Operand}
    (h : Guarded.Readable image (Machine.baseLocation operand.base)) :
    followBase alarms image operand.indirect (.ofLocation (Machine.baseLocation operand.base))
        (m.loadBase operand.base) =
      relabel .ofLocation (Action.locate operand m) := by
  simp only [followBase, Action.locate, bind_apply, modify_apply]
  cases operand.indirect with
  | false => rfl
  | true =>
      simp only [ite_true, bind_apply, get_apply, read_eq alarms h]
      cases Address.ofWord ((m.loadBase operand.base).read
        (Machine.baseLocation operand.base)) <;> rfl

theorem resolve_eq (hb : image.byte? m.ip = some opcode) :
    resolve alarms image m = relabel .ofLocation (Action.resolve image opcode m) := by
  simp only [resolve, Action.resolve, bind_apply, get_apply, modeAt_eq alarms hb]
  cases hm : Mode.decode opcode m.ip with
  | error fault =>
      simp only [Operand.decode, hm]
      rfl
  | ok mode =>
      simp only [Except.map, Action.lift_ok]
      cases ha : Operand.ensureAvailable image m.ip mode.size with
      | error fault =>
          simp only [Operand.decode, hm, ha, bind, Except.bind]
          rfl
      | ok _ =>
          have hlt := (ensureAvailable_eq_ok (mode_size_pos mode)).mp ha
          simp only [Action.lift_ok, locateBase_eq alarms hlt]
          cases hbase : Operand.baseAt image m.ip mode with
          | error fault =>
              simp only [Operand.decode, hm, ha, hbase, bind, Except.bind]
              rfl
          | ok base =>
              have hd : Operand.decode image opcode m.ip =
                  .ok ⟨base, Opcode.isIndirect opcode⟩ := by
                simp only [Operand.decode, hm, ha, hbase, bind, Except.bind]
                rfl
              obtain rfl := baseAt_mode hbase
              have hf := followBase_eq alarms (m := m) (Guarded.readable_baseLocation hd)
              simp only [hd, Action.lift_ok, modify_apply, ← hf]
              rfl

theorem skip_eq (hb : image.byte? m.ip = some opcode) :
    skip alarms image m = Action.skip image opcode m := by
  simp only [skip, Action.skip_apply, Operand.sizeAt, bind_apply, get_apply, modeAt_eq alarms hb]
  cases hm : Mode.decode opcode m.ip with
  | error fault => rfl
  | ok mode =>
      simp only [Except.map, Action.lift_ok, bind, Except.bind]
      cases Operand.ensureAvailable image m.ip mode.size <;> rfl

theorem resolve_read_eq {k : Word → Action Unit} (hb : image.byte? m.ip = some opcode) :
    (resolve alarms image >>= fun location => read alarms image location >>= k) m =
      (Action.resolve image opcode >>= fun location => get >>= fun m => k (m.read location)) m := by
  have hd := resolve_derivation image opcode m
  apply bind_eq_of_relabel (resolve_eq alarms hb)
  intro location m₁ hr
  rw [hr] at hd
  simp only [bind_apply, get_apply, read_eq alarms (Guarded.readable_of_resolve hd)]

theorem jump_eq (hb : image.byte? m.ip = some opcode) :
    jump alarms image m = Action.jump image opcode m :=
  resolve_read_eq alarms hb

/-! ## Commands -/

theorem execute_eq (command : Command) (hb : image.byte? m.ip = some opcode) :
    execute alarms image command m = command.execute image opcode m := by
  cases command with
  | push => exact resolve_read_eq alarms hb
  | pop =>
      apply bind_eq_of_relabel (resolve_eq alarms hb)
      intro location m₁ _
      apply bind_eq_of_eq
      intro w m₂ _
      exact write_eq alarms location w m₂
  | dup | binary | unary | ret => rfl
  | jump => exact jump_eq alarms hb
  | jumpIf condition =>
      apply bind_eq_of_eq
      intro b m₁ h₁
      apply bind_eq_of_eq
      intro a m₂ h₂
      have hip : m₂.ip = m.ip := (Guarded.pop_ip h₂).trans (Guarded.pop_ip h₁)
      rw [← hip] at hb
      simp only [Action.jumpWhen]
      by_cases hc : condition.holds (a.compare b) = true
      · rw [if_pos hc, if_pos hc]
        exact jump_eq alarms hb
      · rw [if_neg hc, if_neg hc]
        exact skip_eq alarms hb
  | call =>
      simp only [execute, Command.execute, bind_apply, get_apply, modeAt_eq alarms hb]
      cases Mode.decode opcode m.ip with
      | error fault => rfl
      | ok mode =>
          simp only [Except.map, Action.lift_ok]
          apply bind_eq_of_eq
          intro _ m₁ h₁
          rw [← Guarded.pushFrame_ip h₁] at hb
          exact jump_eq alarms hb

end Actions

theorem executeFetched_eq (alarms : Alarms) {fetched : Fetched} {s : Session σ}
    (hb : s.image.byte? s.machine.ip = some fetched.opcode) :
    executeFetched alarms fetched s = Session.execute fetched s := by
  unfold executeFetched Session.execute
  cases fetched.instruction with
  | halt | input | output => rfl
  | command command =>
      simp only [bind_apply, get_apply, Session.onMachine, execute_eq alarms command hb]

/-- No alarm is ever raised: whatever the alarms are, a step that makes the checks again is a
step. -/
theorem step_eq (alarms : Alarms) (s : Session σ) : step alarms s = Session.step s := by
  simp only [step, Session.step, bind_apply, get_apply]
  cases hf : s.image.fetch s.machine.ip with
  | error fault => rfl
  | ok fetched =>
      have hexecute := executeFetched_eq alarms (fetch_eq_ok.mp hf).2.1
      cases h : Session.execute fetched s with
      | error fault s' => simp only [bind_apply, hexecute, h]
      | ok flow s' => cases flow <;> simp only [bind_apply, hexecute, h]

end FloatMachine.Rechecked
