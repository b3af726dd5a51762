import FloatMachine.Session

/-! Local rules for everything a step can do. Each rule names one way through an instruction, the
faults included, and the state in which that way ends. The rules do not run the machine;
`step_derivation` says that every step follows one of them. -/

namespace FloatMachine

/-! ## Opening actions -/

section Opening

variable {ε σ α β : Type}

theorem bind_apply (x : EStateM ε σ α) (f : α → EStateM ε σ β) (s : σ) :
    (x >>= f) s =
      match x s with
      | .ok a s => f a s
      | .error e s => .error e s := rfl

theorem get_apply (s : σ) : (get : EStateM ε σ σ) s = .ok s s := rfl

theorem set_apply (s t : σ) : (set t : EStateM ε σ PUnit) s = .ok ⟨⟩ t := rfl

theorem modify_apply (f : σ → σ) (s : σ) : (modify f : EStateM ε σ PUnit) s = .ok ⟨⟩ (f s) := rfl

theorem except_bind_eq_ok {x : Except ε α} {f : α → Except ε β} {b : β} :
    (x >>= f) = .ok b ↔ ∃ a, x = .ok a ∧ f a = .ok b := by
  cases x with
  | error e => simp [bind, Except.bind]
  | ok a => simp [bind, Except.bind]

theorem except_bind_eq_error {x : Except ε α} {f : α → Except ε β} {e : ε} :
    (x >>= f) = .error e ↔ x = .error e ∨ ∃ a, x = .ok a ∧ f a = .error e := by
  cases x with
  | error e' => simp [bind, Except.bind]
  | ok a => simp [bind, Except.bind]

/-- The state in which an action ends, with a value or with a fault. -/
def reached : EStateM.Result ε σ α → σ
  | .ok _ s => s
  | .error _ s => s

@[simp] theorem reached_ok (a : α) (s : σ) : reached (.ok a s : EStateM.Result ε σ α) = s := rfl

@[simp] theorem reached_error (e : ε) (s : σ) :
    reached (.error e s : EStateM.Result ε σ α) = s := rfl

end Opening

namespace Action

@[simp] theorem lift_ok {α : Type} (a : α) (m : Machine) : lift (.ok a) m = .ok a m := rfl

@[simp] theorem lift_error {α : Type} (fault : Fault) (m : Machine) :
    (lift (.error fault) : Action α) m = .error fault m := rfl

theorem push_apply (w : Word) (m : Machine) :
    push w m =
      if m.stack.length < stackCapacity then .ok () { m with stack := w :: m.stack }
      else .error (.stackOverflow stackCapacity) m := by
  simp only [push, bind_apply, get_apply, Stack.push]
  by_cases h : m.stack.length < stackCapacity
  · simp only [h, ite_true, lift_ok, set_apply]
  · simp only [h, ite_false, lift_error]

theorem pop_apply (m : Machine) :
    pop m =
      match m.stack with
      | [] => .error .stackUnderflow m
      | w :: stack => .ok w { m with stack } := by
  simp only [pop, bind_apply, get_apply]
  cases m.stack <;> rfl

theorem peek_apply (m : Machine) :
    peek m =
      match m.stack with
      | [] => .error .stackUnderflow m
      | w :: _ => .ok w m := by
  simp only [peek, bind_apply, get_apply]
  cases m.stack <;> rfl

theorem skip_apply (image : Image) (opcode : UInt8) (m : Machine) :
    skip image opcode m =
      match Operand.sizeAt image opcode m.ip with
      | .error fault => .error fault m
      | .ok size => .ok () { m with ip := m.ip + size } := by
  simp only [skip, bind_apply, get_apply]
  cases Operand.sizeAt image opcode m.ip <;> rfl

theorem pushFrame_apply (returnPoint : Nat) (m : Machine) :
    pushFrame returnPoint m =
      if m.frames.length < callCapacity then .ok () { m with frames := returnPoint :: m.frames }
      else .error (.callOverflow m.frames.length) m := by
  simp only [pushFrame, bind_apply, get_apply]
  split <;> rfl

theorem popFrame_apply (m : Machine) :
    popFrame m =
      match m.frames with
      | [] => .error .returnWithoutCall m
      | returnPoint :: frames => .ok () { m with ip := returnPoint, frames } := by
  simp only [popFrame, bind_apply, get_apply]
  cases m.frames <;> rfl

end Action

/-! ## Operands -/

namespace Machine

@[simp] theorem loadBase_stack (base : Base) (m : Machine) : (m.loadBase base).stack = m.stack := by
  cases base <;> rfl

@[simp] theorem loadBase_memory (base : Base) (m : Machine) :
    (m.loadBase base).memory = m.memory := by
  cases base <;> rfl

@[simp] theorem loadBase_frames (base : Base) (m : Machine) :
    (m.loadBase base).frames = m.frames := by
  cases base <;> rfl

@[simp] theorem loadBase_ip (base : Base) (m : Machine) :
    (m.loadBase base).ip = m.ip + base.mode.size := by
  cases base <;> rfl

end Machine

/-- An operand is decoded, its base is loaded, and an indirect one is turned into an address. -/
inductive ResolveDerivation (image : Image) (opcode : UInt8) (m : Machine) :
    EStateM.Result Fault Machine Location → Prop where
  | undecoded {fault} (h : Operand.decode image opcode m.ip = .error fault) :
      ResolveDerivation image opcode m (.error fault m)
  | unaddressed {operand fault} (h : Operand.decode image opcode m.ip = .ok operand)
      (hi : operand.indirect = true)
      (ha : Address.ofWord ((m.loadBase operand.base).read
        (Machine.baseLocation operand.base)) = .error fault) :
      ResolveDerivation image opcode m (.error fault (m.loadBase operand.base))
  | direct {operand} (h : Operand.decode image opcode m.ip = .ok operand)
      (hd : operand.indirect = false) :
      ResolveDerivation image opcode m
        (.ok (Machine.baseLocation operand.base) (m.loadBase operand.base))
  | indirect {operand address} (h : Operand.decode image opcode m.ip = .ok operand)
      (hi : operand.indirect = true)
      (ha : Address.ofWord ((m.loadBase operand.base).read
        (Machine.baseLocation operand.base)) = .ok address) :
      ResolveDerivation image opcode m (.ok (.memory address) (m.loadBase operand.base))

theorem resolve_derivation (image : Image) (opcode : UInt8) (m : Machine) :
    ResolveDerivation image opcode m (Action.resolve image opcode m) := by
  simp only [Action.resolve, Action.locate, bind_apply, get_apply, modify_apply]
  cases h : Operand.decode image opcode m.ip with
  | error fault => exact .undecoded h
  | ok operand =>
      simp only [Action.lift_ok]
      cases hi : operand.indirect with
      | false => exact .direct h hi
      | true =>
          simp only [ite_true, bind_apply, get_apply]
          cases ha : Address.ofWord ((m.loadBase operand.base).read
              (Machine.baseLocation operand.base)) with
          | error fault => exact .unaddressed h hi ha
          | ok address => exact .indirect h hi ha

/-- Whatever becomes of it, resolving an operand leaves stack, memory and frames alone. -/
theorem ResolveDerivation.frame {image : Image} {opcode : UInt8} {m : Machine}
    {result : EStateM.Result Fault Machine Location}
    (h : ResolveDerivation image opcode m result) :
    (reached result).stack = m.stack ∧ (reached result).memory = m.memory ∧
      (reached result).frames = m.frames := by
  cases h <;> simp

/-! ## Commands -/

/-- A jump resolves its operand and moves in front of the place that the word found there names. -/
inductive JumpDerivation (image : Image) (opcode : UInt8) (m : Machine) :
    EStateM.Result Fault Machine Unit → Prop where
  | unresolved {fault m₁} (h : ResolveDerivation image opcode m (.error fault m₁)) :
      JumpDerivation image opcode m (.error fault m₁)
  | outside {location m₁ fault} (h : ResolveDerivation image opcode m (.ok location m₁))
      (ht : Action.target image (m₁.read location) = .error fault) :
      JumpDerivation image opcode m (.error fault m₁)
  | taken {location m₁ offset} (h : ResolveDerivation image opcode m (.ok location m₁))
      (ht : Action.target image (m₁.read location) = .ok offset) :
      JumpDerivation image opcode m (.ok () { m₁ with ip := Image.headerSize + offset - 1 })

theorem jump_derivation (image : Image) (opcode : UInt8) (m : Machine) :
    JumpDerivation image opcode m (Action.jump image opcode m) := by
  have h := resolve_derivation image opcode m
  simp only [Action.jump, bind_apply, get_apply, modify_apply]
  cases hr : Action.resolve image opcode m with
  | error fault m₁ =>
      rw [hr] at h
      exact .unresolved h
  | ok location m₁ =>
      rw [hr] at h
      dsimp only
      cases ht : Action.target image (m₁.read location) with
      | error fault => exact .outside h ht
      | ok offset => exact .taken h ht

theorem JumpDerivation.frame {image : Image} {opcode : UInt8} {m : Machine}
    {result : EStateM.Result Fault Machine Unit} (h : JumpDerivation image opcode m result) :
    (reached result).stack = m.stack ∧ (reached result).memory = m.memory ∧
      (reached result).frames = m.frames := by
  cases h with
  | unresolved h | outside h | taken h => exact h.frame

/-- The ways through the commands. Words are taken off the stack, and a return point is put down,
before an operand is looked at; what happened before a fault is not undone. -/
inductive CommandDerivation (image : Image) (opcode : UInt8) (m : Machine) :
    Command → EStateM.Result Fault Machine Unit → Prop where
  | pushUnresolved {fault m₁} (h : ResolveDerivation image opcode m (.error fault m₁)) :
      CommandDerivation image opcode m .push (.error fault m₁)
  | pushFull {location m₁} (h : ResolveDerivation image opcode m (.ok location m₁))
      (hs : ¬ m₁.stack.length < stackCapacity) :
      CommandDerivation image opcode m .push (.error (.stackOverflow stackCapacity) m₁)
  | push {location m₁} (h : ResolveDerivation image opcode m (.ok location m₁))
      (hs : m₁.stack.length < stackCapacity) :
      CommandDerivation image opcode m .push
        (.ok () { m₁ with stack := m₁.read location :: m₁.stack })
  | popUnresolved {fault m₁} (h : ResolveDerivation image opcode m (.error fault m₁)) :
      CommandDerivation image opcode m .pop (.error fault m₁)
  | popEmpty {location m₁} (h : ResolveDerivation image opcode m (.ok location m₁))
      (hs : m₁.stack = []) :
      CommandDerivation image opcode m .pop (.error .stackUnderflow m₁)
  | popLiteral {offset value m₁ w stack}
      (h : ResolveDerivation image opcode m (.ok (.literal offset value) m₁))
      (hs : m₁.stack = w :: stack) :
      CommandDerivation image opcode m .pop
        (.error (.literalNotWritable offset) { m₁ with stack })
  | popRegister {index m₁ w stack}
      (h : ResolveDerivation image opcode m (.ok (.register index) m₁))
      (hs : m₁.stack = w :: stack) :
      CommandDerivation image opcode m .pop
        (.ok () { m₁ with stack, registers := m₁.registers.set index w index.isLt })
  | popMemory {address m₁ w stack}
      (h : ResolveDerivation image opcode m (.ok (.memory address) m₁))
      (hs : m₁.stack = w :: stack) :
      CommandDerivation image opcode m .pop
        (.ok () { m₁ with stack, memory := m₁.memory.set address w address.isLt })
  | dupEmpty (hs : m.stack = []) :
      CommandDerivation image opcode m .dup (.error .stackUnderflow m)
  | dupFull {w stack} (hs : m.stack = w :: stack) (hf : ¬ m.stack.length < stackCapacity) :
      CommandDerivation image opcode m .dup (.error (.stackOverflow stackCapacity) m)
  | dup {w stack} (hs : m.stack = w :: stack) (hf : m.stack.length < stackCapacity) :
      CommandDerivation image opcode m .dup (.ok () { m with stack := w :: m.stack })
  | binaryEmpty {operation} (hs : m.stack = []) :
      CommandDerivation image opcode m (.binary operation) (.error .stackUnderflow m)
  | binarySingle {operation b} (hs : m.stack = [b]) :
      CommandDerivation image opcode m (.binary operation)
        (.error .stackUnderflow { m with stack := [] })
  | binaryFull {operation a b stack} (hs : m.stack = b :: a :: stack)
      (hf : ¬ stack.length < stackCapacity) :
      CommandDerivation image opcode m (.binary operation)
        (.error (.stackOverflow stackCapacity) { m with stack })
  | binary {operation a b stack} (hs : m.stack = b :: a :: stack)
      (hf : stack.length < stackCapacity) :
      CommandDerivation image opcode m (.binary operation)
        (.ok () { m with stack := operation.apply a b :: stack })
  | unaryEmpty {operation} (hs : m.stack = []) :
      CommandDerivation image opcode m (.unary operation) (.error .stackUnderflow m)
  | unaryFull {operation a stack} (hs : m.stack = a :: stack)
      (hf : ¬ stack.length < stackCapacity) :
      CommandDerivation image opcode m (.unary operation)
        (.error (.stackOverflow stackCapacity) { m with stack })
  | unary {operation a stack} (hs : m.stack = a :: stack) (hf : stack.length < stackCapacity) :
      CommandDerivation image opcode m (.unary operation)
        (.ok () { m with stack := operation.apply a :: stack })
  | jump {result} (h : JumpDerivation image opcode m result) :
      CommandDerivation image opcode m .jump result
  | jumpIfEmpty {condition} (hs : m.stack = []) :
      CommandDerivation image opcode m (.jumpIf condition) (.error .stackUnderflow m)
  | jumpIfSingle {condition b} (hs : m.stack = [b]) :
      CommandDerivation image opcode m (.jumpIf condition)
        (.error .stackUnderflow { m with stack := [] })
  | jumpIfTaken {condition a b stack result} (hs : m.stack = b :: a :: stack)
      (hc : condition.holds (a.compare b) = true)
      (h : JumpDerivation image opcode { m with stack } result) :
      CommandDerivation image opcode m (.jumpIf condition) result
  | jumpIfUnsized {condition a b stack fault} (hs : m.stack = b :: a :: stack)
      (hc : condition.holds (a.compare b) = false)
      (h : Operand.sizeAt image opcode m.ip = .error fault) :
      CommandDerivation image opcode m (.jumpIf condition) (.error fault { m with stack })
  | jumpIfSkipped {condition a b stack size} (hs : m.stack = b :: a :: stack)
      (hc : condition.holds (a.compare b) = false)
      (h : Operand.sizeAt image opcode m.ip = .ok size) :
      CommandDerivation image opcode m (.jumpIf condition)
        (.ok () { m with stack, ip := m.ip + size })
  | callUndecoded {fault} (h : Mode.decode opcode m.ip = .error fault) :
      CommandDerivation image opcode m .call (.error fault m)
  | callFull {mode} (h : Mode.decode opcode m.ip = .ok mode)
      (hf : ¬ m.frames.length < callCapacity) :
      CommandDerivation image opcode m .call (.error (.callOverflow m.frames.length) m)
  | call {mode result} (h : Mode.decode opcode m.ip = .ok mode)
      (hf : m.frames.length < callCapacity)
      (hj : JumpDerivation image opcode
        { m with frames := (m.ip + mode.size) :: m.frames } result) :
      CommandDerivation image opcode m .call result
  | retEmpty (hf : m.frames = []) :
      CommandDerivation image opcode m .ret (.error .returnWithoutCall m)
  | ret {returnPoint frames} (hf : m.frames = returnPoint :: frames) :
      CommandDerivation image opcode m .ret (.ok () { m with ip := returnPoint, frames })

theorem execute_derivation (image : Image) (opcode : UInt8) (m : Machine) (command : Command) :
    CommandDerivation image opcode m command (command.execute image opcode m) := by
  have hr := resolve_derivation image opcode m
  cases command with
  | push =>
      simp only [Command.execute, bind_apply, get_apply, Action.push_apply]
      cases h : Action.resolve image opcode m with
      | error fault m₁ =>
          rw [h] at hr
          exact .pushUnresolved hr
      | ok location m₁ =>
          rw [h] at hr
          dsimp only
          split
          · exact .push hr ‹_›
          · exact .pushFull hr ‹_›
  | pop =>
      simp only [Command.execute, bind_apply, Action.pop_apply]
      cases h : Action.resolve image opcode m with
      | error fault m₁ =>
          rw [h] at hr
          exact .popUnresolved hr
      | ok location m₁ =>
          rw [h] at hr
          dsimp only
          cases hs : m₁.stack with
          | nil => exact .popEmpty hr hs
          | cons w stack =>
              cases location with
              | register index =>
                  have hd := CommandDerivation.popRegister hr hs
                  exact hd
              | memory address =>
                  have hd := CommandDerivation.popMemory hr hs
                  exact hd
              | literal offset value => exact .popLiteral hr hs
  | dup =>
      simp only [Command.execute, bind_apply, Action.peek_apply, Action.push_apply]
      cases hs : m.stack with
      | nil => exact .dupEmpty hs
      | cons w stack =>
          dsimp only
          split
          · exact .dup hs ‹_›
          · exact .dupFull hs ‹_›
  | binary operation =>
      simp only [Command.execute, bind_apply, Action.pop_apply, Action.push_apply]
      match hs : m.stack with
      | [] => exact .binaryEmpty hs
      | [b] => exact .binarySingle hs
      | b :: a :: stack =>
          dsimp only
          split
          · exact .binary hs ‹_›
          · exact .binaryFull hs ‹_›
  | unary operation =>
      simp only [Command.execute, bind_apply, Action.pop_apply, Action.push_apply]
      cases hs : m.stack with
      | nil => exact .unaryEmpty hs
      | cons a stack =>
          dsimp only
          split
          · exact .unary hs ‹_›
          · exact .unaryFull hs ‹_›
  | jump => exact .jump (jump_derivation image opcode m)
  | jumpIf condition =>
      simp only [Command.execute, bind_apply, Action.pop_apply]
      match hs : m.stack with
      | [] => exact .jumpIfEmpty hs
      | [b] => exact .jumpIfSingle hs
      | b :: a :: stack =>
          cases hc : condition.holds (a.compare b) with
          | true =>
              simp only [hc, Action.jumpWhen, ite_true]
              exact .jumpIfTaken hs hc (jump_derivation image opcode _)
          | false =>
              simp only [hc, Action.jumpWhen, Bool.false_eq_true, ite_false, Action.skip_apply]
              cases h : Operand.sizeAt image opcode m.ip with
              | error fault => exact .jumpIfUnsized hs hc h
              | ok size => exact .jumpIfSkipped hs hc h
  | call =>
      simp only [Command.execute, bind_apply, get_apply, Action.pushFrame_apply]
      cases h : Mode.decode opcode m.ip with
      | error fault => exact .callUndecoded h
      | ok mode =>
          dsimp only [Action.lift_ok]
          by_cases hf : m.frames.length < callCapacity
          · simp only [hf, ite_true]
            exact .call h hf (jump_derivation image opcode _)
          · simp only [hf, ite_false]
            exact .callFull h hf
  | ret =>
      simp only [Command.execute, Action.popFrame_apply]
      cases hf : m.frames with
      | nil => exact .retEmpty hf
      | cons returnPoint frames => exact .ret hf

/-! ## Steps -/

/-- A step fetches an opcode byte and stops there, halts, exchanges a word with the host or
carries out a command. Only a step that leads on moves past its instruction. -/
inductive StepDerivation {σ : Type} [Host σ] (s : Session σ) :
    EStateM.Result Fault (Session σ) Flow → Prop where
  | unfetched {fault} (h : s.image.fetch s.machine.ip = .error fault) :
      StepDerivation s (.error fault s)
  | halt {opcode} (h : s.image.fetch s.machine.ip = .ok ⟨s.machine.ip, opcode, .halt⟩) :
      StepDerivation s (.ok .halt s)
  | inputRefused {opcode fault host}
      (h : s.image.fetch s.machine.ip = .ok ⟨s.machine.ip, opcode, .input⟩)
      (hh : Host.read s.host = .error fault host) :
      StepDerivation s (.error fault { s with host })
  | inputFull {opcode w host}
      (h : s.image.fetch s.machine.ip = .ok ⟨s.machine.ip, opcode, .input⟩)
      (hh : Host.read s.host = .ok w host) (hs : ¬ s.machine.stack.length < stackCapacity) :
      StepDerivation s (.error (.stackOverflow stackCapacity) { s with host })
  | input {opcode w host}
      (h : s.image.fetch s.machine.ip = .ok ⟨s.machine.ip, opcode, .input⟩)
      (hh : Host.read s.host = .ok w host) (hs : s.machine.stack.length < stackCapacity) :
      StepDerivation s (.ok .next { s with
        machine := { s.machine with stack := w :: s.machine.stack, ip := s.machine.ip + 1 }
        host })
  | outputEmpty {opcode}
      (h : s.image.fetch s.machine.ip = .ok ⟨s.machine.ip, opcode, .output⟩)
      (hs : s.machine.stack = []) :
      StepDerivation s (.error .stackUnderflow s)
  | outputRefused {opcode w stack fault host}
      (h : s.image.fetch s.machine.ip = .ok ⟨s.machine.ip, opcode, .output⟩)
      (hs : s.machine.stack = w :: stack) (hh : Host.write w s.host = .error fault host) :
      StepDerivation s (.error fault { s with machine := { s.machine with stack }, host })
  | output {opcode w stack host}
      (h : s.image.fetch s.machine.ip = .ok ⟨s.machine.ip, opcode, .output⟩)
      (hs : s.machine.stack = w :: stack) (hh : Host.write w s.host = .ok () host) :
      StepDerivation s (.ok .next { s with
        machine := { s.machine with stack, ip := s.machine.ip + 1 }, host })
  | commandFailed {opcode command fault m}
      (h : s.image.fetch s.machine.ip = .ok ⟨s.machine.ip, opcode, .command command⟩)
      (hc : CommandDerivation s.image opcode s.machine command (.error fault m)) :
      StepDerivation s (.error fault { s with machine := m })
  | command {opcode command m}
      (h : s.image.fetch s.machine.ip = .ok ⟨s.machine.ip, opcode, .command command⟩)
      (hc : CommandDerivation s.image opcode s.machine command (.ok () m)) :
      StepDerivation s (.ok .next { s with machine := { m with ip := m.ip + 1 } })

/-- An instruction is fetched exactly where a byte of the image names it. -/
theorem fetch_eq_ok {image : Image} {offset : Nat} {fetched : Fetched} :
    image.fetch offset = .ok fetched ↔
      fetched.offset = offset ∧ image.byte? offset = some fetched.opcode ∧
        Instruction.ofOpcode? (fetched.opcode &&& Opcode.commandMask) =
          some fetched.instruction := by
  obtain ⟨offset', opcode', instruction'⟩ := fetched
  unfold Image.fetch
  cases hb : image.byte? offset with
  | none => simp
  | some opcode =>
      cases hi : Instruction.ofOpcode? (opcode &&& Opcode.commandMask) with
      | none =>
          simp only [hi, reduceCtorEq, Option.some.injEq, false_iff]
          rintro ⟨_, rfl, h⟩
          cases hi.symm.trans h
      | some instruction =>
          simp only [hi, Except.ok.injEq, Fetched.mk.injEq, Option.some.injEq]
          constructor
          · rintro ⟨rfl, rfl, rfl⟩
            exact ⟨rfl, rfl, hi⟩
          · rintro ⟨rfl, rfl, h⟩
            exact ⟨rfl, rfl, Option.some.inj (hi.symm.trans h)⟩

theorem step_derivation {σ : Type} [Host σ] (s : Session σ) :
    StepDerivation s (Session.step s) := by
  simp only [Session.step, bind_apply, get_apply]
  cases h : s.image.fetch s.machine.ip with
  | error fault => exact .unfetched h
  | ok fetched =>
      obtain ⟨offset, opcode, instruction⟩ := fetched
      obtain rfl : offset = s.machine.ip := (fetch_eq_ok.mp h).1
      simp only [bind_apply, Session.execute]
      cases instruction with
      | halt => exact .halt h
      | input =>
          simp only [bind_apply, Session.onHost, Session.onMachine, Action.push_apply]
          cases hh : Host.read s.host with
          | error fault host => exact .inputRefused h hh
          | ok w host =>
              by_cases hs : s.machine.stack.length < stackCapacity
              · simp only [hs, ite_true]
                exact .input h hh hs
              · simp only [hs, ite_false]
                exact .inputFull h hh hs
      | output =>
          simp only [bind_apply, Session.onHost, Session.onMachine, Action.pop_apply]
          cases hs : s.machine.stack with
          | nil => exact .outputEmpty h hs
          | cons w stack =>
              dsimp only
              cases hh : Host.write w s.host with
              | error fault host => exact .outputRefused h hs hh
              | ok _ host => exact .output h hs hh
      | command command =>
          have hc := execute_derivation s.image opcode s.machine command
          simp only [bind_apply, get_apply, Session.onMachine]
          cases hr : command.execute s.image opcode s.machine with
          | error fault m =>
              rw [hr] at hc
              exact .commandFailed h hc
          | ok _ m =>
              rw [hr] at hc
              exact .command h hc

theorem StepDerivation.of_step {σ : Type} [Host σ] {s : Session σ}
    {result : EStateM.Result Fault (Session σ) Flow} (h : Session.step s = result) :
    StepDerivation s result := by
  rw [← h]
  exact step_derivation s

theorem StepDerivation.of_command {σ : Type} [Host σ] {s s' : Session σ}
    (h : StepDerivation s (.ok .next s')) {opcode : UInt8} {command : Command}
    (hf : s.image.fetch s.machine.ip = .ok ⟨s.machine.ip, opcode, .command command⟩) :
    ∃ m, CommandDerivation s.image opcode s.machine command (.ok () m) ∧
      s' = { s with machine := { m with ip := m.ip + 1 } } := by
  cases h with
  | input h | output h => cases h.symm.trans hf
  | command h hc =>
      cases h.symm.trans hf
      exact ⟨_, hc, rfl⟩

theorem StepDerivation.image_eq {σ : Type} [Host σ] {s : Session σ}
    {result : EStateM.Result Fault (Session σ) Flow} (h : StepDerivation s result) :
    (reached result).image = s.image := by
  cases h <;> rfl

end FloatMachine
