import FloatMachine.Proofs.Exhaustion

/-! What a failing step leaves behind. Nothing that happened before the fault is undone, and little
can have happened: a word or two taken off the stack, a sum computed in the scratch register, the
position moved to the end of the operand, the return point of a call put down. -/

namespace FloatMachine

/-! ## Operands -/

/-- What work on the operand of an instruction can have changed, if there was any: the scratch
register, by a sum that is complete and names a register, and the position, which then rests on the
last byte of the operand. -/
structure Machine.OperandResidue (image : Image) (opcode : UInt8) (hasOperand : Bool)
    (m m' : Machine) : Prop where
  memory_eq : m'.memory = m.memory
  registers_eq : ∀ index : Register, index ≠ scratch →
    m'.read (.register index) = m.read (.register index)
  sum_of_scratch : m'.read (.register scratch) ≠ m.read (.register scratch) →
    hasOperand = true ∧ Mode.ofOpcode? opcode = some .sum ∧
      m.ip + Mode.sum.size < image.size ∧ (image.byteAt (m.ip + 1)).toNat < registerCount
  ip_cases : m'.ip = m.ip ∨
    hasOperand = true ∧ ∃ mode, Mode.ofOpcode? opcode = some mode ∧
      m'.ip = m.ip + mode.size ∧ m'.ip < image.size

namespace Machine.OperandResidue

variable {image : Image} {opcode : UInt8} {m m' : Machine}

theorem of_eq {hasOperand : Bool} (hmemory : m'.memory = m.memory)
    (hregisters : m'.registers = m.registers) (hip : m'.ip = m.ip) :
    OperandResidue image opcode hasOperand m m' :=
  ⟨hmemory, fun _ _ => congrArg (·[_]) hregisters, fun h => absurd (congrArg (·[_]) hregisters) h,
    .inl hip⟩

end Machine.OperandResidue

theorem loadBase_residue {image : Image} {opcode : UInt8} {m : Machine} {operand : Operand}
    (h : Operand.decode image opcode m.ip = .ok operand) :
    Machine.OperandResidue image opcode true m (m.loadBase operand.base) := by
  obtain ⟨hmode, hlt, hbase, _⟩ := decode_eq_ok.mp h
  have hip : (m.loadBase operand.base).ip = m.ip ∨
      true = true ∧ ∃ mode, Mode.ofOpcode? opcode = some mode ∧
        (m.loadBase operand.base).ip = m.ip + mode.size ∧
        (m.loadBase operand.base).ip < image.size := by
    rw [Machine.loadBase_ip]
    exact .inr ⟨rfl, _, hmode, rfl, hlt⟩
  cases hb : operand.base with
  | register index =>
      rw [hb] at hip
      exact ⟨rfl, fun _ _ => rfl, fun hne => absurd rfl hne, hip⟩
  | literal offset value =>
      rw [hb] at hip
      exact ⟨rfl, fun _ _ => rfl, fun hne => absurd rfl hne, hip⟩
  | sum index value =>
      rw [hb] at hip hmode hlt hbase
      refine ⟨rfl, ?_, ?_, hip⟩
      · intro other hne
        have hne : scratch.val ≠ other.val := fun hc => hne (Fin.ext hc.symm)
        simp [Machine.loadBase, Machine.loadSum, Machine.read, Vector.getElem_set_ne _ _ hne]
      · intro _
        obtain ⟨index, hbyte, _⟩ := except_bind_eq_ok.mp hbase
        exact ⟨rfl, hmode, hlt, register_ofByte_eq_ok.mp hbyte ▸ index.isLt⟩

theorem ResolveDerivation.residue {image : Image} {opcode : UInt8} {m : Machine}
    {result : EStateM.Result Fault Machine Location}
    (h : ResolveDerivation image opcode m result) :
    Machine.OperandResidue image opcode true m (reached result) := by
  cases h with
  | undecoded => exact .of_eq rfl rfl rfl
  | unaddressed h | direct h | indirect h => exact loadBase_residue h

theorem JumpDerivation.residue {image : Image} {opcode : UInt8} {m m' : Machine} {fault : Fault}
    (h : JumpDerivation image opcode m (.error fault m')) :
    Machine.OperandResidue image opcode true m m' := by
  cases h with
  | unresolved h => exact h.residue
  | outside h => exact h.residue

theorem CommandDerivation.operandResidue {image : Image} {opcode : UInt8} {m m' : Machine}
    {command : Command} {fault : Fault}
    (h : CommandDerivation image opcode m command (.error fault m')) :
    Machine.OperandResidue image opcode command.hasOperand m m' := by
  cases h with
  | pushUnresolved h | popUnresolved h => exact h.residue
  | pushFull h | popEmpty h => exact h.residue
  | popLiteral h => exact { h.residue with }
  | jump h => exact h.residue
  | jumpIfTaken _ _ h => exact { h.residue with }
  | call _ _ h => exact { h.residue with }
  | _ => exact .of_eq rfl rfl rfl

/-! ## Stacks -/

/-- The most words that an instruction can have taken off the stack when it fails. -/
def Instruction.loss : Instruction → Nat
  | output | command .pop | command (.binary _) => 1
  | command (.jumpIf _) => 2
  | halt | input | command .push | command .dup | command (.unary _) | command .jump
  | command .call | command .ret => 0

theorem CommandDerivation.stack_of_error {image : Image} {opcode : UInt8} {m m' : Machine}
    {command : Command} {fault : Fault}
    (h : CommandDerivation image opcode m command (.error fault m'))
    (hs : m.stack.length ≤ stackCapacity) :
    ∃ lost, m.stack = lost ++ m'.stack ∧ lost.length ≤ (Instruction.command command).loss := by
  cases h with
  | pushUnresolved h | popUnresolved h =>
      exact ⟨[], h.frame.1.symm, Nat.zero_le _⟩
  | pushFull h | popEmpty h => exact ⟨[], h.frame.1.symm, Nat.zero_le _⟩
  | popLiteral h hp => exact ⟨[_], h.frame.1.symm.trans hp, Nat.le_refl _⟩
  | jump h => exact ⟨[], h.frame.1.symm, Nat.zero_le _⟩
  | call _ _ h => exact ⟨[], h.frame.1.symm, Nat.zero_le _⟩
  | binarySingle hp => exact ⟨[_], hp, Nat.le_refl _⟩
  | jumpIfSingle hp => exact ⟨[_], hp, Nat.le_succ _⟩
  | @jumpIfTaken _ a b stack _ hp _ h =>
      have hstack : m'.stack = stack := h.frame.1
      exact ⟨[b, a], by rw [hp, hstack]; rfl, Nat.le_refl _⟩
  | jumpIfUnsized hp => exact ⟨[_, _], hp, Nat.le_refl _⟩
  | binaryFull hp hf =>
      -- The result would have found room, for its arguments had some.
      rw [hp] at hs
      exact absurd (Nat.lt_of_succ_lt hs) hf
  | unaryFull hp hf =>
      rw [hp] at hs
      exact absurd hs hf
  | _ => exact ⟨[], rfl, Nat.zero_le _⟩

theorem CommandDerivation.stack_of_literalNotWritable {image : Image} {opcode : UInt8}
    {m m' : Machine} {offset : Nat}
    (h : CommandDerivation image opcode m .pop (.error (.literalNotWritable offset) m')) :
    ∃ w, m.stack = w :: m'.stack := by
  cases h with
  | popLiteral h hp => exact ⟨_, h.frame.1.symm.trans hp⟩
  | popUnresolved h =>
      cases h with
      | undecoded h => cases decode_error h
      | unaddressed _ _ ha => cases address_error ha

theorem ResolveDerivation.eq_of_direct {image : Image} {opcode : UInt8} {m : Machine}
    {result : EStateM.Result Fault Machine Location}
    (h : ResolveDerivation image opcode m result) {base : Base}
    (hd : Operand.decode image opcode m.ip = .ok ⟨base, false⟩) :
    result = .ok (Machine.baseLocation base) (m.loadBase base) := by
  cases h with
  | undecoded h => cases h.symm.trans hd
  | unaddressed h hi | indirect h hi =>
      obtain rfl := Except.ok.inj (h.symm.trans hd)
      cases hi
  | direct h =>
      obtain rfl := Except.ok.inj (h.symm.trans hd)
      rfl

theorem CommandDerivation.stack_of_pop_literal {image : Image} {opcode : UInt8} {m m' : Machine}
    {fault : Fault} (h : CommandDerivation image opcode m .pop (.error fault m'))
    {offset : Nat} {value : Word}
    (hd : Operand.decode image opcode m.ip = .ok ⟨.literal offset value, false⟩)
    (hs : m.stack ≠ []) :
    fault = .literalNotWritable offset ∧ ∃ w, m.stack = w :: m'.stack := by
  cases h with
  | popUnresolved h => cases h.eq_of_direct hd
  | popEmpty h hp => exact absurd (h.frame.1.symm.trans hp) hs
  | popLiteral h hp =>
      have hstack := h.frame.1.symm.trans hp
      cases h.eq_of_direct hd
      exact ⟨rfl, _, hstack⟩

/-! ## Return points -/

/-- The faults that the target of a call can raise once its mode is known. -/
def Fault.spoilsTarget : Fault → Bool
  | unexpectedEnd .. | invalidRegister .. | memoryOutOfBounds .. | jumpOutOfRange .. => true
  | load .. | allocation .. | truncatedHeader .. | badSignature .. | unsupportedVersion ..
  | invalidInstruction .. | invalidAddressingMode .. | literalNotWritable .. | missingHalt ..
  | invalidInput .. | io .. | stackOverflow .. | stackUnderflow | callOverflow ..
  | returnWithoutCall => false

theorem DecodeFault.spoilsTarget {image : Image} {opcode : UInt8} {offset : Nat} {fault : Fault}
    (h : DecodeFault image opcode offset fault) {mode : Mode}
    (hm : Mode.ofOpcode? opcode = some mode) : fault.spoilsTarget = true := by
  cases h with
  | unmoded h => cases h.symm.trans hm
  | truncated | unregistered => rfl

theorem JumpDerivation.spoilsTarget {image : Image} {opcode : UInt8} {m m' : Machine}
    {fault : Fault} (h : JumpDerivation image opcode m (.error fault m')) {mode : Mode}
    (hm : Mode.ofOpcode? opcode = some mode) : fault.spoilsTarget = true := by
  cases h with
  | unresolved h =>
      cases h with
      | undecoded h => exact (decode_error h).spoilsTarget hm
      | unaddressed _ _ ha =>
          rw [address_error ha]
          rfl
  | outside _ ht =>
      rw [target_error ht]
      rfl

/-- A call whose mode is known leaves its return point behind if its target is at fault. -/
theorem CommandDerivation.frames_of_call_error {image : Image} {opcode : UInt8} {m m' : Machine}
    {fault : Fault} (h : CommandDerivation image opcode m .call (.error fault m')) {mode : Mode}
    (hm : Mode.ofOpcode? opcode = some mode) (hf : fault.spoilsTarget = true) :
    m'.frames = (m.ip + mode.size) :: m.frames := by
  cases h with
  | callUndecoded h => cases h.symm.trans (mode_decode_eq_ok.mpr hm)
  | callFull => cases hf
  | call h _ hj =>
      obtain rfl : mode = _ := Option.some.inj (hm.symm.trans (mode_decode_eq_ok.mp h))
      exact hj.frame.2.2

theorem CommandDerivation.frames_of_error {image : Image} {opcode : UInt8} {m m' : Machine}
    {command : Command} {fault : Fault}
    (h : CommandDerivation image opcode m command (.error fault m'))
    (hn : ¬ (command = .call ∧ (Mode.ofOpcode? opcode).isSome ∧ fault.spoilsTarget = true)) :
    m'.frames = m.frames := by
  cases h with
  | pushUnresolved h | popUnresolved h => exact h.frame.2.2
  | pushFull h | popEmpty h | popLiteral h => exact h.frame.2.2
  | jump h | jumpIfTaken _ _ h => exact h.frame.2.2
  | call h _ hj =>
      have hm := mode_decode_eq_ok.mp h
      exact absurd ⟨rfl, by rw [hm]; rfl, hj.spoilsTarget hm⟩ hn
  | _ => rfl

/-! ## Steps -/

/-- What a fault leaves of a machine that had fetched an instruction. -/
structure Machine.Residue (image : Image) (fetched : Fetched) (m : Machine) (fault : Fault)
    (m' : Machine) : Prop
    extends OperandResidue image fetched.opcode fetched.instruction.hasOperand m m' where
  stack_eq : ∃ lost, m.stack = lost ++ m'.stack ∧ lost.length ≤ fetched.instruction.loss
  stack_of_literalNotWritable : fetched.instruction = .command .pop →
    ∀ offset, fault = .literalNotWritable offset → ∃ w, m.stack = w :: m'.stack
  stack_of_literal : fetched.instruction = .command .pop → ∀ offset value,
    Operand.decode image fetched.opcode m.ip = .ok ⟨.literal offset value, false⟩ →
    m.stack ≠ [] → fault = .literalNotWritable offset ∧ ∃ w, m.stack = w :: m'.stack
  frames_of_call : fetched.instruction = .command .call → ∀ mode,
    Mode.ofOpcode? fetched.opcode = some mode → fault.spoilsTarget = true →
    m'.frames = (m.ip + mode.size) :: m.frames
  frames_eq : ¬ (fetched.instruction = .command .call ∧
      (Mode.ofOpcode? fetched.opcode).isSome ∧ fault.spoilsTarget = true) →
    m'.frames = m.frames

theorem CommandDerivation.residue {image : Image} {opcode : UInt8} {m m' : Machine}
    {command : Command} {fault : Fault}
    (h : CommandDerivation image opcode m command (.error fault m'))
    (hs : m.stack.length ≤ stackCapacity) :
    Machine.Residue image ⟨m.ip, opcode, .command command⟩ m fault m' where
  toOperandResidue := h.operandResidue
  stack_eq := h.stack_of_error hs
  stack_of_literalNotWritable := by
    rintro heq offset rfl
    cases heq
    exact h.stack_of_literalNotWritable
  stack_of_literal := by
    intro heq offset value hd hne
    cases heq
    exact h.stack_of_pop_literal hd hne
  frames_of_call := by
    intro heq mode hm hf
    cases heq
    exact h.frames_of_call_error hm hf
  frames_eq := by
    intro hn
    refine h.frames_of_error ?_
    rintro ⟨rfl, hm⟩
    exact hn ⟨rfl, hm⟩

theorem Machine.Residue.of_not_command {image : Image} {fetched : Fetched} {m : Machine}
    {fault : Fault} (lost : List Word) {stack : List Word}
    (hi : ∀ command, fetched.instruction ≠ .command command)
    (hs : m.stack = lost ++ stack) (hl : lost.length ≤ fetched.instruction.loss) :
    Machine.Residue image fetched m fault { m with stack } where
  toOperandResidue := .of_eq rfl rfl rfl
  stack_eq := ⟨lost, hs, hl⟩
  stack_of_literalNotWritable := fun heq => absurd heq (hi _)
  stack_of_literal := fun heq => absurd heq (hi _)
  frames_of_call := fun heq => absurd heq (hi _)
  frames_eq := fun _ => rfl

/-- What a failing step leaves of a session: everything, if no instruction was fetched, and
otherwise the image and what is left of the machine. -/
inductive Session.Residue {σ : Type} (s : Session σ) (fault : Fault) (s' : Session σ) : Prop where
  | unfetched (h : s.image.fetch s.machine.ip = .error fault) (heq : s' = s)
  | fetched {fetched} (h : s.image.fetch s.machine.ip = .ok fetched)
      (himage : s'.image = s.image)
      (hm : Machine.Residue s.image fetched s.machine fault s'.machine)

theorem StepDerivation.residue {σ : Type} [Host σ] {s s' : Session σ} {fault : Fault}
    (h : StepDerivation s (.error fault s')) (hs : s.machine.stack.length ≤ stackCapacity) :
    s.Residue fault s' := by
  cases h with
  | unfetched h => exact .unfetched h rfl
  | inputRefused h | inputFull h | outputEmpty h =>
      exact .fetched h rfl (.of_not_command [] nofun rfl (Nat.zero_le _))
  | outputRefused h hp =>
      exact .fetched h rfl (.of_not_command [_] nofun hp (Nat.le_refl _))
  | commandFailed h hc => exact .fetched h rfl (hc.residue hs)

/-- A failing step writes nothing on a tape, and takes a word off it only if an input instruction
then finds the stack full. -/
theorem StepDerivation.tape_of_error {s s' : Session Tape} {fault : Fault}
    (h : StepDerivation s (.error fault s')) :
    s'.host.output = s.host.output ∧
      (s'.host.input = s.host.input ∨
        (∃ opcode, s.image.fetch s.machine.ip = .ok ⟨s.machine.ip, opcode, .input⟩) ∧
          stackCapacity ≤ s.machine.stack.length ∧ ∃ w, s.host.input = w :: s'.host.input) := by
  cases h with
  | unfetched | outputEmpty => exact ⟨rfl, .inl rfl⟩
  | commandFailed => exact ⟨rfl, .inl rfl⟩
  | outputRefused _ _ hh => cases hh
  | @inputRefused _ _ host _ hh =>
      have hh : Tape.read s.host = .error fault host := hh
      rw [Tape.read_apply] at hh
      split at hh <;> cases hh
      exact ⟨rfl, .inl rfl⟩
  | @inputFull _ w host hf hh hs =>
      have hh : Tape.read s.host = .ok w host := hh
      rw [Tape.read_apply] at hh
      split at hh <;> cases hh
      rename_i hi
      exact ⟨rfl, .inr ⟨⟨_, hf⟩, Nat.le_of_not_lt hs, w, hi⟩⟩

namespace Session

/-- What a step leaves behind when it fails, on any host, and what it leaves of a tape. -/
theorem fault_residue :
    (∀ (σ : Type) [Host σ] (s s' : Session σ) (fault : Fault),
      s.machine.stack.length ≤ stackCapacity → step s = .error fault s' → s.Residue fault s') ∧
    (∀ (s s' : Session Tape) (fault : Fault), step s = .error fault s' →
      s'.host.output = s.host.output ∧
        (s'.host.input = s.host.input ∨
          (∃ opcode, s.image.fetch s.machine.ip = .ok ⟨s.machine.ip, opcode, .input⟩) ∧
            stackCapacity ≤ s.machine.stack.length ∧
            ∃ w, s.host.input = w :: s'.host.input)) := by
  refine ⟨?_, ?_⟩
  · intro σ _ s s' fault hs h
    have hd := step_derivation s
    rw [h] at hd
    exact hd.residue hs
  · intro s s' fault h
    have hd := step_derivation s
    rw [h] at hd
    exact hd.tape_of_error

/-- A call of a place beyond the image. -/
theorem fault_residue_of_far_call :
    let image : Image := ⟨#[0x48, 0x59, 0x56, 0x4d, 3, 0x34, 0, 0, 0, 0, 0, 0, 0xb0, 0x40]⟩
    let s : Session Tape := fresh image { input := [⟨1⟩] }
    let s' : Session Tape := (s.resume 1).2
    let fault : Fault := .jumpOutOfRange ⟨0x40b0000000000000⟩ 14
    step s = .error fault s' ∧ s'.machine.frames = [13] ∧ s'.machine.ip = 13 ∧
      s.Residue fault s' ∧ s'.host.output = s.host.output := by
  intro image s s' fault
  have hstep : step s = .error fault s' :=
    step_error_of_resume (Prod.ext (by decide +kernel) rfl)
  obtain ⟨hmachine, htape⟩ := fault_residue
  exact ⟨hstep, by decide +kernel, by decide +kernel,
    hmachine Tape s s' fault (Nat.zero_le _) hstep, (htape s s' fault hstep).1⟩

end Session

end FloatMachine
