import FloatMachine.Host.Tape
import FloatMachine.Proofs.Lockstep
import FloatMachine.Proofs.Resolution

/-! Where an instruction ends. The end is found in several ways: by resolving the operand, by moving
over it, by a call that puts down its return point, and by a step that goes on behind its
instruction. They all find the same place, and the bits of the opcode byte alone decide it. -/

namespace FloatMachine

/-! ## Instructions that go somewhere else -/

/-- The two topmost words are there and meet the condition. -/
def Condition.met : Condition → List Word → Bool
  | condition, b :: a :: _ => condition.holds (a.compare b)
  | _, _ => false

theorem Machine.drop_two_of_nil {m : Machine} (h : m.stack = []) :
    { m with stack := m.stack.drop 2 } = m := by
  have hdrop : m.stack.drop 2 = m.stack := by rw [h, List.drop_nil]
  rw [hdrop]

/-- The command, carried out in this state, is to go on somewhere else than behind itself. -/
def Command.transfers (m : Machine) : Command → Bool
  | jump | call | ret => true
  | jumpIf condition => condition.met m.stack
  | push | pop | dup | binary _ | unary _ => false

/-- The instruction, carried out in this state, is to go on somewhere else than behind itself. -/
def Instruction.transfers (m : Machine) : Instruction → Bool
  | command c => c.transfers m
  | halt | input | output => false

/-! ## Sizes -/

section Sizes

variable {image : Image} {opcode : UInt8} {m m' : Machine}

theorem bits_clear_iff :
    (opcode &&& Opcode.registerBit = 0 ∧ opcode &&& Opcode.literalBit = 0) ↔
      ¬ (opcode &&& Opcode.registerBit ≠ 0 ∨ opcode &&& Opcode.literalBit ≠ 0) := by
  rw [not_or, not_not, not_not]

theorem bits_of_mode {mode : Mode} (h : Mode.ofOpcode? opcode = some mode) :
    (opcode &&& Opcode.registerBit ≠ 0 ∨ opcode &&& Opcode.literalBit ≠ 0) ∧
      Opcode.operandSize opcode = mode.size := by
  have hbits : opcode &&& Opcode.registerBit ≠ 0 ∨ opcode &&& Opcode.literalBit ≠ 0 := by
    by_contra hn
    rw [mode_ofOpcode?_eq] at h
    simp [bits_clear_iff.mpr hn] at h
  obtain ⟨mode', hmode, hsize⟩ := exists_mode hbits
  obtain rfl : mode' = mode := Option.some.inj (hmode.symm.trans h)
  exact ⟨hbits, hsize⟩

theorem sizeAt_eq_ok_iff {offset size : Nat} :
    Operand.sizeAt image opcode offset = .ok size ↔
      (opcode &&& Opcode.registerBit ≠ 0 ∨ opcode &&& Opcode.literalBit ≠ 0) ∧
        offset + Opcode.operandSize opcode < image.size ∧ size = Opcode.operandSize opcode := by
  rw [sizeAt_eq_ok]
  constructor
  · rintro ⟨mode, hmode, hlt, rfl⟩
    obtain ⟨hbits, hsize⟩ := bits_of_mode hmode
    rw [hsize]
    exact ⟨hbits, hlt, rfl⟩
  · rintro ⟨hbits, hlt, rfl⟩
    obtain ⟨mode, hmode, hsize⟩ := exists_mode hbits
    rw [hsize] at hlt ⊢
    exact ⟨mode, hmode, hlt, rfl⟩

theorem sizeAt_congr {image' : Image} (h : image'.size = image.size) (offset : Nat) :
    Operand.sizeAt image' opcode offset = Operand.sizeAt image opcode offset := by
  simp only [Operand.sizeAt, Operand.ensureAvailable, h]

theorem skip_eq_ok :
    Action.skip image opcode m = .ok () m' ↔
      Operand.sizeAt image opcode m.ip = .ok (Opcode.operandSize opcode) ∧
        m' = { m with ip := m.ip + Opcode.operandSize opcode } := by
  rw [Action.skip_apply]
  cases h : Operand.sizeAt image opcode m.ip with
  | error fault => simp
  | ok size =>
      obtain ⟨_, _, rfl⟩ := sizeAt_eq_ok_iff.mp h
      simp [eq_comm]

theorem skip_eq_error {fault : Fault} :
    Action.skip image opcode m = .error fault m' ↔
      Operand.sizeAt image opcode m.ip = .error fault ∧ m' = m := by
  rw [Action.skip_apply]
  cases h : Operand.sizeAt image opcode m.ip with
  | error fault' => simp [eq_comm]
  | ok size => simp

/-- An operand that is resolved could have been moved over, to the same place. -/
theorem ResolveDerivation.skip {location : Location}
    (h : ResolveDerivation image opcode m (.ok location m')) :
    Operand.sizeAt image opcode m.ip = .ok (Opcode.operandSize opcode) ∧
      m'.ip = m.ip + Opcode.operandSize opcode := by
  cases h with
  | direct h | indirect h =>
      obtain ⟨hmode, hlt, _⟩ := decode_eq_ok.mp h
      obtain ⟨hbits, hsize⟩ := bits_of_mode hmode
      rw [Machine.loadBase_ip, ← hsize]
      rw [← hsize] at hlt
      exact ⟨sizeAt_eq_ok_iff.mpr ⟨hbits, hlt, rfl⟩, rfl⟩

theorem JumpDerivation.sizeAt_eq (h : JumpDerivation image opcode m (.ok () m')) :
    Operand.sizeAt image opcode m.ip = .ok (Opcode.operandSize opcode) := by
  cases h with
  | taken h => exact h.skip.1

/-- A call that succeeds could have moved over its operand, and has put down the place where it
would then be. -/
theorem CommandDerivation.frames_of_call
    (h : CommandDerivation image opcode m .call (.ok () m')) :
    Operand.sizeAt image opcode m.ip = .ok (Opcode.operandSize opcode) ∧
      m'.frames = (m.ip + Opcode.operandSize opcode) :: m.frames := by
  cases h with
  | call hmode _ hj =>
      obtain ⟨_, hsize⟩ := bits_of_mode (mode_decode_eq_ok.mp hmode)
      have hframes : m'.frames = _ := hj.frame.2.2
      rw [← hsize] at hframes
      exact ⟨hj.sizeAt_eq, hframes⟩

theorem CommandDerivation.ip_of_stays {command : Command}
    (h : CommandDerivation image opcode m command (.ok () m'))
    (ht : command.transfers m = false) :
    m'.ip = m.ip + if command.hasOperand then Opcode.operandSize opcode else 0 := by
  cases h with
  | push h | popRegister h | popMemory h => exact h.skip.2
  | dup | binary | unary => rfl
  | jumpIfSkipped _ _ h =>
      obtain ⟨_, _, rfl⟩ := sizeAt_eq_ok_iff.mp h
      rfl
  | jumpIfTaken hs hc =>
      rw [Command.transfers, hs] at ht
      cases hc.symm.trans ht
  | jump | call | ret => cases ht

end Sizes

/-! ## Steps -/

variable {σ : Type} [Host σ]

theorem StepDerivation.ip_of_stays {s s' : Session σ} {opcode : UInt8} {instruction : Instruction}
    (h : StepDerivation s (.ok .next s'))
    (hf : s.image.fetch s.machine.ip = .ok ⟨s.machine.ip, opcode, instruction⟩)
    (ht : instruction.transfers s.machine = false) :
    s'.machine.ip = s.machine.ip + 1 +
      if instruction.hasOperand then Opcode.operandSize opcode else 0 := by
  cases h with
  | input h | output h =>
      cases h.symm.trans hf
      rfl
  | command h hc =>
      cases h.symm.trans hf
      rw [Nat.add_right_comm]
      exact congrArg (· + 1) (hc.ip_of_stays ht)

namespace Session

/-- Everything that depends on where the instruction at the position of a session ends. Moving over
the operand asks for nothing but the opcode byte and the size of the image; resolving the operand,
calling and going on to the next instruction agree with it. -/
structure EndSpec (s : Session σ) (opcode : UInt8) : Prop where
  skip_iff : (∃ m, Action.skip s.image opcode s.machine = .ok () m) ↔
    (opcode &&& Opcode.registerBit ≠ 0 ∨ opcode &&& Opcode.literalBit ≠ 0) ∧
      s.machine.ip + Opcode.operandSize opcode < s.image.size
  skip_ok : ∀ m, Action.skip s.image opcode s.machine = .ok () m →
    m = { s.machine with ip := s.machine.ip + Opcode.operandSize opcode }
  skip_error : ∀ fault m, Action.skip s.image opcode s.machine = .error fault m → m = s.machine
  skip_blind : ∀ (image : Image) (m : Machine), image.size = s.image.size →
    image.byte? s.machine.ip = some opcode → m.ip = s.machine.ip →
    answer (Action.skip image opcode m) = answer (Action.skip s.image opcode s.machine) ∧
      (reached (Action.skip image opcode m)).ip =
        (reached (Action.skip s.image opcode s.machine)).ip
  skip_of_resolve : ∀ location m, Action.resolve s.image opcode s.machine = .ok location m →
    ∃ m', Action.skip s.image opcode s.machine = .ok () m' ∧ m'.ip = m.ip
  resolve_of_skip : ∀ fault m, Action.skip s.image opcode s.machine = .error fault m →
    ∃ m', Action.resolve s.image opcode s.machine = .error fault m'
  return_point : ∀ s', s.image.fetch s.machine.ip = .ok ⟨s.machine.ip, opcode, .command .call⟩ →
    step s = .ok .next s' →
    ∃ m, Action.skip s.image opcode s.machine = .ok () m ∧
      s'.machine.frames = m.ip :: s.machine.frames
  step_ip : ∀ instruction s',
    s.image.fetch s.machine.ip = .ok ⟨s.machine.ip, opcode, instruction⟩ →
    step s = .ok .next s' → instruction.transfers s.machine = false →
    s'.machine.ip = s.machine.ip + 1 +
      if instruction.hasOperand then Opcode.operandSize opcode else 0

theorem skip_blind_of_size {image image' : Image} {opcode : UInt8} {m m' : Machine}
    (hsize : image'.size = image.size) (hip : m'.ip = m.ip) :
    answer (Action.skip image' opcode m') = answer (Action.skip image opcode m) ∧
      (reached (Action.skip image' opcode m')).ip = (reached (Action.skip image opcode m)).ip := by
  rw [Action.skip_apply, Action.skip_apply, hip, sizeAt_congr hsize]
  cases Operand.sizeAt image opcode m.ip with
  | error fault => exact ⟨rfl, hip⟩
  | ok size => exact ⟨rfl, rfl⟩

/-- At every position inside the image, all ways of finding where the instruction there ends lead
to the same place. -/
theorem ends_agree (s : Session σ) (h : s.machine.ip < s.image.size) :
    ∃ opcode, s.image.byte? s.machine.ip = some opcode ∧ s.EndSpec opcode := by
  refine ⟨_, Image.byte?_of_lt h, ?_⟩
  exact {
    skip_iff := by
      simp only [skip_eq_ok, exists_and_left, exists_eq, and_true, sizeAt_eq_ok_iff]
    skip_ok := fun m hskip => (skip_eq_ok.mp hskip).2
    skip_error := fun fault m hskip => (skip_eq_error.mp hskip).2
    skip_blind := fun image m hsize _ hip => skip_blind_of_size hsize hip
    skip_of_resolve := by
      intro location m hresolve
      obtain ⟨hsize, hip⟩ := (resolveDerivation_iff.mpr hresolve).skip
      exact ⟨_, skip_eq_ok.mpr ⟨hsize, rfl⟩, hip.symm⟩
    resolve_of_skip := by
      -- The decoder starts with the checks that are made when the operand is moved over.
      intro fault m hskip
      have hdecode := decode_error_of_sizeAt (skip_eq_error.mp hskip).1
      exact ⟨_, resolveDerivation_iff.mp (.undecoded hdecode)⟩
    return_point := by
      intro s' hf hstep
      obtain ⟨m, hc, rfl⟩ := (StepDerivation.of_step hstep).of_command hf
      obtain ⟨hsize, hframes⟩ := hc.frames_of_call
      exact ⟨_, skip_eq_ok.mpr ⟨hsize, rfl⟩, hframes⟩
    step_ip := fun instruction s' hf hstep ht => (StepDerivation.of_step hstep).ip_of_stays hf ht }

/-- A jump on equality that is not taken moves over a sum of nine bytes. -/
theorem ends_agree_of_skipped_sum :
    let image : Image := ⟨#[0x48, 0x59, 0x56, 0x4d, 3,
      0x72, 3, 0, 0, 0, 0, 0, 0, 0x14, 0x40, 0x00]⟩
    let s : Session Tape := { fresh image {} with
      machine := { stack := [⟨0x4000000000000000⟩, ⟨0x3ff0000000000000⟩] } }
    s.machine.ip < s.image.size ∧ (s.resume 1).1 = none ∧ (s.resume 1).2.machine.ip = 15 ∧
      ∃ opcode, s.image.byte? s.machine.ip = some opcode ∧ s.EndSpec opcode := by
  intro image s
  have hinside : s.machine.ip < s.image.size := by decide +kernel
  exact ⟨hinside, by decide +kernel, by decide +kernel, ends_agree s hinside⟩

end Session

end FloatMachine
