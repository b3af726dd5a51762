import FloatMachine.Proofs.Lengths

/-! What a malformed operand leaves behind. Every instruction with such an operand fails. Those that
look at their operand first change nothing. A conditional jump has taken two words off the stack by
then, and a call that is given a mode has put down its return point; neither is undone. -/

namespace FloatMachine

/-- The opcode byte asks for neither a register nor a literal, or fewer bytes are left behind it
than its operand takes up. -/
def Operand.Malformed (image : Image) (opcode : UInt8) (offset : Nat) : Prop :=
  (opcode &&& Opcode.registerBit = 0 ∧ opcode &&& Opcode.literalBit = 0) ∨
    image.size - (offset + 1) < Opcode.operandSize opcode

/-- The machine at the moment when the command looks at the bytes of its operand. -/
def Command.prepare (opcode : UInt8) (m : Machine) : Command → Machine
  | jumpIf _ => { m with stack := m.stack.drop 2 }
  | call =>
    if (opcode &&& Opcode.registerBit ≠ 0 ∨ opcode &&& Opcode.literalBit ≠ 0) ∧
        m.frames.length < callCapacity then
      { m with frames := (m.ip + Opcode.operandSize opcode) :: m.frames }
    else m
  | push | pop | dup | binary _ | unary _ | jump | ret => m

section Commands

variable {image : Image} {opcode : UInt8} {m : Machine}

theorem sizeAt_of_malformed {offset : Nat} (h : Operand.Malformed image opcode offset) :
    ∃ fault, Operand.sizeAt image opcode offset = .error fault := by
  cases hs : Operand.sizeAt image opcode offset with
  | error fault => exact ⟨fault, rfl⟩
  | ok size =>
      obtain ⟨hbits, hlt, _⟩ := sizeAt_eq_ok_iff.mp hs
      rcases h with hclear | h
      · exact absurd hbits (bits_clear_iff.mp hclear)
      · omega

theorem ResolveDerivation.of_malformed {result : EStateM.Result Fault Machine Location}
    (h : ResolveDerivation image opcode m result) (hm : Operand.Malformed image opcode m.ip) :
    ∃ fault, result = .error fault m := by
  obtain ⟨fault, hs⟩ := sizeAt_of_malformed hm
  have hd := decode_error_of_sizeAt hs
  cases h with
  | undecoded => exact ⟨_, rfl⟩
  | unaddressed h | direct h | indirect h => cases h.symm.trans hd

theorem JumpDerivation.of_malformed {result : EStateM.Result Fault Machine Unit}
    (h : JumpDerivation image opcode m result) (hm : Operand.Malformed image opcode m.ip) :
    ∃ fault, result = .error fault m := by
  cases h with
  | unresolved h =>
      obtain ⟨_, heq⟩ := h.of_malformed hm
      cases heq
      exact ⟨_, rfl⟩
  | outside h | taken h =>
      obtain ⟨_, heq⟩ := h.of_malformed hm
      cases heq

theorem CommandDerivation.jumpIf_of_malformed {condition : Condition}
    {result : EStateM.Result Fault Machine Unit}
    (h : CommandDerivation image opcode m (.jumpIf condition) result)
    (hm : Operand.Malformed image opcode m.ip) :
    ∃ fault, result = .error fault { m with stack := m.stack.drop 2 } := by
  cases h with
  | jumpIfEmpty hs =>
      rw [Machine.drop_two_of_nil hs]
      exact ⟨_, rfl⟩
  | jumpIfSingle hs =>
      rw [hs]
      exact ⟨_, rfl⟩
  | jumpIfTaken hs _ h =>
      rw [hs]
      exact h.of_malformed hm
  | jumpIfUnsized hs =>
      rw [hs]
      exact ⟨_, rfl⟩
  | jumpIfSkipped _ _ h =>
      obtain ⟨_, herror⟩ := sizeAt_of_malformed hm
      cases h.symm.trans herror

/-- A call with a malformed operand fails, with its return point put down if it is given a mode and
finds room. -/
theorem CommandDerivation.call_of_malformed {result : EStateM.Result Fault Machine Unit}
    (h : CommandDerivation image opcode m .call result)
    (hm : Operand.Malformed image opcode m.ip) :
    ∃ fault, result = .error fault (Command.prepare opcode m .call) := by
  cases h with
  | callUndecoded h =>
      have hmode := (mode_decode_error h).1
      have hbits : ¬ (opcode &&& Opcode.registerBit ≠ 0 ∨ opcode &&& Opcode.literalBit ≠ 0) := by
        intro hbits
        obtain ⟨mode, hsome, _⟩ := exists_mode hbits
        cases hmode.symm.trans hsome
      rw [Command.prepare, if_neg (fun h => hbits h.1)]
      exact ⟨_, rfl⟩
  | callFull _ hf =>
      rw [Command.prepare, if_neg (fun h => hf h.2)]
      exact ⟨_, rfl⟩
  | call h hf hj =>
      -- The mode has passed its check, so the fault is found by the jump, behind the return point.
      obtain ⟨hbits, hsize⟩ := bits_of_mode (mode_decode_eq_ok.mp h)
      rw [Command.prepare, if_pos ⟨hbits, hf⟩, hsize]
      exact hj.of_malformed hm

theorem CommandDerivation.of_malformed {command : Command}
    {result : EStateM.Result Fault Machine Unit}
    (h : CommandDerivation image opcode m command result) (ho : command.hasOperand = true)
    (hm : Operand.Malformed image opcode m.ip) :
    ∃ fault, result = .error fault (command.prepare opcode m) := by
  cases command with
  | push =>
      cases h with
      | pushUnresolved h =>
          obtain ⟨_, heq⟩ := h.of_malformed hm
          cases heq
          exact ⟨_, rfl⟩
      | pushFull h | push h =>
          obtain ⟨_, heq⟩ := h.of_malformed hm
          cases heq
  | pop =>
      cases h with
      | popUnresolved h =>
          obtain ⟨_, heq⟩ := h.of_malformed hm
          cases heq
          exact ⟨_, rfl⟩
      | popEmpty h | popLiteral h | popRegister h | popMemory h =>
          obtain ⟨_, heq⟩ := h.of_malformed hm
          cases heq
  | jump =>
      cases h with
      | jump h => exact h.of_malformed hm
  | jumpIf condition => exact h.jumpIf_of_malformed hm
  | call => exact h.call_of_malformed hm
  | dup | binary | unary | ret => cases ho

/-- Nothing has happened before the operand is looked at, unless a conditional jump found words on
the stack or a call put down its return point. -/
theorem prepare_eq_self_iff {command : Command} :
    command.prepare opcode m = m ↔
      (∀ condition, command = .jumpIf condition → m.stack = []) ∧
        (command = .call →
          (opcode &&& Opcode.registerBit = 0 ∧ opcode &&& Opcode.literalBit = 0) ∨
            callCapacity ≤ m.frames.length) := by
  cases command with
  | jumpIf condition =>
      constructor
      · intro h
        refine ⟨fun _ _ => ?_, nofun⟩
        have hlen := congrArg (fun m : Machine => m.stack.length) h
        simp only [Command.prepare, List.length_drop] at hlen
        exact List.length_eq_zero_iff.mp (by omega)
      · rintro ⟨hs, _⟩
        exact Machine.drop_two_of_nil (hs condition rfl)
  | call =>
      rw [Command.prepare]
      split
      · rename_i h
        constructor
        · intro heq
          exact absurd (congrArg Machine.frames heq) (List.cons_ne_self _ _)
        · rintro ⟨_, hn⟩
          rcases hn rfl with hclear | hf
          · exact absurd h.1 (bits_clear_iff.mp hclear)
          · exact absurd h.2 (Nat.not_lt_of_le hf)
      · rename_i h
        refine ⟨fun _ => ⟨nofun, fun _ => ?_⟩, fun _ => rfl⟩
        by_cases hf : m.frames.length < callCapacity
        · exact .inl (bits_clear_iff.mpr fun hbits => h ⟨hbits, hf⟩)
        · exact .inr (Nat.le_of_not_lt hf)
  | push | pop | dup | binary | unary | jump | ret =>
      exact ⟨fun _ => ⟨nofun, nofun⟩, fun _ => rfl⟩

end Commands

/-! ## Steps -/

namespace Session

/-- A step with a malformed operand fails, and leaves the session as it was when the operand was
looked at. So nothing has changed, unless a conditional jump found words on the stack or a call put
down its return point. -/
theorem malformed_operand_fails {σ : Type} [Host σ] {s : Session σ} {opcode : UInt8}
    {command : Command}
    (hf : s.image.fetch s.machine.ip = .ok ⟨s.machine.ip, opcode, .command command⟩)
    (ho : command.hasOperand = true) (hm : Operand.Malformed s.image opcode s.machine.ip) :
    (∃ fault, step s = .error fault { s with machine := command.prepare opcode s.machine }) ∧
      (command.prepare opcode s.machine = s.machine ↔
        (∀ condition, command = .jumpIf condition → s.machine.stack = []) ∧
          (command = .call →
            (opcode &&& Opcode.registerBit = 0 ∧ opcode &&& Opcode.literalBit = 0) ∨
              callCapacity ≤ s.machine.frames.length)) := by
  refine ⟨?_, prepare_eq_self_iff⟩
  have hc := execute_derivation s.image opcode s.machine command
  obtain ⟨fault, heq⟩ := hc.of_malformed ho hm
  rw [heq] at hc
  exact ⟨fault, (StepDerivation.commandFailed hf hc).execution⟩

/-- A jump on equality whose literal is cut off after one byte loses the two words it compares. -/
theorem malformed_operand_fails_of_cut_jump :
    let image : Image := ⟨#[0x48, 0x59, 0x56, 0x4d, 3, 0x32, 0]⟩
    let s : Session Tape := { fresh image {} with machine := { stack := [⟨2⟩, ⟨1⟩] } }
    Operand.Malformed s.image 0x32 s.machine.ip ∧
      (∃ fault, step s = .error fault { s with machine := { s.machine with stack := [] } }) ∧
      { s.machine with stack := [] } ≠ s.machine := by
  intro image s
  have hf : s.image.fetch s.machine.ip =
      .ok ⟨s.machine.ip, 0x32, .command (.jumpIf .equal)⟩ := fetch_eq_ok.mpr (by decide +kernel)
  have hm : Operand.Malformed s.image 0x32 s.machine.ip := .inr (by decide)
  obtain ⟨hstep, hkept⟩ := malformed_operand_fails hf rfl hm
  refine ⟨hm, hstep, ?_⟩
  intro heq
  exact absurd ((hkept.mp heq).1 .equal rfl) (by decide)

/-- A call whose literal is cut off after three bytes leaves a return point behind, though no call
is made. -/
theorem cut_call_leaves_frame :
    let image : Image := ⟨#[0x48, 0x59, 0x56, 0x4d, 3, 0x34, 1, 2, 3]⟩
    let s : Session Tape := fresh image {}
    let s' : Session Tape := (s.resume 1).2
    s.image.fetch s.machine.ip = .ok ⟨s.machine.ip, 0x34, .command .call⟩ ∧
      Operand.Malformed s.image 0x34 s.machine.ip ∧
      step s = .error (.unexpectedEnd 5 8 3) s' ∧ s.machine.frames = [] ∧
      s'.machine.frames = [13] := by
  intro image s s'
  exact ⟨fetch_eq_ok.mpr (by decide +kernel), .inr (by decide),
    step_error_of_resume (Prod.ext (by decide +kernel) rfl), rfl, by decide +kernel⟩

end Session

end FloatMachine
