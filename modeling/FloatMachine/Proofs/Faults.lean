import FloatMachine.Host.Console
import FloatMachine.Host.Tape
import FloatMachine.Proofs.Operands

/-! Where faults come from. A step that fails has found no instruction, has been refused by its
host, has found no operand, or was stopped by the values it works on. Each source raises faults of
its own. -/

namespace FloatMachine

/-- What a fault is about. -/
inductive FaultSource where
  | loading
  | header
  /-- The bytes of an instruction. -/
  | encoding
  /-- The end of the image. -/
  | ending
  | exchange
  /-- A word that names nothing, or that cannot be overwritten. -/
  | value
  | stack
deriving DecidableEq

def Fault.source : Fault → FaultSource
  | load .. | allocation .. => .loading
  | truncatedHeader .. | badSignature .. | unsupportedVersion .. => .header
  | invalidInstruction .. | invalidAddressingMode .. | unexpectedEnd .. | invalidRegister .. =>
    .encoding
  | missingHalt .. => .ending
  | invalidInput .. | io .. => .exchange
  | memoryOutOfBounds .. | jumpOutOfRange .. | literalNotWritable .. => .value
  | stackOverflow .. | stackUnderflow | callOverflow .. | returnWithoutCall => .stack

theorem kind_eq_format_iff {fault : Fault} : fault.kind = .format ↔ fault.source = .header := by
  cases fault <;> simp [Fault.kind, Fault.source]

theorem kind_eq_resource_iff {fault : Fault} : fault.kind = .resource ↔ fault.source = .stack := by
  cases fault <;> simp [Fault.kind, Fault.source]

theorem kind_eq_decode_iff {fault : Fault} :
    fault.kind = .decode ↔ fault.source = .encoding ∨ fault.source = .ending ∨
      fault.source = .exchange ∨ fault.source = .value := by
  cases fault <;> simp [Fault.kind, Fault.source]

theorem kind_eq_load_iff {fault : Fault} :
    fault.kind = .load ∨ fault.kind = .allocation ↔ fault.source = .loading := by
  cases fault <;> simp [Fault.kind, Fault.source]

/-! ## Hosts -/

/-- The host turns down a read, or the write of some word, with the fault. -/
inductive Host.Refuses {σ : Type} [Host σ] (host : σ) (fault : Fault) : Prop where
  | read {host'} (h : Host.read host = .error fault host')
  | write {w host'} (h : Host.write w host = .error fault host')

/-- In every state, the host refuses only with faults of the exchange. -/
def Host.Plain (σ : Type) [Host σ] : Prop :=
  ∀ (host : σ) (fault : Fault), Host.Refuses host fault → fault.source = .exchange

theorem tape_plain : Host.Plain Tape := by
  intro tape fault hr
  cases hr with
  | read h =>
      have h : Tape.read tape = .error fault _ := h
      simp only [Tape.read, bind_apply, get_apply] at h
      cases hi : tape.input with
      | nil =>
          rw [hi] at h
          cases h
          rfl
      | cons w input =>
          rw [hi] at h
          cases h
  | write h => cases h

namespace Console

/-- A line is looked for in vain only at the end of the input or at a line that is no text. -/
theorem nextLine_error {unread : List UInt8} {fault : Fault}
    (h : (nextLine unread).1 = .error fault) : fault.source = .exchange := by
  fun_induction nextLine unread with
  | case1 =>
      cases h
      rfl
  | case2 =>
      cases h
      rfl
  | case3 _ _ _ _ _ _ ih => exact ih h
  | case4 => cases h

theorem readToken_error {console console' : Console} {fault : Fault}
    (h : readToken console = .error fault console') : fault.source = .exchange := by
  simp only [readToken, bind_apply, get_apply] at h
  cases hp : console.pending with
  | cons token pending =>
      rw [hp] at h
      cases h
  | nil =>
      rw [hp] at h
      dsimp only at h
      match hl : nextLine console.unread with
      | (.ok (token, pending), unread) =>
          rw [hl] at h
          cases h
      | (.error fault', unread) =>
          rw [hl] at h
          cases h
          exact nextLine_error (congrArg Prod.fst hl)

theorem read_error {console console' : Console} {fault : Fault}
    (h : Console.read console = .error fault console') : fault.source = .exchange := by
  simp only [Console.read, bind_apply] at h
  cases ht : readToken console with
  | error fault' unread =>
      rw [ht] at h
      cases h
      exact readToken_error ht
  | ok token unread =>
      rw [ht] at h
      dsimp only at h
      cases hw : Word.read? token with
      | some w =>
          rw [hw] at h
          cases h
      | none =>
          rw [hw] at h
          cases h
          rfl

theorem write_error {console console' : Console} {w : Word} {fault : Fault}
    (h : Console.write w console = .error fault console') : fault.source = .exchange := by
  simp only [Console.write, bind_apply, get_apply] at h
  cases hr : console.room with
  | none =>
      rw [hr] at h
      cases h
  | some room =>
      rw [hr] at h
      simp only [bind_apply, set_apply] at h
      by_cases hlt : room < (line w).length
      · rw [if_pos hlt] at h
        cases h
        rfl
      · rw [if_neg hlt] at h
        cases h

end Console

theorem console_plain : Host.Plain Console := by
  intro console fault hr
  cases hr with
  | read h => exact Console.read_error h
  | write h => exact Console.write_error h

/-! ## Operands -/

theorem mode_decode_error {opcode : UInt8} {offset : Nat} {fault : Fault}
    (h : Mode.decode opcode offset = .error fault) :
    Mode.ofOpcode? opcode = none ∧ fault = .invalidAddressingMode opcode offset := by
  unfold Mode.decode at h
  split at h <;> cases h
  exact ⟨‹_›, rfl⟩

/-- Skipping an operand fails as decoding it does, though not on a register that does not exist. -/
theorem decode_error_of_sizeAt {image : Image} {opcode : UInt8} {offset : Nat} {fault : Fault}
    (h : Operand.sizeAt image opcode offset = .error fault) :
    Operand.decode image opcode offset = .error fault := by
  rcases except_bind_eq_error.mp h with h | ⟨mode, hm, h⟩
  · exact except_bind_eq_error.mpr (.inl h)
  · refine except_bind_eq_error.mpr (.inr ⟨mode, hm, ?_⟩)
    rcases except_bind_eq_error.mp h with h | ⟨_, _, h⟩
    · exact except_bind_eq_error.mpr (.inl h)
    · cases h

theorem register_ofByte_error {index : UInt8} {fault : Fault}
    (h : Register.ofByte index = .error fault) : fault = .invalidRegister index registerCount := by
  unfold Register.ofByte at h
  split at h <;> cases h
  rfl

theorem baseAt_error {image : Image} {offset : Nat} {mode : Mode} {fault : Fault}
    (h : Operand.baseAt image offset mode = .error fault) :
    fault = .invalidRegister (image.byteAt (offset + 1)) registerCount := by
  cases mode with
  | literal => cases h
  | register | sum =>
      rcases except_bind_eq_error.mp h with h | ⟨_, _, h⟩
      · exact register_ofByte_error h
      · cases h

/-- The faults of an operand that cannot be decoded: the opcode has no mode, not all bytes are
there, or the register does not exist. -/
inductive DecodeFault (image : Image) (opcode : UInt8) (offset : Nat) : Fault → Prop where
  | unmoded (h : Mode.ofOpcode? opcode = none) :
      DecodeFault image opcode offset (.invalidAddressingMode opcode offset)
  | truncated {mode} (h : Mode.ofOpcode? opcode = some mode) :
      DecodeFault image opcode offset
        (.unexpectedEnd offset mode.size (image.size - (offset + 1)))
  | unregistered {mode} (h : Mode.ofOpcode? opcode = some mode) :
      DecodeFault image opcode offset
        (.invalidRegister (image.byteAt (offset + 1)) registerCount)

theorem decode_error {image : Image} {opcode : UInt8} {offset : Nat} {fault : Fault}
    (h : Operand.decode image opcode offset = .error fault) :
    DecodeFault image opcode offset fault := by
  rcases except_bind_eq_error.mp h with h | ⟨mode, hm, h⟩
  · obtain ⟨hm, rfl⟩ := mode_decode_error h
    exact .unmoded hm
  have hm := mode_decode_eq_ok.mp hm
  rcases except_bind_eq_error.mp h with h | ⟨_, _, h⟩
  · simp only [Operand.ensureAvailable] at h
    split at h <;> cases h
    exact .truncated hm
  rcases except_bind_eq_error.mp h with h | ⟨_, _, h⟩
  · rw [baseAt_error h]
    exact .unregistered hm
  · cases h

theorem DecodeFault.source_eq {image : Image} {opcode : UInt8} {offset : Nat} {fault : Fault}
    (h : DecodeFault image opcode offset fault) : fault.source = .encoding := by
  cases h <;> rfl

theorem address_error {w : Word} {fault : Fault} (h : Address.ofWord w = .error fault) :
    fault = .memoryOutOfBounds w memorySize := by
  unfold Address.ofWord at h
  split at h
  · split at h <;> cases h
    rfl
  · cases h
    rfl

theorem target_error {image : Image} {w : Word} {fault : Fault}
    (h : Action.target image w = .error fault) : fault = .jumpOutOfRange w image.size := by
  unfold Action.target at h
  split at h
  · split at h <;> cases h
    rfl
  · cases h
    rfl

/-! ## Commands and steps -/

/-- The sources of the faults of a command: its operand cannot be decoded, a value does not fit,
or a stack is too full or empty. -/
inductive CommandFault (image : Image) (opcode : UInt8) (ip : Nat) (command : Command)
    (fault : Fault) : Prop where
  | undecoded (ho : command.hasOperand = true)
      (h : Operand.decode image opcode ip = .error fault)
  | value (ho : command.hasOperand = true) (h : fault.source = .value)
  | stack (h : fault.source = .stack)

theorem ResolveDerivation.fault {image : Image} {opcode : UInt8} {m m' : Machine} {fault : Fault}
    (h : ResolveDerivation image opcode m (.error fault m')) {command : Command}
    (ho : command.hasOperand = true) : CommandFault image opcode m.ip command fault := by
  cases h with
  | undecoded h => exact .undecoded ho h
  | unaddressed _ _ ha => exact .value ho (congrArg Fault.source (address_error ha))

theorem JumpDerivation.fault {image : Image} {opcode : UInt8} {m m' : Machine} {fault : Fault}
    (h : JumpDerivation image opcode m (.error fault m')) {command : Command}
    (ho : command.hasOperand = true) : CommandFault image opcode m.ip command fault := by
  cases h with
  | unresolved h => exact h.fault ho
  | outside _ ht => exact .value ho (congrArg Fault.source (target_error ht))

theorem CommandDerivation.fault {image : Image} {opcode : UInt8} {m m' : Machine}
    {command : Command} {fault : Fault}
    (h : CommandDerivation image opcode m command (.error fault m')) :
    CommandFault image opcode m.ip command fault := by
  cases h with
  | pushUnresolved h | popUnresolved h => exact h.fault rfl
  | jump h => exact h.fault rfl
  | jumpIfTaken _ _ h => exact h.fault rfl
  | call _ _ h => exact h.fault rfl
  | popLiteral => exact .value rfl rfl
  | jumpIfUnsized _ _ h => exact .undecoded rfl (decode_error_of_sizeAt h)
  | callUndecoded h => exact .undecoded rfl (except_bind_eq_error.mpr (.inl h))
  | _ => exact .stack rfl

theorem fetch_error {image : Image} {offset : Nat} {fault : Fault}
    (h : image.fetch offset = .error fault) :
    fault = .missingHalt offset ∨ ∃ opcode, fault = .invalidInstruction opcode offset := by
  unfold Image.fetch at h
  split at h
  · cases h
    exact .inl rfl
  · split at h <;> cases h
    exact .inr ⟨_, rfl⟩

/-- The sources of the faults of a step. -/
inductive StepFault {σ : Type} [Host σ] (s : Session σ) (fault : Fault) : Prop where
  | unfetched (h : s.image.fetch s.machine.ip = .error fault)
  | refused (h : Host.Refuses s.host fault)
  | full (h : fault.source = .stack)
  | command {opcode command}
      (h : s.image.fetch s.machine.ip = .ok ⟨s.machine.ip, opcode, .command command⟩)
      (hc : CommandFault s.image opcode s.machine.ip command fault)

theorem StepDerivation.fault {σ : Type} [Host σ] {s s' : Session σ} {fault : Fault}
    (h : StepDerivation s (.error fault s')) : StepFault s fault := by
  cases h with
  | unfetched h => exact .unfetched h
  | inputRefused _ hh => exact .refused (.read hh)
  | outputRefused _ _ hh => exact .refused (.write hh)
  | inputFull | outputEmpty => exact .full rfl
  | commandFailed h hc => exact .command h hc.fault

theorem StepFault.kind {σ : Type} [Host σ] (hp : Host.Plain σ) {s : Session σ} {fault : Fault}
    (h : StepFault s fault) : fault.kind = .decode ∨ fault.source = .stack := by
  rw [kind_eq_decode_iff]
  cases h with
  | unfetched h =>
      rcases fetch_error h with rfl | ⟨opcode, rfl⟩
      · exact .inl (.inr (.inl rfl))
      · exact .inl (.inl rfl)
  | refused h => exact .inl (.inr (.inr (.inl (hp _ _ h))))
  | full h => exact .inr h
  | command _ hc =>
      cases hc with
      | undecoded _ h => exact .inl (.inl (decode_error h).source_eq)
      | value _ h => exact .inl (.inr (.inr (.inr h)))
      | stack h => exact .inr h

end FloatMachine
