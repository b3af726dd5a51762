import FloatMachine.Proofs.Rechecks
import FloatMachine.Proofs.Resolution

/-! What a fault tells. The faults that name a place in the image name the place where the failing
instruction stands, though the machine has moved on by the time they are raised, and they quote the
bytes that stand there. Faults of the same wording that a later check could raise about other places
are not among them, for no such check ever fails. -/

namespace FloatMachine

/-! ## Faults and places -/

/-- What a fault tells of the instruction at an offset of the image is true. -/
structure Fault.Locates (image : Image) (offset : Nat) (fault : Fault) : Prop where
  missingHalt_iff : ∀ ip, fault = .missingHalt ip ↔ image.size ≤ offset ∧ ip = offset
  invalidInstruction_iff : ∀ opcode place, fault = .invalidInstruction opcode place ↔
    image.byte? offset = some opcode ∧ 0x15 < opcode &&& 0x1f ∧ place = offset
  invalidAddressingMode : ∀ opcode place, fault = .invalidAddressingMode opcode place →
    image.byte? offset = some opcode ∧ place = offset
  unexpectedEnd : ∀ ip requested available, fault = .unexpectedEnd ip requested available →
    ip = offset ∧
    (∃ opcode mode, image.byte? offset = some opcode ∧ Mode.ofOpcode? opcode = some mode ∧
      requested = mode.size) ∧
    available = image.size - offset - 1 ∧ available < requested
  invalidRegister : ∀ index available, fault = .invalidRegister index available →
    image.byte? (offset + 1) = some index ∧ 16 ≤ index.toNat ∧ available = 16
  literalNotWritable : ∀ place, fault = .literalNotWritable place → place = offset + 1

/-- The fault names a place in the image, or quotes a byte of it. -/
def Fault.isPlaced : Fault → Bool
  | missingHalt .. | invalidInstruction .. | invalidAddressingMode .. | unexpectedEnd ..
  | invalidRegister .. | literalNotWritable .. => true
  | load .. | allocation .. | truncatedHeader .. | badSignature .. | unsupportedVersion ..
  | memoryOutOfBounds .. | jumpOutOfRange .. | invalidInput .. | io .. | stackOverflow ..
  | stackUnderflow | callOverflow .. | returnWithoutCall => false

/-- The faults of an instruction that has been fetched at an offset. -/
inductive PlacedFault (image : Image) (offset : Nat) : Fault → Prop where
  | unmoded {opcode} (ho : image.byte? offset = some opcode) :
      PlacedFault image offset (.invalidAddressingMode opcode offset)
  | truncated {opcode mode} (ho : image.byte? offset = some opcode)
      (hm : Mode.ofOpcode? opcode = some mode) (hs : image.size - offset - 1 < mode.size) :
      PlacedFault image offset (.unexpectedEnd offset mode.size (image.size - offset - 1))
  | unregistered {index} (hb : image.byte? (offset + 1) = some index) (hi : 16 ≤ index.toNat) :
      PlacedFault image offset (.invalidRegister index 16)
  | unwritable : PlacedFault image offset (.literalNotWritable (offset + 1))
  | unplaced {fault} (h : fault.isPlaced = false) : PlacedFault image offset fault

/-! ## Fetching -/

/-- The instructions have the numbers up to `0x15`, without a gap. -/
theorem ofOpcode?_eq_none_iff (opcode : UInt8) :
    Instruction.ofOpcode? (opcode &&& Opcode.commandMask) = none ↔ 0x15 < opcode &&& 0x1f := by
  have hall : ∀ n : Fin 256, Instruction.ofOpcode? (UInt8.ofFin n &&& Opcode.commandMask) = none ↔
      0x15 < UInt8.ofFin n &&& 0x1f := by decide +kernel
  exact hall opcode.toFin

theorem fetch_eq_error {image : Image} {offset : Nat} {fault : Fault} :
    image.fetch offset = .error fault ↔
      (image.size ≤ offset ∧ fault = .missingHalt offset) ∨
        ∃ opcode, image.byte? offset = some opcode ∧ 0x15 < opcode &&& 0x1f ∧
          fault = .invalidInstruction opcode offset := by
  unfold Image.fetch
  by_cases hlt : offset < image.size
  · rw [Image.byte?_of_lt hlt]
    have hiff := ofOpcode?_eq_none_iff (image.byteAt offset)
    cases hi : Instruction.ofOpcode? (image.byteAt offset &&& Opcode.commandMask) with
    | none => simp [Nat.not_le_of_lt hlt, hi, hiff.mp hi, eq_comm]
    | some instruction =>
        have hle : ¬ 0x15 < image.byteAt offset &&& 0x1f := by
          intro hgt
          cases hi.symm.trans (hiff.mpr hgt)
        simp [Nat.not_le_of_lt hlt, hi, hle]
  · have hnone : image.byte? offset = none := Array.getElem?_eq_none (Nat.le_of_not_lt hlt)
    rw [hnone]
    simp [Nat.le_of_not_lt hlt, eq_comm]

theorem locates_of_fetch_error {image : Image} {offset : Nat} {fault : Fault}
    (h : image.fetch offset = .error fault) : fault.Locates image offset := by
  rcases fetch_eq_error.mp h with ⟨hle, rfl⟩ | ⟨opcode, hb, hgt, rfl⟩
  · have hnone : image.byte? offset = none := Array.getElem?_eq_none hle
    constructor <;> simp [hle, hnone, eq_comm]
  · have hlt : offset < image.size := (Array.getElem?_eq_some_iff.mp hb).1
    constructor <;> simp [hb, hgt, Nat.not_le_of_lt hlt, eq_comm]

theorem PlacedFault.locates {image : Image} {offset : Nat} {fetched : Fetched} {fault : Fault}
    (h : PlacedFault image offset fault) (hf : image.fetch offset = .ok fetched) :
    fault.Locates image offset := by
  obtain ⟨_, hb, hi⟩ := fetch_eq_ok.mp hf
  have hlt : offset < image.size := (Array.getElem?_eq_some_iff.mp hb).1
  -- An instruction stands at the offset, so the two faults of the fetch are out of question.
  have hknown : ∀ opcode, image.byte? offset = some opcode → ¬ 0x15 < opcode &&& 0x1f := by
    intro opcode ho hgt
    obtain rfl : fetched.opcode = opcode := Option.some.inj (hb.symm.trans ho)
    cases hi.symm.trans ((ofOpcode?_eq_none_iff _).mpr hgt)
  constructor
  case missingHalt_iff =>
    intro ip
    refine iff_of_false ?_ fun hle => Nat.not_le_of_lt hlt hle.1
    rintro rfl
    cases h with
    | unplaced hp => cases hp
  case invalidInstruction_iff =>
    intro opcode place
    refine iff_of_false ?_ fun hinvalid => hknown opcode hinvalid.1 hinvalid.2.1
    rintro rfl
    cases h with
    | unplaced hp => cases hp
  case invalidAddressingMode =>
    rintro opcode place rfl
    cases h with
    | unmoded ho => exact ⟨ho, rfl⟩
    | unplaced hp => cases hp
  case unexpectedEnd =>
    rintro ip requested available rfl
    cases h with
    | truncated ho hm hs => exact ⟨rfl, ⟨_, _, ho, hm, rfl⟩, rfl, hs⟩
    | unplaced hp => cases hp
  case invalidRegister =>
    rintro index available rfl
    cases h with
    | unregistered hi hle => exact ⟨hi, hle, rfl⟩
    | unplaced hp => cases hp
  case literalNotWritable =>
    rintro place rfl
    cases h with
    | unwritable => rfl
    | unplaced hp => cases hp

/-! ## Operands and commands -/

section Commands

variable {image : Image} {opcode : UInt8} {m m' : Machine} {fault : Fault}

theorem OperandRule.placed (h : OperandRule image m (.error fault m')) :
    PlacedFault image m.ip fault := by
  cases h with
  | unmoded ho => exact .unmoded ho
  | @truncated opcode ho hm hs =>
      obtain ⟨mode, hmode, hsize⟩ := exists_mode hm
      rw [hsize] at hs ⊢
      have hpos := mode_size_pos mode
      exact .truncated ho hmode (by omega)
  | unregistered _ _ _ hb hi => exact .unregistered hb (Nat.le_of_not_lt hi)
  | unaddressed => exact .unplaced rfl

theorem ResolveDerivation.rule {result : EStateM.Result Fault Machine Location}
    (h : ResolveDerivation image opcode m result) (hb : image.byte? m.ip = some opcode) :
    OperandRule image m result := by
  obtain ⟨result', hrule⟩ := exists_operandRule hb
  obtain rfl : result' = result := (hrule.execution hb).symm.trans h.execution
  exact hrule

theorem ResolveDerivation.placed (h : ResolveDerivation image opcode m (.error fault m'))
    (hb : image.byte? m.ip = some opcode) : PlacedFault image m.ip fault :=
  (h.rule hb).placed

theorem ResolveDerivation.literal_offset {offset : Nat} {value : Word}
    (h : ResolveDerivation image opcode m (.ok (.literal offset value) m'))
    (hb : image.byte? m.ip = some opcode) : offset = m.ip + 1 := by
  cases h.rule hb with
  | direct _ hbase =>
      cases hbase with
      | literal => rfl

theorem JumpDerivation.placed (h : JumpDerivation image opcode m (.error fault m'))
    (hb : image.byte? m.ip = some opcode) : PlacedFault image m.ip fault := by
  cases h with
  | unresolved h => exact h.placed hb
  | outside _ ht =>
      rw [target_error ht]
      exact .unplaced rfl

theorem CommandDerivation.placed {command : Command}
    (h : CommandDerivation image opcode m command (.error fault m'))
    (hb : image.byte? m.ip = some opcode) : PlacedFault image m.ip fault := by
  cases h with
  | pushUnresolved h | popUnresolved h => exact h.placed hb
  | popLiteral h =>
      rw [h.literal_offset hb]
      exact .unwritable
  | jump h => exact h.placed hb
  | jumpIfTaken _ _ h => exact h.placed hb
  | call _ _ h => exact h.placed hb
  | jumpIfUnsized _ _ h =>
      exact ResolveDerivation.placed (.undecoded (decode_error_of_sizeAt h)) hb
  | callUndecoded h =>
      exact ResolveDerivation.placed (.undecoded (except_bind_eq_error.mpr (.inl h))) hb
  | _ => exact .unplaced rfl

end Commands

/-! ## Steps -/

namespace Session

variable {σ : Type} [Host σ]

/-- The step from here hands on a fault of its host. -/
inductive Relays (s : Session σ) (fault : Fault) : Prop where
  | input {opcode host}
      (h : s.image.fetch s.machine.ip = .ok ⟨s.machine.ip, opcode, .input⟩)
      (hh : Host.read s.host = .error fault host)
  | output {opcode w stack host}
      (h : s.image.fetch s.machine.ip = .ok ⟨s.machine.ip, opcode, .output⟩)
      (hs : s.machine.stack = w :: stack) (hh : Host.write w s.host = .error fault host)

/-- What the fault of a step tells is true, unless it is handed on from a host that raises faults
which are not its own. -/
theorem locates_of_step {s s' : Session σ} {fault : Fault} (hstep : step s = .error fault s')
    (hr : s.Relays fault → fault.isPlaced = false) :
    fault.Locates s.image s.machine.ip := by
  cases StepDerivation.of_step hstep with
  | unfetched h => exact locates_of_fetch_error h
  | inputRefused h hh => exact PlacedFault.locates (.unplaced (hr (.input h hh))) h
  | outputRefused h hs hh => exact PlacedFault.locates (.unplaced (hr (.output h hs hh))) h
  | inputFull h => exact PlacedFault.locates (.unplaced rfl) h
  | outputEmpty h => exact PlacedFault.locates (.unplaced rfl) h
  | commandFailed h hc => exact (hc.placed (fetch_eq_ok.mp h).2.1).locates h

/-- What the faults of a step tell. Past the end of the image and at a byte that names no
instruction, a step fails and says so. Whatever fault is raised, what it tells of the image is true
unless the host has raised it; on hosts that raise faults of the exchange only, as tapes and
consoles do, it is true in any case. A step that makes its checks again, and would word their faults
alike, is a step, and it remains one when these faults are replaced by any others. -/
structure DiagnosisSpec (s : Session σ) : Prop where
  past_end : s.image.size ≤ s.machine.ip → step s = .error (.missingHalt s.machine.ip) s
  unknown : ∀ opcode, s.image.byte? s.machine.ip = some opcode → 0x15 < opcode &&& 0x1f →
    step s = .error (.invalidInstruction opcode s.machine.ip) s
  locates : ∀ fault s', step s = .error fault s' → ¬ s.Relays fault →
    fault.Locates s.image s.machine.ip
  locates_of_plain : Host.Plain σ → ∀ fault s', step s = .error fault s' →
    fault.Locates s.image s.machine.ip
  rechecked_eq : Rechecked.step (Rechecked.usual s.image) s = step s
  alarms_idle : ∀ alarms, Rechecked.step alarms s = Rechecked.step (Rechecked.usual s.image) s

/-- In every state, faults tell the truth about the instruction that has failed, and no check that
has been made before fails. -/
theorem faults_located (s : Session σ) : s.DiagnosisSpec := by
  refine ⟨?_, ?_, ?_, ?_, Rechecked.step_eq _ s, ?_⟩
  · intro hle
    exact (StepDerivation.unfetched (fetch_eq_error.mpr (.inl ⟨hle, rfl⟩))).execution
  · intro opcode hb hgt
    exact (StepDerivation.unfetched (fetch_eq_error.mpr (.inr ⟨opcode, hb, hgt, rfl⟩))).execution
  · intro fault s' h hr
    exact locates_of_step h fun hrelays => absurd hrelays hr
  · intro hp fault s' h
    refine locates_of_step h ?_
    intro hrelays
    have hsource : fault.source = .exchange := by
      cases hrelays with
      | input _ hh => exact hp _ _ (.read hh)
      | output _ _ hh => exact hp _ _ (.write hh)
    cases fault <;> first | rfl | cases hsource
  · intro alarms
    rw [Rechecked.step_eq, Rechecked.step_eq]

end Session

end FloatMachine
