import FloatMachine.Host.Tape
import FloatMachine.Proofs.Alignment
import FloatMachine.Proofs.Determinism
import FloatMachine.Proofs.Truncation

/-! Words as indices. A word names a cell of the memory and a place in the image by its integer
part. Wherever a jump is taken, be it conditional or a call, it goes where its word says, and so it
succeeds in an image of the size of the memory exactly where the word names a cell. -/

namespace FloatMachine

/-! ## Jumps -/

/-- What becomes of a command that goes where a word says: it stands in front of the place the word
names, or the word names no place. -/
inductive Landing (image : Image) (w : Word) : EStateM.Result Fault Machine Unit → Prop where
  | landed {m offset} (ht : Action.target image w = .ok offset)
      (hip : m.ip + 1 = Image.headerSize + offset) : Landing image w (.ok () m)
  | refused {m fault} (ht : Action.target image w = .error fault) :
      Landing image w (.error fault m)

section Commands

variable {image : Image} {opcode : UInt8} {m : Machine} {w : Word}

theorem ResolveDerivation.operandValue?_eq_none {fault : Fault} {m' : Machine}
    (h : ResolveDerivation image opcode m (.error fault m')) :
    m.operandValue? image opcode = none := by
  cases h with
  | undecoded h => simp [Machine.operandValue?, h, Except.toOption]
  | unaddressed h hi ha => simp [Machine.operandValue?, h, Except.toOption, Machine.value?, hi, ha]

theorem JumpDerivation.landing {result : EStateM.Result Fault Machine Unit}
    (h : JumpDerivation image opcode m result) (hw : m.operandValue? image opcode = some w) :
    Landing image w result := by
  cases h with
  | unresolved h => cases hw.symm.trans h.operandValue?_eq_none
  | outside h ht =>
      cases hw.symm.trans h.operandValue?
      exact .refused ht
  | taken h ht =>
      cases hw.symm.trans h.operandValue?
      refine .landed ht ?_
      simp only [Image.headerSize]
      omega

theorem operandValue?_of_undecoded {fault : Fault} (h : Mode.decode opcode m.ip = .error fault) :
    m.operandValue? image opcode = none := by
  have hdecode : Operand.decode image opcode m.ip = .error fault :=
    except_bind_eq_error.mpr (.inl h)
  rw [Machine.operandValue?, hdecode]
  rfl

/-- A command that aims at a word goes where the word says. A call needs room for its return
point. -/
theorem CommandDerivation.landing {command : Command} {result : EStateM.Result Fault Machine Unit}
    (h : CommandDerivation image opcode m command result)
    (ha : command.aim? image opcode m = some w)
    (hroom : command = .call → m.frames.length < callCapacity) : Landing image w result := by
  cases h with
  | jump h => exact h.landing ha
  | jumpIfTaken hs hc h =>
      simp only [Command.aim?, hs, hc, if_true] at ha
      refine h.landing (Eq.trans (operandValue?_congr (m := m) ?_ ?_ ?_) ha) <;> rfl
  | callUndecoded h => cases ha.symm.trans (operandValue?_of_undecoded h)
  | callFull _ hf => exact absurd (hroom rfl) hf
  | call _ _ h => refine h.landing (Eq.trans (operandValue?_congr (m := m) ?_ ?_ ?_) ha) <;> rfl
  | jumpIfEmpty hs | jumpIfSingle hs => simp [Command.aim?, hs] at ha
  | jumpIfUnsized hs hc | jumpIfSkipped hs hc => simp [Command.aim?, hs, hc] at ha
  | _ => cases ha

end Commands

namespace Session

variable {σ : Type}

/-- The next step is a jump that is taken, or a call with room for its return point, and goes where
the word says. -/
structure JumpsTo (s : Session σ) (w : Word) : Prop where
  aim : s.aim? = some w
  room : ∀ opcode, s.image.fetch s.machine.ip = .ok ⟨s.machine.ip, opcode, .command .call⟩ →
    s.machine.frames.length < callCapacity

theorem aim?_eq_some {s : Session σ} {w : Word} (h : s.aim? = some w) :
    ∃ opcode command, s.image.fetch s.machine.ip = .ok ⟨s.machine.ip, opcode, .command command⟩ ∧
      command.aim? s.image opcode s.machine = some w := by
  unfold aim? at h
  split at h
  next offset opcode command hf =>
    obtain rfl : offset = s.machine.ip := (fetch_eq_ok.mp hf).1
    exact ⟨opcode, command, hf, h⟩
  next => cases h

variable [Host σ]

theorem JumpsTo.step_cases {s : Session σ} {w : Word} (h : s.JumpsTo w) :
    (∃ offset s', Action.target s.image w = .ok offset ∧ step s = .ok .next s' ∧
        s'.image = s.image ∧ s'.machine.ip = Image.headerSize + offset) ∨
      ∃ fault s', Action.target s.image w = .error fault ∧ step s = .error fault s' := by
  obtain ⟨opcode, command, hf, ha⟩ := aim?_eq_some h.aim
  have hlanding := (execute_derivation s.image opcode s.machine command).landing ha
    (by rintro rfl; exact h.room opcode hf)
  have hc := execute_derivation s.image opcode s.machine command
  generalize command.execute s.image opcode s.machine = result at hlanding hc
  cases hlanding with
  | landed ht hip => exact .inl ⟨_, _, ht, (StepDerivation.command hf hc).execution, rfl, hip⟩
  | refused ht => exact .inr ⟨_, _, ht, (StepDerivation.commandFailed hf hc).execution⟩

/-- A jump to where a word says succeeds exactly if the integer part of the word is inside the
image, and goes on that far behind the header. -/
structure JumpSpec (s : Session σ) (w : Word) : Prop where
  succeeds_iff : (∃ s', step s = .ok .next s') ↔ w.Within s.image.size
  lands : ∀ s', step s = .ok .next s' →
    s'.image = s.image ∧ s'.machine.ip = Image.headerSize + ⌊w.value⌋₊
  fails : ¬ w.Within s.image.size → ∃ s', step s = .error (.jumpOutOfRange w s.image.size) s'

theorem JumpsTo.jumpSpec {s : Session σ} {w : Word} (h : s.JumpsTo w) : s.JumpSpec w := by
  rcases h.step_cases with ⟨offset, s₁, ht, hstep, himage, hip⟩ | ⟨fault, s₁, ht, hstep⟩
  · obtain ⟨hwithin, rfl⟩ := target_eq_ok_iff.mp ht
    refine ⟨⟨fun _ => hwithin, fun _ => ⟨s₁, hstep⟩⟩, ?_, fun hn => absurd hwithin hn⟩
    intro s' hs'
    cases hstep.symm.trans hs'
    exact ⟨himage, hip⟩
  · have hout : ¬ w.Within s.image.size := by
      intro hwithin
      cases ht.symm.trans (target_eq_ok_iff.mpr ⟨hwithin, rfl⟩)
    refine ⟨⟨?_, fun hwithin => absurd hwithin hout⟩, ?_, ?_⟩
    · rintro ⟨s', hs'⟩
      cases hstep.symm.trans hs'
    · intro s' hs'
      cases hstep.symm.trans hs'
    · intro _
      rw [target_error ht] at hstep
      exact ⟨s₁, hstep⟩

end Session

/-! ## Words as indices -/

namespace Word

/-- What a word names. As a cell and as a place in an image it is its integer part, if it is finite,
not below zero and small enough; comparing before converting and converting before comparing find
the same. -/
structure IndexSpec (w : Word) : Prop where
  address_ok : ∀ n, (∃ address : Address, address.val = n ∧ Address.ofWord w = .ok address) ↔
    w.isFinite = true ∧ 0 ≤ w.value ∧ ⌊w.value⌋₊ = n ∧ n < memorySize
  address_error : ¬ w.Within memorySize →
    Address.ofWord w = .error (.memoryOutOfBounds w memorySize)
  address_compute : (Address.ofWord w).map Fin.val = Address.compute w
  target_compute : ∀ image : Image, image.size < Nat.pow 2 63 →
    Action.target image w = Action.computeTarget image w
  jump : ∀ {σ : Type} [Host σ] (s : Session σ), s.JumpsTo w → s.JumpSpec w
  agree : ∀ {σ : Type} [Host σ] (s : Session σ), s.JumpsTo w → s.image.size = memorySize →
    ((∃ address, Address.ofWord w = .ok address) ↔ ∃ s', Session.step s = .ok .next s')

theorem indices_exact (w : Word) : w.IndexSpec where
  address_ok := by
    intro n
    simp only [address_eq_ok_iff]
    constructor
    · rintro ⟨address, rfl, ⟨hf, hv, _⟩, hfloor⟩
      exact ⟨hf, hv, hfloor, address.isLt⟩
    · rintro ⟨hf, hv, rfl, hlt⟩
      exact ⟨⟨_, hlt⟩, rfl, ⟨hf, hv, hlt⟩, rfl⟩
  address_error := address_of_not_within
  address_compute := FloatMachine.address_compute w
  target_compute := fun image hsize => FloatMachine.target_compute hsize w
  jump := fun s h => h.jumpSpec
  agree := by
    intro σ _ s h hsize
    rw [h.jumpSpec.succeeds_iff, hsize]
    constructor
    · rintro ⟨address, ha⟩
      exact (address_eq_ok_iff.mp ha).1
    · intro hwithin
      exact ⟨⟨_, hwithin.lt⟩, address_eq_ok_iff.mpr ⟨hwithin, rfl⟩⟩

/-- The word for two to the power of 64 is cut to the largest number of 64 bits, which is outside of
the image all the same. -/
theorem indices_exact_of_far_jump :
    let image : Image := ⟨#[0x48, 0x59, 0x56, 0x4d, 3, 0x2d, 0, 0, 0, 0, 0, 0, 0xf0, 0x43]⟩
    let s : Session Tape := Session.fresh image {}
    let w : Word := ⟨0x43f0000000000000⟩
    s.JumpsTo w ∧ w.toFloat.toUInt64.toNat = Nat.pow 2 64 - 1 ∧
      (s.resume 1).1 = some (.failed (.jumpOutOfRange w 14)) ∧ w.IndexSpec := by
  intro image s w
  have haim : s.aim? = some w := by decide +kernel
  refine ⟨⟨haim, ?_⟩, by decide +kernel, by decide +kernel, indices_exact w⟩
  intro opcode _
  decide

end Word

end FloatMachine
