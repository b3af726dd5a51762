import FloatMachine.Proofs.Bytes
import FloatMachine.Proofs.Determinism
import FloatMachine.Proofs.Faults
import FloatMachine.Proofs.Values

/-! What an operand means, said on the bytes of the image and the bits of the opcode byte, without
the decoder. The rules give the conditions in the order in which they are checked; the first one
that does not hold is reported, and what has been computed up to then stays. -/

namespace FloatMachine

/-! ## The rules -/

/-- The number of bytes behind an opcode byte: one for a register, eight for a literal. -/
def Opcode.operandSize (opcode : UInt8) : Nat :=
  (if opcode &&& Opcode.registerBit ≠ 0 then 1 else 0) +
    (if opcode &&& Opcode.literalBit ≠ 0 then 8 else 0)

/-- The value of a register in a sum, where the scratch register counts as zero. -/
def Machine.summand (m : Machine) (index : Register) : Word :=
  if index = scratch then .zero else m.read (.register index)

/-- The base of an operand whose bytes are all there and whose register exists: where it is found,
its value there, and the registers once it is in place. -/
inductive BaseRule (image : Image) (opcode : UInt8) (m : Machine) :
    Location → Word → Vector Word registerCount → Prop where
  | register {byte index} (hr : opcode &&& Opcode.registerBit ≠ 0)
      (hl : opcode &&& Opcode.literalBit = 0) (hb : image.byte? (m.ip + 1) = some byte)
      (hi : byte.toNat = index.val) :
      BaseRule image opcode m (.register index) (m.read (.register index)) m.registers
  | literal {w} (hr : opcode &&& Opcode.registerBit = 0)
      (hl : opcode &&& Opcode.literalBit ≠ 0)
      (hw : image.Holds (m.ip + 1) (Image.spell 8 w.bits.toNat)) :
      BaseRule image opcode m (.literal (m.ip + 1) w) w m.registers
  | sum {byte index w} (hr : opcode &&& Opcode.registerBit ≠ 0)
      (hl : opcode &&& Opcode.literalBit ≠ 0) (hb : image.byte? (m.ip + 1) = some byte)
      (hi : byte.toNat = index.val) (hw : image.Holds (m.ip + 2) (Image.spell 8 w.bits.toNat)) :
      BaseRule image opcode m (.register scratch) ((m.summand index).add w)
        (m.registers.set scratch ((m.summand index).add w) scratch.isLt)

/-- The meaning of the operand behind the opcode byte at the position of a machine. -/
inductive OperandRule (image : Image) (m : Machine) :
    EStateM.Result Fault Machine Location → Prop where
  | unmoded {opcode} (ho : image.byte? m.ip = some opcode)
      (hr : opcode &&& Opcode.registerBit = 0) (hl : opcode &&& Opcode.literalBit = 0) :
      OperandRule image m (.error (.invalidAddressingMode opcode m.ip) m)
  | truncated {opcode} (ho : image.byte? m.ip = some opcode)
      (hm : opcode &&& Opcode.registerBit ≠ 0 ∨ opcode &&& Opcode.literalBit ≠ 0)
      (hs : ¬ m.ip + Opcode.operandSize opcode < image.size) :
      OperandRule image m (.error (.unexpectedEnd m.ip (Opcode.operandSize opcode)
        (image.size - (m.ip + 1))) m)
  | unregistered {opcode byte} (ho : image.byte? m.ip = some opcode)
      (hr : opcode &&& Opcode.registerBit ≠ 0)
      (hs : m.ip + Opcode.operandSize opcode < image.size)
      (hb : image.byte? (m.ip + 1) = some byte) (hi : ¬ byte.toNat < 16) :
      OperandRule image m (.error (.invalidRegister byte 16) m)
  | unaddressed {opcode location w registers} (ho : image.byte? m.ip = some opcode)
      (hb : BaseRule image opcode m location w registers)
      (hm : opcode &&& Opcode.memoryBit ≠ 0)
      (ha : ¬ (w.isFinite = true ∧ 0 ≤ w.value ∧ ⌊w.value⌋₊ < 1024)) :
      OperandRule image m (.error (.memoryOutOfBounds w 1024)
        { m with registers, ip := m.ip + Opcode.operandSize opcode })
  | direct {opcode location w registers} (ho : image.byte? m.ip = some opcode)
      (hb : BaseRule image opcode m location w registers)
      (hm : opcode &&& Opcode.memoryBit = 0) :
      OperandRule image m (.ok location
        { m with registers, ip := m.ip + Opcode.operandSize opcode })
  | indirect {opcode location w registers address} (ho : image.byte? m.ip = some opcode)
      (hb : BaseRule image opcode m location w registers)
      (hm : opcode &&& Opcode.memoryBit ≠ 0) (hf : w.isFinite = true) (hn : 0 ≤ w.value)
      (ha : ⌊w.value⌋₊ = address.val) :
      OperandRule image m (.ok (.memory address)
        { m with registers, ip := m.ip + Opcode.operandSize opcode })

/-! ## Modes and sums -/

section Modes

variable {opcode : UInt8}

theorem mode_ofOpcode?_eq (opcode : UInt8) :
    Mode.ofOpcode? opcode =
      if opcode &&& Opcode.registerBit ≠ 0 then
        if opcode &&& Opcode.literalBit ≠ 0 then some .sum else some .register
      else if opcode &&& Opcode.literalBit ≠ 0 then some .literal else none := by
  simp only [Mode.ofOpcode?, ← bne_iff_ne]
  cases opcode &&& Opcode.registerBit != 0 <;> cases opcode &&& Opcode.literalBit != 0 <;> rfl

theorem mode_of_register (hr : opcode &&& Opcode.registerBit ≠ 0)
    (hl : opcode &&& Opcode.literalBit = 0) :
    Mode.ofOpcode? opcode = some .register ∧ Opcode.operandSize opcode = 1 := by
  simp [mode_ofOpcode?_eq, Opcode.operandSize, hr, hl]

theorem mode_of_literal (hr : opcode &&& Opcode.registerBit = 0)
    (hl : opcode &&& Opcode.literalBit ≠ 0) :
    Mode.ofOpcode? opcode = some .literal ∧ Opcode.operandSize opcode = 8 := by
  simp [mode_ofOpcode?_eq, Opcode.operandSize, hr, hl]

theorem mode_of_sum (hr : opcode &&& Opcode.registerBit ≠ 0)
    (hl : opcode &&& Opcode.literalBit ≠ 0) :
    Mode.ofOpcode? opcode = some .sum ∧ Opcode.operandSize opcode = 9 := by
  simp [mode_ofOpcode?_eq, Opcode.operandSize, hr, hl]

theorem exists_mode
    (hm : opcode &&& Opcode.registerBit ≠ 0 ∨ opcode &&& Opcode.literalBit ≠ 0) :
    ∃ mode, Mode.ofOpcode? opcode = some mode ∧ Opcode.operandSize opcode = mode.size := by
  by_cases hr : opcode &&& Opcode.registerBit = 0
  · exact ⟨_, mode_of_literal hr (hm.resolve_left (not_not_intro hr))⟩
  · by_cases hl : opcode &&& Opcode.literalBit = 0
    · exact ⟨_, mode_of_register hr hl⟩
    · exact ⟨_, mode_of_sum hr hl⟩

end Modes

/-- A sum ends up in the scratch register, whatever that held before. -/
theorem Machine.loadSum_eq (m : Machine) (index : Register) (w : Word) :
    m.loadSum index w =
      { m with registers := m.registers.set scratch ((m.summand index).add w) scratch.isLt } := by
  have hcleared : (m.registers.set scratch .zero scratch.isLt)[index] = m.summand index := by
    unfold Machine.summand
    by_cases h : index = scratch
    · simp [h]
    · have hne : scratch.val ≠ index.val := fun hc => h (Fin.ext hc.symm)
      simp [h, Vector.getElem_set_ne _ _ hne, Machine.read]
  simp only [Machine.loadSum, hcleared, Vector.set_set]

/-! ## The rules and the decoder -/

section Rules

variable {image : Image} {opcode : UInt8} {m : Machine}

/-- A base that follows a rule is decoded, and loading it has the effect that the rule gives. -/
theorem BaseRule.decode {location : Location} {w : Word} {registers : Vector Word registerCount}
    (h : BaseRule image opcode m location w registers) :
    ∃ base, Operand.decode image opcode m.ip = .ok ⟨base, Opcode.isIndirect opcode⟩ ∧
      Machine.baseLocation base = location ∧
      m.loadBase base = { m with registers, ip := m.ip + Opcode.operandSize opcode } ∧
      (m.loadBase base).read location = w := by
  cases h with
  | @register byte index hr hl hb hi =>
      obtain ⟨hmode, hsize⟩ := mode_of_register hr hl
      have hlt : m.ip + 1 < image.size := (Array.getElem?_eq_some_iff.mp hb).1
      have hbase : Operand.baseAt image m.ip .register = .ok (.register index) := by
        refine except_bind_eq_ok.mpr ⟨index, ?_, rfl⟩
        rw [Image.byteAt_of_byte? hb]
        exact register_ofByte_eq_ok.mpr hi
      refine ⟨.register index, decode_eq_ok.mpr ⟨hmode, hlt, hbase, rfl⟩, rfl, ?_, rfl⟩
      rw [hsize]
      rfl
  | @literal w hr hl hw =>
      obtain ⟨hmode, hsize⟩ := mode_of_literal hr hl
      have hle : m.ip + 1 + 8 ≤ image.size := Image.exists_word_iff.mp ⟨w, hw⟩
      have hlt : m.ip + 8 < image.size := by omega
      have hbase : Operand.baseAt image m.ip .literal = .ok (.literal (m.ip + 1) w) := by
        rw [Operand.baseAt, hw.wordAt_eq]
      refine ⟨.literal (m.ip + 1) w, decode_eq_ok.mpr ⟨hmode, hlt, hbase, rfl⟩, rfl, ?_, rfl⟩
      rw [hsize]
      rfl
  | @sum byte index w hr hl hb hi hw =>
      obtain ⟨hmode, hsize⟩ := mode_of_sum hr hl
      have hle : m.ip + 2 + 8 ≤ image.size := Image.exists_word_iff.mp ⟨w, hw⟩
      have hlt : m.ip + 9 < image.size := by omega
      have hbase : Operand.baseAt image m.ip .sum = .ok (.sum index w) := by
        refine except_bind_eq_ok.mpr ⟨index, ?_, ?_⟩
        · rw [Image.byteAt_of_byte? hb]
          exact register_ofByte_eq_ok.mpr hi
        · rw [hw.wordAt_eq]
          rfl
      refine ⟨.sum index w, decode_eq_ok.mpr ⟨hmode, hlt, hbase, rfl⟩, rfl, ?_, ?_⟩
      · simp only [Machine.loadBase, Machine.loadSum_eq, hsize]
        rfl
      · simp [Machine.loadBase, Machine.loadSum_eq, Machine.read]

theorem exists_baseRule
    (hm : opcode &&& Opcode.registerBit ≠ 0 ∨ opcode &&& Opcode.literalBit ≠ 0)
    (hs : m.ip + Opcode.operandSize opcode < image.size)
    (hi : opcode &&& Opcode.registerBit ≠ 0 → (image.byteAt (m.ip + 1)).toNat < 16) :
    ∃ location w registers, BaseRule image opcode m location w registers := by
  by_cases hr : opcode &&& Opcode.registerBit = 0
  · have hl := hm.resolve_left (not_not_intro hr)
    rw [(mode_of_literal hr hl).2] at hs
    obtain ⟨w, hw⟩ := Image.exists_word_iff.mpr (show m.ip + 1 + 8 ≤ image.size by omega)
    exact ⟨_, _, _, .literal hr hl hw⟩
  · have hindex : (image.byteAt (m.ip + 1)).toNat = (⟨_, hi hr⟩ : Register).val := rfl
    by_cases hl : opcode &&& Opcode.literalBit = 0
    · rw [(mode_of_register hr hl).2] at hs
      exact ⟨_, _, _, .register hr hl (Image.byte?_of_lt hs) hindex⟩
    · rw [(mode_of_sum hr hl).2] at hs
      obtain ⟨w, hw⟩ := Image.exists_word_iff.mpr (show m.ip + 2 + 8 ≤ image.size by omega)
      have hlt : m.ip + 1 < image.size := by omega
      exact ⟨_, _, _, .sum hr hl (Image.byte?_of_lt hlt) hindex hw⟩

theorem exists_operandRule (ho : image.byte? m.ip = some opcode) :
    ∃ result, OperandRule image m result := by
  -- The cases are split in the order of the checks.
  by_cases hm : opcode &&& Opcode.registerBit ≠ 0 ∨ opcode &&& Opcode.literalBit ≠ 0
  · by_cases hs : m.ip + Opcode.operandSize opcode < image.size
    · by_cases hi : opcode &&& Opcode.registerBit ≠ 0 → (image.byteAt (m.ip + 1)).toNat < 16
      · obtain ⟨location, w, registers, hb⟩ := exists_baseRule hm hs hi
        by_cases hmemory : opcode &&& Opcode.memoryBit = 0
        · exact ⟨_, .direct ho hb hmemory⟩
        · by_cases ha : w.isFinite = true ∧ 0 ≤ w.value ∧ ⌊w.value⌋₊ < 1024
          · obtain ⟨hf, hn, hlt⟩ := ha
            have haddress : ⌊w.value⌋₊ = (⟨_, hlt⟩ : Address).val := rfl
            exact ⟨_, .indirect ho hb hmemory hf hn haddress⟩
          · exact ⟨_, .unaddressed ho hb hmemory ha⟩
      · obtain ⟨hr, hi⟩ := Classical.not_imp.mp hi
        have hlt : m.ip + 1 < image.size := by
          simp only [Opcode.operandSize, if_pos hr] at hs
          omega
        exact ⟨_, .unregistered ho hr hs (Image.byte?_of_lt hlt) hi⟩
    · exact ⟨_, .truncated ho hm hs⟩
  · obtain ⟨hr, hl⟩ := not_or.mp hm
    exact ⟨_, .unmoded ho (not_not.mp hr) (not_not.mp hl)⟩

theorem decode_of_truncated
    (hm : opcode &&& Opcode.registerBit ≠ 0 ∨ opcode &&& Opcode.literalBit ≠ 0) {offset : Nat}
    (hs : ¬ offset + Opcode.operandSize opcode < image.size) :
    Operand.decode image opcode offset =
      .error (.unexpectedEnd offset (Opcode.operandSize opcode) (image.size - (offset + 1))) := by
  obtain ⟨mode, hmode, hsize⟩ := exists_mode hm
  have hpos := mode_size_pos mode
  refine except_bind_eq_error.mpr (.inr ⟨mode, mode_decode_eq_ok.mpr hmode, ?_⟩)
  refine except_bind_eq_error.mpr (.inl ?_)
  rw [hsize] at hs ⊢
  exact if_neg (by omega)

theorem decode_of_unregistered (hr : opcode &&& Opcode.registerBit ≠ 0) {offset : Nat}
    (hs : offset + Opcode.operandSize opcode < image.size)
    (hi : ¬ (image.byteAt (offset + 1)).toNat < 16) :
    Operand.decode image opcode offset =
      .error (.invalidRegister (image.byteAt (offset + 1)) 16) := by
  have hbyte : Register.ofByte (image.byteAt (offset + 1)) =
      .error (.invalidRegister (image.byteAt (offset + 1)) 16) := dif_neg hi
  obtain ⟨mode, hmode, hsize⟩ := exists_mode (.inl hr)
  have hbase : Operand.baseAt image offset mode =
      .error (.invalidRegister (image.byteAt (offset + 1)) 16) := by
    cases mode with
    | register | sum => exact except_bind_eq_error.mpr (.inl hbyte)
    | literal =>
        -- A byte with the register bit does not ask for a literal alone.
        rw [mode_ofOpcode?_eq, if_pos hr] at hmode
        split at hmode <;> cases hmode
  rw [hsize] at hs
  refine except_bind_eq_error.mpr (.inr ⟨mode, mode_decode_eq_ok.mpr hmode, ?_⟩)
  refine except_bind_eq_error.mpr
    (.inr ⟨(), (ensureAvailable_eq_ok (mode_size_pos mode)).mpr hs, ?_⟩)
  exact except_bind_eq_error.mpr (.inl hbase)

theorem OperandRule.execution {result : EStateM.Result Fault Machine Location}
    (h : OperandRule image m result) (ho : image.byte? m.ip = some opcode) :
    Action.resolve image opcode m = result := by
  have hopcode : ∀ {opcode'}, image.byte? m.ip = some opcode' → opcode' = opcode :=
    fun h => Option.some.inj (h.symm.trans ho)
  apply ResolveDerivation.execution
  cases h with
  | unmoded h hr hl =>
      obtain rfl := hopcode h
      refine .undecoded (except_bind_eq_error.mpr (.inl ?_))
      simp [Mode.decode, mode_ofOpcode?_eq, hr, hl]
  | truncated h hm hs =>
      obtain rfl := hopcode h
      exact .undecoded (decode_of_truncated hm hs)
  | unregistered h hr hs hb hi =>
      obtain rfl := hopcode h
      obtain rfl := Image.byteAt_of_byte? hb
      exact .undecoded (decode_of_unregistered hr hs hi)
  | unaddressed h hb hm ha =>
      obtain rfl := hopcode h
      obtain ⟨base, hd, rfl, hload, rfl⟩ := hb.decode
      rw [← hload]
      refine .unaddressed hd (by simp [Opcode.isIndirect, hm]) ?_
      cases hw : Address.ofWord ((m.loadBase base).read (Machine.baseLocation base)) with
      | ok address =>
          obtain ⟨hf, hn, hfloor⟩ := Word.index?_eq_some.mp (address_eq_ok.mp hw)
          exact absurd ⟨hf, hn, hfloor ▸ address.isLt⟩ ha
      | error fault => rw [address_error hw]
  | direct h hb hm =>
      obtain rfl := hopcode h
      obtain ⟨base, hd, rfl, hload, rfl⟩ := hb.decode
      rw [← hload]
      exact .direct hd (by simp [Opcode.isIndirect, hm])
  | indirect h hb hm hf hn ha =>
      obtain rfl := hopcode h
      obtain ⟨base, hd, rfl, hload, rfl⟩ := hb.decode
      rw [← hload]
      have hindex := address_eq_ok.mpr (Word.index?_eq_some.mpr ⟨hf, hn, ha⟩)
      exact .indirect hd (by simp [Opcode.isIndirect, hm]) hindex

/-- The rules say what resolving the operand at the position of a machine does: which condition
fails first and with which fault, and otherwise where the operand is found, that the position rests
on its last byte, and that of all else only the scratch register has changed, to the sum if the
operand is one. -/
theorem operandRule_iff (ho : image.byte? m.ip = some opcode)
    (result : EStateM.Result Fault Machine Location) :
    OperandRule image m result ↔ Action.resolve image opcode m = result := by
  refine ⟨fun h => h.execution ho, ?_⟩
  rintro rfl
  obtain ⟨result, h⟩ := exists_operandRule ho
  rw [h.execution ho]
  exact h

/-- The scratch register plus one, which does not depend on what the register held, and behind it a
literal of two and a half, which leads to cell two. -/
theorem operandRule_iff_of_scratch_sum :
    let image : Image := ⟨#[0x48, 0x59, 0x56, 0x4d, 3, 0x61, 0, 0, 0, 0, 0, 0, 0, 0xf0, 0x3f,
      0xa1, 0, 0, 0, 0, 0, 0, 0x04, 0x40]⟩
    let m : Machine := { registers := Vector.replicate registerCount ⟨0x401c000000000000⟩ }
    let sum : Word := Word.zero.add ⟨0x3ff0000000000000⟩
    Action.resolve image 0x61 m = .ok (.register scratch)
        { m with registers := m.registers.set scratch sum scratch.isLt, ip := 14 } ∧
      Action.resolve image 0xa1 { m with ip := 15 } = .ok (.memory 2) { m with ip := 23 } := by
  intro image m sum
  have hone : image.Holds 7 (Image.spell 8 0x3ff0000000000000) :=
    ⟨[0x48, 0x59, 0x56, 0x4d, 3, 0x61, 0], [0xa1, 0, 0, 0, 0, 0, 0, 0x04, 0x40], by decide, rfl⟩
  have hhalves : image.Holds 16 (Image.spell 8 0x4004000000000000) :=
    ⟨[0x48, 0x59, 0x56, 0x4d, 3, 0x61, 0, 0, 0, 0, 0, 0, 0, 0xf0, 0x3f, 0xa1], [], by decide, rfl⟩
  obtain ⟨hf, hn, ha⟩ := Word.index?_eq_some.mp
    (show (⟨0x4004000000000000⟩ : Word).index? = some (2 : Address).val by decide +kernel)
  constructor
  · have hbase := @BaseRule.sum image 0x61 m 0 scratch ⟨0x3ff0000000000000⟩ (by decide) (by decide)
      rfl rfl hone
    exact (operandRule_iff rfl _).mp (.direct rfl hbase (by decide))
  · have hbase := @BaseRule.literal image 0xa1 { m with ip := 15 } ⟨0x4004000000000000⟩ (by decide)
      (by decide) hhalves
    exact (operandRule_iff rfl _).mp (.indirect rfl hbase (by decide) hf hn ha)

end Rules

end FloatMachine
