import FloatMachine.Proofs.Execution

/-! What the bytes of an operand decide: its mode, its size, and that it ends inside the image. And
what a byte or a word names: a register, a cell of the memory, a place in the code. -/

namespace FloatMachine

theorem mode_decode_eq_ok {opcode : UInt8} {offset : Nat} {mode : Mode} :
    Mode.decode opcode offset = .ok mode ↔ Mode.ofOpcode? opcode = some mode := by
  unfold Mode.decode
  cases Mode.ofOpcode? opcode <;> simp

theorem mode_size_pos (mode : Mode) : 0 < mode.size := by
  cases mode <;> decide

theorem mode_size_le (mode : Mode) : mode.size ≤ 9 := by
  cases mode <;> decide

theorem ensureAvailable_eq_ok {image : Image} {offset size : Nat} (hp : 0 < size) :
    Operand.ensureAvailable image offset size = .ok () ↔ offset + size < image.size := by
  unfold Operand.ensureAvailable
  by_cases h : size ≤ image.size - (offset + 1)
  · simp only [h, ite_true, true_iff]
    omega
  · simp only [h, ite_false, reduceCtorEq, false_iff]
    omega

theorem baseAt_mode {image : Image} {offset : Nat} {mode : Mode} {base : Base}
    (h : Operand.baseAt image offset mode = .ok base) : base.mode = mode := by
  cases mode with
  | literal =>
      obtain rfl : Base.literal _ _ = base := by simpa [Operand.baseAt] using h
      rfl
  | register | sum =>
      obtain ⟨index, _, hb⟩ := except_bind_eq_ok.mp h
      cases hb
      rfl

/-- Decoding succeeds exactly if a mode is given, the operand ends inside the image and its base
can be read. -/
theorem decode_eq_ok {image : Image} {opcode : UInt8} {offset : Nat} {operand : Operand} :
    Operand.decode image opcode offset = .ok operand ↔
      Mode.ofOpcode? opcode = some operand.base.mode ∧
      offset + operand.base.mode.size < image.size ∧
      Operand.baseAt image offset operand.base.mode = .ok operand.base ∧
      operand.indirect = Opcode.isIndirect opcode := by
  constructor
  · intro h
    obtain ⟨mode, hm, h⟩ := except_bind_eq_ok.mp h
    obtain ⟨_, ha, h⟩ := except_bind_eq_ok.mp h
    obtain ⟨base, hb, h⟩ := except_bind_eq_ok.mp h
    cases h
    obtain rfl := baseAt_mode hb
    exact ⟨mode_decode_eq_ok.mp hm, (ensureAvailable_eq_ok (mode_size_pos _)).mp ha, hb, rfl⟩
  · rintro ⟨hm, ha, hb, hi⟩
    refine except_bind_eq_ok.mpr ⟨_, mode_decode_eq_ok.mpr hm, ?_⟩
    refine except_bind_eq_ok.mpr ⟨_, (ensureAvailable_eq_ok (mode_size_pos _)).mpr ha, ?_⟩
    refine except_bind_eq_ok.mpr ⟨_, hb, ?_⟩
    rw [← hi]
    rfl

theorem sizeAt_eq_ok {image : Image} {opcode : UInt8} {offset size : Nat} :
    Operand.sizeAt image opcode offset = .ok size ↔
      ∃ mode, Mode.ofOpcode? opcode = some mode ∧ offset + mode.size < image.size ∧
        size = mode.size := by
  constructor
  · intro h
    obtain ⟨mode, hm, h⟩ := except_bind_eq_ok.mp h
    obtain ⟨_, ha, h⟩ := except_bind_eq_ok.mp h
    cases h
    exact ⟨mode, mode_decode_eq_ok.mp hm, (ensureAvailable_eq_ok (mode_size_pos _)).mp ha, rfl⟩
  · rintro ⟨mode, hm, ha, rfl⟩
    refine except_bind_eq_ok.mpr ⟨_, mode_decode_eq_ok.mpr hm, ?_⟩
    exact except_bind_eq_ok.mpr ⟨_, (ensureAvailable_eq_ok (mode_size_pos _)).mpr ha, rfl⟩

/-! ## Bytes and words as indices -/

theorem register_ofByte_eq_ok {byte : UInt8} {index : Register} :
    Register.ofByte byte = .ok index ↔ byte.toNat = index.val := by
  unfold Register.ofByte
  by_cases h : byte.toNat < registerCount
  · simp [h, Fin.ext_iff]
  · simp only [h, dite_false, reduceCtorEq, false_iff]
    intro heq
    exact h (heq ▸ index.isLt)

theorem address_eq_ok {w : Word} {address : Address} :
    Address.ofWord w = .ok address ↔ w.index? = some address.val := by
  unfold Address.ofWord
  cases w.index? with
  | none => simp
  | some n =>
      by_cases h : n < memorySize
      · simp [h, Fin.ext_iff]
      · simp only [h, dite_false, reduceCtorEq, Option.some.injEq, false_iff]
        rintro rfl
        exact h address.isLt

theorem target_eq_ok {image : Image} {w : Word} {offset : Nat} :
    Action.target image w = .ok offset ↔ w.index? = some offset ∧ offset < image.size := by
  unfold Action.target
  cases w.index? with
  | none => simp
  | some n =>
      by_cases h : n < image.size
      · simp only [h, ite_true, Except.ok.injEq, Option.some.injEq]
        constructor
        · rintro rfl
          exact ⟨rfl, h⟩
        · exact And.left
      · simp only [h, ite_false, reduceCtorEq, Option.some.injEq, false_iff]
        rintro ⟨rfl, hlt⟩
        exact h hlt

end FloatMachine
