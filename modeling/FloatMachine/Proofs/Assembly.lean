import FloatMachine.Proofs.Bytes
import FloatMachine.Proofs.Operands

/-! Programs as lists of lines, and the image that spells a program: the header, then line by line
an opcode byte and the bytes of its operand. Where a line has been put, the decoder finds that line
again, with its instruction, its mode and its operand. -/

namespace FloatMachine

/-! ## Opcodes -/

/-- The opcode byte of an instruction with its three upper bits. -/
def Opcode.assemble (instruction : Instruction) (literal register memory : Bool) : UInt8 :=
  instruction.opcode ||| (if literal then literalBit else 0)
    ||| (if register then registerBit else 0) ||| (if memory then memoryBit else 0)

def Mode.hasLiteral : Mode → Bool
  | register => false
  | literal | sum => true

def Mode.hasRegister : Mode → Bool
  | literal => false
  | register | sum => true

theorem instruction_mem_all (instruction : Instruction) : instruction ∈ Instruction.all := by
  cases instruction with
  | halt | input | output => decide
  | command c =>
      cases c with
      | binary operation => cases operation <;> decide
      | unary operation => cases operation <;> decide
      | jumpIf condition => cases condition <;> decide
      | push | pop | dup | jump | call | ret => decide

theorem ofOpcode?_assemble (instruction : Instruction) (literal register memory : Bool) :
    Instruction.ofOpcode? (Opcode.assemble instruction literal register memory
      &&& Opcode.commandMask) = some instruction := by
  have h : ∀ i ∈ Instruction.all, ∀ l r m : Bool,
      Instruction.ofOpcode? (Opcode.assemble i l r m &&& Opcode.commandMask) = some i := by
    decide
  exact h instruction (instruction_mem_all instruction) literal register memory

theorem mode_ofOpcode?_assemble (instruction : Instruction) (mode : Mode) (memory : Bool) :
    Mode.ofOpcode? (Opcode.assemble instruction mode.hasLiteral mode.hasRegister memory) =
      some mode := by
  have h : ∀ i ∈ Instruction.all, ∀ m : Bool, Mode.ofOpcode?
      (Opcode.assemble i mode.hasLiteral mode.hasRegister m) = some mode := by
    cases mode <;> decide
  exact h instruction (instruction_mem_all instruction) memory

theorem isIndirect_assemble (instruction : Instruction) (literal register memory : Bool) :
    Opcode.isIndirect (Opcode.assemble instruction literal register memory) = memory := by
  have h : ∀ i ∈ Instruction.all, ∀ l r m : Bool,
      Opcode.isIndirect (Opcode.assemble i l r m) = m := by
    decide
  exact h instruction (instruction_mem_all instruction) literal register memory

/-! ## Lines -/

/-- An operand as it is written. A literal is any word, so its spelling is any eight bytes
(`Image.exists_spell_eq`). -/
inductive Source where
  | register (index : Register)
  | literal (value : Word)
  | sum (index : Register) (value : Word)
deriving DecidableEq

namespace Source

def mode : Source → Mode
  | register _ => .register
  | literal _ => .literal
  | sum .. => .sum

/-- The bytes behind the opcode byte: a register number, then a literal. -/
def bytes : Source → List UInt8
  | register index => [UInt8.ofNat index]
  | literal value => Image.spell Image.wordSize value.bits.toNat
  | sum index value => UInt8.ofNat index :: Image.spell Image.wordSize value.bits.toNat

/-- What is to be decoded behind an opcode byte at an offset. -/
def base (offset : Nat) : Source → Base
  | register index => .register index
  | literal value => .literal (offset + 1) value
  | sum index value => .sum index value

@[simp] theorem base_mode (offset : Nat) (source : Source) :
    (source.base offset).mode = source.mode := by
  cases source <;> rfl

@[simp] theorem length_bytes (source : Source) : source.bytes.length = source.mode.size := by
  cases source <;> simp [bytes, mode, Mode.size, Image.wordSize]

end Source

/-- A line of a program: an instruction without an operand, the upper bits of whose opcode are set
at will, or one with an operand. -/
inductive Line where
  | bare (instruction : Instruction) (h : instruction.hasOperand = false)
      (literal register memory : Bool)
  | operand (instruction : Instruction) (h : instruction.hasOperand = true) (source : Source)
      (indirect : Bool)
deriving DecidableEq

namespace Line

def instruction : Line → Instruction
  | bare instruction .. => instruction
  | operand instruction .. => instruction

def opcode : Line → UInt8
  | bare instruction _ literal register memory =>
    Opcode.assemble instruction literal register memory
  | operand instruction _ source indirect =>
    Opcode.assemble instruction source.mode.hasLiteral source.mode.hasRegister indirect

def bytes : Line → List UInt8
  | line@(bare ..) => [line.opcode]
  | line@(operand _ _ source _) => line.opcode :: source.bytes

/-- The operand of a line whose opcode byte stands at an offset. -/
def operandAt? (offset : Nat) : Line → Option Operand
  | bare .. => none
  | operand _ _ source indirect => some ⟨source.base offset, indirect⟩

/-- The decoder finds the line at an offset: its instruction, and if it has an operand, the mode of
the operand and the operand itself. -/
structure DecodedAt (line : Line) (image : Image) (offset : Nat) : Prop where
  fetch_eq : image.fetch offset = .ok ⟨offset, line.opcode, line.instruction⟩
  mode_eq : ∀ operand, line.operandAt? offset = some operand →
    Mode.ofOpcode? line.opcode = some operand.base.mode
  operand_eq : ∀ operand, line.operandAt? offset = some operand →
    Operand.decode image line.opcode offset = .ok operand

theorem bytes_eq_cons (line : Line) : ∃ rest, line.bytes = line.opcode :: rest := by
  cases line with
  | bare => exact ⟨[], rfl⟩
  | operand => exact ⟨_, rfl⟩

theorem ofOpcode?_opcode (line : Line) :
    Instruction.ofOpcode? (line.opcode &&& Opcode.commandMask) = some line.instruction := by
  cases line with
  | bare => exact ofOpcode?_assemble ..
  | operand => exact ofOpcode?_assemble ..

theorem fetch_eq {line : Line} {image : Image} {offset : Nat}
    (h : image.Holds offset line.bytes) :
    image.fetch offset = .ok ⟨offset, line.opcode, line.instruction⟩ := by
  obtain ⟨rest, hb⟩ := line.bytes_eq_cons
  rw [hb] at h
  exact fetch_eq_ok.mpr ⟨rfl, h.byte?_eq, ofOpcode?_opcode line⟩

end Line

theorem register_ofByte_ofNat (index : Register) :
    Register.ofByte (UInt8.ofNat index) = .ok index := by
  have hlt : index.val < 16 := index.isLt
  rw [register_ofByte_eq_ok, UInt8.toNat_ofNat']
  omega

theorem baseAt_source {image : Image} {offset : Nat} {source : Source}
    (h : image.Holds (offset + 1) source.bytes) :
    Operand.baseAt image offset source.mode = .ok (source.base offset) := by
  cases source with
  | register index =>
      simp only [Source.bytes] at h
      simp only [Source.mode, Operand.baseAt, h.byteAt_eq, register_ofByte_ofNat]
      rfl
  | literal value =>
      simp only [Source.bytes] at h
      simp only [Source.mode, Operand.baseAt, h.wordAt_eq]
      rfl
  | sum index value =>
      simp only [Source.bytes] at h
      simp only [Source.mode, Operand.baseAt, h.byteAt_eq, register_ofByte_ofNat,
        h.tail.wordAt_eq]
      rfl

theorem Line.decodedAt {line : Line} {image : Image} {offset : Nat}
    (h : image.Holds offset line.bytes) : line.DecodedAt image offset := by
  have hfetch := fetch_eq h
  cases line with
  | bare => exact ⟨hfetch, by simp [operandAt?], by simp [operandAt?]⟩
  | operand instruction hi source indirect =>
      refine ⟨hfetch, ?_, ?_⟩
      · rintro _ ⟨⟩
        rw [Source.base_mode]
        exact mode_ofOpcode?_assemble ..
      · rintro _ ⟨⟩
        have hsize := h.le_size
        simp only [bytes, List.length_cons, Source.length_bytes] at hsize
        refine decode_eq_ok.mpr ⟨?_, ?_, ?_, ?_⟩
        · rw [Source.base_mode]
          exact mode_ofOpcode?_assemble ..
        · rw [Source.base_mode]
          omega
        · rw [Source.base_mode]
          exact baseAt_source h.tail
        · exact (isIndirect_assemble ..).symm

/-! ## Programs -/

/-- The number of bytes a program takes up behind the header. -/
def Line.extent (program : List Line) : Nat := (program.flatMap Line.bytes).length

/-- The image of a program: the header, then its lines. -/
def Image.assemble (program : List Line) : Image :=
  ⟨(Image.headerBytes ++ program.flatMap Line.bytes).toArray⟩

/-- The line of a program that starts at an offset into the code. -/
def Line.StartsAt (program : List Line) (offset : Nat) (line : Line) : Prop :=
  ∃ before after, program = before ++ line :: after ∧ offset = extent before

theorem size_assemble (program : List Line) :
    (Image.assemble program).size = Image.headerSize + Line.extent program := by
  rw [Image.size, Image.assemble, List.size_toArray, List.length_append]
  rfl

theorem Line.StartsAt.holds {program : List Line} {offset : Nat} {line : Line}
    (h : StartsAt program offset line) :
    (Image.assemble program).Holds (Image.headerSize + offset) line.bytes := by
  obtain ⟨before, after, rfl, rfl⟩ := h
  refine ⟨Image.headerBytes ++ before.flatMap Line.bytes, after.flatMap Line.bytes, ?_, ?_⟩
  · simp [Image.assemble, List.flatMap_append, List.flatMap_cons, List.append_assoc]
  · rw [List.length_append]
    rfl

/-- Behind a line there is another line, or the program is at its end. -/
theorem Line.StartsAt.next {program : List Line} {offset : Nat} {line : Line}
    (h : StartsAt program offset line) :
    offset + line.bytes.length = extent program ∨
      ∃ line', StartsAt program (offset + line.bytes.length) line' := by
  obtain ⟨before, after, rfl, rfl⟩ := h
  have hext : extent before + line.bytes.length = extent (before ++ [line]) := by
    simp [extent, List.flatMap_append]
  cases after with
  | nil => exact .inl hext
  | cons line' after => exact .inr ⟨line', before ++ [line], after, by simp, hext⟩

theorem Line.startsAt_zero (program : List Line) :
    0 = extent program ∨ ∃ line, StartsAt program 0 line := by
  cases program with
  | nil => exact .inl rfl
  | cons line after => exact .inr ⟨line, [], after, rfl, rfl⟩

end FloatMachine
