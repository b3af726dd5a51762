import FloatMachine.Proofs.Assembly
import FloatMachine.Proofs.Bounds
import FloatMachine.Proofs.Faults
import FloatMachine.Proofs.Runs

/-! Alignment of runs with the lines of a program. As long as jumps and calls aim at lines, the
position is always at the start of a line or at the end of the image, and so is every place behind
a return point. -/

namespace FloatMachine

/-! ## Aims -/

/-- The word an operand stands for, if it is not a cell that does not exist. -/
def Machine.value? (m : Machine) (operand : Operand) : Option Word :=
  let base := (m.loadBase operand.base).read (Machine.baseLocation operand.base)
  if operand.indirect then
    (Address.ofWord base).toOption.map fun address => m.read (.memory address)
  else some base

/-- The word that the operand behind the opcode at the current position stands for. -/
def Machine.operandValue? (image : Image) (opcode : UInt8) (m : Machine) : Option Word :=
  (Operand.decode image opcode m.ip).toOption.bind m.value?

/-- The word by which a command says where to go: a call and a jump always do, a conditional jump
does if its condition holds. -/
def Command.aim? (image : Image) (opcode : UInt8) (m : Machine) : Command → Option Word
  | jump | call => m.operandValue? image opcode
  | jumpIf condition =>
    match m.stack with
    | b :: a :: _ =>
      if condition.holds (a.compare b) then m.operandValue? image opcode else none
    | _ => none
  | push | pop | dup | binary _ | unary _ | ret => none

/-- The word by which the next instruction of a session says where to go. -/
def Session.aim? {σ : Type} (s : Session σ) : Option Word :=
  match s.image.fetch s.machine.ip with
  | .ok ⟨_, opcode, .command command⟩ => command.aim? s.image opcode s.machine
  | _ => none

theorem operandValue?_congr {image : Image} {opcode : UInt8} {m m' : Machine}
    (hr : m'.registers = m.registers) (hm : m'.memory = m.memory) (hip : m'.ip = m.ip) :
    m'.operandValue? image opcode = m.operandValue? image opcode := by
  obtain ⟨⟨registers, memory, stack⟩, ip, frames⟩ := m
  obtain ⟨⟨registers', memory', stack'⟩, ip', frames'⟩ := m'
  obtain rfl : registers' = registers := hr
  obtain rfl : memory' = memory := hm
  obtain rfl : ip' = ip := hip
  simp only [Machine.operandValue?]
  congr 1
  funext ⟨base, indirect⟩
  cases base <;> rfl

theorem ResolveDerivation.operandValue? {image : Image} {opcode : UInt8} {m m' : Machine}
    {location : Location} (h : ResolveDerivation image opcode m (.ok location m')) :
    m.operandValue? image opcode = some (m'.read location) := by
  cases h with
  | direct h hd => simp [Machine.operandValue?, h, Except.toOption, Machine.value?, hd]
  | indirect h hi ha =>
      simp only [Machine.operandValue?, h, Except.toOption, Option.bind_some, Machine.value?, hi,
        ite_true, ha, Option.map_some]
      simp only [Machine.read, Machine.loadBase_memory]

theorem JumpDerivation.lands {image : Image} {opcode : UInt8} {m m' : Machine}
    (h : JumpDerivation image opcode m (.ok () m')) :
    ∃ w offset, m.operandValue? image opcode = some w ∧ w.index? = some offset ∧
      m'.ip + 1 = Image.headerSize + offset := by
  cases h with
  | taken h ht =>
      refine ⟨_, _, h.operandValue?, (target_eq_ok.mp ht).1, ?_⟩
      simp only [Image.headerSize]
      omega

/-! ## Ways of a command -/

/-- Where a command that succeeds leaves the position: on its opcode byte, on the last byte of its
operand, in front of the place it aims at, or on a return point. -/
inductive Passage (image : Image) (opcode : UInt8) (m : Machine) (command : Command)
    (ip : Nat) : Prop where
  | within (ho : command.hasOperand = false) (hip : ip = m.ip)
  | behind {mode} (ho : command.hasOperand = true) (hm : Mode.ofOpcode? opcode = some mode)
      (hip : ip = m.ip + mode.size)
  | landed {w offset} (ha : command.aim? image opcode m = some w)
      (hw : w.index? = some offset) (hip : ip + 1 = Image.headerSize + offset)
  | returned (hf : ip ∈ m.frames)

theorem ResolveDerivation.passage {image : Image} {opcode : UInt8} {m m' : Machine}
    {location : Location} (h : ResolveDerivation image opcode m (.ok location m'))
    {command : Command} (ho : command.hasOperand = true) :
    Passage image opcode m command m'.ip := by
  cases h with
  | direct h | indirect h =>
      obtain ⟨hm, _⟩ := decode_eq_ok.mp h
      exact .behind ho hm (Machine.loadBase_ip _ _)

theorem CommandDerivation.passage {image : Image} {opcode : UInt8} {m m' : Machine}
    {command : Command} (h : CommandDerivation image opcode m command (.ok () m')) :
    Passage image opcode m command m'.ip := by
  cases h with
  | push h | popRegister h | popMemory h => exact h.passage rfl
  | dup | binary | unary => exact .within rfl rfl
  | jump h =>
      obtain ⟨w, offset, ha, hw, hip⟩ := h.lands
      exact .landed ha hw hip
  | jumpIfTaken hs hc h =>
      obtain ⟨w, offset, ha, hw, hip⟩ := h.lands
      refine .landed ?_ hw hip
      simp only [Command.aim?, hs, hc, ite_true]
      rw [← ha]
      exact operandValue?_congr rfl rfl rfl
  | jumpIfSkipped _ _ h =>
      obtain ⟨mode, hm, _, rfl⟩ := sizeAt_eq_ok.mp h
      exact .behind rfl hm rfl
  | call _ _ h =>
      obtain ⟨w, offset, ha, hw, hip⟩ := h.lands
      refine .landed ?_ hw hip
      rw [← ha]
      exact operandValue?_congr rfl rfl rfl
  | ret hf => exact .returned (by simp [hf])

/-! ## Boundaries -/

namespace Line

/-- A position at which a line starts, or the end of the image. -/
def Boundary (program : List Line) (position : Nat) : Prop :=
  position = (Image.assemble program).size ∨
    ∃ offset line, StartsAt program offset line ∧ position = Image.headerSize + offset

theorem boundary_first (program : List Line) : Boundary program Image.headerSize := by
  rcases startsAt_zero program with h | ⟨line, h⟩
  · left
    rw [size_assemble, ← h, Nat.add_zero]
  · exact .inr ⟨0, line, h, rfl⟩

theorem StartsAt.boundary_next {program : List Line} {offset : Nat} {line : Line}
    (h : StartsAt program offset line) :
    Boundary program (Image.headerSize + offset + line.bytes.length) := by
  rw [Nat.add_assoc]
  rcases h.next with heq | ⟨line', h'⟩
  · left
    rw [size_assemble, heq]
  · exact .inr ⟨_, line', h', rfl⟩

theorem Boundary.of_fetch {program : List Line} {position : Nat} {fetched : Fetched}
    (hb : Boundary program position)
    (hf : (Image.assemble program).fetch position = .ok fetched) :
    ∃ offset line, StartsAt program offset line ∧ position = Image.headerSize + offset ∧
      fetched = ⟨position, line.opcode, line.instruction⟩ := by
  rcases hb with rfl | ⟨offset, line, hl, rfl⟩
  · exact absurd (fetch_lt_size hf) (Nat.lt_irrefl _)
  · refine ⟨offset, line, hl, rfl, ?_⟩
    have heq := (decodedAt hl.holds).fetch_eq
    exact Except.ok.inj (hf.symm.trans heq)

theorem length_bytes_bare {line : Line} (h : line.instruction.hasOperand = false) :
    line.bytes.length = 1 := by
  cases line with
  | bare => rfl
  | operand _ ho => exact absurd (ho.symm.trans h) (by decide)

theorem length_bytes_operand {line : Line} {mode : Mode}
    (h : line.instruction.hasOperand = true) (hm : Mode.ofOpcode? line.opcode = some mode) :
    line.bytes.length = mode.size + 1 := by
  cases line with
  | bare _ ho => exact absurd (ho.symm.trans h) (by decide)
  | operand instruction _ source indirect =>
      have heq := mode_ofOpcode?_assemble instruction source.mode indirect
      obtain rfl : source.mode = mode := Option.some.inj (heq.symm.trans hm)
      rw [bytes, List.length_cons, Source.length_bytes]

theorem exists_operandAt? {line : Line} (h : line.instruction.hasOperand = true) (offset : Nat) :
    ∃ operand, line.operandAt? offset = some operand := by
  cases line with
  | bare _ ho => exact absurd (ho.symm.trans h) (by decide)
  | operand => exact ⟨_, rfl⟩

end Line

/-! ## Aligned machines -/

/-- The machine is between lines, and stays so when calls return. -/
structure Machine.Aligned (program : List Line) (m : Machine) : Prop where
  ip_boundary : Line.Boundary program m.ip
  frame_boundary : ∀ returnPoint ∈ m.frames, Line.Boundary program (returnPoint + 1)

theorem aligned_fresh (program : List Line) : ({} : Machine).Aligned program :=
  ⟨Line.boundary_first program, by simp⟩

/-- The integer part of a word is the offset at which a line starts. -/
def Line.NamedBy (program : List Line) (w : Word) : Prop :=
  ∃ offset line, w.index? = some offset ∧ StartsAt program offset line

/-- A command that starts on a line and aims at lines ends in front of a boundary. -/
theorem CommandDerivation.aligned {program : List Line} {line : Line} {offset : Nat}
    {m m' : Machine} {command : Command}
    (h : CommandDerivation (Image.assemble program) line.opcode m command (.ok () m'))
    (hl : Line.StartsAt program offset line) (hip : m.ip = Image.headerSize + offset)
    (hc : line.instruction = .command command) (ha : m.Aligned program)
    (ht : ∀ w, command.aim? (Image.assemble program) line.opcode m = some w →
      Line.NamedBy program w) :
    { m' with ip := m'.ip + 1 }.Aligned program := by
  have hnext := hl.boundary_next
  have hhas : line.instruction.hasOperand = command.hasOperand := by rw [hc]; rfl
  constructor
  · show Line.Boundary program (m'.ip + 1)
    cases h.passage with
    | within ho heq =>
        rwa [Line.length_bytes_bare (hhas.trans ho), ← hip, ← heq] at hnext
    | behind ho hm heq =>
        rwa [Line.length_bytes_operand (hhas.trans ho) hm, ← hip, ← Nat.add_assoc, ← heq] at hnext
    | landed haim hw heq =>
        obtain ⟨_, line', hw', hl'⟩ := ht _ haim
        obtain rfl := Option.some.inj (hw.symm.trans hw')
        exact .inr ⟨_, line', hl', heq⟩
    | returned hf => exact ha.frame_boundary _ hf
  · show ∀ returnPoint ∈ m'.frames, _
    intro returnPoint hr
    rcases h.frames_cases with heq | ⟨_, _, heq, _⟩ | ⟨rfl, mode, hm, _, heq⟩
    · exact ha.frame_boundary _ (heq ▸ hr)
    · exact ha.frame_boundary _ (heq ▸ List.mem_cons_of_mem _ hr)
    · -- The return point is the last byte of the call, so the next line starts behind it.
      rw [reached_ok] at heq
      rw [heq] at hr
      rcases List.mem_cons.mp hr with rfl | hr
      · rwa [Line.length_bytes_operand (hhas.trans rfl) hm, ← hip, ← Nat.add_assoc] at hnext
      · exact ha.frame_boundary _ hr

theorem StepDerivation.aligned {σ : Type} [Host σ] {program : List Line} {s s' : Session σ}
    (h : StepDerivation s (.ok .next s')) (himage : s.image = Image.assemble program)
    (ha : s.machine.Aligned program) (ht : ∀ w, s.aim? = some w → Line.NamedBy program w) :
    s'.machine.Aligned program := by
  cases h with
  | input h | output h =>
      rw [himage] at h
      obtain ⟨offset, line, hl, hip, hf⟩ := ha.ip_boundary.of_fetch h
      obtain ⟨_, _, hi⟩ := Fetched.mk.inj hf
      have hnext := hl.boundary_next
      rw [Line.length_bytes_bare (by rw [← hi]; rfl), ← hip] at hnext
      exact ⟨hnext, ha.frame_boundary⟩
  | command h hc =>
      simp only [Session.aim?, h] at ht
      rw [himage] at h hc ht
      obtain ⟨offset, line, hl, hip, hf⟩ := ha.ip_boundary.of_fetch h
      obtain ⟨_, rfl, hi⟩ := Fetched.mk.inj hf
      exact hc.aligned hl hip hi.symm ha ht

/-- An aligned session fails at the end of the image, or for reasons other than its bytes. -/
theorem StepDerivation.fault_of_aligned {σ : Type} [Host σ] {program : List Line}
    {s s' : Session σ} {fault : Fault} (h : StepDerivation s (.error fault s'))
    (himage : s.image = Image.assemble program) (ha : s.machine.Aligned program) :
    (s.machine.ip = s.image.size ∧ fault = .missingHalt s.machine.ip) ∨
      Host.Refuses s.host fault ∨ fault.source = .stack ∨ fault.source = .value := by
  cases h.fault with
  | refused h => exact .inr (.inl h)
  | full h => exact .inr (.inr (.inl h))
  | unfetched h =>
      left
      rcases ha.ip_boundary with heq | ⟨offset, line, hl, hip⟩
      · rw [← himage] at heq
        refine ⟨heq, ?_⟩
        rw [heq, Image.fetch, Image.byte?, Image.size, Array.getElem?_size] at h
        cases h
        rw [heq]
        rfl
      · have hd := (Line.decodedAt hl.holds).fetch_eq
        rw [himage, hip, hd] at h
        cases h
  | command h hc =>
      cases hc with
      | value _ h => exact .inr (.inr (.inr h))
      | stack h => exact .inr (.inr (.inl h))
      | undecoded ho hd =>
          rw [himage] at h hd
          obtain ⟨offset, line, hl, hip, hf⟩ := ha.ip_boundary.of_fetch h
          obtain ⟨_, rfl, hi⟩ := Fetched.mk.inj hf
          have hhas : line.instruction.hasOperand = true := by rw [← hi]; exact ho
          obtain ⟨operand, hop⟩ := Line.exists_operandAt? hhas s.machine.ip
          have hdec := Line.decodedAt hl.holds
          rw [← hip] at hdec
          rw [hdec.operand_eq operand hop] at hd
          cases hd

/-! ## Aligned runs -/

namespace Session

variable {σ : Type} [Host σ]

/-- A session between two lines of a program: the position is at the end of the image or at a line,
which the decoder finds there, and the next step does not fail on the bytes of an instruction, nor
for want of one before the end. Nothing is said of hosts that raise faults of the machine. -/
structure AlignedSpec (program : List Line) (s : Session σ) : Prop where
  image_eq : s.image = Image.assemble program
  placed : s.machine.ip = s.image.size ∨
    ∃ offset line, Line.StartsAt program offset line ∧
      s.machine.ip = Image.headerSize + offset ∧ line.DecodedAt s.image s.machine.ip
  decodable : Host.Plain σ → ∀ fault s', step s = .error fault s' → fault.source ≠ .encoding
  halting : Host.Plain σ → ∀ position s', step s = .error (.missingHalt position) s' →
    s.machine.ip = s.image.size

theorem alignedSpec {program : List Line} {s : Session σ}
    (himage : s.image = Image.assemble program) (ha : s.machine.Aligned program) :
    AlignedSpec program s := by
  refine ⟨himage, ?_, ?_, ?_⟩
  · rcases ha.ip_boundary with heq | ⟨offset, line, hl, hip⟩
    · left
      rw [heq, himage]
    · refine .inr ⟨offset, line, hl, hip, ?_⟩
      rw [himage, hip]
      exact Line.decodedAt hl.holds
  · intro hplain fault s' hstep
    have hd := step_derivation s
    rw [hstep] at hd
    rcases hd.fault_of_aligned himage ha with ⟨_, rfl⟩ | h | h | h
    · exact nofun
    · rw [hplain _ _ h]
      decide
    · rw [h]
      decide
    · rw [h]
      decide
  · intro hplain position s' hstep
    have hd := step_derivation s
    rw [hstep] at hd
    rcases hd.fault_of_aligned himage ha with ⟨heq, _⟩ | h | h | h
    · exact heq
    · cases hplain _ _ h
    · cases h
    · cases h

/-- A run of a program that jumps and calls only to lines is at a line, or at the end, after each
of its steps. Tapes and consoles are hosts for which the next step does not fail on bytes. -/
theorem segment_aligned (program : List Line) (host : σ) (s : Nat → Session σ) (n : Nat)
    (hfresh : s 0 = fresh (Image.assemble program) host) (hseg : Segment s n)
    (haims : ∀ i < n, ∀ w, (s i).aim? = some w → Line.NamedBy program w) :
    (∀ i ≤ n, AlignedSpec program (s i)) ∧ Host.Plain Tape ∧ Host.Plain Console := by
  refine ⟨?_, tape_plain, console_plain⟩
  have hall := hseg.invariant
    (P := fun s => s.image = Image.assemble program ∧ s.machine.Aligned program) ?_ ?_
  · intro i hi
    obtain ⟨himage, ha⟩ := hall i hi
    exact alignedSpec himage ha
  · rw [hfresh]
    exact ⟨rfl, aligned_fresh program⟩
  · rintro i hi ⟨himage, ha⟩ hd
    exact ⟨hd.image_eq.trans himage, hd.aligned himage ha (haims i hi)⟩

/-- A call to a line behind the halting one, a push there and the return. The upper bits of the
return and of the halt are set at will. -/
theorem segment_aligned_of_call :
    let aim : Word := ⟨0x4024000000000000⟩
    let program : List Line := [
      .operand (.command .call) rfl (.literal aim) false,
      .bare .halt rfl true false true,
      .operand (.command .push) rfl (.register 3) false,
      .bare (.command .ret) rfl true true false]
    let s : Nat → Session Tape := fun i => ((fresh (Image.assemble program) {}).resume i).2
    Segment s 3 ∧ (s 0).aim? = some aim ∧ (s 3).machine.ip = 14 ∧
      (∀ i ≤ 3, AlignedSpec program (s i)) ∧ Host.Plain Tape ∧ Host.Plain Console := by
  intro aim program s
  have hseg : Segment s 3 := segment_resume (by decide +kernel)
  have haim : (s 0).aim? = some aim := by decide +kernel
  refine ⟨hseg, haim, by decide +kernel, segment_aligned program {} s 3 rfl hseg ?_⟩
  intro i hi w hw
  match i with
  | 0 =>
      obtain rfl : aim = w := Option.some.inj (haim.symm.trans hw)
      exact ⟨10, program[2], by decide +kernel, program.take 2, program.drop 3, rfl, by decide⟩
  | 1 =>
      have hnone : (s 1).aim? = none := by decide +kernel
      cases hnone.symm.trans hw
  | 2 =>
      have hnone : (s 2).aim? = none := by decide +kernel
      cases hnone.symm.trans hw

end Session

end FloatMachine
