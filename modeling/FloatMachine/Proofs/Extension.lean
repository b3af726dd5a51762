import FloatMachine.Proofs.Determinism
import FloatMachine.Proofs.Verdicts

/-! More bytes behind an image do not change what its runs do. The size of an image is asked for
when an opcode byte is fetched, when an operand is looked for and when a jump is checked, and each
of these asks only that the image be large enough. So a run that does not fail goes the same way
over a longer image, also if its last jump leads past the end of the shorter one. -/

namespace FloatMachine

/-! ## Images -/

namespace Image

/-- The image with more bytes at its end. -/
def extend (bytes : Array UInt8) (image : Image) : Image := ⟨image.bytes ++ bytes⟩

variable {image : Image} {offset : Nat} (bytes : Array UInt8)

theorem size_le_extend : image.size ≤ (image.extend bytes).size := by
  simp only [size, extend, Array.size_append]
  exact Nat.le_add_right _ _

theorem byte?_extend (h : offset < image.size) :
    (image.extend bytes).byte? offset = image.byte? offset :=
  Array.getElem?_append_left h

theorem byteAt_extend (h : offset < image.size) :
    (image.extend bytes).byteAt offset = image.byteAt offset := by
  have hbyte := byte?_extend bytes h
  simp only [byte?] at hbyte
  simp only [byteAt, Array.getD_eq_getD_getElem?, hbyte]

theorem wordAt_extend (h : offset + wordSize ≤ image.size) :
    (image.extend bytes).wordAt offset = image.wordAt offset := by
  have hmap : (List.range wordSize).map (fun i => (image.extend bytes).byteAt (offset + i)) =
      (List.range wordSize).map (fun i => image.byteAt (offset + i)) := by
    apply List.map_congr_left
    intro i hi
    have hi := List.mem_range.mp hi
    exact byteAt_extend bytes (by omega)
  simp only [wordAt, hmap]

theorem fetch_extend {fetched : Fetched} (h : image.fetch offset = .ok fetched) :
    (image.extend bytes).fetch offset = .ok fetched := by
  obtain ⟨hoffset, hbyte, hinstruction⟩ := fetch_eq_ok.mp h
  have hlt : offset < image.size := (Array.getElem?_eq_some_iff.mp hbyte).1
  exact fetch_eq_ok.mpr ⟨hoffset, (byte?_extend bytes hlt).trans hbyte, hinstruction⟩

theorem HasHeader.extend (h : image.HasHeader) : (image.extend bytes).HasHeader := by
  have hle : headerSize ≤ image.bytes.toList.length := h.le_size
  rw [HasHeader, Image.extend, Array.toList_append, List.take_append_of_le_length hle]
  exact h

end Image

/-! ## Operands and targets -/

section Commands

variable {image : Image} {opcode : UInt8} (bytes : Array UInt8)

theorem baseAt_extend {offset : Nat} {mode : Mode} (h : offset + mode.size < image.size) :
    Operand.baseAt (image.extend bytes) offset mode = Operand.baseAt image offset mode := by
  cases mode with
  | register =>
      have h : offset + 1 < image.size := h
      simp only [Operand.baseAt, Image.byteAt_extend bytes h]
  | literal =>
      have h : offset + 8 < image.size := h
      have hword : offset + 1 + Image.wordSize ≤ image.size := by
        simp only [Image.wordSize]
        omega
      simp only [Operand.baseAt, Image.wordAt_extend bytes hword]
  | sum =>
      have h : offset + 9 < image.size := h
      have hbyte : offset + 1 < image.size := by omega
      have hword : offset + 2 + Image.wordSize ≤ image.size := by
        simp only [Image.wordSize]
        omega
      simp only [Operand.baseAt, Image.byteAt_extend bytes hbyte, Image.wordAt_extend bytes hword]

theorem decode_extend {offset : Nat} {operand : Operand}
    (h : Operand.decode image opcode offset = .ok operand) :
    Operand.decode (image.extend bytes) opcode offset = .ok operand := by
  obtain ⟨hmode, hlt, hbase, hindirect⟩ := decode_eq_ok.mp h
  have hlarger := Nat.lt_of_lt_of_le hlt (image.size_le_extend bytes)
  exact decode_eq_ok.mpr ⟨hmode, hlarger, (baseAt_extend bytes hlt).trans hbase, hindirect⟩

theorem sizeAt_extend {offset size : Nat} (h : Operand.sizeAt image opcode offset = .ok size) :
    Operand.sizeAt (image.extend bytes) opcode offset = .ok size := by
  obtain ⟨mode, hmode, hlt, hsize⟩ := sizeAt_eq_ok.mp h
  exact sizeAt_eq_ok.mpr
    ⟨mode, hmode, Nat.lt_of_lt_of_le hlt (image.size_le_extend bytes), hsize⟩

theorem target_extend {w : Word} {offset : Nat} (h : Action.target image w = .ok offset) :
    Action.target (image.extend bytes) w = .ok offset := by
  obtain ⟨hindex, hlt⟩ := target_eq_ok.mp h
  exact target_eq_ok.mpr ⟨hindex, Nat.lt_of_lt_of_le hlt (image.size_le_extend bytes)⟩

/-! ## Commands -/

variable {m m' : Machine}

theorem ResolveDerivation.extend {location : Location}
    (h : ResolveDerivation image opcode m (.ok location m')) :
    ResolveDerivation (image.extend bytes) opcode m (.ok location m') := by
  cases h with
  | direct h hd => exact .direct (decode_extend bytes h) hd
  | indirect h hi ha => exact .indirect (decode_extend bytes h) hi ha

theorem JumpDerivation.extend (h : JumpDerivation image opcode m (.ok () m')) :
    JumpDerivation (image.extend bytes) opcode m (.ok () m') := by
  cases h with
  | taken h ht => exact .taken (h.extend bytes) (target_extend bytes ht)

theorem CommandDerivation.extend {command : Command}
    (h : CommandDerivation image opcode m command (.ok () m')) :
    CommandDerivation (image.extend bytes) opcode m command (.ok () m') := by
  cases h with
  | push h hs => exact .push (h.extend bytes) hs
  | popRegister h hs => exact .popRegister (h.extend bytes) hs
  | popMemory h hs => exact .popMemory (h.extend bytes) hs
  | dup hs hf => exact .dup hs hf
  | binary hs hf => exact .binary hs hf
  | unary hs hf => exact .unary hs hf
  | jump h => exact .jump (h.extend bytes)
  | jumpIfTaken hs hc h => exact .jumpIfTaken hs hc (h.extend bytes)
  | jumpIfSkipped hs hc h => exact .jumpIfSkipped hs hc (sizeAt_extend bytes h)
  | call h hf hj => exact .call h hf (hj.extend bytes)
  | ret hf => exact .ret hf

end Commands

/-! ## Sessions -/

namespace Session

variable {σ : Type}

/-- The session with more bytes at the end of its image. -/
def extend (bytes : Array UInt8) (s : Session σ) : Session σ :=
  { s with image := s.image.extend bytes }

variable [Host σ] {s s' : Session σ} (bytes : Array UInt8)

/-- A step that does not fail does the same over a longer image. -/
theorem step_extend {flow : Flow} (hstep : step s = .ok flow s') :
    step (s.extend bytes) = .ok flow (s'.extend bytes) := by
  apply StepDerivation.execution
  cases stepDerivation_iff.mpr hstep with
  | halt h => exact .halt (Image.fetch_extend bytes h)
  | input h hh hs => exact .input (s := s.extend bytes) (Image.fetch_extend bytes h) hh hs
  | output h hs hh => exact .output (s := s.extend bytes) (Image.fetch_extend bytes h) hs hh
  | command h hc =>
      exact .command (s := s.extend bytes) (Image.fetch_extend bytes h) (hc.extend bytes)

theorem resume_extend {n : Nat} (hok : ∀ fault, (s.resume n).1 ≠ some (.failed fault)) :
    ∀ i ≤ n, (s.extend bytes).resume i = ((s.resume i).1, (s.resume i).2.extend bytes) :=
  resume_map_of_step (fun _ _ _ hstep => step_extend bytes hstep) hok

theorem run_extend {fuel : Nat} (h : s.run fuel = (some .halted, s')) :
    (s.extend bytes).run fuel = (some .halted, s'.extend bytes) := by
  by_cases hh : s.image.HasHeader
  · rw [run_of_header hh] at h
    have hok : ∀ fault, (resume fuel
        { s with machine := { s.machine with ip := Image.headerSize } }).1 ≠
          some (.failed fault) := by
      intro fault
      rw [h]
      exact nofun
    have hrun := resume_extend bytes hok fuel (Nat.le_refl fuel)
    rw [h] at hrun
    rw [run_of_header (hh.extend bytes)]
    exact hrun
  · obtain ⟨fault, _, hf⟩ := run_of_no_header hh fuel
    cases hf.symm.trans h

/-- Bytes behind the image are not noticed by a run that does not fail: step by step it leads on or
halts alike, with the same machine and the same host. So a run from the first instruction that
halts does so over every longer image, in the same state. -/
theorem run_kept_by_extension (s : Session σ) (bytes : Array UInt8) :
    (∀ n, (∀ fault, (s.resume n).1 ≠ some (.failed fault)) →
      ∀ i ≤ n, (s.extend bytes).resume i = ((s.resume i).1, (s.resume i).2.extend bytes)) ∧
    (∀ fuel s', s.run fuel = (some .halted, s') →
      (s.extend bytes).run fuel = (some .halted, s'.extend bytes)) :=
  ⟨fun _ hok => resume_extend bytes hok, fun _ _ h => run_extend bytes h⟩

/-- A jump past the end of an image, to a place that further bytes make a halt, and an image that
halts by itself. -/
theorem run_kept_by_extension_of_far_jump :
    let s : Session Tape := fresh ⟨#[0x48, 0x59, 0x56, 0x4d, 3,
      0x2d, 0, 0, 0, 0, 0, 0, 0x2a, 0x40]⟩ {}
    let t : Session Tape := fresh ⟨#[0x48, 0x59, 0x56, 0x4d, 3, 0x0a, 0x0b, 0x00]⟩
      { input := [⟨5⟩] }
    let t' : Session Tape := (t.run 3).2
    let bytes : Array UInt8 := #[0x1f, 0x1f, 0x1f, 0x1f, 0x00]
    s.image.size < (s.resume 1).2.machine.ip ∧
      (s.extend bytes).resume 1 = (none, (s.resume 1).2.extend bytes) ∧
      ((s.extend bytes).resume 2).1 = some .halted ∧
      t'.host.output = #[⟨5⟩] ∧ (t.extend bytes).run 3 = (some .halted, t'.extend bytes) := by
  intro s t t' bytes
  have hjump : (s.resume 1).1 = none := by decide +kernel
  have hhalt : (t.run 3).1 = some .halted := by decide +kernel
  have hrun : t.run 3 = (some .halted, t') := by rw [← hhalt]
  have hok : ∀ fault, (s.resume 1).1 ≠ some (.failed fault) := by
    intro fault
    rw [hjump]
    exact nofun
  have hsteps := (run_kept_by_extension s bytes).1 1 hok 1 (Nat.le_refl 1)
  rw [hjump] at hsteps
  exact ⟨by decide +kernel, hsteps, by decide +kernel, by decide +kernel,
    (run_kept_by_extension t bytes).2 3 t' hrun⟩

end Session

end FloatMachine
