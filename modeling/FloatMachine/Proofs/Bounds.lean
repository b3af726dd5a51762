import FloatMachine.Proofs.Operands

/-! Bounds on everything a machine holds: the depth of both stacks, the position and the return
points. They hold after every step, whether it leads on, halts or fails, and they are tighter as
long as nothing has failed. -/

namespace FloatMachine

/-! ## Positions -/

theorem fetch_lt_size {image : Image} {offset : Nat} {fetched : Fetched}
    (h : image.fetch offset = .ok fetched) : offset < image.size := by
  obtain ⟨_, hb, _⟩ := fetch_eq_ok.mp h
  exact (Array.getElem?_eq_some_iff.mp hb).1

theorem ResolveDerivation.ip_bounds {image : Image} {opcode : UInt8} {m : Machine}
    {result : EStateM.Result Fault Machine Location}
    (h : ResolveDerivation image opcode m result) (hip : m.ip < image.size) :
    m.ip ≤ (reached result).ip ∧ (reached result).ip < image.size := by
  cases h with
  | undecoded h => exact ⟨Nat.le_refl _, hip⟩
  | unaddressed h | direct h | indirect h =>
      have hd := (decode_eq_ok.mp h).2.1
      simpa using hd

theorem JumpDerivation.ip_bounds_of_error {image : Image} {opcode : UInt8} {m m' : Machine}
    {fault : Fault} (h : JumpDerivation image opcode m (.error fault m'))
    (hip : m.ip < image.size) : m.ip ≤ m'.ip ∧ m'.ip < image.size := by
  cases h with
  | unresolved h => exact h.ip_bounds hip
  | outside h => exact h.ip_bounds hip

/-- A jump that is taken lands behind the header, up to four bytes past the image. -/
theorem JumpDerivation.ip_bounds_of_ok {image : Image} {opcode : UInt8} {m m' : Machine}
    (h : JumpDerivation image opcode m (.ok () m')) :
    Image.headerSize ≤ m'.ip + 1 ∧ m'.ip + 1 ≤ image.size + 4 := by
  cases h with
  | taken _ ht =>
      obtain ⟨_, hlt⟩ := target_eq_ok.mp ht
      simp only [Image.headerSize]
      omega

theorem JumpDerivation.operand_lt_size {image : Image} {opcode : UInt8} {m m' : Machine}
    (h : JumpDerivation image opcode m (.ok () m')) :
    ∃ mode, Mode.ofOpcode? opcode = some mode ∧ m.ip + mode.size < image.size := by
  cases h with
  | taken h _ =>
      cases h with
      | direct h | indirect h =>
          obtain ⟨hm, hlt, _⟩ := decode_eq_ok.mp h
          exact ⟨_, hm, hlt⟩

/-! ## Commands -/

theorem CommandDerivation.ip_bounds_of_error {image : Image} {opcode : UInt8} {m m' : Machine}
    {command : Command} {fault : Fault}
    (h : CommandDerivation image opcode m command (.error fault m'))
    (hip : m.ip < image.size) : m.ip ≤ m'.ip ∧ m'.ip < image.size := by
  cases h with
  | pushUnresolved h | pushFull h | popUnresolved h | popEmpty h | popLiteral h =>
      exact h.ip_bounds hip
  | jump h | jumpIfTaken _ _ h | call _ _ h => exact h.ip_bounds_of_error hip
  | _ => exact ⟨Nat.le_refl _, hip⟩

/-- A command that succeeds ends inside the image, in front of the target of a jump, or at a
return point. -/
theorem CommandDerivation.ip_bounds_of_ok {image : Image} {opcode : UInt8} {m m' : Machine}
    {command : Command} (h : CommandDerivation image opcode m command (.ok () m'))
    (hip : m.ip < image.size) :
    (m.ip ≤ m'.ip ∧ m'.ip < image.size) ∨
      (Image.headerSize ≤ m'.ip + 1 ∧ m'.ip + 1 ≤ image.size + 4) ∨ m'.ip ∈ m.frames := by
  cases h with
  | push h | popRegister h | popMemory h => exact .inl (h.ip_bounds hip)
  | jump h | jumpIfTaken _ _ h | call _ _ h => exact .inr (.inl h.ip_bounds_of_ok)
  | jumpIfSkipped _ _ h =>
      obtain ⟨mode, _, hlt, rfl⟩ := sizeAt_eq_ok.mp h
      exact .inl ⟨Nat.le_add_right _ _, hlt⟩
  | ret hf => exact .inr (.inr (by simp [hf]))
  | _ => exact .inl ⟨Nat.le_refl _, hip⟩

theorem CommandDerivation.stack_length_le {image : Image} {opcode : UInt8} {m : Machine}
    {command : Command} {result : EStateM.Result Fault Machine Unit}
    (h : CommandDerivation image opcode m command result)
    (hs : m.stack.length ≤ stackCapacity) :
    (reached result).stack.length ≤ stackCapacity := by
  cases h with
  | pushUnresolved h | popUnresolved h | pushFull h | popEmpty h =>
      obtain ⟨heq, _⟩ := h.frame
      simp only [reached_ok, reached_error] at heq ⊢
      rw [heq]
      exact hs
  | popLiteral h hp | popRegister h hp | popMemory h hp =>
      obtain ⟨heq, _⟩ := h.frame
      simp only [reached_ok, reached_error] at heq ⊢
      rw [← heq, hp] at hs
      exact Nat.le_of_succ_le hs
  | jump h | call _ _ h =>
      rw [h.frame.1]
      exact hs
  | jumpIfTaken hp _ h =>
      rw [h.frame.1]
      rw [hp] at hs
      exact Nat.le_of_succ_le (Nat.le_of_succ_le hs)
  | push _ hf | dup _ hf | binary _ hf | unary _ hf => exact hf
  | binarySingle | jumpIfSingle => exact Nat.zero_le _
  | unaryFull hp =>
      rw [hp] at hs
      exact Nat.le_of_succ_le hs
  | binaryFull hp | jumpIfUnsized hp | jumpIfSkipped hp =>
      rw [hp] at hs
      exact Nat.le_of_succ_le (Nat.le_of_succ_le hs)
  | dupEmpty | dupFull | binaryEmpty | unaryEmpty | jumpIfEmpty | callUndecoded | callFull
  | retEmpty | ret => exact hs

theorem CommandDerivation.frames_cases {image : Image} {opcode : UInt8} {m : Machine}
    {command : Command} {result : EStateM.Result Fault Machine Unit}
    (h : CommandDerivation image opcode m command result) :
    (reached result).frames = m.frames ∨
      (command = .ret ∧ ∃ returnPoint, m.frames = returnPoint :: (reached result).frames ∧
        (reached result).ip = returnPoint) ∨
      (command = .call ∧ ∃ mode, Mode.ofOpcode? opcode = some mode ∧
        m.frames.length < callCapacity ∧
        (reached result).frames = (m.ip + mode.size) :: m.frames) := by
  cases h with
  | pushUnresolved h | popUnresolved h | pushFull h | popEmpty h | push h | popLiteral h
  | popRegister h | popMemory h => exact .inl h.frame.2.2
  | jump h | jumpIfTaken _ _ h => exact .inl h.frame.2.2
  | call hm hf h => exact .inr (.inr ⟨rfl, _, mode_decode_eq_ok.mp hm, hf, h.frame.2.2⟩)
  | ret hf => exact .inr (.inl ⟨rfl, _, hf, rfl⟩)
  | _ => exact .inl rfl

/-! ## Steps -/

/-- Neither stack is deeper than it may be, the position is behind the header and at most nine
bytes past the image, and so is every position to return to. -/
structure Machine.Bounded (size : Nat) (m : Machine) : Prop where
  stack_le : m.stack.length ≤ stackCapacity
  frames_le : m.frames.length ≤ callCapacity
  header_le_ip : Image.headerSize ≤ m.ip
  ip_le : m.ip ≤ size + 9
  header_lt_frame : ∀ returnPoint ∈ m.frames, Image.headerSize < returnPoint
  frame_le : ∀ returnPoint ∈ m.frames, returnPoint ≤ size + 8

/-- The position is at most four bytes past the image, or at the first instruction, and every
return point is inside the image. -/
structure Machine.Tight (size : Nat) (m : Machine) : Prop where
  ip_le : m.ip ≤ max Image.headerSize (size + 4)
  frame_lt : ∀ returnPoint ∈ m.frames, returnPoint < size

/-- A return point that a call puts down is inside the call, or just behind what is missing of
it. -/
theorem CommandDerivation.mem_frames {image : Image} {opcode : UInt8} {m : Machine}
    {command : Command} {result : EStateM.Result Fault Machine Unit}
    (h : CommandDerivation image opcode m command result) {returnPoint : Nat}
    (hr : returnPoint ∈ (reached result).frames) :
    returnPoint ∈ m.frames ∨ (m.ip < returnPoint ∧ returnPoint ≤ m.ip + 9) := by
  rcases h.frames_cases with heq | ⟨_, _, heq, _⟩ | ⟨_, mode, _, _, heq⟩
  · exact .inl (heq ▸ hr)
  · exact .inl (heq ▸ List.mem_cons_of_mem _ hr)
  · rw [heq] at hr
    rcases List.mem_cons.mp hr with rfl | hr
    · have hpos := mode_size_pos mode
      have hle := mode_size_le mode
      exact .inr (by omega)
    · exact .inl hr

theorem CommandDerivation.frames_length_le {image : Image} {opcode : UInt8} {m : Machine}
    {command : Command} {result : EStateM.Result Fault Machine Unit}
    (h : CommandDerivation image opcode m command result)
    (hf : m.frames.length ≤ callCapacity) :
    (reached result).frames.length ≤ callCapacity := by
  rcases h.frames_cases with heq | ⟨_, _, heq, _⟩ | ⟨_, _, _, hlt, heq⟩
  · rw [heq]
    exact hf
  · rw [heq] at hf
    exact Nat.le_of_succ_le hf
  · rw [heq]
    exact hlt

theorem CommandDerivation.bounded {image : Image} {opcode : UInt8} {m : Machine}
    {command : Command} {result : EStateM.Result Fault Machine Unit}
    (h : CommandDerivation image opcode m command result) (hip : m.ip < image.size)
    (hb : m.Bounded image.size) {ip : Nat} (hl : Image.headerSize ≤ ip)
    (hu : ip ≤ image.size + 9) : { reached result with ip }.Bounded image.size := by
  refine ⟨h.stack_length_le hb.stack_le, h.frames_length_le hb.frames_le, hl, hu, ?_, ?_⟩
  · intro returnPoint hr
    rcases h.mem_frames hr with hr | hr
    · exact hb.header_lt_frame _ hr
    · have := hb.header_le_ip
      omega
  · intro returnPoint hr
    rcases h.mem_frames hr with hr | hr
    · exact hb.frame_le _ hr
    · omega

/-- A step keeps the bounds, whatever it ends in. -/
theorem StepDerivation.bounded {σ : Type} [Host σ] {s : Session σ}
    {result : EStateM.Result Fault (Session σ) Flow} (h : StepDerivation s result)
    (hb : s.machine.Bounded s.image.size) : (reached result).machine.Bounded s.image.size := by
  have hl := hb.header_le_ip
  cases h with
  | unfetched | halt | outputEmpty | inputRefused | inputFull => exact hb
  | input h _ hs =>
      have hlt := fetch_lt_size h
      exact { hb with
        stack_le := hs
        header_le_ip := Nat.le_succ_of_le hl
        ip_le := Nat.le_trans hlt (Nat.le_add_right _ _) }
  | outputRefused h hs _ =>
      have hle := hb.stack_le
      rw [hs] at hle
      exact { hb with stack_le := Nat.le_of_succ_le hle }
  | output h hs _ =>
      have hlt := fetch_lt_size h
      have hle := hb.stack_le
      rw [hs] at hle
      exact { hb with
        stack_le := Nat.le_of_succ_le hle
        header_le_ip := Nat.le_succ_of_le hl
        ip_le := Nat.le_trans hlt (Nat.le_add_right _ _) }
  | commandFailed h hc =>
      have hlt := fetch_lt_size h
      obtain ⟨hlo, hhi⟩ := hc.ip_bounds_of_error hlt
      exact hc.bounded hlt hb (by omega) (by omega)
  | command h hc =>
      have hlt := fetch_lt_size h
      rcases hc.ip_bounds_of_ok hlt with hip | hip | hip
      · exact hc.bounded hlt hb (by omega) (by omega)
      · exact hc.bounded hlt hb (by omega) (by omega)
      · have hlo := hb.header_lt_frame _ hip
        have hhi := hb.frame_le _ hip
        exact hc.bounded hlt hb (by omega) (by omega)

theorem StepDerivation.tight {σ : Type} [Host σ] {s s' : Session σ} {flow : Flow}
    (h : StepDerivation s (.ok flow s')) (ht : s.machine.Tight s.image.size) :
    s'.machine.Tight s.image.size := by
  cases h with
  | halt => exact ht
  | input h | output h =>
      have hlt := fetch_lt_size h
      refine ⟨?_, ht.frame_lt⟩
      simp only
      omega
  | command h hc =>
      have hlt := fetch_lt_size h
      constructor
      · have hip : _ ∨ _ ∨ _ := hc.ip_bounds_of_ok hlt
        simp only
        rcases hip with hip | hip | hip
        · omega
        · omega
        · have := ht.frame_lt _ hip
          omega
      · intro returnPoint hr
        rcases hc.frames_cases with heq | ⟨_, _, heq, _⟩ | ⟨rfl, mode, hm, _, heq⟩
        · exact ht.frame_lt _ (heq ▸ hr)
        · exact ht.frame_lt _ (heq ▸ List.mem_cons_of_mem _ hr)
        · -- The call has found its operand, so the return point is the operand's last byte.
          cases hc with
          | call _ _ hj =>
              obtain ⟨mode', hm', hlt'⟩ := hj.operand_lt_size
              obtain rfl : mode = mode' := Option.some.inj (hm.symm.trans hm')
              rw [reached_ok] at heq
              simp only [heq] at hr
              rcases List.mem_cons.mp hr with rfl | hr
              · exact hlt'
              · exact ht.frame_lt _ hr

end FloatMachine
