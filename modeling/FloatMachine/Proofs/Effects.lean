import FloatMachine.Proofs.Lengths
import FloatMachine.Proofs.Residue
import FloatMachine.Proofs.Scratch

/-! What a step may write. Memory and registers are written by stores that succeed, one place at a
time; apart from that, sums are computed in the scratch register. The stack is touched at its top
alone. All of this holds of steps that lead on and of steps that fail. -/

namespace FloatMachine

/-! ## Operands -/

namespace Machine

/-- The value of a base. In an operand that is an address, it names the cell. -/
def baseValue (m : Machine) : Base → Word
  | .register index => m.read (.register index)
  | .literal _ value => value
  | .sum index value => (m.summand index).add value

theorem read_baseLocation (m : Machine) (base : Base) :
    (m.loadBase base).read (baseLocation base) = m.baseValue base := by
  cases base with
  | register index => rfl
  | literal offset value => rfl
  | sum index value => simp [baseValue, loadBase, loadSum_eq, baseLocation, read]

theorem loadBase_registers_cases (m : Machine) (base : Base) :
    (m.loadBase base).registers = m.registers ∨ ∃ index value, base = .sum index value := by
  cases base with
  | register index => exact .inl rfl
  | literal offset value => exact .inl rfl
  | sum index value => exact .inr ⟨index, value, rfl⟩

/-- The memory, and all registers but the scratch register, are the same in both machines. -/
structure Keeps (m m' : Machine) : Prop where
  memory_eq : m'.memory = m.memory
  registers_eq : ∀ index : Register, index ≠ scratch →
    m'.read (.register index) = m.read (.register index)

theorem Keeps.of_eq {m m' : Machine} (hmemory : m'.memory = m.memory)
    (hregisters : m'.registers = m.registers) : m.Keeps m' :=
  ⟨hmemory, fun index _ => congrArg (·[index]) hregisters⟩

theorem Keeps.trans {m₁ m₂ m₃ : Machine} (h : m₁.Keeps m₂) (h' : m₂.Keeps m₃) : m₁.Keeps m₃ := by
  refine ⟨h'.memory_eq.trans h.memory_eq, ?_⟩
  intro index hne
  exact (h'.registers_eq index hne).trans (h.registers_eq index hne)

theorem OperandResidue.keeps {image : Image} {opcode : UInt8} {hasOperand : Bool} {m m' : Machine}
    (h : OperandResidue image opcode hasOperand m m') : m.Keeps m' :=
  ⟨h.memory_eq, h.registers_eq⟩

end Machine

section Commands

variable {image : Image} {opcode : UInt8} {m m' : Machine}

theorem ResolveDerivation.of_ok {location : Location}
    (h : ResolveDerivation image opcode m (.ok location m')) :
    ∃ base, m' = m.loadBase base ∧
      ((Operand.decode image opcode m.ip = .ok ⟨base, false⟩ ∧
          location = Machine.baseLocation base) ∨
        ∃ address, Operand.decode image opcode m.ip = .ok ⟨base, true⟩ ∧
          Address.ofWord (m.baseValue base) = .ok address ∧ location = .memory address) := by
  cases h with
  | @direct operand h hd =>
      obtain ⟨base, indirect⟩ := operand
      obtain rfl : indirect = false := hd
      exact ⟨base, rfl, .inl ⟨h, rfl⟩⟩
  | @indirect operand address h hi ha =>
      obtain ⟨base, indirect⟩ := operand
      obtain rfl : indirect = true := hi
      rw [Machine.read_baseLocation] at ha
      exact ⟨base, rfl, .inr ⟨address, h, ha, rfl⟩⟩

theorem ResolveDerivation.registers_cases {result : EStateM.Result Fault Machine Location}
    (h : ResolveDerivation image opcode m result) :
    (reached result).registers = m.registers ∨
      ∃ index value indirect,
        Operand.decode image opcode m.ip = .ok ⟨.sum index value, indirect⟩ := by
  cases h with
  | undecoded => exact .inl rfl
  | @unaddressed operand _ h | @direct operand h | @indirect operand _ h =>
      obtain ⟨base, indirect⟩ := operand
      rcases m.loadBase_registers_cases base with heq | ⟨index, value, rfl⟩
      · exact .inl heq
      · exact .inr ⟨index, value, indirect, h⟩

theorem JumpDerivation.keeps {result : EStateM.Result Fault Machine Unit}
    (h : JumpDerivation image opcode m result) : m.Keeps (reached result) := by
  cases h with
  | unresolved h => exact h.residue.keeps
  | outside h => exact h.residue.keeps
  | taken h => exact ⟨h.residue.memory_eq, h.residue.registers_eq⟩

theorem JumpDerivation.registers_cases {result : EStateM.Result Fault Machine Unit}
    (h : JumpDerivation image opcode m result) :
    (reached result).registers = m.registers ∨
      ∃ index value indirect,
        Operand.decode image opcode m.ip = .ok ⟨.sum index value, indirect⟩ := by
  cases h with
  | unresolved h => exact h.registers_cases
  | outside h | taken h => exact h.registers_cases

/-! ## Stores -/

/-- What a store that succeeds does with its word: it goes into the register named, over the sum
just computed in the scratch register, or into the cell that the base names. -/
inductive StoreRule (image : Image) (opcode : UInt8) (m : Machine) (w : Word) (m' : Machine) :
    Prop where
  | register {index} (hd : Operand.decode image opcode m.ip = .ok ⟨.register index, false⟩)
      (hm : m'.memory = m.memory)
      (hr : m'.registers = m.registers.set index w index.isLt)
  | sum {index value} (hd : Operand.decode image opcode m.ip = .ok ⟨.sum index value, false⟩)
      (hk : m.Keeps m')
  | memory {base address} (hd : Operand.decode image opcode m.ip = .ok ⟨base, true⟩)
      (ha : Address.ofWord (m.baseValue base) = .ok address)
      (hm : m'.memory = m.memory.set address w address.isLt)
      (hr : m'.registers = (m.loadBase base).registers)

/-- A store that succeeds follows its rule, and the position does not matter for that. -/
theorem CommandDerivation.store (h : CommandDerivation image opcode m .pop (.ok () m'))
    (ip : Nat) : ∃ w, m.stack = w :: m'.stack ∧ StoreRule image opcode m w { m' with ip } := by
  cases h with
  | @popRegister index _ w _ h hs =>
      refine ⟨w, h.frame.1.symm.trans hs, ?_⟩
      have hkeeps := h.residue.keeps
      obtain ⟨base, rfl, ⟨hd, hlocation⟩ | ⟨_, _, _, hlocation⟩⟩ := h.of_ok
      · cases base with
        | register =>
            cases hlocation
            exact .register hd rfl rfl
        | literal => cases hlocation
        | sum =>
            -- The place of a sum is the scratch register, where the word now replaces the sum.
            cases hlocation
            refine .sum hd ⟨rfl, fun other hne => ?_⟩
            have hval : scratch.val ≠ other.val := fun hc => hne (Fin.ext hc.symm)
            rw [← hkeeps.registers_eq other hne]
            simp [Machine.read, Vector.getElem_set_ne _ _ hval]
      · cases hlocation
  | @popMemory address _ w _ h hs =>
      refine ⟨w, h.frame.1.symm.trans hs, ?_⟩
      obtain ⟨base, rfl, ⟨_, hlocation⟩ | ⟨_, hd, ha, hlocation⟩⟩ := h.of_ok
      · cases base <;> cases hlocation
      · cases hlocation
        exact .memory hd ha (by rw [Machine.loadBase_memory]) rfl

theorem read_register_of_loadBase {operand : Operand}
    (hd : Operand.decode image opcode m.ip = .ok operand)
    (hr : m'.registers = (m.loadBase operand.base).registers) (index : Register)
    (hne : index ≠ scratch) : m'.read (.register index) = m.read (.register index) := by
  rw [← (loadBase_residue hd).registers_eq index hne]
  exact congrArg (·[index]) hr

theorem StoreRule.memory_cases {w : Word} (h : StoreRule image opcode m w m') :
    m'.memory = m.memory ∨
      ∃ base address, Operand.decode image opcode m.ip = .ok ⟨base, true⟩ ∧
        Address.ofWord (m.baseValue base) = .ok address := by
  cases h with
  | register _ hm => exact .inl hm
  | sum _ hk => exact .inl hk.memory_eq
  | memory hd ha => exact .inr ⟨_, _, hd, ha⟩

theorem StoreRule.registers_cases {w : Word} (h : StoreRule image opcode m w m') :
    (∀ index : Register, index ≠ scratch →
        m'.read (.register index) = m.read (.register index)) ∨
      ∃ index, Operand.decode image opcode m.ip = .ok ⟨.register index, false⟩ := by
  cases h with
  | register hd => exact .inr ⟨_, hd⟩
  | sum _ hk => exact .inl hk.registers_eq
  | memory hd _ _ hr => exact .inl (read_register_of_loadBase hd hr)

theorem StoreRule.memory_eq {w : Word} (h : StoreRule image opcode m w m') {base : Base}
    {address : Address} (hd : Operand.decode image opcode m.ip = .ok ⟨base, true⟩)
    (ha : Address.ofWord (m.baseValue base) = .ok address) :
    m'.memory = m.memory.set address w address.isLt := by
  cases h with
  | register hd' | sum hd' => cases hd.symm.trans hd'
  | memory hd' ha' hm =>
      obtain ⟨rfl, _⟩ := Operand.mk.inj (Except.ok.inj (hd.symm.trans hd'))
      obtain rfl := Except.ok.inj (ha.symm.trans ha')
      exact hm

theorem StoreRule.registers_eq {w : Word} (h : StoreRule image opcode m w m') {index : Register}
    (hd : Operand.decode image opcode m.ip = .ok ⟨.register index, false⟩) :
    m'.registers = m.registers.set index w index.isLt := by
  cases h with
  | register hd' _ hr =>
      cases hd.symm.trans hd'
      exact hr
  | sum hd' | memory hd' => cases hd.symm.trans hd'

theorem StoreRule.scratch_cases {w : Word} (h : StoreRule image opcode m w m') :
    m'.read (.register scratch) = m.read (.register scratch) ∨
      (∃ index value indirect,
        Operand.decode image opcode m.ip = .ok ⟨.sum index value, indirect⟩) ∨
      Operand.decode image opcode m.ip = .ok ⟨.register scratch, false⟩ := by
  cases h with
  | @register index hd _ hr =>
      by_cases hi : index = scratch
      · exact .inr (.inr (hi ▸ hd))
      · have hval : index.val ≠ scratch.val := fun hc => hi (Fin.ext hc)
        left
        rw [Machine.read, hr]
        exact Vector.getElem_set_ne _ _ hval
  | sum hd => exact .inr (.inl ⟨_, _, _, hd⟩)
  | @memory base _ hd _ _ hr =>
      rcases m.loadBase_registers_cases base with heq | ⟨index, value, rfl⟩
      · exact .inl (congrArg (·[scratch]) (hr.trans heq))
      · exact .inr (.inl ⟨index, value, true, hd⟩)

/-! ## Commands -/

/-- Whatever becomes of it, a command other than a store writes no memory, and no register but the
scratch register. -/
theorem CommandDerivation.keeps {command : Command} {result : EStateM.Result Fault Machine Unit}
    (h : CommandDerivation image opcode m command result) (hc : command ≠ .pop) :
    m.Keeps (reached result) := by
  cases h with
  | pushUnresolved h => exact h.residue.keeps
  | pushFull h => exact h.residue.keeps
  | push h => exact ⟨h.residue.memory_eq, h.residue.registers_eq⟩
  | jump h => exact h.keeps
  | jumpIfTaken _ _ h => exact ⟨h.keeps.memory_eq, h.keeps.registers_eq⟩
  | call _ _ h => exact ⟨h.keeps.memory_eq, h.keeps.registers_eq⟩
  | popUnresolved | popEmpty | popLiteral | popRegister | popMemory => exact absurd rfl hc
  | _ => exact .of_eq rfl rfl

/-- The scratch register is written by sums that are evaluated, and by stores into it. -/
theorem CommandDerivation.scratch_cases {command : Command}
    {result : EStateM.Result Fault Machine Unit}
    (h : CommandDerivation image opcode m command result) :
    (reached result).read (.register scratch) = m.read (.register scratch) ∨
      (command.usesOperand m = true ∧ ∃ index value indirect,
        Operand.decode image opcode m.ip = .ok ⟨.sum index value, indirect⟩) ∨
      (command = .pop ∧ (∃ m', result = .ok () m') ∧
        Operand.decode image opcode m.ip = .ok ⟨.register scratch, false⟩) := by
  have hread : ∀ {m' : Machine}, m'.registers = m.registers →
      m'.read (.register scratch) = m.read (.register scratch) := fun h => congrArg (·[scratch]) h
  cases h with
  | pushUnresolved h | popUnresolved h =>
      exact h.registers_cases.imp hread fun hd => .inl ⟨rfl, hd⟩
  | pushFull h | push h | popEmpty h | popLiteral h | popMemory h =>
      exact h.registers_cases.imp hread fun hd => .inl ⟨rfl, hd⟩
  | popRegister h hs =>
      obtain ⟨_, _, hrule⟩ := (CommandDerivation.popRegister h hs).store _
      rcases hrule.scratch_cases with heq | hd | hd
      · exact .inl heq
      · exact .inr (.inl ⟨rfl, hd⟩)
      · exact .inr (.inr ⟨rfl, ⟨_, rfl⟩, hd⟩)
  | jump h => exact h.registers_cases.imp hread fun hd => .inl ⟨rfl, hd⟩
  | jumpIfTaken hs hc h =>
      refine h.registers_cases.imp hread fun hd => .inl ⟨?_, hd⟩
      simp only [Command.usesOperand, hs, hc]
  | call _ hf h =>
      refine h.registers_cases.imp hread fun hd => .inl ⟨?_, hd⟩
      simp only [Command.usesOperand, hf, decide_true]
  | _ => exact .inl rfl

/-! ## Stacks -/

theorem drop_two_suffix {stack rest : List Word} (taken : List Word) (h : stack = taken ++ rest)
    (hl : taken.length ≤ 2) : stack.drop 2 <:+ rest := by
  rw [h, List.drop_append, List.drop_of_length_le hl, List.nil_append]
  exact List.drop_suffix _ _

theorem CommandDerivation.stack_suffix {command : Command}
    {result : EStateM.Result Fault Machine Unit}
    (h : CommandDerivation image opcode m command result) :
    m.stack.drop 2 <:+ (reached result).stack := by
  have hself : m.stack.drop 2 <:+ m.stack := List.drop_suffix _ _
  cases h with
  | pushUnresolved h | popUnresolved h => exact h.frame.1 ▸ hself
  | pushFull h | popEmpty h => exact h.frame.1 ▸ hself
  | push h =>
      rw [← h.frame.1]
      exact (List.drop_suffix _ _).trans (List.suffix_cons _ _)
  | popLiteral h hs | popRegister h hs | popMemory h hs =>
      exact drop_two_suffix [_] (h.frame.1.symm.trans hs) (by simp)
  | dup => exact hself.trans (List.suffix_cons _ _)
  | jump h | call _ _ h => exact h.frame.1 ▸ hself
  | jumpIfTaken hs _ h =>
      rw [h.frame.1]
      exact drop_two_suffix [_, _] hs (by simp)
  | binarySingle hs | jumpIfSingle hs => exact drop_two_suffix [_] hs (by simp)
  | binaryFull hs | jumpIfUnsized hs | jumpIfSkipped hs => exact drop_two_suffix [_, _] hs (by simp)
  | binary hs => exact (drop_two_suffix [_, _] hs (by simp)).trans (List.suffix_cons _ _)
  | unaryFull hs => exact drop_two_suffix [_] hs (by simp)
  | unary hs => exact (drop_two_suffix [_] hs (by simp)).trans (List.suffix_cons _ _)
  | _ => exact hself

/-- A conditional jump that is not taken changes only its position and the two words it has taken
off, whether or not it fails. -/
theorem CommandDerivation.of_untaken {condition : Condition}
    {result : EStateM.Result Fault Machine Unit}
    (h : CommandDerivation image opcode m (.jumpIf condition) result)
    (hc : condition.met m.stack = false) :
    reached result = { m with stack := m.stack.drop 2, ip := (reached result).ip } := by
  cases h with
  | jumpIfEmpty hs => exact (Machine.drop_two_of_nil hs).symm
  | jumpIfSingle hs | jumpIfUnsized hs | jumpIfSkipped hs =>
      rw [hs]
      rfl
  | jumpIfTaken hs ht =>
      rw [hs] at hc
      cases ht.symm.trans hc

end Commands

/-! ## Steps -/

/-- Either the step writes no memory, and no register but the scratch register, or it is a store
that succeeds. -/
theorem StepDerivation.keeps_or_stores {σ : Type} [Host σ] {s : Session σ}
    {result : EStateM.Result Fault (Session σ) Flow} (h : StepDerivation s result) :
    s.machine.Keeps (reached result).machine ∨
      ∃ opcode w s', s.image.fetch s.machine.ip = .ok ⟨s.machine.ip, opcode, .command .pop⟩ ∧
        result = .ok .next s' ∧ s.machine.stack = w :: s'.machine.stack ∧
        StoreRule s.image opcode s.machine w s'.machine := by
  cases h with
  | commandFailed h hc => exact .inl hc.operandResidue.keeps
  | @command opcode command m h hc =>
      by_cases hp : command = .pop
      · subst hp
        obtain ⟨w, hs, hrule⟩ := hc.store (m.ip + 1)
        exact .inr ⟨opcode, w, _, h, rfl, hs, hrule⟩
      · have hk := hc.keeps hp
        exact .inl ⟨hk.memory_eq, hk.registers_eq⟩
  | _ => exact .inl (.of_eq rfl rfl)

theorem StepDerivation.stack_suffix {σ : Type} [Host σ] {s : Session σ}
    {result : EStateM.Result Fault (Session σ) Flow} (h : StepDerivation s result) :
    s.machine.stack.drop 2 <:+ (reached result).machine.stack := by
  have hself : s.machine.stack.drop 2 <:+ s.machine.stack := List.drop_suffix _ _
  cases h with
  | input => exact hself.trans (List.suffix_cons _ _)
  | outputRefused _ hs | output _ hs => exact drop_two_suffix [_] hs (by simp)
  | commandFailed _ hc | command _ hc => exact hc.stack_suffix
  | _ => exact hself

namespace Session

variable {σ : Type} [Host σ]

/-- The step is a store that succeeds. Its operand is a register itself, or an address; it takes the
word off the stack and puts it into the register or into the cell. -/
inductive Stores (s : Session σ) :
    EStateM.Result Fault (Session σ) Flow → Location → Word → Prop where
  | register {opcode index w s'}
      (hf : s.image.fetch s.machine.ip = .ok ⟨s.machine.ip, opcode, .command .pop⟩)
      (hd : Operand.decode s.image opcode s.machine.ip = .ok ⟨.register index, false⟩)
      (hs : s.machine.stack = w :: s'.machine.stack) :
      Stores s (.ok .next s') (.register index) w
  | memory {opcode base address w s'}
      (hf : s.image.fetch s.machine.ip = .ok ⟨s.machine.ip, opcode, .command .pop⟩)
      (hd : Operand.decode s.image opcode s.machine.ip = .ok ⟨base, true⟩)
      (ha : Address.ofWord (s.machine.baseValue base) = .ok address)
      (hs : s.machine.stack = w :: s'.machine.stack) :
      Stores s (.ok .next s') (.memory address) w

/-- What a step may have changed, whatever it ends in: one cell, by a store with an address; one
register, by a store into it; the scratch register, also by a sum that was evaluated; and the two
topmost words. A conditional jump that is not taken changes only the position and takes its two
words off. -/
structure EffectSpec (s : Session σ) (result : EStateM.Result Fault (Session σ) Flow) : Prop where
  memory_of_stores : ∀ address w, s.Stores result (.memory address) w →
    (reached result).machine.memory = s.machine.memory.set address w address.isLt
  registers_of_stores : ∀ index w, s.Stores result (.register index) w →
    (reached result).machine.registers = s.machine.registers.set index w index.isLt
  memory_cases : (reached result).machine.memory = s.machine.memory ∨
    ∃ address w, s.Stores result (.memory address) w
  registers_cases : (∀ index : Register, index ≠ scratch →
      (reached result).machine.read (.register index) = s.machine.read (.register index)) ∨
    ∃ index w, s.Stores result (.register index) w
  scratch_cases : (reached result).machine.read (.register scratch) =
      s.machine.read (.register scratch) ∨
    (∃ index value indirect, s.evaluated? = some ⟨.sum index value, indirect⟩) ∨
    ∃ w, s.Stores result (.register scratch) w
  stack_suffix : s.machine.stack.drop 2 <:+ (reached result).machine.stack
  untaken : ∀ opcode condition,
    s.image.fetch s.machine.ip = .ok ⟨s.machine.ip, opcode, .command (.jumpIf condition)⟩ →
    condition.met s.machine.stack = false →
    reached result = { s with machine := { s.machine with
      stack := s.machine.stack.drop 2, ip := (reached result).machine.ip } }

variable {s : Session σ} {result : EStateM.Result Fault (Session σ) Flow}

theorem scratch_cases_of_step (h : StepDerivation s result) :
    (reached result).machine.read (.register scratch) = s.machine.read (.register scratch) ∨
      (∃ index value indirect, s.evaluated? = some ⟨.sum index value, indirect⟩) ∨
      ∃ w, s.Stores result (.register scratch) w := by
  cases h with
  | commandFailed h hc =>
      rcases hc.scratch_cases with heq | ⟨hu, index, value, indirect, hd⟩ | ⟨_, ⟨_, heq⟩, _⟩
      · exact .inl heq
      · exact .inr (.inl ⟨index, value, indirect, evaluated?_eq_some.mpr ⟨_, _, h, hu, hd⟩⟩)
      · cases heq
  | command h hc =>
      rcases hc.scratch_cases with heq | ⟨hu, index, value, indirect, hd⟩ | ⟨rfl, _, hd⟩
      · exact .inl heq
      · exact .inr (.inl ⟨index, value, indirect, evaluated?_eq_some.mpr ⟨_, _, h, hu, hd⟩⟩)
      · obtain ⟨w, hs, _⟩ := hc.store 0
        exact .inr (.inr ⟨w, .register h hd hs⟩)
  | _ => exact .inl rfl

theorem reached_of_untaken (h : StepDerivation s result) {opcode : UInt8} {condition : Condition}
    (hf : s.image.fetch s.machine.ip = .ok ⟨s.machine.ip, opcode, .command (.jumpIf condition)⟩)
    (hc : condition.met s.machine.stack = false) :
    reached result = { s with machine := { s.machine with
      stack := s.machine.stack.drop 2, ip := (reached result).machine.ip } } := by
  cases h with
  | commandFailed h hd =>
      cases h.symm.trans hf
      exact congrArg (fun m => { s with machine := m }) (hd.of_untaken hc)
  | @command _ _ m h hd =>
      cases h.symm.trans hf
      exact congrArg (fun m' : Machine => { s with machine := { m' with ip := m.ip + 1 } })
        (hd.of_untaken hc)
  | unfetched h => cases h.symm.trans hf
  | halt h | inputRefused h | inputFull h | input h | outputEmpty h | outputRefused h | output h =>
      cases h.symm.trans hf

theorem storeRule_of_fetch {s' : Session σ} {w : Word} (h : StepDerivation s (.ok .next s'))
    {opcode : UInt8}
    (hf : s.image.fetch s.machine.ip = .ok ⟨s.machine.ip, opcode, .command .pop⟩)
    (hs : s.machine.stack = w :: s'.machine.stack) :
    StoreRule s.image opcode s.machine w s'.machine := by
  obtain ⟨m, hc, rfl⟩ := h.of_command hf
  obtain ⟨w', hs', hrule⟩ := hc.store (m.ip + 1)
  obtain ⟨rfl, _⟩ := List.cons.inj (hs'.symm.trans hs)
  exact hrule

/-- Every step writes what its specification says, and nothing else. -/
theorem step_effects (s : Session σ) : s.EffectSpec (step s) := by
  have hd := step_derivation s
  generalize step s = result at hd
  exact {
    memory_of_stores := by
      intro address w hstores
      cases hstores with
      | memory hf hdecode ha hs => exact (storeRule_of_fetch hd hf hs).memory_eq hdecode ha
    registers_of_stores := by
      intro index w hstores
      cases hstores with
      | register hf hdecode hs => exact (storeRule_of_fetch hd hf hs).registers_eq hdecode
    memory_cases := by
      rcases hd.keeps_or_stores with hk | ⟨opcode, w, s', hf, rfl, hs, hrule⟩
      · exact .inl hk.memory_eq
      · rcases hrule.memory_cases with heq | ⟨base, address, hdecode, ha⟩
        · exact .inl heq
        · exact .inr ⟨address, w, .memory hf hdecode ha hs⟩
    registers_cases := by
      rcases hd.keeps_or_stores with hk | ⟨opcode, w, s', hf, rfl, hs, hrule⟩
      · exact .inl hk.registers_eq
      · rcases hrule.registers_cases with heq | ⟨index, hdecode⟩
        · exact .inl heq
        · exact .inr ⟨index, w, .register hf hdecode hs⟩
    scratch_cases := scratch_cases_of_step hd
    stack_suffix := hd.stack_suffix
    untaken := fun opcode condition hf hc => reached_of_untaken hd hf hc }

end Session

end FloatMachine
