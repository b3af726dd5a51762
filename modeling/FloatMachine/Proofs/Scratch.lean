import FloatMachine.Host.Tape
import FloatMachine.Proofs.Lockstep
import FloatMachine.Proofs.Operands

/-! The scratch register carries nothing from one instruction to the next. Two machines that differ
in it alone stay in lockstep as long as no operand names it, and become equal at the first sum that
is computed in it. -/

namespace FloatMachine

/-! ## Machines that agree -/

/-- The machines are equal up to the contents of the scratch register. -/
structure Machine.AgreeOffScratch (m m' : Machine) : Prop where
  ip_eq : m.ip = m'.ip
  stack_eq : m.stack = m'.stack
  frames_eq : m.frames = m'.frames
  memory_eq : m.memory = m'.memory
  registers_eq : ∀ index : Register, index ≠ scratch → m.registers[index] = m'.registers[index]

namespace Machine.AgreeOffScratch

variable {m m' : Machine}

/-- Once the scratch register is overwritten, nothing is left to tell the registers apart. -/
theorem registers_set_scratch (h : m.AgreeOffScratch m') (w : Word) :
    m.registers.set scratch w scratch.isLt = m'.registers.set scratch w scratch.isLt := by
  apply Vector.ext
  intro i hi
  by_cases hs : i = scratch.val
  · simp [hs]
  · have heq := h.registers_eq ⟨i, hi⟩ (fun hc => hs (congrArg Fin.val hc))
    rw [Vector.getElem_set_ne _ _ (Ne.symm hs), Vector.getElem_set_ne _ _ (Ne.symm hs)]
    exact heq

theorem set_register (h : m.AgreeOffScratch m') (target : Register) (w : Word) :
    { m with registers := m.registers.set target w target.isLt }.AgreeOffScratch
      { m' with registers := m'.registers.set target w target.isLt } := by
  refine ⟨h.ip_eq, h.stack_eq, h.frames_eq, h.memory_eq, ?_⟩
  intro index hi
  by_cases ht : target = index
  · simp [ht]
  · have hne : target.val ≠ index.val := fun hc => ht (Fin.ext hc)
    have heq := h.registers_eq index hi
    simpa [Vector.getElem_set_ne _ _ hne] using heq

theorem loadBase_sum_eq (h : m.AgreeOffScratch m') (index : Register) (value : Word) :
    m.loadBase (.sum index value) = m'.loadBase (.sum index value) := by
  have hr := h.registers_set_scratch .zero
  simp only [Machine.loadBase, Machine.loadSum, hr, h.ip_eq]
  rw [h.stack_eq, h.frames_eq, h.memory_eq]

theorem refl (m : Machine) : m.AgreeOffScratch m := ⟨rfl, rfl, rfl, rfl, fun _ _ => rfl⟩

theorem loadBase (h : m.AgreeOffScratch m') (base : Base) :
    (m.loadBase base).AgreeOffScratch (m'.loadBase base) := by
  cases base with
  | register index =>
      exact { h with ip_eq := congrArg (· + Mode.register.size) h.ip_eq }
  | literal offset value =>
      exact { h with ip_eq := congrArg (· + Mode.literal.size) h.ip_eq }
  | sum index value =>
      rw [h.loadBase_sum_eq]
      exact refl _

theorem read_baseLocation (h : m.AgreeOffScratch m') {base : Base}
    (hb : base ≠ .register scratch) :
    (m.loadBase base).read (Machine.baseLocation base) =
      (m'.loadBase base).read (Machine.baseLocation base) := by
  cases base with
  | register index => exact h.registers_eq index (fun hc => hb (congrArg Base.register hc))
  | literal offset value => rfl
  | sum index value => rw [h.loadBase_sum_eq]

end Machine.AgreeOffScratch

/-! ## Actions -/

namespace Action

open Machine (AgreeOffScratch)

variable {m m' : Machine} {image : Image} {opcode : UInt8}

theorem push_agree (h : m.AgreeOffScratch m') (w : Word) :
    Agree Eq AgreeOffScratch (fun _ => AgreeOffScratch) (push w m) (push w m') := by
  rw [push_apply, push_apply, ← h.stack_eq]
  split
  · exact .ok { h with stack_eq := rfl }
  · exact .error rfl h

theorem pop_agree (h : m.AgreeOffScratch m') :
    Agree Eq AgreeOffScratch (fun _ => AgreeOffScratch) (pop m) (pop m') := by
  rw [pop_apply, pop_apply, ← h.stack_eq]
  cases m.stack with
  | nil => exact .error rfl h
  | cons w stack => exact .ok { h with stack_eq := rfl }

theorem peek_agree (h : m.AgreeOffScratch m') :
    Agree Eq AgreeOffScratch (fun _ => AgreeOffScratch) (peek m) (peek m') := by
  rw [peek_apply, peek_apply, ← h.stack_eq]
  cases m.stack with
  | nil => exact .error rfl h
  | cons w stack => exact .ok h

theorem write_agree (h : m.AgreeOffScratch m') (location : Location) (w : Word) :
    Agree Eq AgreeOffScratch (fun _ => AgreeOffScratch) (write location w m)
      (write location w m') := by
  cases location with
  | register index => exact .ok (h.set_register index w)
  | memory address => exact .ok { h with memory_eq := congrArg (·.set address w) h.memory_eq }
  | literal offset value => exact .error rfl h

theorem popFrame_agree (h : m.AgreeOffScratch m') :
    Agree Eq AgreeOffScratch (fun _ => AgreeOffScratch) (popFrame m) (popFrame m') := by
  rw [popFrame_apply, popFrame_apply, ← h.frames_eq]
  cases m.frames with
  | nil => exact .error rfl h
  | cons returnPoint frames => exact .ok { h with ip_eq := rfl, frames_eq := rfl }

theorem skip_agree (h : m.AgreeOffScratch m') :
    Agree Eq AgreeOffScratch (fun _ => AgreeOffScratch) (skip image opcode m)
      (skip image opcode m') := by
  rw [skip_apply, skip_apply, ← h.ip_eq]
  cases Operand.sizeAt image opcode m.ip with
  | error fault => exact .error rfl h
  | ok size => exact .ok { h with ip_eq := rfl }

theorem resolve_agree (h : m.AgreeOffScratch m')
    (hplain : ∀ indirect, Operand.decode image opcode m.ip ≠ .ok ⟨.register scratch, indirect⟩) :
    Agree Eq AgreeOffScratch
      (fun location m₁ m₁' => m₁.AgreeOffScratch m₁' ∧ m₁.read location = m₁'.read location)
      (resolve image opcode m) (resolve image opcode m') := by
  simp only [resolve, locate, bind_apply, get_apply, modify_apply, ← h.ip_eq]
  cases hd : Operand.decode image opcode m.ip with
  | error fault => exact .error rfl h
  | ok operand =>
      obtain ⟨base, indirect⟩ := operand
      have hbase : base ≠ .register scratch := by
        rintro rfl
        exact hplain indirect hd
      have hload := h.loadBase base
      have hread := h.read_baseLocation hbase
      simp only [lift_ok]
      cases indirect with
      | false => exact .ok ⟨hload, hread⟩
      | true =>
          simp only [ite_true, bind_apply, get_apply, ← hread]
          cases Address.ofWord ((m.loadBase base).read (Machine.baseLocation base)) with
          | error fault => exact .error rfl hload
          | ok address => exact .ok ⟨hload, congrArg (·[address]) hload.memory_eq⟩

theorem jump_agree (h : m.AgreeOffScratch m')
    (hplain : ∀ indirect, Operand.decode image opcode m.ip ≠ .ok ⟨.register scratch, indirect⟩) :
    Agree Eq AgreeOffScratch (fun _ => AgreeOffScratch) (jump image opcode m)
      (jump image opcode m') := by
  refine Agree.bind (resolve_agree h hplain) ?_
  rintro location m₁ m₁' ⟨h₁, hread⟩
  simp only [bind_apply, get_apply, modify_apply, ← hread]
  cases target image (m₁.read location) with
  | error fault => exact .error rfl h₁
  | ok offset => exact .ok { h₁ with ip_eq := rfl }

/-- An operand that is a sum makes the machines equal, wherever it leads. -/
theorem resolve_eq_of_sum (h : m.AgreeOffScratch m') {index : Register} {value : Word}
    {indirect : Bool}
    (hd : Operand.decode image opcode m.ip = .ok ⟨.sum index value, indirect⟩) :
    resolve image opcode m = resolve image opcode m' := by
  simp only [resolve, locate, bind_apply, get_apply, modify_apply, ← h.ip_eq, hd, lift_ok,
    h.loadBase_sum_eq]

end Action

/-! ## Commands -/

/-- The command, carried out in this state, looks at the value of its operand: a conditional jump
only if it is taken, a call only if there is room for its return point. -/
def Command.usesOperand (m : Machine) : Command → Bool
  | push | pop | jump => true
  | jumpIf condition =>
    match m.stack with
    | b :: a :: _ => condition.holds (a.compare b)
    | _ => false
  | call => m.frames.length < callCapacity
  | dup | binary _ | unary _ | ret => false

namespace Command

open Machine (AgreeOffScratch)

variable {m m' : Machine} {image : Image} {opcode : UInt8}

theorem execute_agree (h : m.AgreeOffScratch m') (command : Command)
    (hplain : command.usesOperand m = true → ∀ indirect,
      Operand.decode image opcode m.ip ≠ .ok ⟨.register scratch, indirect⟩) :
    Agree Eq AgreeOffScratch (fun _ => AgreeOffScratch) (command.execute image opcode m)
      (command.execute image opcode m') := by
  cases command with
  | push =>
      refine Agree.bind (Action.resolve_agree h (hplain rfl)) ?_
      rintro location m₁ m₁' ⟨h₁, hread⟩
      simp only [bind_apply, get_apply, hread]
      exact Action.push_agree h₁ _
  | pop =>
      refine Agree.bind (Action.resolve_agree h (hplain rfl)) ?_
      rintro location m₁ m₁' ⟨h₁, _⟩
      refine Agree.bind (Action.pop_agree h₁) ?_
      intro w m₂ m₂' h₂
      exact Action.write_agree h₂ location w
  | dup =>
      refine Agree.bind (Action.peek_agree h) ?_
      intro w m₁ m₁' h₁
      exact Action.push_agree h₁ w
  | binary operation =>
      refine Agree.bind (Action.pop_agree h) ?_
      intro b m₁ m₁' h₁
      refine Agree.bind (Action.pop_agree h₁) ?_
      intro a m₂ m₂' h₂
      exact Action.push_agree h₂ _
  | unary operation =>
      refine Agree.bind (Action.pop_agree h) ?_
      intro a m₁ m₁' h₁
      exact Action.push_agree h₁ _
  | jump => exact Action.jump_agree h (hplain rfl)
  | jumpIf condition =>
      simp only [execute, bind_apply, Action.pop_apply, ← h.stack_eq]
      rcases hs : m.stack with _ | ⟨b, _ | ⟨a, stack⟩⟩
      · exact .error rfl h
      · exact .error rfl { h with stack_eq := rfl }
      · have h₂ : { m with stack }.AgreeOffScratch { m' with stack } :=
          { h with stack_eq := rfl }
        simp only [Action.jumpWhen]
        cases hc : condition.holds (a.compare b) with
        | true => exact Action.jump_agree h₂ (hplain (by simp only [usesOperand, hs, hc]))
        | false => exact Action.skip_agree h₂
  | call =>
      simp only [execute, bind_apply, get_apply, Action.pushFrame_apply, ← h.ip_eq]
      cases Mode.decode opcode m.ip with
      | error fault => exact .error rfl h
      | ok mode =>
          simp only [Action.lift_ok, ← h.frames_eq]
          by_cases hf : m.frames.length < callCapacity
          · simp only [hf, ite_true]
            exact Action.jump_agree { h with frames_eq := rfl }
              (hplain (by simp only [usesOperand, hf, decide_true]))
          · simp only [hf, ite_false]
            exact .error rfl h
  | ret => exact Action.popFrame_agree h

theorem execute_eq_of_sum (h : m.AgreeOffScratch m') {command : Command}
    (hu : command.usesOperand m = true) {index : Register} {value : Word} {indirect : Bool}
    (hd : Operand.decode image opcode m.ip = .ok ⟨.sum index value, indirect⟩) :
    command.execute image opcode m = command.execute image opcode m' := by
  have hr := Action.resolve_eq_of_sum h hd
  cases command with
  | push | pop | jump => simp only [execute, Action.jump, bind_apply, hr]
  | jumpIf condition =>
      simp only [execute, bind_apply, Action.pop_apply, ← h.stack_eq]
      rcases hs : m.stack with _ | ⟨b, _ | ⟨a, stack⟩⟩
      · simp [usesOperand, hs] at hu
      · simp [usesOperand, hs] at hu
      · have hc : condition.holds (a.compare b) = true := by simpa only [usesOperand, hs] using hu
        have h₂ : { m with stack }.AgreeOffScratch { m' with stack } :=
          { h with stack_eq := rfl }
        have hr₂ := Action.resolve_eq_of_sum h₂ hd
        simp only [hc, Action.jumpWhen, ite_true, Action.jump, bind_apply, hr₂]
  | call =>
      have hf : m.frames.length < callCapacity := by simpa [usesOperand] using hu
      have hm : Mode.decode opcode m.ip = .ok .sum := mode_decode_eq_ok.mpr (decode_eq_ok.mp hd).1
      have h₁ : { m with frames := (m.ip + Mode.sum.size) :: m.frames }.AgreeOffScratch
          { m' with frames := (m.ip + Mode.sum.size) :: m.frames } := { h with frames_eq := rfl }
      have hr₁ := Action.resolve_eq_of_sum h₁ hd
      simp only [execute, bind_apply, get_apply, Action.pushFrame_apply, ← h.ip_eq, hm,
        Action.lift_ok, ← h.frames_eq, hf, ite_true, Action.jump, hr₁]
  | dup | binary _ | unary _ | ret => simp [usesOperand] at hu

end Command

/-! ## Sessions -/

namespace Session

open Machine (AgreeOffScratch)

variable {σ : Type}

/-- The operand whose value the step from here looks at, if there is one. -/
def evaluated? (s : Session σ) : Option Operand :=
  match s.image.fetch s.machine.ip with
  | .ok ⟨_, opcode, .command command⟩ =>
    if command.usesOperand s.machine then
      (Operand.decode s.image opcode s.machine.ip).toOption
    else none
  | _ => none

variable {s t : Session σ}

theorem evaluated?_eq_some {operand : Operand} :
    s.evaluated? = some operand ↔
      ∃ opcode command,
        s.image.fetch s.machine.ip = .ok ⟨s.machine.ip, opcode, .command command⟩ ∧
        command.usesOperand s.machine = true ∧
        Operand.decode s.image opcode s.machine.ip = .ok operand := by
  unfold evaluated?
  cases hf : s.image.fetch s.machine.ip with
  | error fault => simp
  | ok fetched =>
      obtain ⟨offset, opcode, instruction⟩ := fetched
      obtain rfl : offset = s.machine.ip := (fetch_eq_ok.mp hf).1
      cases instruction with
      | halt | input | output => simp
      | command command =>
          cases hu : command.usesOperand s.machine with
          | false => simp [hu]
          | true =>
              constructor
              · intro h
                cases hd : Operand.decode s.image opcode s.machine.ip with
                | error fault => simp [hu, hd, Except.toOption] at h
                | ok operand' =>
                    obtain rfl : operand' = operand := by simpa [hu, hd, Except.toOption] using h
                    exact ⟨opcode, command, rfl, hu, hd⟩
              · rintro ⟨_, _, heq, _, hd⟩
                cases heq
                simp [hu, hd, Except.toOption]

variable [Host σ]

theorem stable_agreeOffScratch : Machine.Stable Eq AgreeOffScratch where
  ip_eq h := h.ip_eq
  advance h := { h with ip_eq := congrArg (· + 1) h.ip_eq }
  push w h := Action.push_agree h w
  pop h := Action.pop_agree h

/-- One step keeps the machines equal up to the scratch register, and gives the same answer. -/
theorem step_agree_off_scratch (h : Related AgreeOffScratch Eq s t)
    (hplain : ∀ indirect, s.evaluated? ≠ some ⟨.register scratch, indirect⟩) :
    Agree Eq (Related AgreeOffScratch Eq) (fun _ => Related AgreeOffScratch Eq)
      (step s) (step t) := by
  have hrefl : ∀ fault : Fault, fault = fault := fun _ => rfl
  refine step_agree stable_agreeOffScratch hrefl h ?_ ?_ ?_
  · intro _ _
    rw [h.host]
    exact .refl hrefl _
  · rintro w host _ rfl
    exact .refl hrefl _
  · intro opcode command hf
    refine Command.execute_agree h.machine command ?_
    intro hu indirect hd
    exact hplain indirect (evaluated?_eq_some.mpr ⟨opcode, command, hf, hu, hd⟩)

theorem step_of_command {opcode : UInt8} {command : Command}
    (hf : s.image.fetch s.machine.ip = .ok ⟨s.machine.ip, opcode, .command command⟩) :
    step s =
      match command.execute s.image opcode s.machine with
      | .ok _ m => .ok .next { s with machine := { m with ip := m.ip + 1 } }
      | .error fault m => .error fault { s with machine := m } := by
  simp only [step, execute, bind_apply, get_apply, hf, onMachine]
  cases command.execute s.image opcode s.machine <;> rfl

theorem step_eq_of_sum (h : Related AgreeOffScratch Eq s t) {index : Register} {value : Word}
    {indirect : Bool} (he : s.evaluated? = some ⟨.sum index value, indirect⟩) :
    step s = step t := by
  obtain ⟨opcode, command, hf, hu, hd⟩ := evaluated?_eq_some.mp he
  have hexecute := Command.execute_eq_of_sum h.machine hu hd
  have hft : t.image.fetch t.machine.ip = .ok ⟨t.machine.ip, opcode, .command command⟩ := by
    rw [← h.image_eq, ← h.machine.ip_eq, hf]
  rw [step_of_command hf, step_of_command hft, hexecute, h.image_eq, h.host]

/-- Two sessions that differ in the scratch register alone: as long as no step of the first one
looks at that register as an operand of its own, both give the same answers and stay equal up to
it, and from the first sum on they are equal altogether. -/
theorem scratch_carries_nothing (h : Related AgreeOffScratch Eq s t) {n : Nat}
    (hplain : ∀ i < n, ∀ indirect, (s.after i).evaluated? ≠ some ⟨.register scratch, indirect⟩) :
    (∀ i ≤ n, Related AgreeOffScratch Eq (s.after i) (t.after i)) ∧
      (∀ i < n, answer (step (s.after i)) = answer (step (t.after i))) ∧
      (∀ i < n, ∀ index value indirect,
        (s.after i).evaluated? = some ⟨.sum index value, indirect⟩ →
        ∀ j, i < j → s.after j = t.after j) := by
  have hrelated : ∀ i ≤ n, Related AgreeOffScratch Eq (s.after i) (t.after i) :=
    after_related (R := Related AgreeOffScratch Eq)
      (fun s t h hp => (step_agree_off_scratch h hp).reached_related) h hplain
  refine ⟨hrelated, ?_, ?_⟩
  · intro i hi
    exact (step_agree_off_scratch (hrelated i (Nat.le_of_lt hi)) (hplain i hi)).answer_eq
  · intro i hi index value indirect he j hj
    have hstep := step_eq_of_sum (hrelated i (Nat.le_of_lt hi)) he
    obtain ⟨k, rfl⟩ := Nat.exists_eq_add_of_lt hj
    rw [Nat.add_right_comm, after_add (i + 1) k s, after_add (i + 1) k t, after_succ, after_succ,
      hstep]

/-- Words that differ in the scratch register are gone after the register plus one is pushed. -/
theorem scratch_carries_nothing_of_sum :
    let image : Image := ⟨#[0x48, 0x59, 0x56, 0x4d, 3,
      0x61, 0, 0, 0, 0, 0, 0, 0, 0xf0, 0x3f, 0x0b, 0x00]⟩
    let s : Session Tape := fresh image {}
    let t : Session Tape := { s with
      machine := { s.machine with registers := s.machine.registers.set 0 ⟨0x401c000000000000⟩ } }
    s.machine.registers[0] ≠ t.machine.registers[0] ∧
      s.evaluated? = some ⟨.sum 0 ⟨0x3ff0000000000000⟩, false⟩ ∧
      (∀ i < 3, answer (step (s.after i)) = answer (step (t.after i))) ∧
      ∀ j, 0 < j → s.after j = t.after j := by
  intro image s t
  have h : Related AgreeOffScratch Eq s t := ⟨rfl, ⟨rfl, rfl, rfl, rfl, by decide +kernel⟩, rfl⟩
  have hsum : s.evaluated? = some ⟨.sum 0 ⟨0x3ff0000000000000⟩, false⟩ := by decide +kernel
  have hplain : ∀ i < 3, ∀ indirect,
      (s.after i).evaluated? ≠ some ⟨.register scratch, indirect⟩ := by
    decide +kernel
  obtain ⟨_, hanswer, hequal⟩ := scratch_carries_nothing h hplain
  exact ⟨by decide +kernel, hsum, hanswer, hequal 0 (by decide) _ _ _ hsum⟩

end Session

end FloatMachine
