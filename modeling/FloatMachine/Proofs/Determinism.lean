import FloatMachine.Proofs.Runs

/-! The rules of a step determine it. Whatever a rule allows is what the machine does, so a rule
that applies can be read as an equation, and a step is carried over to another session by carrying
over the rule it follows. What holds of single steps in this way holds of runs. -/

namespace FloatMachine

section Machines

variable {image : Image} {opcode : UInt8} {m : Machine}

/-! ## Operands and jumps -/

theorem ResolveDerivation.execution {result : EStateM.Result Fault Machine Location}
    (h : ResolveDerivation image opcode m result) : Action.resolve image opcode m = result := by
  simp only [Action.resolve, Action.locate, bind_apply, get_apply, modify_apply]
  cases h with
  | undecoded h => simp only [h, Action.lift_error]
  | unaddressed h hi ha =>
      simp only [h, hi, ha, Action.lift_ok, ite_true, bind_apply, get_apply, Action.lift_error]
  | direct h hd =>
      simp only [h, hd, Action.lift_ok, Bool.false_eq_true, ite_false]
      rfl
  | indirect h hi ha =>
      simp only [h, hi, ha, Action.lift_ok, ite_true, bind_apply, get_apply]
      rfl

theorem resolveDerivation_iff {result : EStateM.Result Fault Machine Location} :
    ResolveDerivation image opcode m result ↔ Action.resolve image opcode m = result := by
  refine ⟨ResolveDerivation.execution, ?_⟩
  rintro rfl
  exact resolve_derivation image opcode m

theorem JumpDerivation.execution {result : EStateM.Result Fault Machine Unit}
    (h : JumpDerivation image opcode m result) : Action.jump image opcode m = result := by
  simp only [Action.jump, bind_apply, get_apply, modify_apply]
  cases h with
  | unresolved h => simp only [h.execution]
  | outside h ht => simp only [h.execution, ht, Action.lift_error]
  | taken h ht => simp only [h.execution, ht, Action.lift_ok]

/-! ## Commands -/

theorem CommandDerivation.execution {command : Command}
    {result : EStateM.Result Fault Machine Unit}
    (h : CommandDerivation image opcode m command result) :
    command.execute image opcode m = result := by
  cases h with
  | pushUnresolved h | popUnresolved h => simp only [Command.execute, bind_apply, h.execution]
  | pushFull h hs =>
      simp only [Command.execute, bind_apply, get_apply, h.execution, Action.push_apply, hs,
        ite_false]
  | push h hs =>
      simp only [Command.execute, bind_apply, get_apply, h.execution, Action.push_apply, hs,
        ite_true]
  | popEmpty h hs => simp only [Command.execute, bind_apply, h.execution, Action.pop_apply, hs]
  | popLiteral h hs | popRegister h hs | popMemory h hs =>
      simp only [Command.execute, bind_apply, h.execution, Action.pop_apply, hs]
      rfl
  | dupEmpty hs => simp only [Command.execute, bind_apply, Action.peek_apply, hs]
  | dupFull hs hf =>
      simp only [Command.execute, bind_apply, Action.peek_apply, hs, Action.push_apply]
      rw [← hs, if_neg hf]
  | dup hs hf =>
      simp only [Command.execute, bind_apply, Action.peek_apply, hs, Action.push_apply]
      rw [← hs, if_pos hf]
  | binaryEmpty hs | binarySingle hs | unaryEmpty hs | jumpIfEmpty hs | jumpIfSingle hs =>
      simp only [Command.execute, bind_apply, Action.pop_apply, hs]
  | binaryFull hs hf | unaryFull hs hf =>
      simp only [Command.execute, bind_apply, Action.pop_apply, hs, Action.push_apply, hf,
        ite_false]
  | binary hs hf | unary hs hf =>
      simp only [Command.execute, bind_apply, Action.pop_apply, hs, Action.push_apply, hf, ite_true]
  | jump h => exact h.execution
  | jumpIfTaken hs hc h =>
      simp only [Command.execute, bind_apply, Action.pop_apply, hs, hc, Action.jumpWhen, ite_true,
        h.execution]
  | jumpIfUnsized hs hc h | jumpIfSkipped hs hc h =>
      simp only [Command.execute, bind_apply, Action.pop_apply, hs, hc, Action.jumpWhen,
        Bool.false_eq_true, ite_false, Action.skip_apply, h]
  | callUndecoded h => simp only [Command.execute, bind_apply, get_apply, h, Action.lift_error]
  | callFull h hf =>
      simp only [Command.execute, bind_apply, get_apply, h, Action.lift_ok, Action.pushFrame_apply,
        hf, ite_false]
  | call h hf hj =>
      simp only [Command.execute, bind_apply, get_apply, h, Action.lift_ok, Action.pushFrame_apply,
        hf, ite_true, hj.execution]
  | retEmpty hf | ret hf => simp only [Command.execute, Action.popFrame_apply, hf]

end Machines

/-! ## Steps -/

variable {σ : Type} [Host σ] {s : Session σ}

theorem StepDerivation.execution {result : EStateM.Result Fault (Session σ) Flow}
    (h : StepDerivation s result) : Session.step s = result := by
  simp only [Session.step, bind_apply, get_apply]
  cases h with
  | unfetched h => simp only [h]; rfl
  | halt h => simp only [h, bind_apply, Session.execute]; rfl
  | inputRefused h hh => simp only [h, bind_apply, Session.execute, Session.onHost, hh]
  | inputFull h hh hs =>
      simp only [h, bind_apply, Session.execute, Session.onHost, hh, Session.onMachine,
        Action.push_apply, hs, ite_false]
  | input h hh hs =>
      simp only [h, bind_apply, Session.execute, Session.onHost, hh, Session.onMachine,
        Action.push_apply, hs, ite_true]
      rfl
  | outputEmpty h hs =>
      simp only [h, bind_apply, Session.execute, Session.onMachine, Action.pop_apply, hs]
  | outputRefused h hs hh =>
      simp only [h, bind_apply, Session.execute, Session.onMachine, Action.pop_apply, hs,
        Session.onHost, hh]
  | output h hs hh =>
      simp only [h, bind_apply, Session.execute, Session.onMachine, Action.pop_apply, hs,
        Session.onHost, hh]
      rfl
  | commandFailed h hc =>
      simp only [h, bind_apply, get_apply, Session.execute, Session.onMachine, hc.execution]
  | command h hc =>
      simp only [h, bind_apply, get_apply, Session.execute, Session.onMachine, hc.execution]
      rfl

theorem stepDerivation_iff {result : EStateM.Result Fault (Session σ) Flow} :
    StepDerivation s result ↔ Session.step s = result :=
  ⟨StepDerivation.execution, StepDerivation.of_step⟩

/-! ## Runs -/

namespace Session

/-- A change to sessions that commutes with the steps that do not fail and end where a condition
holds commutes with the runs that do not fail and stay where it holds. -/
theorem resume_map {f : Session σ → Session σ} {P : Session σ → Prop}
    (hstep : ∀ s s' flow, step s = .ok flow s' → P s' → step (f s) = .ok flow (f s'))
    {n : Nat} (hok : ∀ fault, (s.resume n).1 ≠ some (.failed fault))
    (hP : ∀ i, 0 < i → i ≤ n → P (s.resume i).2) :
    ∀ i ≤ n, (f s).resume i = ((s.resume i).1, f (s.resume i).2) := by
  intro i hi
  induction i generalizing s n with
  | zero => rfl
  | succ i ih =>
      obtain ⟨n, rfl⟩ := Nat.exists_eq_succ_of_ne_zero (Nat.ne_zero_of_lt hi)
      have hfirst := hP 1 Nat.one_pos (Nat.succ_le_succ (Nat.zero_le n))
      match heq : step s with
      | .ok .next s' =>
          rw [resume_succ_of_next heq] at hfirst hok
          rw [resume_succ_of_next heq, resume_succ_of_next (hstep s s' .next heq hfirst)]
          apply ih hok ?_ (Nat.le_of_succ_le_succ hi)
          intro j hpos hj
          have hlater := hP (j + 1) (Nat.succ_pos j) (Nat.succ_le_succ hj)
          rwa [resume_succ_of_next heq] at hlater
      | .ok .halt s' =>
          rw [resume_succ_of_halt heq] at hfirst
          rw [resume_succ_of_halt heq, resume_succ_of_halt (hstep s s' .halt heq hfirst)]
      | .error fault s' =>
          rw [resume_succ_of_error heq] at hok
          exact absurd rfl (hok fault)

theorem resume_map_of_step {f : Session σ → Session σ}
    (hstep : ∀ s s' flow, step s = .ok flow s' → step (f s) = .ok flow (f s'))
    {n : Nat} (hok : ∀ fault, (s.resume n).1 ≠ some (.failed fault)) :
    ∀ i ≤ n, (f s).resume i = ((s.resume i).1, f (s.resume i).2) :=
  resume_map (P := fun _ => True) (fun s s' flow h _ => hstep s s' flow h) hok
    (fun _ _ _ => trivial)

end Session

end FloatMachine
