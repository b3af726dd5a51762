import FloatMachine.Proofs.Runs

/-! Two runs side by side. Results agree if they carry the same value, or faults that match, and
leave related states behind. Agreement passes through sequences of actions, so that two runs are
compared action by action, then step by step, then over any number of steps, also past faults. -/

namespace FloatMachine

/-! ## Results -/

section Results

variable {σ τ α β : Type}

/-- Both results carry the same value, with states that `done` relates for it, or both carry
faults that match, with states that `failed` relates. -/
inductive Agree (matching : Fault → Fault → Prop) (failed : σ → τ → Prop)
    (done : α → σ → τ → Prop) :
    EStateM.Result Fault σ α → EStateM.Result Fault τ α → Prop where
  | ok {a s t} (h : done a s t) : Agree matching failed done (.ok a s) (.ok a t)
  | error {fault fault' s t} (hf : matching fault fault') (h : failed s t) :
      Agree matching failed done (.error fault s) (.error fault' t)

variable {matching : Fault → Fault → Prop} {failed : σ → τ → Prop}

/-- Actions that agree, followed by actions that agree wherever the first ones end. -/
theorem Agree.bind {mid : α → σ → τ → Prop} {done : β → σ → τ → Prop}
    {x : EStateM Fault σ α} {y : EStateM Fault τ α} {f : α → EStateM Fault σ β}
    {g : α → EStateM Fault τ β} {s : σ} {t : τ} (h : Agree matching failed mid (x s) (y t))
    (hnext : ∀ a s t, mid a s t → Agree matching failed done (f a s) (g a t)) :
    Agree matching failed done ((x >>= f) s) ((y >>= g) t) := by
  rw [bind_apply, bind_apply]
  generalize x s = r at h
  generalize y t = r' at h
  cases h with
  | ok h => exact hnext _ _ _ h
  | error hf h => exact .error hf h

theorem Agree.refl (hrefl : ∀ fault, matching fault fault) (r : EStateM.Result Fault σ α) :
    Agree matching Eq (fun _ => Eq) r r := by
  cases r with
  | ok a s => exact .ok rfl
  | error fault s => exact .error (hrefl fault) rfl

theorem Agree.reached_related {R : σ → τ → Prop} {r : EStateM.Result Fault σ α}
    {r' : EStateM.Result Fault τ α} (h : Agree matching R (fun _ => R) r r') :
    R (reached r) (reached r') := by
  cases h with
  | ok h => exact h
  | error _ h => exact h

/-- What a result tells of an action, the state apart. -/
def answer : EStateM.Result Fault σ α → Except Fault α
  | .ok a _ => .ok a
  | .error fault _ => .error fault

theorem Agree.answer_eq {done : α → σ → τ → Prop} {r : EStateM.Result Fault σ α}
    {r' : EStateM.Result Fault τ α} (h : Agree Eq failed done r r') : answer r = answer r' := by
  cases h with
  | ok h => rfl
  | error hf h => exact congrArg Except.error hf

end Results

/-! ## Sessions -/

/-- A relation between machines at the same position that holds on when both move on, or put the
same word on their stacks, or take a word off. -/
structure Machine.Stable (matching : Fault → Fault → Prop)
    (machines : Machine → Machine → Prop) : Prop where
  ip_eq : ∀ {m m'}, machines m m' → m.ip = m'.ip
  advance : ∀ {m m'}, machines m m' →
    machines { m with ip := m.ip + 1 } { m' with ip := m'.ip + 1 }
  push : ∀ {m m'} (w), machines m m' →
    Agree matching machines (fun _ => machines) (Action.push w m) (Action.push w m')
  pop : ∀ {m m'}, machines m m' →
    Agree matching machines (fun _ => machines) (Action.pop m) (Action.pop m')

theorem Machine.stable_eq {matching : Fault → Fault → Prop}
    (hrefl : ∀ fault, matching fault fault) : Machine.Stable matching Eq := by
  refine ⟨?_, ?_, ?_, ?_⟩
  · rintro m _ rfl
    rfl
  · rintro m _ rfl
    rfl
  · rintro m _ w rfl
    exact .refl hrefl _
  · rintro m _ rfl
    exact .refl hrefl _

namespace Session

variable {σ τ : Type}

/-- Two sessions over one image, with related machines and related hosts. -/
structure Related (machines : Machine → Machine → Prop) (hosts : σ → τ → Prop)
    (s : Session σ) (t : Session τ) : Prop where
  image_eq : s.image = t.image
  machine : machines s.machine t.machine
  host : hosts s.host t.host

variable {matching : Fault → Fault → Prop} {machines : Machine → Machine → Prop}
  {hosts : σ → τ → Prop} {s : Session σ} {t : Session τ}

theorem onMachine_agree {α : Type} {x y : Action α} (h : Related machines hosts s t)
    (hx : Agree matching machines (fun _ => machines) (x s.machine) (y t.machine)) :
    Agree matching (Related machines hosts) (fun _ => Related machines hosts)
      (onMachine x s) (onMachine y t) := by
  unfold onMachine
  generalize x s.machine = r at hx
  generalize y t.machine = r' at hx
  cases hx with
  | ok hm => exact .ok ⟨h.image_eq, hm, h.host⟩
  | error hf hm => exact .error hf ⟨h.image_eq, hm, h.host⟩

theorem onHost_agree {α : Type} {x : EStateM Fault σ α} {y : EStateM Fault τ α}
    (h : Related machines hosts s t)
    (hx : Agree matching hosts (fun _ => hosts) (x s.host) (y t.host)) :
    Agree matching (Related machines hosts) (fun _ => Related machines hosts)
      (onHost x s) (onHost y t) := by
  unfold onHost
  generalize x s.host = r at hx
  generalize y t.host = r' at hx
  cases hx with
  | ok hh => exact .ok ⟨h.image_eq, h.machine, hh⟩
  | error hf hh => exact .error hf ⟨h.image_eq, h.machine, hh⟩

variable [Host σ] [Host τ]

theorem execute_agree (hstable : Machine.Stable matching machines) (h : Related machines hosts s t)
    (fetched : Fetched)
    (hread : fetched.instruction = .input →
      Agree matching hosts (fun _ => hosts) (Host.read s.host) (Host.read t.host))
    (hwrite : ∀ w a b, hosts a b →
      Agree matching hosts (fun _ => hosts) (Host.write w a) (Host.write w b))
    (hexecute : ∀ command, fetched.instruction = .command command →
      Agree matching machines (fun _ => machines)
        (command.execute s.image fetched.opcode s.machine)
        (command.execute s.image fetched.opcode t.machine)) :
    Agree matching (Related machines hosts) (fun _ => Related machines hosts)
      (execute fetched s) (execute fetched t) := by
  simp only [execute]
  cases hi : fetched.instruction with
  | halt => exact .ok h
  | input =>
      refine Agree.bind (onHost_agree h (hread hi)) ?_
      intro w s₁ t₁ h₁
      refine Agree.bind (onMachine_agree h₁ (hstable.push w h₁.machine)) ?_
      intro _ s₂ t₂ h₂
      exact .ok h₂
  | output =>
      refine Agree.bind (onMachine_agree h (hstable.pop h.machine)) ?_
      intro w s₁ t₁ h₁
      refine Agree.bind (onHost_agree h₁ (hwrite w _ _ h₁.host)) ?_
      intro _ s₂ t₂ h₂
      exact .ok h₂
  | command command =>
      simp only [bind_apply (get : EStateM Fault (Session σ) (Session σ)),
        bind_apply (get : EStateM Fault (Session τ) (Session τ)), get_apply, ← h.image_eq]
      refine Agree.bind (onMachine_agree h (hexecute command hi)) ?_
      intro _ s₁ t₁ h₁
      exact .ok h₁

/-- Two related sessions take agreeing steps, if their hosts agree on what is read and written and
their machines on the command to be carried out. -/
theorem step_agree (hstable : Machine.Stable matching machines)
    (hrefl : ∀ fault, matching fault fault) (h : Related machines hosts s t)
    (hread : ∀ opcode, s.image.fetch s.machine.ip = .ok ⟨s.machine.ip, opcode, .input⟩ →
      Agree matching hosts (fun _ => hosts) (Host.read s.host) (Host.read t.host))
    (hwrite : ∀ w a b, hosts a b →
      Agree matching hosts (fun _ => hosts) (Host.write w a) (Host.write w b))
    (hexecute : ∀ opcode command,
      s.image.fetch s.machine.ip = .ok ⟨s.machine.ip, opcode, .command command⟩ →
      Agree matching machines (fun _ => machines) (command.execute s.image opcode s.machine)
        (command.execute s.image opcode t.machine)) :
    Agree matching (Related machines hosts) (fun _ => Related machines hosts)
      (step s) (step t) := by
  simp only [step, bind_apply, get_apply, ← h.image_eq, ← hstable.ip_eq h.machine]
  cases hf : s.image.fetch s.machine.ip with
  | error fault => exact .error (hrefl fault) h
  | ok fetched =>
      obtain ⟨offset, opcode, instruction⟩ := fetched
      obtain rfl : offset = s.machine.ip := (fetch_eq_ok.mp hf).1
      refine Agree.bind (execute_agree hstable h _ ?_ hwrite ?_) ?_
      · rintro rfl
        exact hread opcode hf
      · rintro command rfl
        exact hexecute opcode command hf
      · intro flow s₁ t₁ h₁
        cases flow with
        | halt => exact .ok h₁
        | next => exact .ok ⟨h₁.image_eq, hstable.advance h₁.machine, h₁.host⟩

/-! ## Any number of steps -/

/-- The session after a number of steps, whatever each of them ends in. -/
def after : Nat → Session σ → Session σ
  | 0, s => s
  | n + 1, s => after n (reached (step s))

theorem after_succ (n : Nat) (s : Session σ) : s.after (n + 1) = reached (step (s.after n)) := by
  induction n generalizing s with
  | zero => rfl
  | succ n ih => exact ih (reached (step s))

theorem after_add (m n : Nat) (s : Session σ) : s.after (m + n) = (s.after m).after n := by
  induction n with
  | zero => rfl
  | succ n ih => rw [← Nat.add_assoc, after_succ, after_succ, ih]

theorem after_of_resume {n : Nat} {s s' : Session σ} (h : s.resume n = (none, s')) :
    s.after n = s' := by
  induction n generalizing s with
  | zero =>
      cases h
      rfl
  | succ n ih =>
      obtain ⟨s₁, hstep, hr⟩ := next_of_resume h
      rw [after, hstep]
      exact ih hr

/-- What is kept by two steps from states that a condition admits is kept by two runs, as long as
the first one stays within the condition. -/
theorem after_related {R : Session σ → Session τ → Prop} {P : Session σ → Prop}
    (hstep : ∀ s t, R s t → P s → R (reached (step s)) (reached (step t)))
    {s : Session σ} {t : Session τ} (h : R s t) {n : Nat} (hP : ∀ i < n, P (s.after i)) :
    ∀ i ≤ n, R (s.after i) (t.after i) := by
  intro i hi
  induction i with
  | zero => exact h
  | succ i ih =>
      rw [after_succ, after_succ]
      exact hstep _ _ (ih (Nat.le_of_succ_le hi)) (hP i hi)

end Session

end FloatMachine
