import FloatMachine.Proofs.Execution

/-! Runs and histories of calls. What every step keeps is kept by a run of any length, and by any
sequence of single steps and runs, also one that goes on after a fault. -/

namespace FloatMachine.Session

/-- A session in which nothing has been run yet. -/
def fresh {σ : Type} (image : Image) (host : σ) : Session σ := { image, host }

variable {σ : Type} [Host σ]

/-! ## Runs -/

theorem resume_succ_of_next {s s' : Session σ} (h : step s = .ok .next s') (fuel : Nat) :
    s.resume (fuel + 1) = s'.resume fuel := by
  rw [resume, h]

theorem resume_succ_of_halt {s s' : Session σ} (h : step s = .ok .halt s') (fuel : Nat) :
    s.resume (fuel + 1) = (some .halted, s') := by
  rw [resume, h]

theorem resume_succ_of_error {s s' : Session σ} {fault : Fault} (h : step s = .error fault s')
    (fuel : Nat) : s.resume (fuel + 1) = (some (.failed fault), s') := by
  rw [resume, h]

/-- What every step keeps holds at the end of a run, however it ends. -/
theorem resume_invariant {P : Session σ → Prop}
    (hstep : ∀ s result, P s → StepDerivation s result → P (reached result))
    (fuel : Nat) (s : Session σ) (h : P s) : P (s.resume fuel).2 := by
  induction fuel generalizing s with
  | zero => exact h
  | succ fuel ih =>
      have hd := hstep s _ h (step_derivation s)
      match heq : step s with
      | .ok .next s' =>
          rw [heq] at hd
          rw [resume_succ_of_next heq]
          exact ih s' hd
      | .ok .halt s' =>
          rw [heq] at hd
          rw [resume_succ_of_halt heq]
          exact hd
      | .error fault s' =>
          rw [heq] at hd
          rw [resume_succ_of_error heq]
          exact hd

theorem resume_image (fuel : Nat) (s : Session σ) : (s.resume fuel).2.image = s.image := by
  refine resume_invariant (P := fun s' => s'.image = s.image) ?_ fuel s rfl
  intro s' result h hd
  rw [hd.image_eq, h]

theorem resume_invariant_of_ok {P : Session σ → Prop}
    (hstep : ∀ s flow s', P s → StepDerivation s (.ok flow s') → P s')
    (fuel : Nat) (s : Session σ) (h : P s)
    (hok : ∀ fault, (s.resume fuel).1 ≠ some (.failed fault)) : P (s.resume fuel).2 := by
  induction fuel generalizing s with
  | zero => exact h
  | succ fuel ih =>
      have hd := step_derivation s
      match heq : step s with
      | .ok .next s' =>
          rw [heq] at hd
          rw [resume_succ_of_next heq] at hok ⊢
          exact ih s' (hstep s _ s' h hd) hok
      | .ok .halt s' =>
          rw [heq] at hd
          rw [resume_succ_of_halt heq]
          exact hstep s _ s' h hd
      | .error fault s' =>
          rw [resume_succ_of_error heq] at hok
          exact absurd rfl (hok fault)

/-! ## Segments -/

/-- Each of the first `n` states leads on to the one behind it. -/
def Segment (s : Nat → Session σ) (n : Nat) : Prop :=
  ∀ i < n, step (s i) = .ok .next (s (i + 1))

theorem Segment.invariant {s : Nat → Session σ} {n : Nat} (hs : Segment s n)
    {P : Session σ → Prop} (h : P (s 0))
    (hstep : ∀ i < n, P (s i) → StepDerivation (s i) (.ok .next (s (i + 1))) → P (s (i + 1))) :
    ∀ i ≤ n, P (s i) := by
  intro i hi
  induction i with
  | zero => exact h
  | succ i ih =>
      exact hstep i hi (ih (Nat.le_of_succ_le hi)) (.of_step (hs i hi))

theorem next_of_resume {s t : Session σ} {fuel : Nat} (h : s.resume (fuel + 1) = (none, t)) :
    ∃ s', step s = .ok .next s' ∧ s'.resume fuel = (none, t) := by
  match heq : step s with
  | .ok .next s' => exact ⟨s', rfl, resume_succ_of_next heq fuel ▸ h⟩
  | .ok .halt s' => cases (resume_succ_of_halt heq fuel).symm.trans h
  | .error fault s' => cases (resume_succ_of_error heq fuel).symm.trans h

theorem step_error_of_resume {s s' : Session σ} {fault : Fault}
    (h : s.resume 1 = (some (.failed fault), s')) : step s = .error fault s' := by
  match heq : step s with
  | .ok .next t => cases (resume_succ_of_next heq 0).symm.trans h
  | .ok .halt t => cases (resume_succ_of_halt heq 0).symm.trans h
  | .error fault' t =>
      cases (resume_succ_of_error heq 0).symm.trans h
      rfl

theorem resume_add {m : Nat} {s t : Session σ} (h : s.resume m = (none, t)) (n : Nat) :
    s.resume (m + n) = t.resume n := by
  induction m generalizing s with
  | zero =>
      cases h
      rw [Nat.zero_add]
  | succ m ih =>
      obtain ⟨s₁, hstep, hr⟩ := next_of_resume h
      rw [Nat.succ_add, resume_succ_of_next hstep]
      exact ih hr

theorem step_of_resume {s t : Session σ} {fuel : Nat} (h : s.resume (fuel + 1) = (none, t)) :
    ∃ s', s.resume fuel = (none, s') ∧ step s' = .ok .next t := by
  induction fuel generalizing s with
  | zero =>
      obtain ⟨s', hstep, hr⟩ := next_of_resume h
      cases hr
      exact ⟨s, rfl, hstep⟩
  | succ fuel ih =>
      obtain ⟨s₁, hstep, hr⟩ := next_of_resume h
      obtain ⟨s', hr', hlast⟩ := ih hr
      exact ⟨s', by rw [resume_succ_of_next hstep, hr'], hlast⟩

theorem segment_resume {s : Session σ} {n : Nat} (h : (s.resume n).1 = none) :
    Segment (fun i => (s.resume i).2) n := by
  induction n with
  | zero =>
      intro i hi
      exact absurd hi (Nat.not_lt_zero i)
  | succ n ih =>
      obtain ⟨s', hr, hstep⟩ := step_of_resume (Prod.ext h rfl)
      intro i hi
      rcases Nat.lt_succ_iff_lt_or_eq.mp hi with hlt | rfl
      · exact ih (by rw [hr]) i hlt
      · simpa only [hr] using hstep

/-! ## Endings -/

/-- The ways in which a step ends a run. -/
inductive StepEnds (s s' : Session σ) : Ending → Prop where
  | halted (h : step s = .ok .halt s') : StepEnds s s' .halted
  | failed {fault} (h : step s = .error fault s') : StepEnds s s' (.failed fault)

theorem stepEnds_of_resume {fuel : Nat} {s s' : Session σ} {ending : Ending}
    (h : s.resume fuel = (some ending, s')) :
    ∃ n t, n < fuel ∧ s.resume n = (none, t) ∧ StepEnds t s' ending := by
  induction fuel generalizing s with
  | zero => cases h
  | succ fuel ih =>
      match heq : step s with
      | .ok .next s₁ =>
          rw [resume_succ_of_next heq] at h
          obtain ⟨n, t, hn, hr, he⟩ := ih h
          exact ⟨n + 1, t, Nat.succ_lt_succ hn, by rw [resume_succ_of_next heq, hr], he⟩
      | .ok .halt s₁ =>
          rw [resume_succ_of_halt heq] at h
          cases h
          exact ⟨0, s, Nat.succ_pos fuel, rfl, .halted heq⟩
      | .error fault s₁ =>
          rw [resume_succ_of_error heq] at h
          cases h
          exact ⟨0, s, Nat.succ_pos fuel, rfl, .failed heq⟩

/-- A step that ends a run ends it however long the run is watched. -/
theorem StepEnds.resume_eq {n fuel : Nat} {s t s' : Session σ} {ending : Ending}
    (he : StepEnds t s' ending) (hr : s.resume n = (none, t)) (hn : n < fuel) :
    s.resume fuel = (some ending, s') := by
  obtain ⟨fuel, rfl⟩ := Nat.exists_eq_succ_of_ne_zero (Nat.ne_zero_of_lt hn)
  induction n generalizing s fuel with
  | zero =>
      cases hr
      cases he with
      | halted h => exact resume_succ_of_halt h fuel
      | failed h => exact resume_succ_of_error h fuel
  | succ n ih =>
      obtain ⟨s₁, hstep, hr⟩ := next_of_resume hr
      rw [resume_succ_of_next hstep]
      have hn : n < fuel := Nat.lt_of_succ_lt_succ hn
      obtain ⟨fuel, rfl⟩ := Nat.exists_eq_succ_of_ne_zero (Nat.ne_zero_of_lt hn)
      exact ih hr fuel hn

theorem resume_of_le {s t : Session σ} {ending : Ending} {m n : Nat}
    (h : s.resume m = (some ending, t)) (hmn : m ≤ n) : s.resume n = (some ending, t) := by
  obtain ⟨i, u, hi, hr, he⟩ := stepEnds_of_resume h
  exact he.resume_eq hr (Nat.lt_of_lt_of_le hi hmn)

theorem resume_unique {m n : Nat} {s s₁ s₂ : Session σ} {e₁ e₂ : Ending}
    (h₁ : s.resume m = (some e₁, s₁)) (h₂ : s.resume n = (some e₂, s₂)) : e₁ = e₂ ∧ s₁ = s₂ := by
  have hsame := (resume_of_le h₁ (Nat.le_max_left m n)).symm.trans
    (resume_of_le h₂ (Nat.le_max_right m n))
  cases hsame
  exact ⟨rfl, rfl⟩

/-! ## Histories -/

/-- The calls by which a session is driven from outside. -/
inductive Call where
  | step
  /-- A run from the first instruction, watched for up to so many steps. -/
  | run (fuel : Nat)

/-- Answers a call: how the run or the single step ended, if it did not just lead on. -/
def call : Call → Session σ → Option Ending × Session σ
  | .step => resume 1
  | .run fuel => run fuel

/-- Answers calls one after another. No answer, not even a fault, keeps the next call from being
made. -/
def calls : List Call → Session σ → List (Option Ending) × Session σ
  | [], s => ([], s)
  | c :: history, s =>
    let answered := s.call c
    let rest := answered.2.calls history
    (answered.1 :: rest.1, rest.2)

theorem calls_invariant {P : Session σ → Prop}
    (hstep : ∀ s result, P s → StepDerivation s result → P (reached result))
    (hstart : ∀ s s', P s → s.start = .ok s' → P s')
    (history : List Call) (s : Session σ) (h : P s) : P (s.calls history).2 := by
  induction history generalizing s with
  | nil => exact h
  | cons c history ih =>
      apply ih
      cases c with
      | step => exact resume_invariant hstep 1 s h
      | run fuel =>
          show P (s.run fuel).2
          cases hs : s.start with
          | error fault => simpa only [run, hs] using h
          | ok s' =>
              simp only [run, hs]
              exact resume_invariant hstep fuel s' (hstart s s' h hs)

theorem calls_invariant_of_ok {P : Session σ → Prop}
    (hstep : ∀ s flow s', P s → StepDerivation s (.ok flow s') → P s')
    (hstart : ∀ s s', P s → s.start = .ok s' → P s')
    (history : List Call) (s : Session σ) (h : P s)
    (hok : ∀ fault, some (.failed fault) ∉ (s.calls history).1) : P (s.calls history).2 := by
  induction history generalizing s with
  | nil => exact h
  | cons c history ih =>
      have hhead : ∀ fault, (s.call c).1 ≠ some (.failed fault) := by
        intro fault heq
        exact hok fault (heq ▸ List.mem_cons_self)
      have htail : ∀ fault, some (.failed fault) ∉ ((s.call c).2.calls history).1 := by
        intro fault hmem
        exact hok fault (List.mem_cons_of_mem _ hmem)
      refine ih _ ?_ htail
      cases c with
      | step => exact resume_invariant_of_ok hstep 1 s h hhead
      | run fuel =>
          have hhead : ∀ fault, (s.run fuel).1 ≠ some (.failed fault) := hhead
          show P (s.run fuel).2
          cases hs : s.start with
          | error fault =>
              simp only [run, hs] at hhead
              exact absurd rfl (hhead fault)
          | ok s' =>
              simp only [run, hs] at hhead ⊢
              exact resume_invariant_of_ok hstep fuel s' (hstart s s' h hs) hhead

end FloatMachine.Session
