import FloatMachine.Host.Tape
import FloatMachine.Proofs.Bounds
import FloatMachine.Proofs.Lengths
import FloatMachine.Proofs.Verdicts

/-! Progress. An instruction that does not transfer control leads to a higher position inside the
image or at its end. So does a transfer that goes forward, except that it may land behind the end,
where nothing is fetched any more. The bytes in front of the position are therefore used up, and a
run that never goes back has at most as many steps as there are such bytes, and one that ends it. -/

namespace FloatMachine

/-! ## Steps -/

theorem CommandDerivation.ip_bounds_of_stays {image : Image} {opcode : UInt8} {m m' : Machine}
    {command : Command} (h : CommandDerivation image opcode m command (.ok () m'))
    (ht : command.transfers m = false) (hip : m.ip < image.size) :
    m.ip ≤ m'.ip ∧ m'.ip < image.size := by
  cases h with
  | push h | popRegister h | popMemory h => exact h.ip_bounds hip
  | dup | binary | unary => exact ⟨Nat.le_refl _, hip⟩
  | jumpIfSkipped _ _ h =>
      obtain ⟨mode, _, hlt, rfl⟩ := sizeAt_eq_ok.mp h
      exact ⟨Nat.le_add_right _ _, hlt⟩
  | jumpIfTaken hs hc =>
      rw [Command.transfers, hs] at ht
      cases hc.symm.trans ht
  | jump | call | ret => cases ht

namespace Session

variable {σ : Type} [Host σ]

theorem lt_size_of_next {s s' : Session σ} (h : step s = .ok .next s') :
    s.machine.ip < s.image.size := by
  cases StepDerivation.of_step h with
  | input hf | output hf | command hf => exact fetch_lt_size hf

theorem forward_of_stays {s s' : Session σ} {fetched : Fetched} (h : step s = .ok .next s')
    (hf : s.image.fetch s.machine.ip = .ok fetched)
    (ht : fetched.instruction.transfers s.machine = false) :
    s.machine.ip < s'.machine.ip ∧ s'.machine.ip ≤ s.image.size := by
  have hip := lt_size_of_next h
  cases StepDerivation.of_step h with
  | input | output => exact ⟨Nat.lt_succ_self _, hip⟩
  | command hf' hc =>
      cases hf.symm.trans hf'
      have hbounds := hc.ip_bounds_of_stays ht hip
      exact ⟨Nat.lt_succ_of_le hbounds.1, hbounds.2⟩

/-- The number of bytes from the position to the end of the image. -/
def ahead (s : Session σ) : Nat := s.image.size - s.machine.ip

theorem ahead_lt {s s' : Session σ} (h : step s = .ok .next s')
    (hup : s.machine.ip < s'.machine.ip) : s'.ahead < s.ahead := by
  have himage : s'.image = s.image := (StepDerivation.of_step h).image_eq
  have hip := lt_size_of_next h
  simp only [ahead, himage]
  omega

/-! ## Runs -/

/-- Steps that move forward without exception are at most as many as the bytes in front of the
first one. -/
theorem Segment.add_ahead_le {s : Nat → Session σ} {n : Nat} (hs : Segment s n)
    (hup : ∀ i < n, (s i).machine.ip < (s (i + 1)).machine.ip) :
    n + (s n).ahead ≤ (s 0).ahead := by
  induction n with
  | zero => simp
  | succ n ih =>
      have hfirst := ih (fun i hi => hs i (Nat.lt_succ_of_lt hi))
        (fun i hi => hup i (Nat.lt_succ_of_lt hi))
      have hlast := ahead_lt (hs n (Nat.lt_succ_self n)) (hup n (Nat.lt_succ_self n))
      omega

/-- Wherever the session gets, an instruction that goes somewhere else goes forward. -/
def Forward (s : Session σ) : Prop :=
  ∀ n t t' fetched, s.resume n = (none, t) → t.image.fetch t.machine.ip = .ok fetched →
    fetched.instruction.transfers t.machine = true → step t = .ok .next t' →
    t.machine.ip < t'.machine.ip

theorem Forward.lt_next {s s' : Session σ} (hf : s.Forward) (h : step s = .ok .next s') :
    s.machine.ip < s'.machine.ip := by
  cases hfetch : s.image.fetch s.machine.ip with
  | error fault =>
      have hstep : step s = .error fault s := (StepDerivation.unfetched hfetch).execution
      cases hstep.symm.trans h
  | ok fetched =>
      cases ht : fetched.instruction.transfers s.machine with
      | false => exact (forward_of_stays h hfetch ht).1
      | true => exact hf 0 s s' fetched rfl hfetch ht h

theorem Forward.next {s s' : Session σ} (hf : s.Forward) (h : step s = .ok .next s') :
    s'.Forward := by
  intro n t t' fetched hr
  apply hf (n + 1)
  rw [resume_succ_of_next h, hr]

/-- A session that does not go back ends after the bytes in front of it, at the latest. -/
theorem Forward.resume_ends {s : Session σ} (hf : s.Forward) {fuel : Nat} (hfuel : s.ahead < fuel) :
    ∃ ending t, s.resume fuel = (some ending, t) := by
  induction fuel generalizing s with
  | zero => exact absurd hfuel (Nat.not_lt_zero _)
  | succ fuel ih =>
      match h : step s with
      | .ok .next s' =>
          rw [resume_succ_of_next h]
          apply ih (hf.next h)
          have hlt := ahead_lt h (hf.lt_next h)
          omega
      | .ok .halt s' => exact ⟨.halted, s', resume_succ_of_halt h fuel⟩
      | .error fault s' => exact ⟨.failed fault, s', resume_succ_of_error h fuel⟩

theorem run_ends {s : Session σ} (hf : ∀ t, s.start = .ok t → t.Forward) :
    ∃ ending t, ∀ fuel, max 1 (s.image.size - 4) ≤ fuel → s.run fuel = (some ending, t) := by
  by_cases hh : s.image.HasHeader
  · have hstart := start_of_header hh
    have hsize : 5 ≤ s.image.size := hh.le_size
    obtain ⟨ending, t, hend⟩ := (hf _ hstart).resume_ends
      (show _ < max 1 (s.image.size - 4) by simp only [ahead, Image.headerSize]; omega)
    refine ⟨ending, t, ?_⟩
    intro fuel hfuel
    rw [run_of_header hh]
    exact resume_of_le hend hfuel
  · obtain ⟨fault, _, hs⟩ := start_of_no_header hh
    refine ⟨.failed fault, s, ?_⟩
    intro fuel _
    rw [run, hs]

/-- How a session moves through its image: what one step does that stays in line, how many steps
can move forward in a row, and when a run that never goes back is over. -/
structure ProgressSpec (s : Session σ) : Prop where
  step_forward : ∀ fetched s', s.image.fetch s.machine.ip = .ok fetched →
    fetched.instruction.transfers s.machine = false → step s = .ok .next s' →
    s.machine.ip < s'.machine.ip ∧ s'.machine.ip ≤ s.image.size
  length_le : ∀ (states : Nat → Session σ) (n : Nat), states 0 = s → Segment states n →
    (∀ i < n, (states i).machine.ip < (states (i + 1)).machine.ip) →
    n ≤ s.image.size - s.machine.ip
  run_ends : (∀ t, s.start = .ok t → t.Forward) →
    ∃ ending t, ∀ fuel, max 1 (s.image.size - 4) ≤ fuel → s.run fuel = (some ending, t)

/-- Every session makes progress through its image, whatever the image, the state of the machine
and the host. -/
theorem forward_progress (s : Session σ) : s.ProgressSpec := by
  refine ⟨?_, ?_, run_ends⟩
  · intro fetched s' hf ht h
    exact forward_of_stays h hf ht
  · rintro states n rfl hs hup
    have hle := hs.add_ahead_le hup
    simp only [ahead] at hle
    omega

/-- A jump over a byte that is no instruction, to a halt. -/
theorem forward_progress_of_jump :
    let image : Image := ⟨#[0x48, 0x59, 0x56, 0x4d, 3,
      0x2d, 0, 0, 0, 0, 0, 0, 0x24, 0x40, 0xff, 0x00]⟩
    let s : Session Tape := fresh image {}
    (∀ t, s.start = .ok t → t.Forward) ∧
      ∃ ending t, ∀ fuel, 12 ≤ fuel → s.run fuel = (some ending, t) := by
  intro image s
  have hstart : s.start = .ok s := start_of_header (show image.HasHeader from rfl)
  have hforward : s.Forward := by
    intro n t t' fetched hr _ _ hstep
    have hnext : s.resume (n + 1) = (none, t') := by
      rw [resume_add hr, resume_succ_of_next hstep]
      rfl
    cases n with
    | zero =>
        cases hr
        have hip : (s.resume 1).2.machine.ip = 15 := by decide +kernel
        rw [hnext] at hip
        rw [hip]
        decide +kernel
    | succ n =>
        have hend : s.resume 2 = (some .halted, (s.resume 2).2) :=
          Prod.ext (by decide +kernel) rfl
        cases (resume_of_le hend (Nat.le_add_left 2 n)).symm.trans hnext
  have hall : ∀ t, s.start = .ok t → t.Forward := by
    intro t ht
    cases hstart.symm.trans ht
    exact hforward
  exact ⟨hall, (forward_progress s).run_ends hall⟩

end Session

end FloatMachine
