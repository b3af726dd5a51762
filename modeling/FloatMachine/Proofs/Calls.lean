import FloatMachine.Proofs.Bounds
import FloatMachine.Proofs.Runs
import FloatMachine.Host.Tape

/-! Calls and their returns. Return points are a stack that only calls and returns touch, so a run
that does not return from below a call leaves the frames under it alone, and the return that goes
back to their depth ends behind the call. -/

namespace FloatMachine

variable {σ : Type} [Host σ]

theorem StepDerivation.frames_of_call {s s' : Session σ} (h : StepDerivation s (.ok .next s'))
    {offset : Nat} {opcode : UInt8} {mode : Mode}
    (hf : s.image.fetch s.machine.ip = .ok ⟨offset, opcode, .command .call⟩)
    (hm : Mode.ofOpcode? opcode = some mode) :
    s'.machine.frames = (offset + mode.size) :: s.machine.frames := by
  obtain rfl : offset = s.machine.ip := (fetch_eq_ok.mp hf).1
  obtain ⟨m, hc, rfl⟩ := h.of_command hf
  cases hc with
  | call hm' _ hj =>
      obtain rfl : mode = _ := Option.some.inj (hm.symm.trans (mode_decode_eq_ok.mp hm'))
      exact hj.frame.2.2

theorem StepDerivation.frames_of_ret {s s' : Session σ} (h : StepDerivation s (.ok .next s'))
    {offset : Nat} {opcode : UInt8}
    (hf : s.image.fetch s.machine.ip = .ok ⟨offset, opcode, .command .ret⟩) :
    ∃ returnPoint, s.machine.frames = returnPoint :: s'.machine.frames ∧
      s'.machine.ip = returnPoint + 1 := by
  obtain rfl : offset = s.machine.ip := (fetch_eq_ok.mp hf).1
  obtain ⟨m, hc, rfl⟩ := h.of_command hf
  cases hc with
  | ret hr => exact ⟨_, hr, rfl⟩

/-- A step leaves alone the frames up to any depth it does not go below. -/
theorem StepDerivation.suffix_frames {s s' : Session σ} (h : StepDerivation s (.ok .next s'))
    {base : List Nat} (hb : base <:+ s.machine.frames)
    (hl : base.length ≤ s'.machine.frames.length) : base <:+ s'.machine.frames := by
  cases h with
  | input | output => exact hb
  | command _ hc =>
      rcases hc.frames_cases with heq | ⟨_, returnPoint, heq, _⟩ | ⟨_, _, _, _, heq⟩
      · exact heq ▸ hb
      · rw [heq] at hb
        rcases List.suffix_cons_iff.mp hb with rfl | hb
        · exact absurd hl (Nat.not_succ_le_self _)
        · exact hb
      · rw [reached_ok] at heq
        simp only [heq]
        exact hb.trans (List.suffix_cons _ _)

namespace Session

/-- A call whose return is the first to go back to the depth it was made at: the run goes on
behind the call, with the frames it was made with. -/
theorem matched_return {s : Nat → Session σ} {n : Nat} (hseg : Segment s (n + 1))
    {p q : Nat} {callOpcode retOpcode : UInt8} {mode : Mode}
    (hcall : (s 0).image.fetch (s 0).machine.ip = .ok ⟨p, callOpcode, .command .call⟩)
    (hmode : Mode.ofOpcode? callOpcode = some mode)
    (hret : (s n).image.fetch (s n).machine.ip = .ok ⟨q, retOpcode, .command .ret⟩)
    (hdepth : (s (n + 1)).machine.frames.length = (s 0).machine.frames.length)
    (hinner : ∀ i, 0 < i → i < n + 1 →
      (s 0).machine.frames.length < (s i).machine.frames.length) :
    (s (n + 1)).machine.ip = p + 1 + mode.size ∧
      (s (n + 1)).machine.frames = (s 0).machine.frames := by
  have hd : ∀ i < n + 1, StepDerivation (s i) (.ok .next (s (i + 1))) := by
    intro i hi
    rw [← hseg i hi]
    exact step_derivation (s i)
  obtain ⟨returnPoint, hframes, hip⟩ := (hd n (Nat.lt_succ_self n)).frames_of_ret hret
  have hfirst := (hd 0 (Nat.succ_pos n)).frames_of_call hcall hmode
  cases n with
  | zero => cases hcall.symm.trans hret
  | succ n =>
      -- From the call to the return, the frames made by the call stay at the bottom.
      have hinside : Segment (fun i => s (i + 1)) n := by
        intro i hi
        exact hseg (i + 1) (by omega)
      have hbase := hinside.invariant
        (P := fun s' => ((p + mode.size) :: (s 0).machine.frames) <:+ s'.machine.frames)
        (hfirst ▸ List.suffix_refl _)
        (fun i hi hb hd => hd.suffix_frames hb (hinner (i + 2) (by omega) (by omega)))
        n (Nat.le_refl n)
      have heq := hbase.eq_of_length (by rw [hframes, List.length_cons, List.length_cons, hdepth])
      obtain ⟨hpoint, hrest⟩ := List.cons.inj (heq.trans hframes)
      exact ⟨by omega, hrest.symm⟩

/-- A call to a subroutine that itself calls the return at its end. -/
theorem matched_return_of_nested_call :
    let image : Image := ⟨#[0x48, 0x59, 0x56, 0x4d, 3,
      0x34, 0, 0, 0, 0, 0, 0, 0x24, 0x40, 0x00,
      0x34, 0, 0, 0, 0, 0, 0, 0x34, 0x40, 0x15, 0x15]⟩
    let s : Nat → Session Tape := fun i => ((fresh image {}).resume i).2
    Segment s 4 ∧ (s 2).machine.frames = [23, 13] ∧
      (s 4).machine.ip = 5 + 1 + Mode.literal.size ∧
      (s 4).machine.frames = (s 0).machine.frames := by
  intro image s
  have hseg : Segment s 4 := segment_resume (by decide +kernel)
  have hinner : ∀ i < 4, 0 < i →
      (s 0).machine.frames.length < (s i).machine.frames.length := by
    decide +kernel
  have hcall : (s 0).image.fetch (s 0).machine.ip = .ok ⟨5, 0x34, .command .call⟩ :=
    fetch_eq_ok.mpr (by decide +kernel)
  have hret : (s 3).image.fetch (s 3).machine.ip = .ok ⟨24, 0x15, .command .ret⟩ :=
    fetch_eq_ok.mpr (by decide +kernel)
  exact ⟨hseg, by decide +kernel, matched_return hseg hcall rfl hret (by decide +kernel)
    (fun i hpos hlt => hinner i hlt hpos)⟩

end Session

end FloatMachine
