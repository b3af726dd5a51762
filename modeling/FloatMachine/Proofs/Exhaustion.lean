import FloatMachine.Proofs.Determinism
import FloatMachine.Proofs.Faults
import FloatMachine.Proofs.Lockstep

/-! Running out of input. A run never looks at input it has not come to, so more input behind what
it reads changes nothing; and a step that finds no input leaves everything as it was, so that the
run can be taken up again once there is more. -/

namespace FloatMachine

/-! ## Tapes -/

namespace Tape

/-- The fault of a tape that has no more input. -/
abbrev exhausted : Fault := .io "input exhausted"

theorem read_apply (tape : Tape) :
    Tape.read tape =
      match tape.input with
      | [] => .error exhausted tape
      | w :: input => .ok w { tape with input } := by
  simp only [Tape.read, bind_apply, get_apply]
  cases tape.input <;> rfl

@[simp] theorem feed_input (words : List Word) (tape : Tape) :
    (tape.feed words).input = tape.input ++ words := rfl

theorem read_feed (words : List Word) {tape : Tape} (h : tape.input ≠ []) :
    Agree Eq (fun a b => b = a.feed words) (fun _ a b => b = a.feed words)
      (Tape.read tape) (Tape.read (tape.feed words)) := by
  rw [read_apply, read_apply, feed_input]
  cases hi : tape.input with
  | nil => exact absurd hi h
  | cons w input => exact .ok rfl

end Tape

/-! ## Sessions -/

namespace Session

/-- The session with more input at the end of its tape. -/
def feed (words : List Word) (s : Session Tape) : Session Tape :=
  { s with host := s.host.feed words }

variable {s t : Session Tape}

theorem step_of_input_nil {opcode : UInt8}
    (hf : s.image.fetch s.machine.ip = .ok ⟨s.machine.ip, opcode, .input⟩)
    (hi : s.host.input = []) : step s = .error Tape.exhausted s := by
  have hr : Host.read s.host = .error Tape.exhausted s.host := by
    show Tape.read s.host = _
    rw [Tape.read_apply, hi]
  simp only [step, execute, bind_apply, get_apply, hf, onHost, hr]

/-- A step that does not want for input takes the same course with more of it, also into any other
fault. -/
theorem step_agree_feed (h : step s ≠ .error Tape.exhausted s) (words : List Word) :
    Agree Eq (Related Eq fun a b => b = a.feed words)
      (fun _ => Related Eq fun a b => b = a.feed words) (step s) (step (s.feed words)) := by
  have hrefl : ∀ fault : Fault, fault = fault := fun _ => rfl
  have hrelated : Related Eq (fun a b => b = Tape.feed words a) s (s.feed words) :=
    ⟨rfl, rfl, rfl⟩
  refine step_agree (Machine.stable_eq hrefl) hrefl hrelated ?_ ?_ ?_
  · intro opcode hf
    exact Tape.read_feed words (fun hi => h (step_of_input_nil hf hi))
  · rintro w tape _ rfl
    exact .ok rfl
  · intro opcode command _
    exact .refl hrefl _

theorem eq_feed_of_related {words : List Word}
    (h : Related Eq (fun a b => b = Tape.feed words a) s t) : t = s.feed words := by
  obtain ⟨himage, hmachine, hhost⟩ := h
  cases s
  cases t
  simp_all [feed]

theorem step_feed {flow : Flow} (h : step s = .ok flow t) (words : List Word) :
    step (s.feed words) = .ok flow (t.feed words) := by
  have ha := step_agree_feed (by rw [h]; exact nofun) words
  rw [h] at ha
  generalize step (s.feed words) = r at ha
  cases ha with
  | ok hr =>
      rw [eq_feed_of_related hr]

theorem resume_feed {n : Nat} (h : s.resume n = (none, t)) (words : List Word) :
    (s.feed words).resume n = (none, t.feed words) := by
  have hok : ∀ fault, (s.resume n).1 ≠ some (.failed fault) := by
    intro fault
    rw [h]
    exact nofun
  have hrun := resume_map_of_step (fun _ _ _ hstep => step_feed hstep words) hok n (Nat.le_refl n)
  rw [h] at hrun
  exact hrun

theorem eq_of_exhausted (h : step s = .error Tape.exhausted t) : t = s := by
  cases StepDerivation.of_step h with
  | unfetched => rfl
  | @inputRefused _ _ host _ hh =>
      have hh : Tape.read s.host = .error Tape.exhausted host := hh
      rw [Tape.read_apply] at hh
      split at hh <;> cases hh
      rfl
  | outputRefused _ _ hh => cases hh
  | commandFailed _ hc =>
      -- No command raises a fault of the exchange.
      cases hc.fault with
      | undecoded _ h => cases decode_error h
      | value _ h => cases h
      | stack h => cases h

/-- Running out of input can be made good: a run that leads on does so with more input behind it,
and if it then wants for input, nothing has changed; given the input, it goes on as the run that
had it from the start, to the same end, and past that end to the same states. -/
theorem exhaustion_resumable {n : Nat} (h : s.resume n = (none, t)) (words : List Word) :
    (s.feed words).resume n = (none, t.feed words) ∧
      ∀ t', step t = .error Tape.exhausted t' →
        t' = t ∧ ∀ k,
          (t'.feed words).resume k = (s.feed words).resume (n + k) ∧
          (t'.feed words).after k = (s.feed words).after (n + k) := by
  have hrun := resume_feed h words
  refine ⟨hrun, ?_⟩
  intro t' hstep
  obtain rfl := eq_of_exhausted hstep
  refine ⟨rfl, fun k => ⟨(resume_add hrun k).symm, ?_⟩⟩
  rw [after_add, after_of_resume hrun]

/-- A tape with one word, for an image that reads two words and writes them back. -/
theorem exhaustion_resumable_of_second_read :
    let image : Image := ⟨#[0x48, 0x59, 0x56, 0x4d, 3, 0x0a, 0x0b, 0x0a, 0x0b, 0x00]⟩
    let s : Session Tape := fresh image { input := [⟨1⟩] }
    let t : Session Tape := (s.resume 2).2
    step t = .error Tape.exhausted t ∧
      ∀ k, (t.feed [⟨2⟩]).resume k = (s.feed [⟨2⟩]).resume (2 + k) := by
  intro image s t
  have hrun : s.resume 2 = (none, t) := Prod.ext (by decide +kernel) rfl
  have hfetch : t.image.fetch t.machine.ip = .ok ⟨t.machine.ip, 0x0a, .input⟩ :=
    fetch_eq_ok.mpr (by decide +kernel)
  have hstep : step t = .error Tape.exhausted t := step_of_input_nil hfetch (by decide +kernel)
  obtain ⟨_, hresumed⟩ := exhaustion_resumable hrun [⟨2⟩]
  exact ⟨hstep, fun k => ((hresumed t hstep).2 k).1⟩

end Session

end FloatMachine
