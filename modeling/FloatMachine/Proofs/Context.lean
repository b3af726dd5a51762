import FloatMachine.Host.Tape
import FloatMachine.Proofs.Determinism

/-! What lies under the stacks does not matter. An instruction works at the top of the operand
stack and at the top of the frames, and asks for their depth only to see whether there is room. So
a run goes the same way over whatever words and return points a caller has left underneath, as
long as both stacks have room for what it puts on top. -/

namespace FloatMachine

theorem length_append_lt {α : Type} {entry : α} {own below : List α} {capacity : Nat}
    (h : (entry :: own).length + below.length ≤ capacity) :
    (own ++ below).length < capacity := by
  rw [List.length_cons] at h
  rw [List.length_append]
  omega

/-! ## Machines -/

namespace Machine

/-- The machine with the words and return points of a caller underneath its own. -/
def atop (stack : List Word) (frames : List Nat) (m : Machine) : Machine :=
  { m with stack := m.stack ++ stack, frames := m.frames ++ frames }

/-- Both stacks have room for the machine's own entries on top of a caller's. -/
structure FitsAtop (stack : List Word) (frames : List Nat) (m : Machine) : Prop where
  stack_le : m.stack.length + stack.length ≤ stackCapacity
  frames_le : m.frames.length + frames.length ≤ callCapacity

variable (stack : List Word) (frames : List Nat) (m : Machine)

theorem atop_read (location : Location) : (m.atop stack frames).read location = m.read location :=
  rfl

theorem atop_loadBase (base : Base) :
    (m.atop stack frames).loadBase base = (m.loadBase base).atop stack frames := by
  cases base <;> rfl

end Machine

/-! ## Commands -/

section Commands

variable {image : Image} {opcode : UInt8} {m m' : Machine}

theorem ResolveDerivation.atop {location : Location}
    (h : ResolveDerivation image opcode m (.ok location m')) (stack : List Word)
    (frames : List Nat) :
    ResolveDerivation image opcode (m.atop stack frames) (.ok location (m'.atop stack frames)) := by
  cases h with
  | direct h hd =>
      rw [← Machine.atop_loadBase]
      exact .direct h hd
  | indirect h hi ha =>
      rw [← Machine.atop_loadBase]
      refine .indirect h hi ?_
      rw [Machine.atop_loadBase, Machine.atop_read]
      exact ha

theorem JumpDerivation.atop (h : JumpDerivation image opcode m (.ok () m')) (stack : List Word)
    (frames : List Nat) :
    JumpDerivation image opcode (m.atop stack frames) (.ok () (m'.atop stack frames)) := by
  cases h with
  | taken h ht => exact .taken (h.atop stack frames) ht

theorem CommandDerivation.atop {command : Command} {stack : List Word} {frames : List Nat}
    (h : CommandDerivation image opcode m command (.ok () m')) (hroom : m'.FitsAtop stack frames) :
    CommandDerivation image opcode (m.atop stack frames) command
      (.ok () (m'.atop stack frames)) := by
  have hs := hroom.stack_le
  cases h with
  | push h => exact .push (h.atop stack frames) (length_append_lt hs)
  | popRegister h hp => exact .popRegister (h.atop stack frames) (congrArg (· ++ stack) hp)
  | popMemory h hp => exact .popMemory (h.atop stack frames) (congrArg (· ++ stack) hp)
  | dup hp => exact .dup (congrArg (· ++ stack) hp) (length_append_lt hs)
  | binary hp => exact .binary (congrArg (· ++ stack) hp) (length_append_lt hs)
  | unary hp => exact .unary (congrArg (· ++ stack) hp) (length_append_lt hs)
  | jump h => exact .jump (h.atop stack frames)
  | jumpIfTaken hp hc h => exact .jumpIfTaken (congrArg (· ++ stack) hp) hc (h.atop stack frames)
  | jumpIfSkipped hp hc h => exact .jumpIfSkipped (congrArg (· ++ stack) hp) hc h
  | call h _ hj =>
      -- The jump of a call leaves the return point where the call has put it.
      have hf := hroom.frames_le
      have hframes : m'.frames = _ := hj.frame.2.2
      rw [hframes] at hf
      exact .call h (length_append_lt hf) (hj.atop stack frames)
  | ret hp => exact .ret (congrArg (· ++ frames) hp)

end Commands

/-! ## Sessions -/

namespace Session

variable {σ : Type}

/-- The session with the words and return points of a caller underneath its own. -/
def atop (stack : List Word) (frames : List Nat) (s : Session σ) : Session σ :=
  { s with machine := s.machine.atop stack frames }

variable [Host σ] {s s' : Session σ} {stack : List Word} {frames : List Nat}

/-- A step that does not fail does the same over a caller's words and return points, if what it
leaves on the stacks fits on top of them. -/
theorem step_atop {flow : Flow} (hstep : step s = .ok flow s')
    (hroom : s'.machine.FitsAtop stack frames) :
    step (s.atop stack frames) = .ok flow (s'.atop stack frames) := by
  apply StepDerivation.execution
  cases stepDerivation_iff.mpr hstep with
  | halt h => exact .halt h
  | input h hh => exact .input h hh (length_append_lt hroom.stack_le)
  | output h hs hh => exact .output h (congrArg (· ++ stack) hs) hh
  | command h hc =>
      have hc := hc.atop ⟨hroom.stack_le, hroom.frames_le⟩
      exact .command (s := s.atop stack frames) h hc

/-- A run that does not fail goes the same way over whatever words and return points lie under its
own, as long as after each step all of them fit: step by step it leads on or halts alike, with the
caller's entries untouched underneath and everything else equal. -/
theorem run_independent_of_caller {n : Nat}
    (hok : ∀ fault, (s.resume n).1 ≠ some (.failed fault)) (stack : List Word) (frames : List Nat)
    (hroom : ∀ i, 0 < i → i ≤ n → (s.resume i).2.machine.FitsAtop stack frames) :
    ∀ i ≤ n, (s.atop stack frames).resume i =
      ((s.resume i).1, (s.resume i).2.atop stack frames) :=
  resume_map (fun _ _ _ hstep hroom => step_atop hstep hroom) hok hroom

/-- A subroutine that duplicates a word, over as many words and return points as there is room
for. -/
theorem run_independent_of_caller_of_call :
    let image : Image := ⟨#[0x48, 0x59, 0x56, 0x4d, 3,
      0x34, 0, 0, 0, 0, 0, 0, 0x26, 0x40, 0x0b, 0x00, 0x0c, 0x15]⟩
    let s : Session Tape := { fresh image {} with machine := { stack := [⟨1⟩] } }
    let stack : List Word := List.replicate 4094 ⟨7⟩
    let frames : List Nat := List.replicate 1023 9
    (s.resume 2).2.machine.stack = [⟨1⟩, ⟨1⟩] ∧ (s.resume 2).2.machine.frames = [13] ∧
      (s.resume 5).1 = some .halted ∧
      ∀ i ≤ 5, (s.atop stack frames).resume i =
        ((s.resume i).1, (s.resume i).2.atop stack frames) := by
  intro image s stack frames
  have hend : (s.resume 5).1 = some .halted := by decide +kernel
  have hdepth : ∀ i < 6, (s.resume i).2.machine.stack.length ≤ 2 ∧
      (s.resume i).2.machine.frames.length ≤ 1 := by
    decide +kernel
  refine ⟨by decide +kernel, by decide +kernel, hend, run_independent_of_caller ?_ stack frames ?_⟩
  · intro fault
    rw [hend]
    exact nofun
  · intro i _ hi
    obtain ⟨hs, hf⟩ := hdepth i (Nat.lt_succ_of_le hi)
    refine ⟨?_, ?_⟩
    · rw [List.length_replicate]
      exact Nat.add_le_add_right hs 4094
    · rw [List.length_replicate]
      exact Nat.add_le_add_right hf 1023

end Session

end FloatMachine
