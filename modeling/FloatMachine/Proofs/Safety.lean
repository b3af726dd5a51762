import FloatMachine.Host.Tape
import FloatMachine.Proofs.Guarded.Agreement

/-! Histories are safe. Whatever the image, the host and the calls, a machine that is driven from
outside stays inside its bounds, and the guarded machine goes through the same history without a
crash. -/

namespace FloatMachine.Guarded.Session

/-! ## Steps -/

variable {σ : Type}

def ofSession (s : FloatMachine.Session σ) : Session σ := ⟨s.image, .ofMachine s.machine, s.host⟩

def Ending.ofEnding : FloatMachine.Session.Ending → Ending
  | .halted => .halted
  | .failed fault => .failed fault

theorem onMachine_eq {α : Type} {x : FloatMachine.Action α} {x' : Action α}
    {s : FloatMachine.Session σ}
    (h : x' (.ofMachine s.machine) = embed .ofMachine id (x s.machine)) :
    onMachine x' (ofSession s) = embed ofSession id (FloatMachine.Session.onMachine x s) := by
  simp only [onMachine, ofSession, h, FloatMachine.Session.onMachine]
  cases x s.machine <;> rfl

theorem onHost_eq {α : Type} (x : EStateM Fault σ α) (s : FloatMachine.Session σ) :
    onHost x (ofSession s) = embed ofSession id (FloatMachine.Session.onHost x s) := by
  simp only [onHost, ofSession, FloatMachine.Session.onHost]
  cases x s.host <;> rfl

theorem execute_eq [Host σ] (fetched : Fetched) (s : FloatMachine.Session σ)
    (hb : s.image.byte? s.machine.ip = some fetched.opcode)
    (hip : s.machine.ip < s.image.size) (hsize : s.image.size + Image.headerSize + 9 < limit) :
    execute fetched.instruction (ofSession s) =
      embed ofSession id (FloatMachine.Session.execute fetched s) := by
  unfold FloatMachine.Session.execute
  cases fetched.instruction with
  | halt => rfl
  | input =>
      apply embed_bind (onHost_eq Host.read s)
      intro w s₁ _
      apply embed_bind (onMachine_eq (push_eq w s₁.machine))
      intro _ s₂ _
      rfl
  | output =>
      apply embed_bind (onMachine_eq (pop_eq s.machine))
      intro w s₁ _
      apply embed_bind (onHost_eq (Host.write w) s₁)
      intro _ s₂ _
      rfl
  | command command =>
      apply embed_bind (onMachine_eq (Guarded.execute_eq command hb hip hsize))
      intro _ s₂ _
      rfl

theorem advance_eq {s : FloatMachine.Session σ} (h : s.machine.ip + 1 < limit) :
    advance (ofSession s) = embed ofSession id (FloatMachine.Session.advance s) := by
  simp only [advance, onMachine, bind_apply, get_apply, ofSession, ofMachine_ip, plus_eq h]
  rfl

theorem step_eq [Host σ] (s : FloatMachine.Session σ) (hb : s.machine.Bounded s.image.size)
    (hsize : s.image.size + Image.headerSize + 9 < limit) :
    step (ofSession s) = embed ofSession id (FloatMachine.Session.step s) := by
  have hbounded := (step_derivation s).bounded hb
  simp only [step, FloatMachine.Session.step, bind_apply, get_apply] at hbounded ⊢
  cases hf : s.image.fetch s.machine.ip with
  | error fault =>
      simp only [ofSession, ofMachine_ip, hf]
      rfl
  | ok fetched =>
      simp only [hf, bind_apply] at hbounded
      simp only [ofSession, ofMachine_ip, hf]
      apply embed_bind
        (execute_eq fetched s (fetch_eq_ok.mp hf).2.1 (fetch_lt_size hf) hsize)
      intro flow s' hr
      rw [hr] at hbounded
      cases flow with
      | halt => rfl
      | next =>
          -- The position behind the instruction is one of the bounded positions.
          have hip := hbounded.ip_le
          have hlt : s'.machine.ip + 1 < limit :=
            Nat.lt_of_le_of_lt hip (by omega)
          apply embed_bind (advance_eq hlt)
          intro _ s'' _
          rfl

/-! ## Histories -/

/-- A session that stays inside the bounds of an image of less than `2 ^ 63` bytes. -/
structure Safe (s : FloatMachine.Session σ) : Prop where
  size_lt : s.image.size < Nat.pow 2 63
  bounded : s.machine.Bounded s.image.size

theorem Safe.size_lt_limit {s : FloatMachine.Session σ} (h : Safe s) :
    s.image.size + Image.headerSize + 9 < limit := by
  have hlt := h.size_lt
  have hlimit : Nat.pow 2 63 + 14 < limit := by decide
  simp only [Image.headerSize]
  omega

theorem Safe.start {s s' : FloatMachine.Session σ} (h : Safe s) (hs : s.start = .ok s') :
    Safe s' := by
  obtain ⟨_, _, hs⟩ := except_bind_eq_ok.mp hs
  cases hs
  refine ⟨h.size_lt, { h.bounded with header_le_ip := Nat.le_refl _, ip_le := ?_ }⟩
  simp only [Image.headerSize]
  omega

variable [Host σ]

theorem Safe.step {s : FloatMachine.Session σ}
    {result : EStateM.Result Fault (FloatMachine.Session σ) Flow} (h : Safe s)
    (hd : StepDerivation s result) : Safe (reached result) := by
  constructor
  · rw [hd.image_eq]
    exact h.size_lt
  · rw [hd.image_eq]
    exact hd.bounded h.bounded

/-- An answer as the guarded machine gives it. -/
def answer (given : Option FloatMachine.Session.Ending) : Option Ending :=
  given.map Ending.ofEnding

theorem resume_eq (fuel : Nat) (s : FloatMachine.Session σ) (h : Safe s) :
    (ofSession s).resume fuel = (answer (s.resume fuel).1, ofSession (s.resume fuel).2) := by
  induction fuel generalizing s with
  | zero => rfl
  | succ fuel ih =>
      have hs := h.step (step_derivation s)
      rw [resume, step_eq s h.bounded h.size_lt_limit]
      match heq : FloatMachine.Session.step s with
      | .ok .next s' =>
          rw [heq] at hs
          rw [FloatMachine.Session.resume_succ_of_next heq]
          exact ih s' hs
      | .ok .halt s' =>
          rw [FloatMachine.Session.resume_succ_of_halt heq]
          rfl
      | .error fault s' =>
          rw [FloatMachine.Session.resume_succ_of_error heq]
          rfl

theorem run_eq (fuel : Nat) (s : FloatMachine.Session σ) (h : Safe s) :
    (ofSession s).run fuel = (answer (s.run fuel).1, ofSession (s.run fuel).2) := by
  cases hv : s.image.validate with
  | error fault =>
      have hs : s.start = .error fault := by
        rw [FloatMachine.Session.start, hv]
        rfl
      have hg : (ofSession s).image.validate = .error fault := hv
      simp only [run, FloatMachine.Session.run, hs, hg]
      rfl
  | ok u =>
      let s' : FloatMachine.Session σ :=
        { s with machine := { s.machine with ip := Image.headerSize } }
      have hs : s.start = .ok s' := by
        rw [FloatMachine.Session.start, hv]
        rfl
      have hg : (ofSession s).image.validate = .ok u := hv
      simp only [run, FloatMachine.Session.run, hs, hg]
      exact resume_eq fuel s' (h.start hs)

theorem call_eq (c : FloatMachine.Session.Call) (s : FloatMachine.Session σ) (h : Safe s) :
    (ofSession s).call c = (answer (s.call c).1, ofSession (s.call c).2) := by
  cases c with
  | step => exact resume_eq 1 s h
  | run fuel => exact run_eq fuel s h

theorem calls_eq (history : List FloatMachine.Session.Call) (s : FloatMachine.Session σ)
    (h : Safe s) :
    (ofSession s).calls history =
      ((s.calls history).1.map answer, ofSession (s.calls history).2) := by
  induction history generalizing s with
  | nil => rfl
  | cons c history ih =>
      have hs : Safe (s.call c).2 :=
        FloatMachine.Session.calls_invariant (fun _ _ h => h.step) (fun _ _ h => h.start) [c] s h
      simp only [calls, FloatMachine.Session.calls, call_eq c s h, ih _ hs, List.map_cons]

theorem crashed_not_mem_answers (given : List (Option FloatMachine.Session.Ending)) :
    some Ending.crashed ∉ given.map answer := by
  intro hmem
  obtain ⟨a, _, ha⟩ := List.mem_map.mp hmem
  rcases a with _ | ⟨_ | _⟩ <;> cases ha

end FloatMachine.Guarded.Session

namespace FloatMachine.Session

variable {σ : Type} [Host σ]

theorem bounded_fresh (size : Nat) : ({} : Machine).Bounded size := by
  refine ⟨Nat.zero_le _, Nat.zero_le _, Nat.le_refl _, ?_, by simp, by simp⟩
  exact Nat.le_trans (by decide) (Nat.le_add_left 9 size)

theorem tight_fresh (size : Nat) : ({} : Machine).Tight size :=
  ⟨Nat.le_max_left _ _, by simp⟩

theorem calls_image (history : List Call) (s : Session σ) :
    (s.calls history).2.image = s.image := by
  refine calls_invariant (P := fun s' => s'.image = s.image) ?_ ?_ history s rfl
  · intro s' result h hd
    rw [hd.image_eq, h]
  · intro s' s'' h hs
    obtain ⟨_, _, hs⟩ := except_bind_eq_ok.mp hs
    cases hs
    exact h

theorem calls_tight (history : List Call) (s : Session σ) (h : s.machine.Tight s.image.size)
    (hok : ∀ fault, some (.failed fault) ∉ (s.calls history).1) :
    (s.calls history).2.machine.Tight s.image.size := by
  rw [← calls_image history s]
  refine calls_invariant_of_ok (P := fun s' => s'.machine.Tight s'.image.size)
    ?_ ?_ history s h hok
  · intro s' flow s'' ht hd
    have himage : s''.image = s'.image := hd.image_eq
    rw [himage]
    exact hd.tight ht
  · intro s' s'' ht hs
    obtain ⟨_, _, hs⟩ := except_bind_eq_ok.mp hs
    cases hs
    exact ⟨Nat.le_max_left _ _, ht.frame_lt⟩

/-- What is safe about a history: the guarded machine answers and ends as the machine does and
never crashes, its image, registers and cells are those it began with, and the machine is inside
its bounds, the tighter ones if no call has failed. -/
structure HistorySpec (image : Image) (outcome : List (Option Ending) × Session σ)
    (guarded : List (Option Guarded.Session.Ending) × Guarded.Session σ) : Prop where
  agrees : guarded =
    (outcome.1.map Guarded.Session.answer, Guarded.Session.ofSession outcome.2)
  no_crash : some .crashed ∉ guarded.1
  image_eq : guarded.2.image = image
  registers_size : guarded.2.machine.registers.size = registerCount
  memory_size : guarded.2.machine.memory.size = memorySize
  bounded : outcome.2.machine.Bounded image.size
  tight : (∀ fault, some (.failed fault) ∉ outcome.1) → outcome.2.machine.Tight image.size
  fetched_behind_header : ∀ fetched, image.fetch outcome.2.machine.ip = .ok fetched →
    Image.headerSize ≤ fetched.offset

/-- Every history of calls on a new session is safe, also one that goes on after faults. -/
theorem calls_safe (image : Image) (hsize : image.size < Nat.pow 2 63) (host : σ)
    (history : List Call) :
    HistorySpec image (calls history (fresh image host))
      ((Guarded.Session.fresh image host).calls history) := by
  let s : Session σ := fresh image host
  have hsafe : Guarded.Session.Safe s := ⟨hsize, bounded_fresh _⟩
  have heq : (Guarded.Session.fresh image host).calls history =
      ((s.calls history).1.map Guarded.Session.answer,
        Guarded.Session.ofSession (s.calls history).2) :=
    Guarded.Session.calls_eq history s hsafe
  have himage : (s.calls history).2.image = image := calls_image history s
  have hend : Guarded.Session.Safe (s.calls history).2 :=
    calls_invariant (fun _ _ h => h.step) (fun _ _ h => h.start) history s hsafe
  have hb : (s.calls history).2.machine.Bounded image.size := by
    have hb := hend.bounded
    rwa [himage] at hb
  rw [heq]
  refine ⟨rfl, Guarded.Session.crashed_not_mem_answers _, himage, ?_, ?_, hb, ?_, ?_⟩
  · exact Vector.size_toArray _
  · exact Vector.size_toArray _
  · exact calls_tight history s (tight_fresh _)
  · intro fetched hf
    rw [(fetch_eq_ok.mp hf).1]
    exact hb.header_le_ip

/-- A call without its operand bytes, made over and over: each attempt leaves a return point past
the end of the image. -/
theorem calls_safe_of_cut_call :
    let image : Image := ⟨#[0x48, 0x59, 0x56, 0x4d, 3, 0x74]⟩
    let history : List Call := [.step, .run 2, .step]
    image.size < Nat.pow 2 63 ∧
      (calls history (fresh image ({} : Tape))).2.machine.frames = [14, 14, 14] ∧
      HistorySpec image (calls history (fresh image ({} : Tape)))
        ((Guarded.Session.fresh image ({} : Tape)).calls history) :=
  ⟨by decide, by decide, calls_safe _ (by decide) _ _⟩

end FloatMachine.Session
