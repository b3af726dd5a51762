import FloatMachine.Proofs.Alignment
import FloatMachine.Proofs.Effects

/-! Storing a word and loading it again. Between a store and a load with the same operand a run may
do whatever it likes, as long as it stores nothing else. Sums that it evaluates go through the
scratch register, so the operand must not be that register itself, nor a sum that is no address. -/

namespace FloatMachine

/-! ## Operands that keep their place -/

/-- The operand names the same place as long as nothing is stored: it is a register other than the
scratch register, or an address that does not depend on what the scratch register holds. -/
def Source.Lasting (indirect : Bool) : Source → Prop
  | register index => index ≠ scratch
  | literal _ | sum .. => indirect = true

theorem value?_eq (m : Machine) (base : Base) (indirect : Bool) :
    m.value? ⟨base, indirect⟩ =
      if indirect then
        (Address.ofWord (m.baseValue base)).toOption.map fun address => m.read (.memory address)
      else some (m.baseValue base) := by
  simp only [Machine.value?, Machine.read_baseLocation]

namespace Source.Lasting

variable {source : Source} {indirect : Bool} {m m' : Machine}

theorem baseValue_eq (h : source.Lasting indirect)
    (hr : ∀ index : Register, index ≠ scratch →
      m'.read (.register index) = m.read (.register index)) (offset offset' : Nat) :
    m'.baseValue (source.base offset') = m.baseValue (source.base offset) := by
  cases source with
  | register index => exact hr index h
  | literal value => rfl
  | sum index value =>
      have hsummand : m'.summand index = m.summand index := by
        unfold Machine.summand
        by_cases hi : index = scratch
        · rw [if_pos hi, if_pos hi]
        · rw [if_neg hi, if_neg hi]
          exact hr index hi
      exact congrArg (·.add value) hsummand

theorem value?_eq_of_keeps (h : source.Lasting indirect) (hk : m.Keeps m')
    (offset offset' : Nat) :
    m'.value? ⟨source.base offset', indirect⟩ = m.value? ⟨source.base offset, indirect⟩ := by
  rw [value?_eq, value?_eq, h.baseValue_eq hk.registers_eq offset offset']
  simp only [Machine.read, hk.memory_eq]

end Source.Lasting

/-! ## Stores and loads -/

section Commands

variable {image : Image} {opcode : UInt8} {m m' : Machine}

theorem StoreRule.value?_eq_some {w : Word} (h : StoreRule image opcode m w m') {source : Source}
    {indirect : Bool} (hl : source.Lasting indirect)
    (hd : Operand.decode image opcode m.ip = .ok ⟨source.base m.ip, indirect⟩) :
    m'.value? ⟨source.base m.ip, indirect⟩ = some w := by
  rw [value?_eq]
  cases h with
  | @register index hd' _ hr =>
      obtain ⟨hbase, rfl⟩ := Operand.mk.inj (Except.ok.inj (hd.symm.trans hd'))
      rw [hbase, Machine.baseValue, Machine.read, hr]
      simp
  | sum hd' =>
      obtain ⟨hbase, rfl⟩ := Operand.mk.inj (Except.ok.inj (hd.symm.trans hd'))
      cases source with
      | register | literal => cases hbase
      | sum => cases hl
  | @memory base address hd' ha hm hr =>
      obtain ⟨hbase, rfl⟩ := Operand.mk.inj (Except.ok.inj (hd.symm.trans hd'))
      rw [hl.baseValue_eq (read_register_of_loadBase hd' hr) m.ip m.ip, hbase, ha]
      simp [Except.toOption, Machine.read, hm]

theorem exists_resolveDerivation {operand : Operand} {w : Word}
    (hd : Operand.decode image opcode m.ip = .ok operand) (hw : m.value? operand = some w) :
    ∃ location, ResolveDerivation image opcode m (.ok location (m.loadBase operand.base)) ∧
      (m.loadBase operand.base).read location = w := by
  obtain ⟨base, indirect⟩ := operand
  cases indirect with
  | false => exact ⟨_, .direct hd rfl, Option.some.inj hw⟩
  | true =>
      rw [value?_eq, if_pos rfl] at hw
      cases ha : Address.ofWord (m.baseValue base) with
      | error fault =>
          rw [ha] at hw
          cases hw
      | ok address =>
          rw [ha] at hw
          refine ⟨.memory address, .indirect hd rfl ?_, ?_⟩
          · rw [Machine.read_baseLocation, ha]
          · rw [← Option.some.inj hw]
            simp only [Machine.read, Machine.loadBase_memory]

end Commands

/-! ## Runs -/

namespace Session

variable {σ : Type}

/-- The instruction at the position of a session, if there is one. -/
def instruction? (s : Session σ) : Option Instruction :=
  (s.image.fetch s.machine.ip).toOption.map Fetched.instruction

variable [Host σ]

theorem keeps_of_step {s : Session σ} {result : EStateM.Result Fault (Session σ) Flow}
    (h : StepDerivation s result) (hn : s.instruction? ≠ some (.command .pop)) :
    s.machine.Keeps (reached result).machine := by
  rcases h.keeps_or_stores with hk | ⟨opcode, w, s', hf, _⟩
  · exact hk
  · exact absurd (by rw [instruction?, hf]; rfl) hn

theorem Segment.keeps {s : Nat → Session σ} {n : Nat} (hs : Segment s n)
    (hn : ∀ i < n, (s i).instruction? ≠ some (.command .pop)) :
    (s 0).machine.Keeps (s n).machine := by
  refine hs.invariant (P := fun t => (s 0).machine.Keeps t.machine) (.of_eq rfl rfl) ?_ n
    (Nat.le_refl n)
  intro i hi hk hd
  exact hk.trans (keeps_of_step hd (hn i hi))

/-- The step loads a word: it puts the word on the stack, or fails because there is no room. -/
inductive Loads (s : Session σ) (w : Word) (s' : Session σ) : Prop where
  | pushed (hroom : s.machine.stack.length < stackCapacity) (hstep : step s = .ok .next s')
      (hs : s'.machine.stack = w :: s.machine.stack)
  | full (hfull : stackCapacity ≤ s.machine.stack.length)
      (hstep : step s = .error (.stackOverflow stackCapacity) s')
      (hs : s'.machine.stack = s.machine.stack)

/-- A push whose operand stands for a word loads that word, and stores nothing. -/
theorem exists_loads {s : Session σ} {opcode : UInt8} {operand : Operand} {w : Word}
    (hf : s.image.fetch s.machine.ip = .ok ⟨s.machine.ip, opcode, .command .push⟩)
    (hd : Operand.decode s.image opcode s.machine.ip = .ok operand)
    (hw : s.machine.value? operand = some w) :
    ∃ s', s.Loads w s' ∧ s.machine.Keeps s'.machine := by
  obtain ⟨location, hr, rfl⟩ := exists_resolveDerivation hd hw
  have hstack := s.machine.loadBase_stack operand.base
  have hk := hr.residue.keeps
  by_cases hroom : s.machine.stack.length < stackCapacity
  · have hc := CommandDerivation.push hr (hstack.symm ▸ hroom)
    refine ⟨_, .pushed hroom (StepDerivation.command hf hc).execution ?_, ?_⟩
    · exact congrArg (_ :: ·) hstack
    · exact ⟨hk.memory_eq, hk.registers_eq⟩
  · have hc := CommandDerivation.pushFull hr (hstack.symm ▸ hroom)
    exact ⟨_, .full (Nat.le_of_not_lt hroom) (StepDerivation.commandFailed hf hc).execution hstack,
      hk⟩

/-- A word is stored, then a run goes on without storing anything, then the same operand is loaded:
the load finds the word that was stored, bit by bit, and memory and registers are as the store left
them, up to the scratch register. -/
theorem load_after_store {s : Nat → Session σ} {n : Nat} (hseg : Segment s (n + 1))
    {source : Source} {indirect : Bool} (hl : source.Lasting indirect) {w : Word}
    (hstore : (s 0).image.Holds (s 0).machine.ip
      (Line.operand (.command .pop) rfl source indirect).bytes)
    (htop : (s 0).machine.stack.head? = some w)
    (hbetween : ∀ i, 0 < i → i ≤ n → (s i).instruction? ≠ some (.command .pop))
    (hload : (s (n + 1)).image.Holds (s (n + 1)).machine.ip
      (Line.operand (.command .push) rfl source indirect).bytes) :
    ∃ s', (s (n + 1)).Loads w s' ∧ (s 1).machine.Keeps s'.machine := by
  have hpop := Line.decodedAt hstore
  have hpush := Line.decodedAt hload
  have hstep := StepDerivation.of_step (hseg 0 (Nat.succ_pos n))
  obtain ⟨m, hc, hnext⟩ := hstep.of_command hpop.fetch_eq
  obtain ⟨w', hstack, hrule⟩ := hc.store (m.ip + 1)
  obtain rfl : w' = w := by
    rw [hstack] at htop
    exact Option.some.inj htop
  have hvalue := hrule.value?_eq_some hl (hpop.operand_eq _ rfl)
  -- The run between the two starts behind the store, so its sessions are counted from there.
  have hkeeps : (s 1).machine.Keeps (s (n + 1)).machine := by
    refine Segment.keeps (s := fun i => s (i + 1)) (n := n) ?_ ?_
    · intro i hi
      exact hseg (i + 1) (Nat.succ_lt_succ hi)
    · intro i hi
      exact hbetween (i + 1) (Nat.succ_pos i) hi
  have hmachine : (s 1).machine = { m with ip := m.ip + 1 } := congrArg Session.machine hnext
  rw [← hmachine, ← hl.value?_eq_of_keeps hkeeps _ (s (n + 1)).machine.ip] at hvalue
  obtain ⟨s', hloads, hk⟩ := exists_loads hpush.fetch_eq (hpush.operand_eq _ rfl) hvalue
  exact ⟨s', hloads, hkeeps.trans hk⟩

/-- A word goes to the cell that a register plus two names, another sum is pushed, and the word is
loaded again from where it is. -/
theorem load_after_store_of_sum :
    let two : Word := ⟨0x4000000000000000⟩
    let program : List Line := [
      .operand (.command .pop) rfl (.sum 1 two) true,
      .operand (.command .push) rfl (.sum 0 two) false,
      .operand (.command .push) rfl (.sum 1 two) true]
    let start : Session Tape :=
      { fresh (Image.assemble program) {} with machine := { stack := [⟨7⟩] } }
    let s : Nat → Session Tape := fun i => (start.resume i).2
    Segment s 2 ∧ (s 1).machine.read (.memory 2) = ⟨7⟩ ∧ (s 2).machine.stack = [two] ∧
      ∃ s', (s 2).Loads ⟨7⟩ s' ∧ (s 1).machine.Keeps s'.machine := by
  intro two program start s
  have hseg : Segment s 2 := segment_resume (by decide +kernel)
  have hstore : (s 0).image.Holds (s 0).machine.ip
      (Line.operand (.command .pop) rfl (.sum 1 two) true).bytes :=
    Line.StartsAt.holds ⟨[], program.drop 1, rfl, rfl⟩
  have hload : (s 2).image.Holds (s 2).machine.ip
      (Line.operand (.command .push) rfl (.sum 1 two) true).bytes := by
    have himage : (s 2).image = Image.assemble program := resume_image 2 _
    have hip : (s 2).machine.ip = Image.headerSize + 20 := by decide +kernel
    rw [himage, hip]
    exact Line.StartsAt.holds ⟨program.take 2, [], rfl, by decide⟩
  have hlasting : (Source.sum 1 two).Lasting true := rfl
  have hbetween : ∀ i < 2, 0 < i → (s i).instruction? ≠ some (.command .pop) := by
    decide +kernel
  exact ⟨hseg, by decide +kernel, by decide +kernel, load_after_store hseg hlasting hstore rfl
    (fun i hpos hle => hbetween i (Nat.lt_succ_of_le hle) hpos) hload⟩

end Session

end FloatMachine
