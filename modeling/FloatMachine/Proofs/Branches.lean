import FloatMachine.Host.Tape
import FloatMachine.Proofs.Assembly
import FloatMachine.Proofs.Differences
import FloatMachine.Proofs.Lengths
import FloatMachine.Proofs.Scratch

/-! The six conditional jumps are six questions about one order. Whatever the two topmost words are,
they are in exactly one of three orders, every condition is met where its negation is not, and words
that have changed places meet the converse. A jump is taken exactly if its condition is met. -/

namespace FloatMachine

/-! ## Conditions -/

namespace Condition

/-- The condition that is met where this one is not. -/
def negation : Condition → Condition
  | above => belowOrEqual
  | aboveOrEqual => below
  | below => aboveOrEqual
  | belowOrEqual => above
  | equal => notEqual
  | notEqual => equal

/-- The condition that asks the same once the two words have changed places. -/
def converse : Condition → Condition
  | above => below
  | aboveOrEqual => belowOrEqual
  | below => above
  | belowOrEqual => aboveOrEqual
  | equal => equal
  | notEqual => notEqual

theorem holds_negation (condition : Condition) (order : Ordering) :
    condition.negation.holds order = !condition.holds order := by
  cases condition <;> cases order <;> rfl

theorem holds_converse (condition : Condition) (order : Ordering) :
    condition.converse.holds order.swap = condition.holds order := by
  cases condition <;> cases order <;> rfl

/-- The condition that is met by one order only. -/
def ofOrder : Ordering → Condition
  | .gt => above
  | .eq => equal
  | .lt => below

theorem holds_strict_iff {condition : Condition} {order : Ordering} :
    condition ∈ [above, equal, below] ∧ condition.holds order = true ↔
      condition = ofOrder order := by
  cases condition <;> cases order <;> decide

theorem met_converse (condition : Condition) (a b : Word) (rest : List Word) :
    condition.converse.met (a :: b :: rest) = condition.met (b :: a :: rest) := by
  rw [met, met, Word.compare_swap, holds_converse]

/-- The opcode byte of a conditional jump, with the bits that say how its operand is found. -/
def assemble (condition : Condition) (literal register memory : Bool) : UInt8 :=
  Opcode.assemble (.command (.jumpIf condition)) literal register memory

end Condition

/-! ## Steps -/

namespace Session

variable {σ : Type}

/-- The session with an opcode byte put at its position. -/
def withOpcode (s : Session σ) (opcode : UInt8) : Session σ :=
  { s with image := ⟨s.image.bytes.setIfInBounds s.machine.ip opcode⟩ }

/-- The session with another stack. -/
def withStack (s : Session σ) (stack : List Word) : Session σ :=
  { s with machine := { s.machine with stack } }

/-- Jumps to where the operand says, or moves over the operand if the jump is not taken, and goes on
from there. -/
def branch (opcode : UInt8) (taken : Bool) : EStateM Fault (Session σ) Flow := do
  let image := (← get).image
  onMachine (if taken then Action.jump image opcode else Action.skip image opcode)
  advance
  return .next

theorem fetch_withOpcode {s : Session σ} (h : s.machine.ip < s.image.size)
    (condition : Condition) (literal register memory : Bool) :
    (s.withOpcode (condition.assemble literal register memory)).image.fetch s.machine.ip =
      .ok ⟨s.machine.ip, condition.assemble literal register memory,
        .command (.jumpIf condition)⟩ := by
  refine fetch_eq_ok.mpr ⟨rfl, ?_, ofOpcode?_assemble _ literal register memory⟩
  rw [Image.byte?, withOpcode, Array.getElem?_setIfInBounds_self_of_lt h]

variable [Host σ]

/-- A conditional jump takes two words off the stack and is taken if they meet its condition. -/
theorem step_of_jumpIf {s : Session σ} {opcode : UInt8} {condition : Condition}
    (hf : s.image.fetch s.machine.ip = .ok ⟨s.machine.ip, opcode, .command (.jumpIf condition)⟩)
    (a b : Word) (rest : List Word) :
    step (s.withStack (b :: a :: rest)) =
      branch opcode (condition.met (b :: a :: rest)) (s.withStack rest) := by
  have hstep := step_of_command (s := s.withStack (b :: a :: rest)) hf
  rw [hstep, Condition.met]
  simp only [Command.execute, bind_apply, get_apply, Action.pop_apply, branch, onMachine,
    withStack, Action.jumpWhen]
  generalize (if condition.holds (a.compare b) then Action.jump s.image opcode
    else Action.skip s.image opcode) = action
  cases action { s.machine with stack := rest } <;> rfl

/-- What the conditional jumps do that are put at the position of a session one after another, all
with the same operand. -/
structure BranchSpec (s : Session σ) (literal register memory : Bool) : Prop where
  step_eq : ∀ (condition : Condition) (a b : Word) (rest : List Word),
    step ((s.withOpcode (condition.assemble literal register memory)).withStack (b :: a :: rest)) =
      branch (condition.assemble literal register memory) (condition.met (b :: a :: rest))
        ((s.withOpcode (condition.assemble literal register memory)).withStack rest)
  existsUnique : ∀ (a b : Word) (rest : List Word), ∃! condition : Condition,
    condition ∈ [.above, .equal, .below] ∧ condition.met (b :: a :: rest) = true
  negation : ∀ (condition : Condition) (a b : Word) (rest : List Word),
    condition.negation.met (b :: a :: rest) = !condition.met (b :: a :: rest)
  exchange : ∀ (condition : Condition) (a b : Word) (rest : List Word),
    condition.converse.met (a :: b :: rest) = condition.met (b :: a :: rest)
  of_isNaN : ∀ (a b : Word) (rest : List Word), (b.sub a).isNaN = true →
    ∀ condition ∈ [Condition.equal, .aboveOrEqual, .belowOrEqual],
      condition.met (b :: a :: rest) = true

/-- At every position inside the image, the conditional jumps form a consistent order. -/
theorem branches_ordered (s : Session σ) (h : s.machine.ip < s.image.size)
    (literal register memory : Bool) : s.BranchSpec literal register memory := by
  refine ⟨?_, ?_, ?_, ?_, ?_⟩
  · intro condition a b rest
    exact step_of_jumpIf (fetch_withOpcode h condition literal register memory) a b rest
  · intro a b rest
    refine ⟨.ofOrder (a.compare b), Condition.holds_strict_iff.mpr rfl, ?_⟩
    intro condition hcondition
    exact Condition.holds_strict_iff.mp hcondition
  · intro condition a b rest
    exact condition.holds_negation _
  · intro condition a b rest
    exact condition.met_converse a b rest
  · intro a b rest hnan condition hmem
    rw [Condition.met, Word.compare_of_isNaN hnan]
    revert condition
    decide

/-- Two infinities of one sign have no difference: they count as equal, so a jump on equality goes
to the third instruction and a jump on inequality moves over its nine bytes. -/
theorem branches_ordered_of_infinities :
    let image : Image := ⟨#[0x48, 0x59, 0x56, 0x4d, 3,
      0x32, 0, 0, 0, 0, 0, 0, 0x24, 0x40, 0x0c, 0x00]⟩
    let s : Session Tape := fresh image {}
    let words : List Word := [.infinity false, .infinity false]
    s.machine.ip < s.image.size ∧
      ((Word.infinity false).sub (.infinity false)).isNaN = true ∧
      (((s.withOpcode (Condition.equal.assemble true false false)).withStack words).resume
        1).2.machine.ip = 15 ∧
      (((s.withOpcode (Condition.notEqual.assemble true false false)).withStack words).resume
        1).2.machine.ip = 14 ∧
      s.BranchSpec true false false := by
  intro image s words
  have hinside : s.machine.ip < s.image.size := by decide +kernel
  exact ⟨hinside, by decide +kernel, by decide +kernel, by decide +kernel,
    branches_ordered s hinside true false false⟩

end Session

end FloatMachine
