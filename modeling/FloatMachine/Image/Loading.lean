import FloatMachine.Image.Buffer

/-!
# Loading images

A file arrives in pieces whose sizes the reader cannot choose. Loading offers the free part of a
buffer to one read after another, doubles the buffer whenever it is full, and cuts it at the end.
-/

namespace FloatMachine

/-- What becomes of an attempt to read. -/
inductive Attempt where
  /-- A signal came in between, and nothing has been read. -/
  | interrupted
  | failed (reason : String)
  /-- One byte more than the amount is delivered, if so many are asked for and present. -/
  | delivers (amount : Nat)
deriving DecidableEq

/-- A file that has been opened: its content, and what becomes of each attempt to read it. -/
structure OpenFile where
  content : List UInt8
  attempt : Nat → Attempt
  /-- Interruptions in a row come to an end. -/
  settles : ∀ n, ∃ k, attempt (n + k) ≠ .interrupted

namespace OpenFile

/-- A file that delivers as much as is asked for. -/
def ofBytes (content : List UInt8) : OpenFile where
  content
  attempt := fun _ => .delivers content.length
  settles := fun _ => ⟨0, nofun⟩

/-- A file that can be opened but not read. -/
def unreadable (reason : String) : OpenFile where
  content := []
  attempt := fun _ => .failed reason
  settles := fun _ => ⟨0, nofun⟩

theorem exists_interruptions (file : OpenFile) (n : Nat) :
    ∃ k, file.attempt (n + k) ≠ .interrupted ∧
      ∀ j < k, file.attempt (n + j) = .interrupted := by
  obtain ⟨bound, hbound⟩ := file.settles n
  induction bound using Nat.strongRecOn with
  | ind bound ih =>
    by_cases h : ∀ j < bound, file.attempt (n + j) = .interrupted
    · exact ⟨bound, hbound, h⟩
    · simp only [Classical.not_forall] at h
      obtain ⟨j, hj, hattempt⟩ := h
      exact ih j hj hattempt

/-- How many attempts in a row are interrupted from one on. -/
noncomputable def interruptions (file : OpenFile) (n : Nat) : Nat :=
  Classical.choose (file.exists_interruptions n)

theorem interruptions_lt {file : OpenFile} {n : Nat} (h : file.attempt n = .interrupted) :
    file.interruptions (n + 1) < file.interruptions n := by
  obtain ⟨hheard, _⟩ := Classical.choose_spec (file.exists_interruptions n)
  obtain ⟨_, hnext⟩ := Classical.choose_spec (file.exists_interruptions (n + 1))
  have hpos : file.interruptions n ≠ 0 := by
    intro hzero
    refine hheard ?_
    rw [show Classical.choose (file.exists_interruptions n) = 0 from hzero]
    exact h
  refine Nat.lt_of_not_le fun hle => hheard ?_
  have hlt : file.interruptions n - 1 < file.interruptions (n + 1) := by omega
  have hsame : n + 1 + (file.interruptions n - 1) = n + file.interruptions n := by omega
  exact hsame ▸ hnext _ hlt

end OpenFile

namespace Image

/-- The length of the buffer before anything has been read. -/
def initialCapacity : Nat := 256

/-- Puts bytes in place of those from an offset on. Bytes that do not fit are dropped. -/
def overwrite (image : Image) (offset : Nat) (bytes : List UInt8) : Image :=
  ⟨(bytes.zipIdx offset).foldl (fun target (byte, i) => target.setIfInBounds i byte) image.bytes⟩

/-- Doubles a buffer that is full. Answers how often the buffer has been doubled by then. -/
def makeRoom (heap : Heap) (growths filled : Nat) : EStateM Fault Image Nat := do
  if filled = (← get).size then
    grow (heap (growths + 1)) 2
    return growths + 1
  else return growths

/-- Reads the rest of a file behind the bytes that fill the buffer so far. An interrupted read is
made again, and the end of the file is a read that delivers nothing. -/
def fill (heap : Heap) (path : String) (file : OpenFile) (growths reads : Nat)
    (rest : List UInt8) (buffer : Image) (filled : Nat) : Except Fault Image :=
  match makeRoom heap growths filled buffer with
  | .error fault _ => .error fault
  | .ok growths buffer =>
    match _attempt : file.attempt reads with
    | .interrupted => fill heap path file growths (reads + 1) rest buffer filled
    | .failed reason => .error (.load path reason)
    | .delivers amount =>
      let delivered := rest.take (min (amount + 1) (buffer.size - filled))
      if delivered = [] then .ok (buffer.truncate filled)
      else
        fill heap path file growths (reads + 1) (rest.drop delivered.length)
          (buffer.overwrite filled delivered) (filled + delivered.length)
termination_by (rest.length, file.interruptions reads)
decreasing_by
  · exact Prod.Lex.right _ (OpenFile.interruptions_lt _attempt)
  · rename_i nonempty
    have := List.length_pos_iff.mpr nonempty
    refine Prod.Lex.left _ _ ?_
    simp only [delivered, List.length_take, List.length_drop] at this ⊢
    omega

/-- Loads an opened file. -/
def load (heap : Heap) (path : String) (file : OpenFile) : Except Fault Image := do
  let buffer ← zeros (heap 0) initialCapacity
  fill heap path file 0 0 file.content buffer 0

end Image

end FloatMachine
