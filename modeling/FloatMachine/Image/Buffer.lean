import FloatMachine.Image

/-!
# Images as buffers

While it is being filled, an image is a buffer that grows by whole factors and is cut at the end.
Memory may be refused; a buffer that cannot grow is left as it was.
-/

namespace FloatMachine

/-- An access beside the elements of a sequence. -/
structure OutOfBounds where
  length : Nat
  index : Nat
deriving DecidableEq

def OutOfBounds.message (error : OutOfBounds) : String :=
  s!"index out of bounds: the len is {error.length} but the index is {error.index}"

/-- An answer, for each number of additional bytes, whether that much memory is granted. -/
abbrev Allocator := Nat → Bool

/-- Who answers the requests for memory, one after another. What was granted once may be refused
the next time. -/
abbrev Heap := Nat → Allocator

namespace Image

/-- Lengths are 64-bit numbers. -/
def lengthLimit : Nat := Nat.pow 2 64

/-- Grants what fits into an address space of 47 bits. -/
def roomy : Allocator := fun additional => additional < Nat.pow 2 47

/-- A buffer of zeros. -/
def zeros (grants : Allocator) (length : Nat) : Except Fault Image :=
  if length = 0 || grants length then .ok ⟨Array.replicate length 0⟩
  else .error (.allocation length)

/-- Multiplies the length, with zeros behind the content. The length may not shrink, and a request
for no additional memory is always granted. -/
def grow (grants : Allocator) (factor : Nat) : EStateM Fault Image Unit := do
  let image ← get
  let length := image.size * factor
  let additional := length - image.size
  if lengthLimit ≤ length || length < image.size then
    throw (.allocation (min length (lengthLimit - 1)))
  else if additional = 0 || grants additional then
    set (⟨image.bytes ++ Array.replicate additional 0⟩ : Image)
  else throw (.allocation length)

/-- Cuts the image to a length; a shorter image is kept. -/
def truncate (length : Nat) (image : Image) : Image :=
  ⟨image.bytes.take length⟩

/-- The image without bytes. -/
def empty : Image := ⟨#[]⟩

/-- Replaces one byte. -/
def set (image : Image) (index : Nat) (byte : UInt8) : Except OutOfBounds Image :=
  if index < image.size then .ok ⟨image.bytes.setIfInBounds index byte⟩
  else .error ⟨image.size, index⟩

end Image

end FloatMachine
