import FloatMachine.Fault

/-!
# Images

An image is the byte string a machine executes: a header, then instructions. Words inside it are
stored with the least significant byte first.
-/

namespace FloatMachine

/-- The bytes of a program, header included. -/
structure Image where
  bytes : Array UInt8
deriving DecidableEq

namespace Image

def size (image : Image) : Nat := image.bytes.size

/-- The byte at an offset, if the image has one there. -/
def byte? (image : Image) (offset : Nat) : Option UInt8 := image.bytes[offset]?

/-- The byte at an offset; past the end there are only zeros. -/
def byteAt (image : Image) (offset : Nat) : UInt8 := image.bytes.getD offset 0

/-- The number whose base-256 digits are the given bytes, the least significant one first. -/
def littleEndian (bytes : List UInt8) : Nat :=
  bytes.foldr (fun byte rest => byte.toNat + 256 * rest) 0

/-- The number of bytes of a word. -/
def wordSize : Nat := 8

/-- The word that starts at an offset; past the end there are only zeros. -/
def wordAt (image : Image) (offset : Nat) : Word :=
  ⟨UInt64.ofNat (littleEndian ((List.range wordSize).map fun i => image.byteAt (offset + i)))⟩

/-- The word that starts at an offset, if all its bytes are in the image. -/
def word? (image : Image) (offset : Nat) : Option Word :=
  if offset + wordSize ≤ image.size then some (image.wordAt offset) else none

end Image

end FloatMachine
