import FloatMachine.Image

/-!
# The image header

An image opens with the four bytes `HYVM` and a version byte.
-/

namespace FloatMachine.Image

/-- The letters `HYVM`, read as a number with the least significant byte first. -/
def signature : UInt32 := 0x4d565948

def version : UInt8 := 3

/-- The number of bytes in front of the first instruction. -/
def headerSize : Nat := 5

/-- The header of every image that can be run. -/
def headerBytes : List UInt8 := [0x48, 0x59, 0x56, 0x4d, 3]

/-- Checks length, signature and version, in this order. What follows the header is not looked
at, so that a header alone passes. -/
def validate (image : Image) : Except Fault Unit :=
  let found := UInt32.ofNat (littleEndian ((List.range 4).map image.byteAt))
  if image.size < headerSize then .error (.truncatedHeader image.size headerSize)
  else if found ≠ signature then .error (.badSignature found signature)
  else if image.byteAt 4 ≠ version then .error (.unsupportedVersion (image.byteAt 4) version)
  else .ok ()

end FloatMachine.Image
