import FloatMachine.Image.Header

/-! Strings of bytes in an image: numbers and how they are spelled, what stands at an offset, and
the header. -/

namespace FloatMachine.Image

/-! ## Numbers -/

/-- The lowest `size` digits of a number in base 256, the least significant one first. -/
def spell : Nat → Nat → List UInt8
  | 0, _ => []
  | size + 1, n => UInt8.ofNat n :: spell size (n / 256)

@[simp] theorem length_spell (size n : Nat) : (spell size n).length = size := by
  induction size generalizing n with
  | zero => rfl
  | succ size ih => simp only [spell, List.length_cons, ih]

theorem littleEndian_cons (byte : UInt8) (bytes : List UInt8) :
    littleEndian (byte :: bytes) = byte.toNat + 256 * littleEndian bytes := rfl

theorem littleEndian_spell (size n : Nat) : littleEndian (spell size n) = n % Nat.pow 256 size := by
  induction size generalizing n with
  | zero => exact (Nat.mod_one n).symm
  | succ size ih =>
      have hpow : Nat.pow 256 (size + 1) = 256 * Nat.pow 256 size := Nat.pow_succ'
      rw [spell, littleEndian_cons, ih, hpow, Nat.mod_mul, UInt8.toNat_ofNat']

theorem spell_littleEndian (bytes : List UInt8) :
    spell bytes.length (littleEndian bytes) = bytes := by
  induction bytes with
  | nil => rfl
  | cons byte bytes ih =>
      have hlt : byte.toNat < 256 := byte.toNat_lt
      have hdiv : littleEndian (byte :: bytes) / 256 = littleEndian bytes := by
        rw [littleEndian_cons]
        omega
      have hlow : UInt8.ofNat (littleEndian (byte :: bytes)) = byte := by
        apply UInt8.toNat.inj
        rw [UInt8.toNat_ofNat', littleEndian_cons]
        omega
      rw [List.length_cons, spell, hdiv, ih, hlow]

theorem littleEndian_lt (bytes : List UInt8) : littleEndian bytes < Nat.pow 256 bytes.length := by
  have heq := littleEndian_spell bytes.length (littleEndian bytes)
  rw [spell_littleEndian] at heq
  rw [heq]
  exact Nat.mod_lt _ (Nat.pow_pos (by decide))

theorem exists_spell_eq {bytes : List UInt8} (h : bytes.length = wordSize) :
    ∃ w : Word, spell wordSize w.bits.toNat = bytes := by
  have hlt : littleEndian bytes < Nat.pow 2 64 := by
    have hlt := littleEndian_lt bytes
    rw [h] at hlt
    exact hlt
  refine ⟨⟨UInt64.ofNat (littleEndian bytes)⟩, ?_⟩
  rw [UInt64.toNat_ofNat', Nat.mod_eq_of_lt hlt, ← h]
  exact spell_littleEndian bytes

/-! ## Bytes at an offset -/

theorem byteAt_of_byte? {image : Image} {offset : Nat} {byte : UInt8}
    (h : image.byte? offset = some byte) : image.byteAt offset = byte := by
  rw [byte?] at h
  rw [byteAt, Array.getD_eq_getD_getElem?, h]
  rfl

theorem byte?_of_lt {image : Image} {offset : Nat} (h : offset < image.size) :
    image.byte? offset = some (image.byteAt offset) := by
  have hbyte : image.byte? offset = some image.bytes[offset] := Array.getElem?_eq_getElem h
  rw [byteAt_of_byte? hbyte, hbyte]

/-- The bytes stand in the image from an offset on. -/
def Holds (image : Image) (offset : Nat) (bytes : List UInt8) : Prop :=
  ∃ before after, image.bytes.toList = before ++ (bytes ++ after) ∧ offset = before.length

theorem Holds.le_size {image : Image} {offset : Nat} {bytes : List UInt8}
    (h : image.Holds offset bytes) : offset + bytes.length ≤ image.size := by
  obtain ⟨before, after, heq, rfl⟩ := h
  have hlen := congrArg List.length heq
  simp only [Array.length_toList, List.length_append] at hlen
  simp only [Image.size]
  omega

theorem Holds.tail {image : Image} {offset : Nat} {byte : UInt8} {bytes : List UInt8}
    (h : image.Holds offset (byte :: bytes)) : image.Holds (offset + 1) bytes := by
  obtain ⟨before, after, heq, rfl⟩ := h
  exact ⟨before ++ [byte], after, by simp [heq], by simp⟩

theorem Holds.byte?_eq {image : Image} {offset : Nat} {byte : UInt8} {bytes : List UInt8}
    (h : image.Holds offset (byte :: bytes)) : image.byte? offset = some byte := by
  obtain ⟨before, after, heq, rfl⟩ := h
  rw [Image.byte?, ← Array.getElem?_toList, heq]
  simp

theorem Holds.byteAt_eq {image : Image} {offset : Nat} {byte : UInt8} {bytes : List UInt8}
    (h : image.Holds offset (byte :: bytes)) : image.byteAt offset = byte :=
  byteAt_of_byte? h.byte?_eq

theorem Holds.map_byteAt {image : Image} {offset : Nat} {bytes : List UInt8}
    (h : image.Holds offset bytes) :
    (List.range bytes.length).map (fun i => image.byteAt (offset + i)) = bytes := by
  induction bytes generalizing offset with
  | nil => rfl
  | cons byte bytes ih =>
      have htail := ih h.tail
      rw [List.length_cons, List.range_succ_eq_map, List.map_cons, List.map_map, Nat.add_zero,
        h.byteAt_eq]
      congr 1
      refine Eq.trans (List.map_congr_left ?_) htail
      intro i _
      simp only [Function.comp, Nat.succ_eq_add_one]
      congr 1
      omega

theorem Holds.wordAt_eq {image : Image} {offset : Nat} {w : Word}
    (h : image.Holds offset (spell wordSize w.bits.toNat)) : image.wordAt offset = w := by
  have hbytes := h.map_byteAt
  rw [length_spell] at hbytes
  rw [Image.wordAt, hbytes, littleEndian_spell]
  have hlt : w.bits.toNat < Nat.pow 256 wordSize := w.bits.toNat_lt
  rw [Nat.mod_eq_of_lt hlt, UInt64.ofNat_toNat]

theorem exists_word_iff {image : Image} {offset : Nat} :
    (∃ w : Word, image.Holds offset (spell wordSize w.bits.toNat)) ↔
      offset + wordSize ≤ image.size := by
  constructor
  · rintro ⟨w, hw⟩
    have hle := hw.le_size
    rwa [length_spell] at hle
  · intro h
    have hlen : image.bytes.toList.length = image.size := Array.length_toList
    obtain ⟨w, hw⟩ := exists_spell_eq (show
      ((image.bytes.toList.drop offset).take wordSize).length = wordSize by
        rw [List.length_take, List.length_drop]
        omega)
    refine ⟨w, image.bytes.toList.take offset, (image.bytes.toList.drop offset).drop wordSize,
      ?_, ?_⟩
    · rw [hw, List.take_append_drop, List.take_append_drop]
    · rw [List.length_take]
      omega

/-! ## The header -/

/-- The image opens with the header. -/
def HasHeader (image : Image) : Prop := image.bytes.toList.take headerSize = headerBytes

theorem HasHeader.le_size {image : Image} (h : image.HasHeader) : headerSize ≤ image.size := by
  have hlen := congrArg List.length h
  rw [List.length_take, Array.length_toList] at hlen
  simp only [headerBytes, List.length_cons, List.length_nil, headerSize, Image.size] at hlen ⊢
  omega

theorem headerBytes_eq : headerBytes = spell 4 signature.toNat ++ [version] := by
  decide

theorem map_byteAt_take {image : Image} (h : headerSize ≤ image.size) :
    (List.range 4).map image.byteAt ++ [image.byteAt 4] =
      image.bytes.toList.take headerSize := by
  have hlen : (image.bytes.toList.take headerSize).length = 5 :=
    List.length_take_of_le (by simpa [Image.size] using h)
  have hholds : image.Holds 0 (image.bytes.toList.take headerSize) :=
    ⟨[], image.bytes.toList.drop headerSize, by simp, rfl⟩
  have heq := hholds.map_byteAt
  rw [hlen, List.range_succ, List.map_append] at heq
  simpa only [Nat.zero_add, List.map_cons, List.map_nil] using heq

/-- The checks of the header accept exactly the images that open with it. -/
theorem validate_eq_ok {image : Image} : image.validate = .ok () ↔ image.HasHeader := by
  have hfour : ((List.range 4).map image.byteAt).length = 4 := by simp
  constructor
  · intro h
    simp only [validate] at h
    split at h
    · cases h
    · rename_i hsize
      split at h
      · cases h
      · rename_i hsignature
        split at h
        · cases h
        · rename_i hversion
          -- Four bytes and the number they stand for determine each other.
          have hlt := littleEndian_lt ((List.range 4).map image.byteAt)
          have hnum := congrArg UInt32.toNat (Decidable.not_not.mp hsignature)
          rw [UInt32.toNat_ofNat', Nat.mod_eq_of_lt (by rwa [hfour] at hlt)] at hnum
          have hbytes := spell_littleEndian ((List.range 4).map image.byteAt)
          rw [hfour, hnum] at hbytes
          rw [HasHeader, ← map_byteAt_take (Nat.le_of_not_lt hsize), ← hbytes,
            Decidable.not_not.mp hversion, headerBytes_eq]
  · intro h
    have hsize := h.le_size
    rw [HasHeader, ← map_byteAt_take hsize, headerBytes_eq] at h
    obtain ⟨hbytes, hversion⟩ := List.append_inj h (by simp)
    have hfound : UInt32.ofNat (littleEndian ((List.range 4).map image.byteAt)) = signature := by
      rw [hbytes]
      decide
    have hlast : image.byteAt 4 = version := List.cons.inj hversion |>.1
    simp only [validate, hfound, hlast, ne_eq, not_true, ite_false,
      if_neg (Nat.not_lt_of_le hsize)]

end FloatMachine.Image
