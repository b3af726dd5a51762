import FloatMachine.Image.Buffer
import FloatMachine.Proofs.Execution

/-! Buffers that are resized. A buffer grows by whole factors, as far as lengths and memory allow,
and is cut at will. Whatever is done to it, it holds as many bytes of its first content as its
smallest length so far, and zeros behind them: what has been cut off never comes back. -/

namespace FloatMachine.Image

/-! ## Growing -/

/-- The buffer can be made longer by a factor: the length fits into 64 bits and does not shrink, and
the memory is granted. Nobody is asked for no memory. -/
structure Growable (grants : Allocator) (factor : Nat) (image : Image) : Prop where
  lt_limit : image.size * factor < lengthLimit
  le_length : image.size ≤ image.size * factor
  granted : image.size * factor = image.size ∨
    grants (image.size * factor - image.size) = true

variable {grants : Allocator} {factor : Nat} {image : Image}

theorem Growable.grow_eq (h : image.Growable grants factor) :
    image.grow grants factor =
      .ok () ⟨image.bytes ++ Array.replicate (image.size * factor - image.size) 0⟩ := by
  obtain ⟨hlimit, hlength, hgranted⟩ := h
  have hfits : ¬ (lengthLimit ≤ image.size * factor ∨ image.size * factor < image.size) := by
    omega
  have hmemory : image.size * factor - image.size = 0 ∨
      grants (image.size * factor - image.size) = true :=
    hgranted.imp (fun heq => Nat.sub_eq_zero_of_le (Nat.le_of_eq heq)) id
  simp only [grow, bind_apply, get_apply, Bool.or_eq_true, decide_eq_true_eq]
  rw [if_neg hfits, if_pos hmemory]
  rfl

/-- Growing fails with the length that was asked for, or the largest one there is. -/
theorem grow_of_not_growable (h : ¬ image.Growable grants factor) :
    image.grow grants factor =
      .error (.allocation (min (image.size * factor) (lengthLimit - 1))) image := by
  simp only [grow, bind_apply, get_apply, Bool.or_eq_true, decide_eq_true_eq]
  split
  · rfl
  · rename_i hfits
    split
    · rename_i hmemory
      refine absurd ⟨by omega, by omega, hmemory.imp (fun hzero => ?_) id⟩ h
      omega
    · rw [Nat.min_eq_left (by omega)]
      rfl

theorem grow_eq_ok {grown : Image} :
    image.grow grants factor = .ok () grown ↔ image.Growable grants factor ∧
      grown = ⟨image.bytes ++ Array.replicate (image.size * factor - image.size) 0⟩ := by
  by_cases h : image.Growable grants factor
  · simp [h.grow_eq, h, eq_comm]
  · simp [grow_of_not_growable h, h]

theorem grow_eq_error {fault : Fault} {left : Image} :
    image.grow grants factor = .error fault left ↔ ¬ image.Growable grants factor ∧
      fault = .allocation (min (image.size * factor) (lengthLimit - 1)) ∧ left = image := by
  by_cases h : image.Growable grants factor
  · simp [h.grow_eq, h]
  · simp [grow_of_not_growable h, h, eq_comm]

@[simp] theorem size_extended (additional : Nat) :
    size ⟨image.bytes ++ Array.replicate additional 0⟩ = image.size + additional := by
  simp [size]

/-! ## Histories -/

/-- The calls that change the length of a buffer. Every call to grow meets memory of its own. -/
inductive Resize where
  | grow (grants : Allocator) (factor : Nat)
  | truncate (length : Nat)

/-- What a call does to a buffer. -/
def Resize.action : Resize → EStateM Fault Image Unit
  | .grow grants factor => Image.grow grants factor
  | .truncate length => modify (Image.truncate length)

/-- The answer to a call, and the buffer as the call has left it. -/
def resize (image : Image) (call : Resize) : Except Fault Unit × Image :=
  match call.action image with
  | .ok answer image => (.ok answer, image)
  | .error fault image => (.error fault, image)

/-- The buffer after a history of calls, those that failed included. -/
def resizeAll (image : Image) : List Resize → Image
  | [] => image
  | call :: calls => (image.resize call).2.resizeAll calls

/-- The smallest length that the buffer has had during a history. -/
def leastSize (image : Image) : List Resize → Nat
  | [] => image.size
  | call :: calls => min image.size ((image.resize call).2.leastSize calls)

theorem Growable.resize_eq (h : image.Growable grants factor) :
    image.resize (.grow grants factor) =
      (.ok (), ⟨image.bytes ++ Array.replicate (image.size * factor - image.size) 0⟩) := by
  simp only [resize, Resize.action, h.grow_eq]

theorem resize_of_not_growable (h : ¬ image.Growable grants factor) :
    image.resize (.grow grants factor) =
      (.error (.allocation (min (image.size * factor) (lengthLimit - 1))), image) := by
  simp only [resize, Resize.action, grow_of_not_growable h]

theorem leastSize_le (image : Image) (calls : List Resize) :
    image.leastSize calls ≤ image.size := by
  cases calls with
  | nil => exact Nat.le_refl _
  | cons call calls => exact Nat.min_le_left _ _

/-- The image holds the first `least` bytes of a content, and zeros behind them. -/
structure Retains (content : List UInt8) (least : Nat) (image : Image) : Prop where
  le_size : least ≤ image.size
  bytes_eq : image.bytes.toList =
    content.take least ++ List.replicate (image.size - least) 0

theorem retains_self (image : Image) : image.Retains image.bytes.toList image.size := by
  refine ⟨Nat.le_refl _, ?_⟩
  rw [Nat.sub_self, List.replicate_zero, List.append_nil, List.take_of_length_le]
  simp [size]

section Retained

variable {content : List UInt8} {least : Nat}

theorem Retains.le_length (h : image.Retains content least) : least ≤ content.length := by
  have hsize := h.le_size
  have hlength := congrArg List.length h.bytes_eq
  simp only [List.length_append, List.length_take, List.length_replicate, Array.length_toList,
    size] at hlength hsize
  omega

theorem Retains.append_zeros (h : image.Retains content least) (additional : Nat) :
    Retains content least ⟨image.bytes ++ Array.replicate additional 0⟩ := by
  have hsize := h.le_size
  refine ⟨by rw [size_extended]; omega, ?_⟩
  have hzeros : image.size + additional - least = (image.size - least) + additional := by omega
  rw [size_extended, hzeros, ← List.replicate_append_replicate, ← List.append_assoc, ← h.bytes_eq]
  simp

theorem size_truncate (length : Nat) : (image.truncate length).size = min length image.size := by
  simp [truncate, size]

/-- A cut takes zeros first, and then bytes of the content. -/
theorem Retains.truncate (h : image.Retains content least) (length : Nat) :
    (image.truncate length).Retains content (min least (image.truncate length).size) := by
  have hle := h.le_size
  have hlength := h.le_length
  refine ⟨Nat.min_le_right _ _, ?_⟩
  have hbytes : (image.truncate length).bytes.toList = image.bytes.toList.take length := by
    simp [Image.truncate]
  rw [hbytes, h.bytes_eq, size_truncate, List.take_append, List.take_take, List.take_replicate,
    List.length_take]
  congr 2 <;> omega

theorem Retains.resize (h : image.Retains content least) (call : Resize) :
    (image.resize call).2.Retains content (min least (image.resize call).2.size) := by
  have hle := h.le_size
  cases call with
  | truncate length => exact h.truncate length
  | grow grants factor =>
      by_cases hg : image.Growable grants factor
      · rw [hg.resize_eq, size_extended,
          Nat.min_eq_left (Nat.le_trans hle (Nat.le_add_right _ _))]
        exact h.append_zeros _
      · rw [resize_of_not_growable hg, Nat.min_eq_left hle]
        exact h

theorem Retains.resizeAll (h : image.Retains content least) (calls : List Resize) :
    (image.resizeAll calls).Retains content (min least (image.leastSize calls)) := by
  induction calls generalizing image least with
  | nil =>
      rw [leastSize, Nat.min_eq_left h.le_size]
      exact h
  | cons call calls ih =>
      have hrest := ih (h.resize call)
      have hle := h.le_size
      have hleast := leastSize_le (image.resize call).2 calls
      have hmin : min least (image.leastSize (call :: calls)) =
          min (min least (image.resize call).2.size) ((image.resize call).2.leastSize calls) := by
        simp only [leastSize]
        omega
      rw [hmin]
      exact hrest

end Retained

/-- How a call to grow a buffer ends. -/
structure GrowSpec (image : Image) (grants : Allocator) (factor : Nat) : Prop where
  ok_iff : (image.resize (.grow grants factor)).1 = .ok () ↔ image.Growable grants factor
  size_eq : (image.resize (.grow grants factor)).1 = .ok () →
    (image.resize (.grow grants factor)).2.size = image.size * factor
  error_eq : ∀ fault, (image.resize (.grow grants factor)).1 = .error fault →
    fault = .allocation (min (image.size * factor) (lengthLimit - 1)) ∧
      (image.resize (.grow grants factor)).2 = image

theorem growSpec (image : Image) (grants : Allocator) (factor : Nat) :
    image.GrowSpec grants factor := by
  by_cases h : image.Growable grants factor
  · refine ⟨?_, ?_, ?_⟩
    · simp [h.resize_eq, h]
    · intro _
      rw [h.resize_eq, size_extended]
      exact Nat.add_sub_cancel' h.le_length
    · intro fault herror
      simp [h.resize_eq] at herror
  · refine ⟨?_, ?_, ?_⟩
    · simp [resize_of_not_growable h, h]
    · intro hok
      simp [resize_of_not_growable h] at hok
    · intro fault herror
      rw [resize_of_not_growable h] at herror ⊢
      cases herror
      exact ⟨rfl, rfl⟩

/-- Whatever a buffer starts with and however it is resized, it ends with as many of its first bytes
as its smallest length and zeros behind them. Every call to grow it ends as the length and the
memory say, and every call to cut it leaves no more than the length that is asked for. -/
theorem histories_retain (image : Image) (calls : List Resize) :
    (image.resizeAll calls).bytes.toList =
      image.bytes.toList.take (image.leastSize calls) ++
        List.replicate ((image.resizeAll calls).size - image.leastSize calls) 0 ∧
    (∀ grants factor, (image.resizeAll calls).GrowSpec grants factor) ∧
    ∀ length, ((image.resizeAll calls).resize (.truncate length)).2.size =
      min length (image.resizeAll calls).size := by
  have hretains := image.retains_self.resizeAll calls
  rw [Nat.min_eq_right (leastSize_le image calls)] at hretains
  exact ⟨hretains.bytes_eq, growSpec _, size_truncate⟩

end FloatMachine.Image
