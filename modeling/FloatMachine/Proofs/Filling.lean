import FloatMachine.Image.Loading
import FloatMachine.Proofs.Resizing

/-! Loading is exact. However a file is cut into reads and however often they are interrupted, the
loader meets its end with all its bytes in front, unless memory is refused or a read fails on the
way. The point is that every read is offered room, so that a read which delivers nothing has come to
the end of the file and not to the end of the buffer. -/

namespace FloatMachine.Image

/-! ## Buffers -/

theorem overwrite_cons (image : Image) (offset : Nat) (byte : UInt8) (bytes : List UInt8) :
    image.overwrite offset (byte :: bytes) =
      overwrite ⟨image.bytes.setIfInBounds offset byte⟩ (offset + 1) bytes := rfl

@[simp] theorem size_overwrite (image : Image) (offset : Nat) (bytes : List UInt8) :
    (image.overwrite offset bytes).size = image.size := by
  induction bytes generalizing image offset with
  | nil => rfl
  | cons byte bytes ih =>
      rw [overwrite_cons, ih]
      simp [size]

theorem take_overwrite {image : Image} {offset : Nat} {bytes : List UInt8}
    (h : offset + bytes.length ≤ image.size) :
    (image.overwrite offset bytes).bytes.toList.take (offset + bytes.length) =
      image.bytes.toList.take offset ++ bytes := by
  induction bytes generalizing image offset with
  | nil => simp [overwrite]
  | cons byte bytes ih =>
      simp only [List.length_cons, size] at h
      have hlt : offset < image.bytes.toList.length := by
        rw [Array.length_toList]
        omega
      have hset : (image.bytes.setIfInBounds offset byte).toList.take (offset + 1) =
          image.bytes.toList.take offset ++ [byte] := by
        rw [Array.toList_setIfInBounds, List.take_succ_eq_append_getElem (by simpa using hlt),
          List.take_set_of_le (Nat.le_refl offset), List.getElem_set_self]
      have hrest := @ih ⟨image.bytes.setIfInBounds offset byte⟩ (offset + 1) (by
        simp only [size, Array.size_setIfInBounds]
        omega)
      rw [overwrite_cons, List.length_cons, Nat.add_comm bytes.length, ← Nat.add_assoc, hrest, hset]
      simp

theorem of_grow_two {grants : Allocator} {image image' : Image}
    (h : image.grow grants 2 = .ok () image') :
    image'.size = image.size * 2 ∧
      ∀ n ≤ image.size, image'.bytes.toList.take n = image.bytes.toList.take n := by
  obtain ⟨hgrowable, rfl⟩ := grow_eq_ok.mp h
  constructor
  · rw [size_extended]
    exact Nat.add_sub_cancel' hgrowable.le_length
  · intro n hn
    simp only [size] at hn
    simp [List.take_append_of_le_length, hn]

/-- A buffer that is not empty fails to double if its length would not fit into 64 bits, or if the
memory for as many bytes again is refused. -/
theorem of_grow_two_error {grants : Allocator} {image left : Image} {fault : Fault}
    (h : image.grow grants 2 = .error fault left) (hpos : 0 < image.size) :
    fault = .allocation (min (image.size * 2) (lengthLimit - 1)) ∧
      (lengthLimit ≤ image.size * 2 ∨ grants image.size = false) := by
  obtain ⟨hn, rfl, _⟩ := grow_eq_error.mp h
  refine ⟨rfl, ?_⟩
  by_cases hlimit : lengthLimit ≤ image.size * 2
  · exact .inl hlimit
  · right
    apply Bool.eq_false_iff.mpr
    intro hgrants
    have hadditional : image.size * 2 - image.size = image.size := by omega
    exact hn ⟨by omega, by omega, .inr (by rw [hadditional, hgrants])⟩

/-! ## Passes -/

/-- A loader between two reads. -/
structure Filling where
  /-- How often the buffer has been doubled. -/
  growths : Nat
  /-- The number of attempts to read. -/
  reads : Nat
  /-- What is left of the file. -/
  rest : List UInt8
  buffer : Image
  /-- How much of the buffer holds bytes of the file. -/
  filled : Nat

namespace Filling

/-- The loader whose free part the next read is offered. A full buffer is doubled before that, and
each growth asks for memory anew. -/
inductive Offered (heap : Heap) (f : Filling) : Filling → Prop where
  | kept (h : f.filled ≠ f.buffer.size) : Offered heap f f
  | grown {buffer} (h : f.filled = f.buffer.size)
      (hg : f.buffer.grow (heap (f.growths + 1)) 2 = .ok () buffer) :
      Offered heap f { f with growths := f.growths + 1, buffer }

/-- What a read of an amount delivers into the free part of the buffer. -/
def delivery (f : Filling) (amount : Nat) : List UInt8 :=
  f.rest.take (min (amount + 1) (f.buffer.size - f.filled))

/-- The loader after a read. An interrupted one delivers nothing. -/
def received (f : Filling) (bytes : List UInt8) : Filling where
  growths := f.growths
  reads := f.reads + 1
  rest := f.rest.drop bytes.length
  buffer := f.buffer.overwrite f.filled bytes
  filled := f.filled + bytes.length

/-- The loaders that loading a file goes through. -/
inductive Reached (heap : Heap) (file : OpenFile) : Filling → Prop where
  | start {buffer} (h : zeros (heap 0) initialCapacity = .ok buffer) :
      Reached heap file ⟨0, 0, file.content, buffer, 0⟩
  | interrupted {f g} (h : Reached heap file f) (ho : f.Offered heap g)
      (ha : file.attempt f.reads = .interrupted) : Reached heap file (g.received [])
  | pass {f g amount} (h : Reached heap file f) (ho : f.Offered heap g)
      (ha : file.attempt f.reads = .delivers amount) (hd : g.delivery amount ≠ []) :
      Reached heap file (g.received (g.delivery amount))

/-- What is true of a loader at all times: the bytes it holds and those that are left make up the
file, they fit into the buffer, and the buffer has been doubled as often as memory was asked for. -/
structure Valid (content : List UInt8) (f : Filling) : Prop where
  content_eq : f.buffer.bytes.toList.take f.filled ++ f.rest = content
  filled_le : f.filled ≤ f.buffer.size
  size_eq : f.buffer.size = initialCapacity * Nat.pow 2 f.growths

variable {heap : Heap} {file : OpenFile} {content : List UInt8} {f g : Filling}

theorem Offered.rest_eq (h : f.Offered heap g) : g.rest = f.rest := by
  cases h <;> rfl

theorem Valid.size_pos (h : f.Valid content) : 0 < f.buffer.size := by
  rw [h.size_eq]
  exact Nat.mul_pos (by decide) (Nat.pow_pos (by decide))

theorem Valid.start {buffer : Image} (h : zeros (heap 0) initialCapacity = .ok buffer) :
    Valid content ⟨0, 0, content, buffer, 0⟩ := by
  refine ⟨by simp, Nat.zero_le _, ?_⟩
  simp only [zeros] at h
  split at h <;> cases h
  simp [size]

/-- A loader that a read is offered has room, and holds what has been read so far. -/
theorem Valid.offered (h : f.Valid content) (ho : f.Offered heap g) :
    g.filled < g.buffer.size ∧ g.Valid content := by
  have hpos := h.size_pos
  have hle := h.filled_le
  cases ho with
  | kept hroom => exact ⟨by omega, h⟩
  | @grown buffer hfull hg =>
      obtain ⟨hsize, htake⟩ := of_grow_two hg
      have hroom : f.filled < buffer.size := by omega
      refine ⟨hroom, ⟨?_, Nat.le_of_lt hroom, ?_⟩⟩
      · rw [htake f.filled h.filled_le]
        exact h.content_eq
      · rw [hsize, h.size_eq, Nat.mul_assoc]
        rfl

theorem Valid.received (h : f.Valid content) {bytes : List UInt8} (hbytes : bytes <+: f.rest)
    (hroom : bytes.length ≤ f.buffer.size - f.filled) : (f.received bytes).Valid content := by
  have hle := h.filled_le
  have hfits : f.filled + bytes.length ≤ f.buffer.size := by omega
  have hrest : bytes ++ f.rest.drop bytes.length = f.rest := List.prefix_iff_eq_append.mp hbytes
  refine ⟨?_, ?_, ?_⟩
  · simp only [Filling.received]
    rw [take_overwrite hfits, List.append_assoc, hrest]
    exact h.content_eq
  · simpa [Filling.received] using hfits
  · simpa [Filling.received] using h.size_eq

theorem length_delivery_le (f : Filling) (amount : Nat) :
    (f.delivery amount).length ≤ f.buffer.size - f.filled := by
  rw [delivery, List.length_take]
  omega

theorem Valid.delivered (h : f.Valid content) (amount : Nat) :
    (f.received (f.delivery amount)).Valid content :=
  h.received (List.take_prefix _ _) (f.length_delivery_le amount)

theorem Reached.valid (h : Reached heap file f) : f.Valid file.content := by
  induction h with
  | start h => exact Valid.start h
  | interrupted _ ho _ ih => exact (ih.offered ho).2.received List.nil_prefix (Nat.zero_le _)
  | pass _ ho _ _ ih => exact (ih.offered ho).2.delivered _

/-- A read delivers nothing exactly at the end of the file. -/
theorem Valid.delivery_eq_nil_iff (h : f.Valid content) (ho : f.Offered heap g) (amount : Nat) :
    g.delivery amount = [] ↔ f.rest = [] := by
  have hroom := (h.offered ho).1
  rw [delivery, List.take_eq_nil_iff, ho.rest_eq]
  constructor
  · rintro (hzero | hnil)
    · omega
    · exact hnil
  · exact .inr

theorem Valid.truncate_eq (h : f.Valid content) (hrest : f.rest = []) :
    f.buffer.truncate f.filled = ⟨content.toArray⟩ := by
  have hcontent := h.content_eq
  rw [hrest, List.append_nil] at hcontent
  have hbytes : (f.buffer.bytes.take f.filled).toList = content := by
    rw [← hcontent]
    simp
  rw [truncate, ← hbytes, Array.toArray_toList]

theorem Valid.filled_le_length (h : f.Valid content) : f.filled ≤ content.length := by
  have hlen := congrArg List.length h.content_eq
  have hle := h.filled_le
  simp only [List.length_append, List.length_take, Array.length_toList, size] at hlen hle
  omega

/-! ## The loop -/

theorem Offered.makeRoom_eq (h : f.Offered heap g) :
    makeRoom heap f.growths f.filled f.buffer = .ok g.growths g.buffer := by
  simp only [makeRoom, bind_apply, get_apply]
  cases h with
  | kept hroom =>
      rw [if_neg hroom]
      rfl
  | grown hfull hg =>
      rw [if_pos hfull, bind_apply, hg]
      rfl

theorem offered_or_refused (heap : Heap) (f : Filling) :
    (∃ g, f.Offered heap g) ∨ ∃ fault left, f.filled = f.buffer.size ∧
      f.buffer.grow (heap (f.growths + 1)) 2 = .error fault left ∧
      makeRoom heap f.growths f.filled f.buffer = .error fault left := by
  by_cases hfull : f.filled = f.buffer.size
  · cases hg : f.buffer.grow (heap (f.growths + 1)) 2 with
    | ok _ buffer => exact .inl ⟨_, .grown hfull hg⟩
    | error fault left =>
        refine .inr ⟨fault, left, hfull, rfl, ?_⟩
        simp only [makeRoom, bind_apply, get_apply]
        rw [if_pos hfull, bind_apply, hg]
  · exact .inl ⟨f, .kept hfull⟩

theorem Offered.of_makeRoom {growths : Nat} {buffer : Image}
    (h : makeRoom heap f.growths f.filled f.buffer = .ok growths buffer) :
    f.Offered heap { f with growths, buffer } := by
  rcases offered_or_refused heap f with ⟨g, ho⟩ | ⟨fault, left, _, _, hm⟩
  · cases h.symm.trans ho.makeRoom_eq
    cases ho with
    | kept hroom => exact .kept hroom
    | grown hfull hg => exact .grown hfull hg
  · cases h.symm.trans hm

end Filling

/-! ## The outcome -/

/-- How loading a file ends. The causes of a failure stand at the pass where it fails. -/
inductive LoadOutcome (heap : Heap) (path : String) (file : OpenFile) :
    Except Fault Image → Prop where
  | unstarted (h : heap 0 initialCapacity = false) :
      LoadOutcome heap path file (.error (.allocation initialCapacity))
  | refused {f : Filling} (h : f.Reached heap file) (hfull : f.filled = f.buffer.size)
      (hr : lengthLimit ≤ f.buffer.size * 2 ∨ heap (f.growths + 1) f.buffer.size = false) :
      LoadOutcome heap path file
        (.error (.allocation (min (f.buffer.size * 2) (lengthLimit - 1))))
  | failed {f g : Filling} {reason} (h : f.Reached heap file) (ho : f.Offered heap g)
      (ha : file.attempt f.reads = .failed reason) :
      LoadOutcome heap path file (.error (.load path reason))
  | loaded {f g : Filling} {amount} (h : f.Reached heap file) (ho : f.Offered heap g)
      (ha : file.attempt f.reads = .delivers amount) (hrest : f.rest = []) :
      LoadOutcome heap path file (.ok ⟨file.content.toArray⟩)

variable {heap : Heap} {path : String} {file : OpenFile}

theorem Filling.Reached.refused {f : Filling} {fault : Fault} {left : Image}
    (h : f.Reached heap file)
    (hm : makeRoom heap f.growths f.filled f.buffer = .error fault left) :
    LoadOutcome heap path file (.error fault) := by
  rcases Filling.offered_or_refused heap f with ⟨g, ho⟩ | ⟨fault', left', hfull, hg, hm'⟩
  · cases hm.symm.trans ho.makeRoom_eq
  · cases hm.symm.trans hm'
    obtain ⟨rfl, hcause⟩ := of_grow_two_error hg h.valid.size_pos
    exact .refused h hfull hcause

/-- From every loader that is reached, loading goes on to one of the outcomes. -/
theorem outcome_of_reached {growths reads filled : Nat} {rest : List UInt8} {buffer : Image}
    (h : Filling.Reached heap file ⟨growths, reads, rest, buffer, filled⟩) :
    LoadOutcome heap path file (fill heap path file growths reads rest buffer filled) := by
  fun_induction fill heap path file growths reads rest buffer filled with
  | case1 growths reads rest buffer filled fault left hm => exact h.refused hm
  | case2 growths reads rest buffer filled growths' buffer' hm ha ih =>
      exact ih (.interrupted h (.of_makeRoom hm) ha)
  | case3 growths reads rest buffer filled growths' buffer' hm reason ha =>
      exact .failed h (.of_makeRoom hm) ha
  | case4 growths reads rest buffer filled growths' buffer' hm amount ha delivered hd =>
      have ho := Filling.Offered.of_makeRoom (f := ⟨growths, reads, rest, buffer, filled⟩) hm
      have hrest := (h.valid.delivery_eq_nil_iff ho amount).mp hd
      have htruncate := (h.valid.offered ho).2.truncate_eq hrest
      rw [htruncate]
      exact .loaded h ho ha hrest
  | case5 growths reads rest buffer filled growths' buffer' hm amount ha delivered hd ih =>
      exact ih (.pass h (.of_makeRoom hm) ha hd)

theorem load_outcome (heap : Heap) (path : String) (file : OpenFile) :
    LoadOutcome heap path file (load heap path file) := by
  simp only [load, bind, Except.bind]
  cases hz : zeros (heap 0) initialCapacity with
  | ok buffer => exact outcome_of_reached (.start hz)
  | error fault =>
      simp only [zeros] at hz
      split at hz
      · cases hz
      · rename_i hgrants
        cases hz
        refine .unstarted ?_
        simpa [initialCapacity] using hgrants

/-- Loading a file is to go on from any of the loaders it goes through. -/
theorem Filling.Reached.load_eq {f : Filling} (h : f.Reached heap file) (path : String) :
    load heap path file = fill heap path file f.growths f.reads f.rest f.buffer f.filled := by
  induction h with
  | start hz =>
      rw [load, hz]
      rfl
  | @interrupted f g _ ho ha ih =>
      rw [ih, fill, ho.makeRoom_eq]
      dsimp only
      split
      · cases ho <;> rfl
      · rename_i ha'
        cases ha.symm.trans ha'
      · rename_i ha'
        cases ha.symm.trans ha'
  | @pass f g amount _ ho ha hd ih =>
      rw [ih, fill, ho.makeRoom_eq]
      dsimp only
      split
      · rename_i ha'
        cases ha.symm.trans ha'
      · rename_i ha'
        cases ha.symm.trans ha'
      · rename_i ha'
        cases ha.symm.trans ha'
        cases ho <;> exact if_neg hd

theorem Filling.makeRoom_of_refused {f : Filling} (hpos : 0 < f.buffer.size)
    (hfull : f.filled = f.buffer.size)
    (hr : lengthLimit ≤ f.buffer.size * 2 ∨ heap (f.growths + 1) f.buffer.size = false) :
    makeRoom heap f.growths f.filled f.buffer =
      .error (.allocation (min (f.buffer.size * 2) (lengthLimit - 1))) f.buffer := by
  have hn : ¬ f.buffer.Growable (heap (f.growths + 1)) 2 := by
    rintro ⟨hlimit, _, hsame | hgranted⟩
    · omega
    · rw [Nat.mul_two, Nat.add_sub_cancel] at hgranted
      rcases hr with hr | hr
      · omega
      · cases hr.symm.trans hgranted
  simp only [makeRoom, bind_apply, get_apply]
  rw [if_pos hfull, bind_apply, grow_of_not_growable hn]

theorem LoadOutcome.load_eq {result : Except Fault Image} (h : LoadOutcome heap path file result) :
    load heap path file = result := by
  cases h with
  | unstarted h =>
      simp only [load, zeros, h]
      rfl
  | @refused f h hfull hr =>
      rw [h.load_eq, fill, Filling.makeRoom_of_refused h.valid.size_pos hfull hr]
  | @failed f g reason h ho ha =>
      rw [h.load_eq, fill, ho.makeRoom_eq]
      dsimp only
      split <;> rename_i ha' <;> cases ha.symm.trans ha'
      rfl
  | @loaded f g amount h ho ha hrest =>
      have hvalid := (h.valid.offered ho).2
      have hd := (h.valid.delivery_eq_nil_iff ho amount).mpr hrest
      rw [← hvalid.truncate_eq (ho.rest_eq.trans hrest), h.load_eq, fill, ho.makeRoom_eq]
      dsimp only
      split <;> rename_i ha' <;> cases ha.symm.trans ha'
      cases ho <;> exact if_pos hd

theorem loadOutcome_iff {result : Except Fault Image} :
    LoadOutcome heap path file result ↔ load heap path file = result := by
  refine ⟨LoadOutcome.load_eq, ?_⟩
  rintro rfl
  exact load_outcome heap path file

/-! ## Exactness -/

/-- What is true of loading a file. Every loader on the way is valid, and so is the one that a read
is offered; there is always room in it, so that only the end of the file delivers nothing. Loading
ends with the bytes of the file where the end is reached, and with the fault of the pass that fails
where one does; and it does end with the bytes if no memory is refused, no read fails and the
lengths on the way fit into 64 bits. -/
structure LoadSpec (heap : Heap) (path : String) (file : OpenFile) : Prop where
  load_eq : ∀ f : Filling, f.Reached heap file →
    load heap path file = fill heap path file f.growths f.reads f.rest f.buffer f.filled
  reached_valid : ∀ f : Filling, f.Reached heap file → f.Valid file.content
  offered_valid : ∀ f g : Filling, f.Reached heap file → f.Offered heap g →
    g.filled < g.buffer.size ∧ g.Valid file.content
  delivery_eq_nil_iff : ∀ (f g : Filling) (amount : Nat), f.Reached heap file →
    f.Offered heap g → (g.delivery amount = [] ↔ f.rest = [])
  outcome : LoadOutcome heap path file (load heap path file)
  outcome_iff : ∀ result, LoadOutcome heap path file result ↔ load heap path file = result
  complete : (∀ n length, heap n length = true) →
    (∀ n reason, file.attempt n ≠ .failed reason) → file.content.length * 2 < lengthLimit →
    load heap path file = .ok ⟨file.content.toArray⟩

theorem load_complete (hheap : ∀ n length, heap n length = true)
    (hattempt : ∀ n reason, file.attempt n ≠ .failed reason)
    (hlength : file.content.length * 2 < lengthLimit) (path : String) :
    load heap path file = .ok ⟨file.content.toArray⟩ := by
  have houtcome := load_outcome heap path file
  generalize load heap path file = result at houtcome
  cases houtcome with
  | unstarted h => cases h.symm.trans (hheap _ _)
  | @refused f h hfull hr =>
      have hle := h.valid.filled_le_length
      rcases hr with hlimit | hr
      · omega
      · cases hr.symm.trans (hheap _ _)
  | failed _ _ ha => exact absurd ha (hattempt _ _)
  | loaded => rfl

/-- Whatever a file holds and however it is cut into reads, loading it is exact. -/
theorem load_exact (heap : Heap) (path : String) (file : OpenFile) : LoadSpec heap path file where
  load_eq := fun _ h => h.load_eq path
  reached_valid := fun _ h => h.valid
  offered_valid := fun _ _ h ho => h.valid.offered ho
  delivery_eq_nil_iff := fun _ _ amount h ho => h.valid.delivery_eq_nil_iff ho amount
  outcome := load_outcome heap path file
  outcome_iff := fun _ => loadOutcome_iff
  complete := fun hheap hattempt hlength => load_complete hheap hattempt hlength path

theorem settles_by_turns (amount n : Nat) :
    ∃ k, (if (n + k) % 2 = 0 then Attempt.interrupted else .delivers amount) ≠ .interrupted := by
  have hodd : ¬ (n + (n + 1)) % 2 = 0 := by omega
  refine ⟨n + 1, ?_⟩
  rw [if_neg hodd]
  simp

/-- A file that fills the first buffer, for a system that grants memory once and interrupts every
second read: the growth that comes before the next read is refused. -/
theorem load_exact_of_refused_growth :
    let heap : Heap := fun n _ => n = 0
    let file : OpenFile :=
      ⟨List.replicate 256 7, fun n => if n % 2 = 0 then .interrupted else .delivers 1000,
        settles_by_turns 1000⟩
    load heap "a" file = .error (.allocation 512) ∧ LoadSpec heap "a" file := by
  intro heap file
  have hstart : Filling.Reached heap file ⟨0, 0, file.content, ⟨Array.replicate 256 0⟩, 0⟩ :=
    .start rfl
  have hzeros : size ⟨Array.replicate 256 0⟩ = 256 := Array.size_replicate
  have hcontent : file.content.length = 256 := List.length_replicate
  have hwait := hstart.interrupted (.kept (by decide +kernel)) rfl
  have hpass := hwait.pass (.kept (by decide +kernel))
    (show file.attempt 1 = .delivers 1000 from rfl) (by decide +kernel)
  obtain ⟨f, hf, hfull, hsize, hgrowths⟩ : ∃ f : Filling, f.Reached heap file ∧
      f.filled = f.buffer.size ∧ f.buffer.size = 256 ∧ f.growths = 0 := by
    refine ⟨_, hpass, ?_, ?_, rfl⟩
    · simp only [Filling.received, Filling.delivery, size_overwrite, hzeros, List.length_take,
        List.length_drop, List.length_nil, hcontent]
      decide
    · simp only [Filling.received, size_overwrite, hzeros]
  have hload : load heap "a" file = _ :=
    (LoadOutcome.refused hf hfull (.inr (by rw [hgrowths]; rfl))).load_eq
  rw [hsize] at hload
  exact ⟨hload, load_exact heap "a" file⟩

end FloatMachine.Image
