import FloatMachine.Proofs.Bounds
import FloatMachine.Proofs.Guarded

/-! The guarded machine does what the machine does. Inside the bounds that every history keeps,
no guard fails, so that a machine which knows nothing of its bounds never crashes. -/

namespace FloatMachine.Guarded

/-! ## Guards that hold -/

theorem plus_eq {a b : Nat} (h : a + b < limit) : plus a b = .ok (a + b) := by
  simp only [plus, h, ite_true]

theorem minus_eq {a b : Nat} (h : b ≤ a) : minus a b = .ok (a - b) := by
  simp only [minus, h, ite_true]

theorem load_eq {n : Nat} (words : Vector Word n) (index : Fin n) :
    load words.toArray index = .ok words[index] := by
  simp [load]

theorem store_eq {n : Nat} (words : Vector Word n) (index : Fin n) (w : Word) :
    store words.toArray index w = .ok (words.set index w).toArray := by
  simp [store, Array.setIfInBounds]

/-- The byte that names a register. -/
def registerByte (index : Register) : UInt8 := UInt8.ofNat index.val

theorem toNat_registerByte (index : Register) : (registerByte index).toNat = index.val := by
  have hlt := index.isLt
  simp only [registerByte, UInt8.toNat_ofNat']
  exact Nat.mod_eq_of_lt (Nat.lt_trans hlt (by decide))

theorem checkRegister_eq (index : Register) :
    checkRegister (registerByte index) = .ok (registerByte index) := by
  simp only [checkRegister, toNat_registerByte, index.isLt, ite_true]

theorem getRegister_eq (registers : Vector Word registerCount) (index : Register) :
    getRegister registers.toArray (registerByte index) = .ok (registers.get index) := by
  simp only [getRegister, checkRegister_eq, bind, Except.bind, toNat_registerByte, load_eq]
  rfl

theorem setRegister_eq (registers : Vector Word registerCount) (index : Register) (w : Word) :
    setRegister registers.toArray (registerByte index) w =
      .ok (registers.set index w index.isLt).toArray := by
  simp only [setRegister, checkRegister_eq, bind, Except.bind, toNat_registerByte, store_eq]

theorem loadSum_eq (index : Register) (w : Word) (m : Machine) :
    loadSum (registerByte index) w m.registers.toArray =
      .ok (m.loadSum index w).registers.toArray := by
  have hz : (0 : UInt8) = registerByte scratch := rfl
  simp only [loadSum, hz, setRegister_eq, getRegister_eq, bind, Except.bind]
  rfl

theorem byte?_eq_byteAt {image : Image} {offset : Nat} (h : offset < image.size) :
    image.byte? offset = some (image.byteAt offset) := by
  have h : offset < image.bytes.size := h
  simp [Image.byte?, Image.byteAt, h]

theorem literalAt_eq {image : Image} {offset : Nat}
    (h : offset + Image.wordSize ≤ image.size) :
    literalAt image offset = .ok (image.wordAt offset) := by
  simp only [literalAt, Image.word?, h, ite_true]

theorem registerIndexAt_eq {image : Image} {offset : Nat} (h : offset < image.size) :
    registerIndexAt image offset =
      match Register.ofByte (image.byteAt offset) with
      | .ok index => .ok (registerByte index)
      | .error fault => fail fault := by
  simp only [registerIndexAt, byte?_eq_byteAt h, checkRegister, Register.ofByte]
  by_cases hlt : (image.byteAt offset).toNat < registerCount
  · simp [hlt, registerByte]
  · simp [hlt]

theorem modeAt_eq {image : Image} {offset : Nat} {opcode : UInt8}
    (h : image.byte? offset = some opcode) :
    modeAt image offset =
      match Mode.decode opcode offset with
      | .ok mode => .ok (opcode, mode)
      | .error fault => fail fault := by
  simp only [modeAt, h, Mode.decode]
  cases Mode.ofOpcode? opcode <;> rfl

theorem ensureAvailable_eq {image : Image} {offset count : Nat} (h : offset + 1 < limit) :
    ensureAvailable image offset count =
      match Operand.ensureAvailable image offset count with
      | .ok _ => .ok ()
      | .error fault => fail fault := by
  simp only [ensureAvailable, plus_eq h, bind, Except.bind, Operand.ensureAvailable]
  by_cases hc : count ≤ image.size - (offset + 1)
  · simp only [hc, ite_true, Nat.not_lt.mpr hc, ite_false]
    rfl
  · simp only [hc, ite_false, Nat.lt_of_not_le hc, ite_true]

theorem address_eq (w : Word) :
    address w =
      match Address.ofWord w with
      | .ok cell => .ok cell.val
      | .error fault => fail fault := by
  unfold address Address.ofWord
  cases w.index? with
  | none => rfl
  | some n =>
      by_cases hn : n < memorySize
      · have hs : saturate n = n := Nat.min_eq_left (Nat.le_trans (Nat.le_of_lt hn) (by decide))
        simp [hn, hs]
      · simp [hn]

/-- Cutting a word to 64 bits does not bring it into an image of less than so many bytes. -/
theorem target_eq {image : Image} (hsize : image.size < limit) (w : Word) :
    target image w =
      match Action.target image w with
      | .ok offset => .ok offset
      | .error fault => fail fault := by
  unfold target Action.target
  cases w.index? with
  | none => rfl
  | some n =>
      by_cases hn : n < image.size
      · have hs : saturate n = n := Nat.min_eq_left (by omega)
        simp [hn, hs]
      · have hs : ¬ saturate n < image.size := by
          simp only [saturate]
          omega
        simp [hn, hs]

/-! ## Actions -/

def State.ofMachine (m : Machine) : State :=
  ⟨m.registers.toArray, m.memory.toArray, m.stack, m.ip, m.frames⟩

def Location.ofLocation : FloatMachine.Location → Location
  | .register index => .register (registerByte index)
  | .memory address => .memory address.val
  | .literal offset _ => .literal offset

@[simp] theorem ofMachine_ip (m : Machine) : (State.ofMachine m).ip = m.ip := rfl

@[simp] theorem ofMachine_stack (m : Machine) : (State.ofMachine m).stack = m.stack := rfl

@[simp] theorem ofMachine_frames (m : Machine) : (State.ofMachine m).frames = m.frames := rfl

/-- A result as the guarded machine shows it, state and value. -/
def embed {σ τ α β : Type} (g : σ → τ) (f : α → β) :
    EStateM.Result Fault σ α → EStateM.Result Stop τ β
  | .ok a s => .ok (f a) (g s)
  | .error fault s => .error (.fault fault) (g s)

@[simp] theorem lift_ok {α : Type} (a : α) (s : State) : lift (.ok a) s = .ok a s := rfl

/-- A literal location holds the word that stands in the image. -/
def Readable (image : Image) : FloatMachine.Location → Prop
  | .literal offset value => image.word? offset = some value
  | .register _ | .memory _ => True

theorem read_eq {image : Image} {m : Machine} {location : FloatMachine.Location}
    (h : Readable image location) :
    read image (.ofMachine m) (.ofLocation location) = .ok (m.read location) := by
  cases location with
  | register index => exact getRegister_eq m.registers index
  | memory cell => exact load_eq m.memory cell
  | literal offset value =>
      have h : image.word? offset = some value := h
      simp only [read, Location.ofLocation, literalAt, h]
      rfl

theorem locateBase_eq {image : Image} {m : Machine} {mode : Mode}
    (h : m.ip + mode.size < image.size) (hsize : image.size < limit) :
    locateBase image m.ip mode (.ofMachine m) =
      match Operand.baseAt image m.ip mode with
      | .ok base => .ok (.ofLocation (Machine.baseLocation base))
          { State.ofMachine (m.loadBase base) with ip := m.ip }
      | .error fault => .error (.fault fault) (.ofMachine m) := by
  cases mode with
  | register =>
      simp only [Mode.size] at h
      simp only [locateBase, Operand.baseAt, bind_apply, plus_eq (show m.ip + 1 < limit by omega),
        lift_ok, registerIndexAt_eq h]
      cases Register.ofByte (image.byteAt (m.ip + 1)) <;> rfl
  | literal =>
      simp only [Mode.size] at h
      simp only [locateBase, bind_apply, plus_eq (show m.ip + 1 < limit by omega), lift_ok]
      rfl
  | sum =>
      simp only [Mode.size] at h
      simp only [locateBase, Operand.baseAt, bind_apply, plus_eq (show m.ip + 1 < limit by omega),
        lift_ok, registerIndexAt_eq (show m.ip + 1 < image.size by omega)]
      cases Register.ofByte (image.byteAt (m.ip + 1)) with
      | error fault => rfl
      | ok index =>
          simp only [lift_ok, plus_eq (show m.ip + 2 < limit by omega), get_apply,
            literalAt_eq (show m.ip + 2 + Image.wordSize ≤ image.size by
              simp only [Image.wordSize]
              omega)]
          have hl := loadSum_eq index (image.wordAt (m.ip + 2)) m
          simp only [State.ofMachine, hl, lift_ok, modify_apply]
          rfl

theorem readable_baseLocation {image : Image} {opcode : UInt8} {offset : Nat}
    {operand : Operand} (h : Operand.decode image opcode offset = .ok operand) :
    Readable image (Machine.baseLocation operand.base) := by
  obtain ⟨_, hlt, hb, _⟩ := decode_eq_ok.mp h
  cases hbase : operand.base with
  | register | sum => trivial
  | literal start value =>
      rw [hbase] at hlt hb
      simp only [Base.mode, Mode.size] at hlt
      obtain ⟨rfl, rfl⟩ := Base.literal.inj (Except.ok.inj hb)
      have hw : offset + 1 + Image.wordSize ≤ image.size := by
        simp only [Image.wordSize]
        omega
      simp only [Machine.baseLocation, Readable, Image.word?, hw, ite_true]

theorem readable_of_resolve {image : Image} {opcode : UInt8} {m m' : Machine}
    {location : FloatMachine.Location}
    (h : ResolveDerivation image opcode m (.ok location m')) : Readable image location := by
  cases h with
  | direct h => exact readable_baseLocation h
  | indirect => trivial

variable {image : Image} {opcode : UInt8} {m : Machine}

theorem followBase_eq {operand : Operand}
    (h : Readable image (Machine.baseLocation operand.base)) :
    followBase image operand.indirect (.ofLocation (Machine.baseLocation operand.base))
        (.ofMachine (m.loadBase operand.base)) =
      embed .ofMachine .ofLocation (Action.locate operand m) := by
  simp only [followBase, Action.locate, bind_apply, modify_apply]
  cases operand.indirect with
  | false => rfl
  | true =>
      simp only [ite_true, bind_apply, get_apply, read_eq h, lift_ok, address_eq]
      cases Address.ofWord ((m.loadBase operand.base).read
        (Machine.baseLocation operand.base)) <;> rfl

theorem resolve_eq (hb : image.byte? m.ip = some opcode) (hip : m.ip < image.size)
    (hsize : image.size < limit) :
    resolve image (.ofMachine m) =
      embed .ofMachine .ofLocation (Action.resolve image opcode m) := by
  simp only [resolve, Action.resolve, bind_apply, get_apply, ofMachine_ip, modeAt_eq hb]
  cases hm : Mode.decode opcode m.ip with
  | error fault =>
      simp only [Operand.decode, hm]
      rfl
  | ok mode =>
      simp only [lift_ok, ensureAvailable_eq (show m.ip + 1 < limit by omega)]
      cases ha : Operand.ensureAvailable image m.ip mode.size with
      | error fault =>
          simp only [Operand.decode, hm, ha, bind, Except.bind]
          rfl
      | ok _ =>
          have hlt := (ensureAvailable_eq_ok (mode_size_pos mode)).mp ha
          simp only [lift_ok, locateBase_eq hlt hsize]
          cases hbase : Operand.baseAt image m.ip mode with
          | error fault =>
              simp only [Operand.decode, hm, ha, hbase, bind, Except.bind]
              rfl
          | ok base =>
              have hd : Operand.decode image opcode m.ip =
                  .ok ⟨base, Opcode.isIndirect opcode⟩ := by
                simp only [Operand.decode, hm, ha, hbase, bind, Except.bind]
                rfl
              obtain rfl := baseAt_mode hbase
              have hf := followBase_eq (m := m) (readable_baseLocation hd)
              simp only [hd, Action.lift_ok, plus_eq (show m.ip + base.mode.size < limit by omega),
                lift_ok, modify_apply, ← hf]
              rfl

theorem skip_eq (hb : image.byte? m.ip = some opcode) (hip : m.ip < image.size)
    (hsize : image.size < limit) :
    skip image (.ofMachine m) = embed .ofMachine id (Action.skip image opcode m) := by
  simp only [skip, Action.skip_apply, Operand.sizeAt, bind_apply, get_apply, ofMachine_ip,
    modeAt_eq hb]
  cases hm : Mode.decode opcode m.ip with
  | error fault => rfl
  | ok mode =>
      simp only [lift_ok, ensureAvailable_eq (show m.ip + 1 < limit by omega), bind, Except.bind]
      cases ha : Operand.ensureAvailable image m.ip mode.size with
      | error fault => rfl
      | ok _ =>
          have hlt := (ensureAvailable_eq_ok (mode_size_pos mode)).mp ha
          simp only [lift_ok, plus_eq (show m.ip + mode.size < limit by omega)]
          rfl

theorem jump_eq (hb : image.byte? m.ip = some opcode) (hip : m.ip < image.size)
    (hsize : image.size + Image.headerSize < limit) :
    jump image (.ofMachine m) = embed .ofMachine id (Action.jump image opcode m) := by
  have hs : image.size < limit := Nat.lt_of_le_of_lt (Nat.le_add_right _ _) hsize
  have hd := resolve_derivation image opcode m
  simp only [jump, Action.jump, bind_apply, get_apply, resolve_eq hb hip hs]
  cases hr : Action.resolve image opcode m with
  | error fault m₁ => rfl
  | ok location m₁ =>
      rw [hr] at hd
      simp only [embed, read_eq (readable_of_resolve hd), lift_ok, target_eq hs]
      cases ht : Action.target image (m₁.read location) with
      | error fault => rfl
      | ok offset =>
          obtain ⟨_, hlt⟩ := target_eq_ok.mp ht
          have hle : 1 ≤ Image.headerSize + offset := Nat.le_add_right_of_le (by decide)
          simp only [lift_ok, plus_eq (show Image.headerSize + offset < limit by omega),
            minus_eq hle]
          rfl

theorem push_eq (w : Word) (m : Machine) :
    push w (.ofMachine m) = embed .ofMachine id (Action.push w m) := by
  simp only [push, Action.push_apply, bind_apply, get_apply]
  by_cases h : m.stack.length < stackCapacity
  · rw [if_pos h, if_pos (show (State.ofMachine m).stack.length < stackCapacity from h)]
    rfl
  · rw [if_neg h, if_neg (show ¬ (State.ofMachine m).stack.length < stackCapacity from h)]
    rfl

theorem pop_eq (m : Machine) : pop (.ofMachine m) = embed .ofMachine id (Action.pop m) := by
  simp only [pop, Action.pop_apply, bind_apply, get_apply, ofMachine_stack]
  cases m.stack <;> rfl

theorem peek_eq (m : Machine) : peek (.ofMachine m) = embed .ofMachine id (Action.peek m) := by
  simp only [peek, Action.peek_apply, bind_apply, get_apply, ofMachine_stack]
  cases m.stack <;> rfl

theorem pushFrame_eq (returnPoint : Nat) (m : Machine) :
    pushFrame returnPoint (.ofMachine m) =
      embed .ofMachine id (Action.pushFrame returnPoint m) := by
  simp only [pushFrame, Action.pushFrame_apply, bind_apply, get_apply]
  by_cases h : m.frames.length < callCapacity
  · rw [if_pos h, if_pos (show (State.ofMachine m).frames.length < callCapacity from h)]
    rfl
  · rw [if_neg h, if_neg (show ¬ (State.ofMachine m).frames.length < callCapacity from h)]
    rfl

theorem popFrame_eq (m : Machine) :
    popFrame (.ofMachine m) = embed .ofMachine id (Action.popFrame m) := by
  simp only [popFrame, Action.popFrame_apply, bind_apply, get_apply, ofMachine_frames]
  cases m.frames <;> rfl

theorem write_eq (location : FloatMachine.Location) (w : Word) (m : Machine) :
    write (.ofLocation location) w (.ofMachine m) =
      embed .ofMachine id (Action.write location w m) := by
  cases location with
  | register index =>
      have hs := setRegister_eq m.registers index w
      simp only [write, Location.ofLocation, bind_apply, get_apply, State.ofMachine, hs, lift_ok]
      rfl
  | memory cell =>
      have hs := store_eq m.memory cell w
      simp only [write, Location.ofLocation, bind_apply, get_apply, State.ofMachine, hs, lift_ok]
      rfl
  | literal offset value => rfl

/-! ## Commands -/

theorem pop_ip {m m' : Machine} {w : Word} (h : Action.pop m = .ok w m') : m'.ip = m.ip := by
  rw [Action.pop_apply] at h
  split at h <;> cases h
  rfl

theorem pushFrame_ip {m m' : Machine} {returnPoint : Nat} {u : Unit}
    (h : Action.pushFrame returnPoint m = .ok u m') : m'.ip = m.ip := by
  rw [Action.pushFrame_apply] at h
  split at h <;> cases h
  rfl

theorem embed_bind {σ τ α β γ : Type} {g : σ → τ} {f : α → β} {x : EStateM Fault σ α}
    {k : α → EStateM Fault σ γ} {x' : EStateM Stop τ β} {k' : β → EStateM Stop τ γ} {s : σ}
    (hx : x' (g s) = embed g f (x s))
    (hk : ∀ a s', x s = .ok a s' → k' (f a) (g s') = embed g id (k a s')) :
    (x' >>= k') (g s) = embed g id ((x >>= k) s) := by
  simp only [bind_apply, hx]
  cases hr : x s with
  | error fault s' => rfl
  | ok a s' => exact hk a s' hr

/-- Inside the image, the guarded machine carries out a command as the machine does. -/
theorem execute_eq (command : Command) (hb : image.byte? m.ip = some opcode)
    (hip : m.ip < image.size) (hsize : image.size + Image.headerSize + 9 < limit) :
    execute image command (.ofMachine m) =
      embed .ofMachine id (command.execute image opcode m) := by
  have hs : image.size < limit := by omega
  have hd := resolve_derivation image opcode m
  cases command with
  | push =>
      apply embed_bind (resolve_eq hb hip hs)
      intro location m₁ hr
      rw [hr] at hd
      simp only [bind_apply, get_apply, read_eq (readable_of_resolve hd), lift_ok, push_eq]
  | pop =>
      apply embed_bind (resolve_eq hb hip hs)
      intro location m₁ _
      apply embed_bind (pop_eq m₁)
      intro w m₂ _
      exact write_eq location w m₂
  | dup =>
      apply embed_bind (peek_eq m)
      intro w m₁ _
      exact push_eq w m₁
  | binary operation =>
      apply embed_bind (pop_eq m)
      intro b m₁ _
      apply embed_bind (pop_eq m₁)
      intro a m₂ _
      exact push_eq (operation.apply a b) m₂
  | unary operation =>
      apply embed_bind (pop_eq m)
      intro a m₁ _
      exact push_eq (operation.apply a) m₁
  | jump => exact jump_eq hb hip (by omega)
  | jumpIf condition =>
      apply embed_bind (pop_eq m)
      intro b m₁ h₁
      apply embed_bind (pop_eq m₁)
      intro a m₂ h₂
      have hip₂ : m₂.ip = m.ip := (pop_ip h₂).trans (pop_ip h₁)
      rw [← hip₂] at hb hip
      simp only [id_eq, Action.jumpWhen]
      by_cases hc : condition.holds (a.compare b) = true
      · rw [if_pos hc, if_pos hc]
        exact jump_eq hb hip (by omega)
      · rw [if_neg hc, if_neg hc]
        exact skip_eq hb hip hs
  | call =>
      simp only [execute, Command.execute, bind_apply, get_apply, ofMachine_ip, modeAt_eq hb]
      cases hm : Mode.decode opcode m.ip with
      | error fault => rfl
      | ok mode =>
          have hle := mode_size_le mode
          simp only [lift_ok, Action.lift_ok, plus_eq (show m.ip + mode.size < limit by omega)]
          apply embed_bind (pushFrame_eq (m.ip + mode.size) m)
          intro _ m₁ h₁
          have hip₁ : m₁.ip = m.ip := pushFrame_ip h₁
          rw [← hip₁] at hb hip
          exact jump_eq hb hip (by omega)
  | ret => exact popFrame_eq m

end FloatMachine.Guarded
