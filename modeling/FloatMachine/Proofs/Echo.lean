import FloatMachine.Proofs.Interchange
import FloatMachine.Proofs.Numerals
import FloatMachine.Proofs.Readings

/-! What a console writes, it can read. Every word is written as one token on a line of its own, so
the tokens of the text are those of the words in their order, and each is read back as its word. -/

namespace FloatMachine

namespace Text

theorem tokens_of_not_isBlank {cs : List Char} (hne : cs ≠ []) (h : ∀ c ∈ cs, isBlank c = false) :
    tokens cs = [cs] := by
  have hsplit : cs.splitOnP isBlank = [cs] := List.splitOnP_eq_singleton h
  rw [tokens, hsplit]
  simp [hne]

end Text

namespace Console

/-! ## Writing -/

/-- Writes words one after another, up to the first that cannot be written. -/
def writeAll : List Word → EStateM Fault Console Unit
  | [] => pure ()
  | w :: words => do
    write w
    writeAll words

theorem written_of_write {w : Word} {console console' : Console}
    (h : write w console = .ok () console') :
    console'.written = console.written ++ String.ofList (line w) := by
  simp only [write, bind_apply, get_apply] at h
  cases hroom : console.room with
  | none =>
      simp only [hroom, set_apply] at h
      cases h
      rfl
  | some room =>
      simp only [hroom, bind_apply, set_apply] at h
      by_cases hfits : room < (line w).length
      · rw [if_pos hfits] at h
        cases h
      · rw [if_neg hfits] at h
        cases h
        rw [List.take_of_length_le (Nat.le_of_not_lt hfits)]

theorem write_of_unlimited (w : Word) {console : Console} (h : console.room = none) :
    ∃ console', write w console = .ok () console' ∧ console'.room = none := by
  refine ⟨{ console with written := console.written ++ String.ofList (line w) }, ?_, h⟩
  simp only [write, bind_apply, get_apply, h, set_apply]

theorem written_of_writeAll {words : List Word} {console console' : Console}
    (h : writeAll words console = .ok () console') :
    console'.written = console.written ++ String.ofList (words.flatMap line) := by
  induction words generalizing console with
  | nil =>
      cases h
      simp
  | cons w words ih =>
      simp only [writeAll, bind_apply] at h
      cases hwrite : write w console with
      | ok _ next =>
          rw [hwrite] at h
          rw [ih h, written_of_write hwrite, List.flatMap_cons, String.ofList_append,
            String.append_assoc]
      | error fault next =>
          rw [hwrite] at h
          cases h

theorem writeAll_of_unlimited (words : List Word) {console : Console}
    (h : console.room = none) : ∃ console', writeAll words console = .ok () console' := by
  induction words generalizing console with
  | nil => exact ⟨console, rfl⟩
  | cons w words ih =>
      obtain ⟨next, hwrite, hroom⟩ := write_of_unlimited w h
      obtain ⟨console', hrest⟩ := ih hroom
      refine ⟨console', ?_⟩
      simp only [writeAll, bind_apply, hwrite, hrest]

/-! ## Reading back -/

theorem tokens_lines_of_words (words : List Word) :
    Text.tokens (words.flatMap line) = words.map NumberStyle.plain.chars := by
  induction words with
  | nil => simp [Text.tokens]
  | cons w words ih =>
      have htoken := Text.tokens_of_not_isBlank w.chars_ne_nil w.chars_not_isBlank
      have hsplit := Text.tokens_append_cons (NumberStyle.plain.chars w) (words.flatMap line)
        (show Text.isBlank '\n' = true by decide)
      rw [List.flatMap_cons, line, List.append_assoc, List.singleton_append, hsplit, htoken, ih,
        List.map_cons, List.singleton_append]

theorem tokenAnswer_chars (w : Word) :
    tokenAnswer (NumberStyle.plain.chars w) = .ok w.canonical := by
  rw [tokenAnswer, w.read?_chars]

theorem answers_of_words (words : List Word) :
    answers (String.ofList (words.flatMap line)).toUTF8.data.toList =
      words.map fun w => .ok w.canonical := by
  rw [← Text.encode_toList, String.toList_ofList, answers_encode, tokens_lines_of_words,
    List.map_map]
  exact List.map_congr_left fun w _ => tokenAnswer_chars w

/-- How words come back from the text that a console has written for them. -/
structure EchoSpec (words : List Word) : Prop where
  /-- Without a limit, all of them are written. -/
  writes : ∀ console : Console, console.room = none →
    ∃ console', writeAll words console = .ok () console'
  /-- Whenever all of them are written, the reads of a new console on the added text give them one
  after another, and then the end of the input. -/
  reads : ∀ console console' : Console, writeAll words console = .ok () console' →
    ∃ text, console'.written = console.written ++ text ∧
      ∀ (exchanges : List Exchange) (written : String) (room : Option Nat),
        readings exchanges { ofText text with written, room } =
          (List.range (exchanges.count .read)).map fun i =>
            (words.map fun w => .ok w.canonical).getD i (.error endOfInput)
  /-- A word comes back with its bits, a NaN as a NaN. -/
  words_eq : ∀ w ∈ words, if w.isNaN then w.canonical.isNaN = true else w.canonical = w

/-- Any words, written to a console with room for them, are read back from its text in their order,
with their bits unless they are NaNs, one for each read, and then the input is at its end. -/
theorem written_words_return (words : List Word) : EchoSpec words := by
  refine ⟨?_, ?_, ?_⟩
  · intro console hroom
    exact writeAll_of_unlimited words hroom
  · intro console console' hwrite
    refine ⟨_, written_of_writeAll hwrite, ?_⟩
    intro exchanges written room
    rw [readings_eq]
    simp only [remaining, ofText, List.map_nil, List.nil_append, answers_of_words]
  · intro w _
    unfold Word.canonical
    split
    · decide
    · rfl

end Console

end FloatMachine
