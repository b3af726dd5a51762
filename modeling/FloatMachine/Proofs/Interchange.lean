import FloatMachine.Proofs.Exhaustion
import FloatMachine.Proofs.Lines

/-! Consoles and tapes are interchangeable. A console over a text of numbers and a tape that holds
these numbers take a machine through the same states, and what the console has written is what the
tape has recorded, one number a line. -/

namespace FloatMachine

/-! ## Hosts -/

namespace Console

/-- A console in front of a text. -/
def ofText (text : String) : Console := { unread := text.toUTF8.data.toList }

theorem readToken_encode {console : Console} {rest : List Char}
    (h : console.unread = Text.encode rest) :
    (console.pending ++ Text.tokens rest = [] ∧
        readToken console = .error endOfInput { console with unread := [] }) ∨
      ∃ token pending rest',
        console.pending ++ Text.tokens rest = token :: (pending ++ Text.tokens rest') ∧
        readToken console = .ok token { console with unread := Text.encode rest', pending } := by
  simp only [readToken, bind_apply, get_apply]
  cases hp : console.pending with
  | cons token pending => exact .inr ⟨token, pending, rest, rfl, by rw [← h]; rfl⟩
  | nil =>
      rcases nextLine_encode rest with ⟨ht, hl⟩ | ⟨token, pending, rest', ht, hl⟩
      · exact .inl ⟨ht, by rw [h, hl]; rfl⟩
      · exact .inr ⟨token, pending, rest', ht, by rw [h, hl]; rfl⟩

/-- The tokens that the console has still to deliver are the words on the tape, and it has written
what the tape has recorded. -/
structure Plays (console : Console) (tape : Tape) : Prop where
  room_eq : console.room = none
  written_eq : console.written =
    String.join (tape.output.toList.map fun w => NumberStyle.plain.text w ++ "\n")
  tokens_eq : ∃ rest, console.unread = Text.encode rest ∧
    (console.pending ++ Text.tokens rest).map Word.read? = tape.input.map some

theorem ofText_plays {text : String} {words : List Word}
    (h : (Text.tokens text.toList).map Word.read? = words.map some) :
    (ofText text).Plays { input := words } :=
  ⟨rfl, rfl, text.toList, (Text.encode_toList text).symm, h⟩

/-- Faults are the same, the end of the input apart, which the two hosts word differently. -/
def SameFault (fault fault' : Fault) : Prop :=
  fault = fault' ∨ (fault = endOfInput ∧ fault' = Tape.exhausted)

theorem Plays.read {console : Console} {tape : Tape} (h : console.Plays tape) :
    Agree SameFault Plays (fun _ => Plays) (Console.read console) (Tape.read tape) := by
  obtain ⟨hroom, hwritten, rest, hunread, htokens⟩ := h
  rw [Tape.read_apply, Console.read, bind_apply]
  rcases readToken_encode hunread with ⟨hnil, hr⟩ | ⟨token, pending, rest', hcons, hr⟩
  · rw [hnil] at htokens
    have hinput : tape.input = [] := by simpa using htokens.symm
    have hpending : console.pending = [] := (List.append_eq_nil_iff.mp hnil).1
    rw [hr, hinput]
    refine .error (.inr ⟨rfl, rfl⟩) ⟨hroom, hwritten, [], rfl, ?_⟩
    simp [hpending, hinput, Text.tokens]
  · rw [hcons, List.map_cons] at htokens
    cases hinput : tape.input with
    | nil => simp [hinput] at htokens
    | cons w input =>
        rw [hinput, List.map_cons] at htokens
        obtain ⟨hw, hrest⟩ := List.cons.inj htokens
        rw [hr]
        dsimp only
        rw [hw]
        exact .ok ⟨hroom, hwritten, rest', rfl, hrest⟩

theorem Plays.write {console : Console} {tape : Tape} (h : console.Plays tape) (w : Word) :
    Agree SameFault Plays (fun _ => Plays) (Console.write w console) (Tape.write w tape) := by
  obtain ⟨hroom, hwritten, htokens⟩ := h
  have hline : String.ofList (line w) = NumberStyle.plain.text w ++ "\n" := String.ofList_append
  simp only [Console.write, bind_apply, get_apply, hroom]
  refine .ok ⟨rfl, ?_, htokens⟩
  simp [hwritten, hline]

end Console

/-! ## Sessions -/

namespace Session

theorem step_agree_plays {c : Session Console} {t : Session Tape}
    (h : Related Eq Console.Plays c t) :
    Agree Console.SameFault (Related Eq Console.Plays) (fun _ => Related Eq Console.Plays)
      (step c) (step t) := by
  have hrefl : ∀ fault, Console.SameFault fault fault := fun _ => .inl rfl
  refine step_agree (Machine.stable_eq hrefl) hrefl h ?_ ?_ ?_
  · intro _ _
    exact h.host.read
  · intro w console tape hplays
    exact hplays.write w
  · intro opcode command _
    rw [h.machine]
    exact .refl hrefl _

/-- The machines are equal, the console has written the plain text of every word on the tape and a
line break behind it, and the next step gives the same answer, up to the wording of the end of the
input. -/
structure MatchesTape (c : Session Console) (t : Session Tape) : Prop where
  image_eq : c.image = t.image
  machine_eq : c.machine = t.machine
  written_eq : c.host.written =
    String.join (t.host.output.toList.map fun w => NumberStyle.plain.text w ++ "\n")
  answer_cases : answer (step c) = answer (step t) ∨
    (answer (step c) = .error Console.endOfInput ∧ answer (step t) = .error Tape.exhausted)

theorem Related.matchesTape {c : Session Console} {t : Session Tape}
    (h : Related Eq Console.Plays c t) : c.MatchesTape t := by
  refine ⟨h.image_eq, h.machine, h.host.written_eq, ?_⟩
  have hstep := step_agree_plays h
  generalize step c = r at hstep
  generalize step t = r' at hstep
  cases hstep with
  | ok _ => exact .inl rfl
  | error hf _ =>
      rcases hf with rfl | ⟨rfl, rfl⟩
      · exact .inl rfl
      · exact .inr ⟨rfl, rfl⟩

/-- A machine in front of a console whose text is all numbers matches the same machine in front of
a tape of these numbers, after any number of steps, whatever they ended in. -/
theorem console_matches_tape (image : Image) (machine : Machine) {text : String}
    {words : List Word} (hwords : (Text.tokens text.toList).map Word.read? = words.map some)
    (n : Nat) :
    (after n ⟨image, machine, Console.ofText text⟩).MatchesTape
      (after n ⟨image, machine, { input := words }⟩) := by
  have hstart : Related Eq Console.Plays ⟨image, machine, Console.ofText text⟩
      ⟨image, machine, { input := words }⟩ := ⟨rfl, rfl, Console.ofText_plays hwords⟩
  have h := after_related (R := Related Eq Console.Plays) (P := fun _ => True)
    (fun c t h _ => (step_agree_plays h).reached_related) hstart (fun _ _ => trivial)
    n (Nat.le_refl n)
  exact h.matchesTape

/-- Two numbers with an empty line between them, for an image that copies three. -/
theorem console_matches_tape_of_short_text :
    let image : Image := ⟨#[0x48, 0x59, 0x56, 0x4d, 3, 0x0a, 0x0b, 0x0a, 0x0b, 0x0a, 0x0b, 0x00]⟩
    let text : String := String.ofList ['1', '\n', ' ', '\n', '2', '.', '5']
    let words : List Word := [⟨0x3ff0000000000000⟩, ⟨0x4004000000000000⟩]
    (Text.tokens text.toList).map Word.read? = words.map some ∧
      (after 5 ⟨image, {}, ({ input := words } : Tape)⟩).host = { output := words.toArray } ∧
      (after 5 ⟨image, {}, Console.ofText text⟩).host.written = "1\n2.5\n" ∧
      (after 5 ⟨image, {}, Console.ofText text⟩).MatchesTape
        (after 5 ⟨image, {}, { input := words }⟩) := by
  intro image text words
  have hwords : (Text.tokens text.toList).map Word.read? = words.map some := by
    rw [String.toList_ofList]
    decide +kernel
  exact ⟨hwords, by decide +kernel, by decide +kernel, console_matches_tape image {} hwords 5⟩

end Session

end FloatMachine
