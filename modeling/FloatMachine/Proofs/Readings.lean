import FloatMachine.Proofs.Lines
import FloatMachine.Proofs.Lockstep
import Mathlib.Data.List.Forall2

/-! What a console reads. Its input is cut into lines, and every line stands for a number of
answers: one for each token if it is text, and a single fault if it is not. Reading gives these
answers one after another, and the end of the input from then on, whatever is written in between. -/

namespace FloatMachine

namespace Text

theorem eq_append_newline {cs : List Char} {bytes : List UInt8}
    (h : encode cs = bytes ++ [Console.newline]) :
    ∃ front, cs = front ++ ['\n'] ∧ encode front = bytes := by
  rcases List.eq_nil_or_concat cs with rfl | ⟨front, c, rfl⟩
  · simp at h
  · rw [List.concat_eq_append] at h ⊢
    have hencode : encode (front ++ [c]) = encode front ++ String.utf8EncodeChar c := by
      simp [encode]
    rw [hencode] at h
    have hlast : (String.utf8EncodeChar c).getLast? = some Console.newline := by
      have hlast := congrArg List.getLast? h
      rwa [List.getLast?_append_of_ne_nil _ String.utf8EncodeChar_ne_nil,
        List.getLast?_concat] at hlast
    obtain rfl : c = '\n' := by
      by_contra hc
      exact ne_newline_of_mem hc (List.mem_of_getLast? hlast) rfl
    exact ⟨front, rfl, List.append_cancel_right h⟩

/-- Both texts have a character at each place, the same one or a blank each. -/
def SameUpToBlanks : List Char → List Char → Prop :=
  List.Forall₂ fun c d => c = d ∨ (isBlank c = true ∧ isBlank d = true)

theorem tokens_eq_of_blanks {cs ds : List Char} (h : SameUpToBlanks cs ds) :
    tokens cs = tokens ds := by
  have hsplit : cs.splitOnP isBlank = ds.splitOnP isBlank := by
    induction h with
    | nil => rfl
    | cons hc _ ih =>
        rw [List.splitOnP_cons_eq_if_modifyHead, List.splitOnP_cons_eq_if_modifyHead, ih]
        rcases hc with rfl | ⟨hc, hd⟩
        · rfl
        · rw [if_pos hc, if_pos hd]
  rw [tokens, tokens, hsplit]

end Text

namespace Console

/-! ## Lines and their answers -/

/-- The input cut behind every newline. -/
def lines : List UInt8 → List (List UInt8)
  | [] => []
  | byte :: bytes =>
    if byte = newline then [byte] :: lines bytes
    else
      match lines bytes with
      | [] => [[byte]]
      | line :: rest => (byte :: line) :: rest

/-- The answer that a token stands for. -/
def tokenAnswer (token : List Char) : Except Fault Word :=
  match Word.read? token with
  | some w => .ok w
  | none => .error (.invalidInput (String.ofList token))

/-- The answers that a line stands for. -/
def lineAnswers (line : List UInt8) : List (Except Fault Word) :=
  match decodeLine line with
  | some cs => (Text.tokens cs).map tokenAnswer
  | none => [.error malformedLine]

/-- The answers that an input stands for. -/
def answers (bytes : List UInt8) : List (Except Fault Word) := (lines bytes).flatMap lineAnswers

theorem decodeLine_eq_some {bytes : List UInt8} {cs : List Char} :
    decodeLine bytes = some cs ↔ Text.encode cs = bytes := by
  constructor
  · intro h
    obtain ⟨text, htext, rfl⟩ := Option.map_eq_some_iff.mp h
    rw [Text.encode_toList]
    simp only [String.fromUTF8?] at htext
    split at htext <;> cases htext
    rfl
  · rintro rfl
    exact decodeLine_encode cs

theorem lineAnswers_newline (line : List UInt8) :
    lineAnswers (line ++ [newline]) = lineAnswers line := by
  have hencode : Text.encode ['\n'] = [newline] := rfl
  cases hline : decodeLine line with
  | some cs =>
      have hfull : decodeLine (line ++ [newline]) = some (cs ++ ['\n']) := by
        rw [decodeLine_eq_some] at hline ⊢
        rw [← hline, ← hencode]
        simp [Text.encode]
      have htokens := Text.tokens_append_cons cs [] (show Text.isBlank '\n' = true by decide)
      rw [lineAnswers, lineAnswers, hline, hfull]
      simp only [htokens]
      simp [Text.tokens]
  | none =>
      have hfull : decodeLine (line ++ [newline]) = none := by
        by_contra hsome
        obtain ⟨cs, hcs⟩ := Option.ne_none_iff_exists'.mp hsome
        obtain ⟨front, _, hfront⟩ := Text.eq_append_newline (decodeLine_eq_some.mp hcs)
        cases hline.symm.trans (decodeLine_eq_some.mpr hfront)
      rw [lineAnswers, lineAnswers, hline, hfull]

theorem lines_of_ne_nil {bytes : List UInt8} (h : bytes ≠ []) :
    ∃ ending, (ending = [] ∨ ending = [newline]) ∧
      lines bytes = (firstLine bytes ++ ending) :: lines (afterLine bytes) := by
  induction bytes with
  | nil => exact absurd rfl h
  | cons byte bytes ih =>
      by_cases hbyte : byte = newline
      · refine ⟨[newline], .inr rfl, ?_⟩
        simp [lines, hbyte, firstLine, afterLine]
      · have hfirst : firstLine (byte :: bytes) = byte :: firstLine bytes := by
          simp [firstLine, hbyte]
        have hafter : afterLine (byte :: bytes) = afterLine bytes := by
          simp [afterLine, hbyte]
        rw [hfirst, hafter, lines, if_neg hbyte]
        cases bytes with
        | nil => exact ⟨[], .inl rfl, rfl⟩
        | cons next bytes =>
            obtain ⟨ending, hending, hlines⟩ := ih (by simp)
            rw [hlines]
            exact ⟨ending, hending, rfl⟩

theorem answers_of_ne_nil {bytes : List UInt8} (h : bytes ≠ []) :
    answers bytes = lineAnswers (firstLine bytes) ++ answers (afterLine bytes) := by
  obtain ⟨ending, hending, hlines⟩ := lines_of_ne_nil h
  rw [answers, hlines, List.flatMap_cons, ← answers]
  rcases hending with rfl | rfl
  · rw [List.append_nil]
  · rw [lineAnswers_newline]

/-- The lines of a text are those of its bytes, so that its answers are those of its tokens. -/
theorem answers_encode (cs : List Char) :
    answers (Text.encode cs) = (Text.tokens cs).map tokenAnswer := by
  induction hn : cs.length using Nat.strongRecOn generalizing cs with
  | ind n ih =>
      cases cs with
      | nil => rfl
      | cons c cs =>
          have hne : Text.encode (c :: cs) ≠ [] := by
            simp [String.utf8EncodeChar_ne_nil]
          have hle := Text.length_afterLine_le (c :: cs)
          have hrest := ih _ (by simp only [List.length_cons] at hle hn; omega)
            (Text.afterLine (c :: cs)) rfl
          rw [answers_of_ne_nil hne, firstLine_encode, afterLine_encode, hrest, lineAnswers,
            decodeLine_encode, Text.tokens_lines (c :: cs), List.map_append]

/-! ## Reading -/

/-- The answers that a console has still to give. -/
def remaining (console : Console) : List (Except Fault Word) :=
  console.pending.map tokenAnswer ++ answers console.unread

/-- The next line that has a token, as far as it is looked for: the answers passed on the way are
none, or the fault of one line. -/
theorem answers_nextLine (unread : List UInt8) :
    (nextLine unread = (.error endOfInput, []) ∧ answers unread = []) ∨
      (∃ rest, nextLine unread = (.error malformedLine, rest) ∧
        answers unread = .error malformedLine :: answers rest) ∨
      ∃ token pending rest, nextLine unread = (.ok (token, pending), rest) ∧
        answers unread = (token :: pending).map tokenAnswer ++ answers rest := by
  fun_induction nextLine unread with
  | case1 => exact .inl ⟨rfl, rfl⟩
  | case2 byte bytes rest hline =>
      refine .inr (.inl ⟨_, rfl, ?_⟩)
      rw [answers_of_ne_nil (by simp), lineAnswers, hline]
      rfl
  | case3 byte bytes rest line hline htokens ih =>
      have hanswers : answers (byte :: bytes) = answers rest := by
        rw [answers_of_ne_nil (by simp), lineAnswers, hline]
        simp only [htokens, List.map_nil, List.nil_append]
        rfl
      rw [hanswers]
      exact ih
  | case4 byte bytes rest line hline token tokens htokens =>
      refine .inr (.inr ⟨_, _, _, rfl, ?_⟩)
      rw [answers_of_ne_nil (by simp), lineAnswers, hline]
      simp only [htokens]
      rfl

theorem read_of_token {console console' : Console} {token : List Char}
    (h : readToken console = .ok token console') :
    answer (read console) = tokenAnswer token ∧ reached (read console) = console' := by
  simp only [read, bind_apply, h, tokenAnswer]
  cases Word.read? token with
  | some w => exact ⟨rfl, rfl⟩
  | none => exact ⟨rfl, rfl⟩

theorem read_remaining (console : Console) :
    answer (read console) = (remaining console).headD (.error endOfInput) ∧
      remaining (reached (read console)) = (remaining console).tail := by
  obtain ⟨unread, pending, written, room⟩ := console
  cases pending with
  | cons token pending =>
      obtain ⟨hanswer, hreached⟩ := read_of_token
        (show readToken ⟨unread, token :: pending, written, room⟩ = .ok token _ from rfl)
      rw [hanswer, hreached]
      exact ⟨rfl, rfl⟩
  | nil =>
      simp only [remaining, List.map_nil, List.nil_append]
      rcases answers_nextLine unread with ⟨hline, hanswers⟩ | ⟨rest, hline, hanswers⟩ |
        ⟨token, pending, rest, hline, hanswers⟩
      · have hread : read ⟨unread, [], written, room⟩ =
            .error endOfInput ⟨[], [], written, room⟩ := by
          simp only [read, readToken, bind_apply, get_apply, hline]
          rfl
        rw [hread, hanswers]
        exact ⟨rfl, rfl⟩
      · have hread : read ⟨unread, [], written, room⟩ =
            .error malformedLine ⟨rest, [], written, room⟩ := by
          simp only [read, readToken, bind_apply, get_apply, hline]
          rfl
        rw [hread, hanswers]
        exact ⟨rfl, rfl⟩
      · have htoken : readToken ⟨unread, [], written, room⟩ =
            .ok token ⟨rest, pending, written, room⟩ := by
          simp only [readToken, bind_apply, get_apply, hline]
          rfl
        obtain ⟨hanswer, hreached⟩ := read_of_token htoken
        rw [hanswer, hreached, hanswers]
        exact ⟨rfl, rfl⟩

theorem write_remaining (w : Word) (console : Console) :
    remaining (reached (write w console)) = remaining console := by
  simp only [write, bind_apply, get_apply]
  cases console.room with
  | none => rfl
  | some room =>
      simp only [bind_apply, set_apply]
      by_cases h : room < (line w).length
      · rw [if_pos h]
        rfl
      · rw [if_neg h]
        rfl

/-! ## Exchanges -/

/-- What a program may ask of a console. -/
inductive Exchange where
  | read
  | write (w : Word)
deriving DecidableEq

/-- The answers to the reads among the exchanges, which are made one after another, also past those
that fail. -/
def readings : List Exchange → Console → List (Except Fault Word)
  | [], _ => []
  | .read :: exchanges, console =>
    answer (read console) :: readings exchanges (reached (read console))
  | .write w :: exchanges, console => readings exchanges (reached (write w console))

/-- The answers are those that remain, in order, and then the end of the input over and over. -/
theorem readings_eq (exchanges : List Exchange) (console : Console) :
    readings exchanges console =
      (List.range (exchanges.count .read)).map fun i =>
        (remaining console).getD i (.error endOfInput) := by
  induction exchanges generalizing console with
  | nil => rfl
  | cons exchange exchanges ih =>
      cases exchange with
      | read =>
          obtain ⟨hanswer, hremaining⟩ := read_remaining console
          rw [readings, ih, hanswer, hremaining, List.count_cons_self, List.range_succ_eq_map,
            List.map_cons, List.map_map]
          cases remaining console <;> rfl
      | write w =>
          rw [readings, ih, write_remaining, List.count_cons_of_ne (by simp)]

/-- How a console reads an input of any bytes. -/
structure ReadingSpec (bytes : List UInt8) : Prop where
  readings_eq : ∀ (exchanges : List Exchange) (written : String) (room : Option Nat),
    readings exchanges { unread := bytes, written, room } =
      (List.range (exchanges.count .read)).map fun i =>
        (answers bytes).getD i (.error endOfInput)
  of_text : ∀ cs, decodeLine bytes = some cs →
    answers bytes = (Text.tokens cs).map tokenAnswer
  of_blanks : ∀ cs ds, decodeLine bytes = some cs → Text.SameUpToBlanks cs ds →
    ∀ (exchanges : List Exchange) (written : String) (room : Option Nat),
      readings exchanges { unread := Text.encode ds, written, room } =
        readings exchanges { unread := bytes, written, room }

/-- Whatever the input is and whatever is written in between, the reads give the answers of its
lines, one after another, and then the end of the input. If the input as a whole is text, these are
the answers of its tokens, and it does not matter whether newlines or other blanks separate them. -/
theorem reading_follows_lines (bytes : List UInt8) : ReadingSpec bytes := by
  refine ⟨?_, ?_, ?_⟩
  · intro exchanges written room
    exact Console.readings_eq exchanges _
  · intro cs hcs
    rw [← decodeLine_eq_some.mp hcs, answers_encode]
  · intro cs ds hcs hblanks exchanges written room
    have hanswers : answers (Text.encode ds) = answers bytes := by
      rw [← decodeLine_eq_some.mp hcs, answers_encode, answers_encode,
        Text.tokens_eq_of_blanks hblanks]
    rw [Console.readings_eq, Console.readings_eq]
    simp only [remaining, hanswers]

end Console

end FloatMachine
