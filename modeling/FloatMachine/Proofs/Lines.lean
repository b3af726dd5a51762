import FloatMachine.Host.Console

/-! Lines of text. The byte that ends a line is part of no other character, so cutting the bytes of
a text into lines cuts the text itself, and the tokens of the text are those of its lines. -/

namespace FloatMachine

/-! ## Texts -/

namespace Text

/-- The bytes of a text. -/
def encode (cs : List Char) : List UInt8 := cs.flatMap String.utf8EncodeChar

@[simp] theorem encode_nil : encode [] = [] := rfl

@[simp] theorem encode_cons (c : Char) (cs : List Char) :
    encode (c :: cs) = String.utf8EncodeChar c ++ encode cs := rfl

theorem encode_toList (text : String) : encode text.toList = text.toUTF8.data.toList := by
  rw [String.toUTF8_eq_toByteArray, ← String.utf8Encode_toList, List.utf8Encode,
    List.toList_data_toByteArray, encode]

/-- No byte of a character other than the newline is the newline byte. -/
theorem ne_newline_of_mem {c : Char} (hc : c ≠ '\n') {byte : UInt8}
    (hb : byte ∈ String.utf8EncodeChar c) : byte ≠ Console.newline := by
  have hval : c.val.toNat ≠ 10 := fun h => hc (Char.ext (UInt32.toNat_inj.mp h))
  intro heq
  have hten : byte.toNat = 10 := congrArg UInt8.toNat heq
  simp only [String.utf8EncodeChar] at hb
  -- A character of one byte is that byte; the bytes of all others are 128 or more.
  split at hb
  · simp only [List.mem_singleton] at hb
    rw [hb, UInt8.toNat_ofNat'] at hten
    omega
  · split at hb
    · simp only [List.mem_cons, List.not_mem_nil, or_false] at hb
      rcases hb with hb | hb <;> rw [hb, UInt8.toNat_ofNat'] at hten <;> omega
    · split at hb
      · simp only [List.mem_cons, List.not_mem_nil, or_false] at hb
        rcases hb with hb | hb | hb <;> rw [hb, UInt8.toNat_ofNat'] at hten <;> omega
      · simp only [List.mem_cons, List.not_mem_nil, or_false] at hb
        rcases hb with hb | hb | hb | hb <;> rw [hb, UInt8.toNat_ofNat'] at hten <;> omega

/-- The first line of a text, without the newline that ends it. -/
def firstLine (cs : List Char) : List Char := cs.takeWhile (· ≠ '\n')

/-- What follows the first line and its newline. -/
def afterLine (cs : List Char) : List Char := (cs.dropWhile (· ≠ '\n')).drop 1

@[simp] theorem firstLine_newline (cs : List Char) : firstLine ('\n' :: cs) = [] := by
  simp [firstLine]

@[simp] theorem afterLine_newline (cs : List Char) : afterLine ('\n' :: cs) = cs := by
  simp [afterLine]

theorem firstLine_cons {c : Char} (hc : c ≠ '\n') (cs : List Char) :
    firstLine (c :: cs) = c :: firstLine cs := by
  simp [firstLine, hc]

theorem afterLine_cons {c : Char} (hc : c ≠ '\n') (cs : List Char) :
    afterLine (c :: cs) = afterLine cs := by
  simp [afterLine, hc]

theorem length_afterLine_le (cs : List Char) : (afterLine cs).length ≤ cs.length - 1 := by
  have h := (List.dropWhile_sublist (fun c => decide (c ≠ '\n')) (l := cs)).length_le
  simp only [afterLine, List.length_drop]
  omega

theorem tokens_append_cons (front rest : List Char) {c : Char} (hc : isBlank c = true) :
    tokens (front ++ c :: rest) = tokens front ++ tokens rest := by
  rw [tokens, List.splitOnP_append_cons _ _ hc, List.filter_append]
  rfl

theorem tokens_lines (cs : List Char) :
    tokens cs = tokens (firstLine cs) ++ tokens (afterLine cs) := by
  have hsplit : firstLine cs ++ cs.dropWhile (· ≠ '\n') = cs := List.takeWhile_append_dropWhile
  cases hd : cs.dropWhile (· ≠ '\n') with
  | nil =>
      rw [hd, List.append_nil] at hsplit
      rw [afterLine, hd, hsplit]
      simp [tokens]
  | cons c rest =>
      have hc : c = '\n' := by
        have hhead := List.head?_dropWhile_not (fun c => decide (c ≠ '\n')) cs
        rw [hd] at hhead
        simpa using hhead
      rw [hd] at hsplit
      calc
        tokens cs = tokens (firstLine cs ++ c :: rest) := by rw [hsplit]
        _ = tokens (firstLine cs) ++ tokens rest :=
          tokens_append_cons _ _ (by rw [hc]; decide)
        _ = tokens (firstLine cs) ++ tokens (afterLine cs) := by rw [afterLine, hd, List.drop_one,
          List.tail_cons]

end Text

/-! ## Consoles -/

namespace Console

theorem decodeLine_encode (cs : List Char) : decodeLine (Text.encode cs) = some cs := by
  have hbytes : (⟨(Text.encode cs).toArray⟩ : ByteArray) = cs.utf8Encode :=
    ByteArray.ext (by rw [List.utf8Encode, List.data_toByteArray, Text.encode])
  rw [decodeLine, hbytes, String.fromUTF8?, dif_pos ByteArray.isValidUTF8_utf8Encode]
  have hs : String.fromUTF8 cs.utf8Encode ByteArray.isValidUTF8_utf8Encode = String.ofList cs := rfl
  rw [hs, Option.map_some, String.toList_ofList]

theorem firstLine_encode (cs : List Char) :
    firstLine (Text.encode cs) = Text.encode (Text.firstLine cs) := by
  induction cs with
  | nil => rfl
  | cons c cs ih =>
      by_cases hc : c = '\n'
      · rw [hc, Text.firstLine_newline]
        rfl
      · rw [Text.firstLine_cons hc, Text.encode_cons, Text.encode_cons, ← ih]
        exact List.takeWhile_append_of_pos
          (fun byte hb => decide_eq_true (Text.ne_newline_of_mem hc hb))

theorem afterLine_encode (cs : List Char) :
    afterLine (Text.encode cs) = Text.encode (Text.afterLine cs) := by
  induction cs with
  | nil => rfl
  | cons c cs ih =>
      by_cases hc : c = '\n'
      · rw [hc, Text.afterLine_newline]
        rfl
      · rw [Text.afterLine_cons hc, Text.encode_cons, ← ih, afterLine,
          List.dropWhile_append_of_pos
            (fun byte hb => decide_eq_true (Text.ne_newline_of_mem hc hb))]
        rfl

/-- The next line that has a token, in the bytes of a text: there is none exactly if the text has
no token, and otherwise the tokens of that line are the first ones of the text. -/
theorem nextLine_encode (cs : List Char) :
    (Text.tokens cs = [] ∧ nextLine (Text.encode cs) = (.error endOfInput, [])) ∨
      ∃ token pending rest, Text.tokens cs = token :: (pending ++ Text.tokens rest) ∧
        nextLine (Text.encode cs) = (.ok (token, pending), Text.encode rest) := by
  induction hn : cs.length using Nat.strongRecOn generalizing cs with
  | ind n ih =>
      cases cs with
      | nil => exact .inl ⟨rfl, by rw [Text.encode_nil, nextLine]⟩
      | cons c cs =>
          have hne : Text.encode (c :: cs) ≠ [] := by
            simp [String.utf8EncodeChar_ne_nil]
          obtain ⟨byte, bytes, hb⟩ := List.exists_cons_of_ne_nil hne
          rw [Text.tokens_lines (c :: cs), hb, nextLine, ← hb]
          rw [firstLine_encode, afterLine_encode, decodeLine_encode]
          dsimp only
          cases ht : Text.tokens (Text.firstLine (c :: cs)) with
          | cons token pending =>
              exact .inr ⟨token, pending, Text.afterLine (c :: cs), rfl, rfl⟩
          | nil =>
              have hle := Text.length_afterLine_le (c :: cs)
              exact ih _ (by simp only [List.length_cons] at hle hn; omega) _ rfl

end Console

end FloatMachine
