import FloatMachine.Text.Blank

/-!
# What stands between tokens

Between the tokens of a Rust source there may be blanks and comments. A comment that documents
something is a token itself, and does not count.
-/

namespace FloatMachine.Trivia

/-- The character is blank or only gives the direction of writing. -/
def isSpace (c : Char) : Bool :=
  Text.isBlank c || c = '\u200e' || c = '\u200f'

/-- A comment documents something if, from behind its two slashes on, it goes on with an
exclamation mark, or with a third slash and no fourth. -/
def documentsLine : List Char → Bool
  | '!' :: _ => true
  | '/' :: '/' :: _ => false
  | '/' :: _ => true
  | _ => false

/-- A comment documents something if, from behind its slash and star on, it goes on with an
exclamation mark, or with a second star that is followed by no third and does not close it. -/
def documentsBlock : List Char → Bool
  | '!' :: _ => true
  | '*' :: '*' :: _ => false
  | '*' :: '/' :: _ => false
  | '*' :: _ => true
  | _ => false

/-- What follows a number of open comments that stand one inside the other; nothing if they are
not closed. -/
def closeBlocks? : Nat → List Char → Option (List Char)
  | 0, rest => some rest
  | _ + 1, [] => none
  | depth + 1, '/' :: '*' :: rest => closeBlocks? (depth + 2) rest
  | depth + 1, '*' :: '/' :: rest => closeBlocks? depth rest
  | depth + 1, _ :: rest => closeBlocks? (depth + 1) rest

/-- What follows a comment that documents nothing. A line comment leaves the end of its line. -/
def dropComment? : List Char → Option (List Char)
  | '/' :: '/' :: rest =>
    if documentsLine rest then none else some (rest.dropWhile (· ≠ '\n'))
  | '/' :: '*' :: rest => if documentsBlock rest then none else closeBlocks? 1 rest
  | _ => none

theorem closeBlocks?_length_le {depth : Nat} {cs rest : List Char}
    (h : closeBlocks? depth cs = some rest) : rest.length ≤ cs.length := by
  fun_induction closeBlocks? depth cs with
  | case1 cs => cases h; exact Nat.le_refl _
  | case2 => cases h
  | case3 depth cs ih | case4 depth cs ih | case5 depth c cs _ _ ih =>
    have := ih h
    simp only [List.length_cons]
    omega

/-- A comment is not empty. -/
theorem dropComment?_length_lt {cs rest : List Char} (h : dropComment? cs = some rest) :
    rest.length < cs.length := by
  unfold dropComment? at h
  split at h
  · split at h
    · cases h
    · cases h
      exact Nat.lt_succ_of_lt (Nat.lt_succ_of_le (List.dropWhile_suffix _).length_le)
  · split at h
    · cases h
    · have := closeBlocks?_length_le h
      simp only [List.length_cons]
      omega
  · cases h

/-- The text from its first token on. -/
def drop (cs : List Char) : List Char :=
  match cs with
  | [] => []
  | c :: rest =>
    if isSpace c then drop rest
    else
      match h : dropComment? (c :: rest) with
      | some behind =>
        have : behind.length < (c :: rest).length := dropComment?_length_lt h
        drop behind
      | none => c :: rest
termination_by cs.length
decreasing_by
  · exact Nat.lt_succ_self _
  · exact this

end FloatMachine.Trivia
