import FloatMachine.Declaration.Template
import Mathlib.Data.List.Basic

/-! Templates as they are written: pieces of text, in which every brace is doubled, and placeholders
between single braces. Both scanners of a template follow the pieces it was written from, wherever
braces of the one kind stand beside braces of the other. -/

namespace FloatMachine.Template

/-! ## Pieces -/

/-- What stands in front of the colon of a placeholder. -/
structure Name where
  chars : List Char
  plain : ∀ c ∈ chars, c ≠ '{' ∧ c ≠ '}' ∧ c ≠ ':'

/-- What stands behind the colon of a placeholder. -/
structure Specification where
  chars : List Char
  plain : ∀ c ∈ chars, c ≠ '{' ∧ c ≠ '}'

inductive Piece where
  | text (chars : List Char)
  | placeholder (name : Name) (specification : Option Specification)

/-- A character of a text. -/
def double (c : Char) : List Char := if c = '{' ∨ c = '}' then [c, c] else [c]

/-- What stands between the braces of a placeholder. -/
def between (name : Name) : Option Specification → List Char
  | none => name.chars
  | some specification => name.chars ++ ':' :: specification.chars

namespace Piece

def write : Piece → List Char
  | text chars => chars.flatMap double
  | placeholder name specification => '{' :: (between name specification ++ ['}'])

/-- The name of a placeholder, without the blanks around it. -/
def name? : Piece → Option (List Char)
  | text _ => none
  | placeholder name _ => some (Text.trimBlanks name.chars)

end Piece

def write (pieces : List Piece) : List Char := pieces.flatMap Piece.write

/-- The names of the placeholders from left to right. -/
def names (pieces : List Piece) : List (List Char) := pieces.filterMap Piece.name?

/-- The letter `f` in front of a name that begins with a digit. -/
def numbered : List Char → List Char
  | [] => []
  | c :: cs => if c.isDigit then 'f' :: c :: cs else c :: cs

theorem plain_numbered (name : Name) :
    ∀ c ∈ numbered name.chars, c ≠ '{' ∧ c ≠ '}' ∧ c ≠ ':' := by
  intro c hc
  have hplain := name.plain
  cases hname : name.chars with
  | nil => simp [hname, numbered] at hc
  | cons first chars =>
      rw [hname] at hc hplain
      simp only [numbered] at hc
      split at hc
      · rcases List.mem_cons.mp hc with rfl | hc
        · decide
        · exact hplain c hc
      · exact hplain c hc

def Name.number (name : Name) : Name := ⟨numbered name.chars, plain_numbered name⟩

/-- The piece with its name numbered, if it is a placeholder. -/
def Piece.number : Piece → Piece
  | text chars => text chars
  | placeholder name specification => placeholder name.number specification

theorem between_plain (name : Name) (specification : Option Specification) :
    ∀ c ∈ between name specification, c ≠ '{' ∧ c ≠ '}' := by
  intro c hc
  cases specification with
  | none => exact ⟨(name.plain c hc).1, (name.plain c hc).2.1⟩
  | some specification =>
      simp only [between, List.mem_append, List.mem_cons] at hc
      rcases hc with hc | rfl | hc
      · exact ⟨(name.plain c hc).1, (name.plain c hc).2.1⟩
      · decide
      · exact specification.plain c hc

/-! ## Looking for names -/

theorem placeholders_doubled (rest : List Char) :
    placeholders ('{' :: '{' :: rest) = placeholders rest := by
  rw [placeholders]

theorem placeholders_of_ne {c : Char} (hc : c ≠ '{') (rest : List Char) :
    placeholders (c :: rest) = placeholders rest := by
  rw [placeholders]
  · rintro rest' rfl
    exact absurd rfl hc
  · rintro rfl
    exact absurd rfl hc

theorem placeholders_text (chars rest : List Char) :
    placeholders (chars.flatMap double ++ rest) = placeholders rest := by
  induction chars with
  | nil => rfl
  | cons c chars ih =>
      rw [List.flatMap_cons, List.append_assoc]
      by_cases hopen : c = '{'
      · subst hopen
        exact (placeholders_doubled _).trans ih
      · by_cases hclose : c = '}'
        · subst hclose
          have hne : '}' ≠ '{' := by decide
          exact (placeholders_of_ne hne _).trans ((placeholders_of_ne hne _).trans ih)
        · simp only [double, hopen, hclose, or_self, ite_false, List.singleton_append]
          rw [placeholders_of_ne hopen, ih]

/-- A placeholder reaches up to its own closing brace, whatever follows. -/
theorem placeholders_of_plain {body : List Char} (h : ∀ c ∈ body, c ≠ '{' ∧ c ≠ '}')
    (rest : List Char) :
    placeholders ('{' :: (body ++ '}' :: rest)) = nameOf body :: placeholders rest := by
  have hpos : ∀ c ∈ body, decide (c ≠ '}') = true := fun c hc => decide_eq_true (h c hc).2
  have htake : (body ++ '}' :: rest).takeWhile (· ≠ '}') = body := by
    rw [List.takeWhile_append_of_pos hpos]
    simp
  have hafter : afterBrace (body ++ '}' :: rest) = rest := by
    rw [afterBrace, List.dropWhile_append_of_pos hpos]
    simp
  rw [placeholders, htake, hafter]
  -- The brace is a single one, for what stands behind it is in the body or closes it.
  intro rest' heq
  cases body with
  | nil => simp at heq
  | cons c body => exact (h c (by simp)).1 (List.cons.inj heq).1

theorem nameOf_between (name : Name) (specification : Option Specification) :
    nameOf (between name specification) = Text.trimBlanks name.chars := by
  have hpos : ∀ c ∈ name.chars, decide (c ≠ ':') = true :=
    fun c hc => decide_eq_true (name.plain c hc).2.2
  cases specification with
  | none =>
      have htake : (name.chars ++ []).takeWhile (· ≠ ':') = name.chars ++ [] :=
        List.takeWhile_append_of_pos hpos
      rw [List.append_nil] at htake
      rw [nameOf, between, htake]
  | some specification =>
      rw [nameOf, between, List.takeWhile_append_of_pos hpos]
      simp

theorem placeholders_piece (piece : Piece) (rest : List Char) :
    placeholders (piece.write ++ rest) = piece.name?.toList ++ placeholders rest := by
  cases piece with
  | text chars => exact placeholders_text chars rest
  | placeholder name specification =>
      have h := placeholders_of_plain (between_plain name specification) rest
      rw [nameOf_between] at h
      simpa [Piece.write, Piece.name?] using h

theorem placeholders_write (pieces : List Piece) : placeholders (write pieces) = names pieces := by
  induction pieces with
  | nil => rw [write, List.flatMap_nil, placeholders, names, List.filterMap_nil]
  | cons piece pieces ih =>
      rw [write, List.flatMap_cons, placeholders_piece, ← write, ih, names, names]
      cases h : piece.name? <;> simp [h]

/-! ## Numbering names -/

theorem nameNumbers_doubled (rest : List Char) :
    nameNumbers ('{' :: '{' :: rest) = '{' :: '{' :: nameNumbers rest := by
  rw [nameNumbers]

theorem nameNumbers_of_ne {c : Char} (hc : c ≠ '{') (rest : List Char) :
    nameNumbers (c :: rest) = c :: nameNumbers rest := by
  rw [nameNumbers]
  · rintro rest' rfl
    exact absurd rfl hc
  · rintro c' rest' rfl
    exact absurd rfl hc

theorem nameNumbers_of_plain {body : List Char} (h : ∀ c ∈ body, c ≠ '{') (rest : List Char) :
    nameNumbers (body ++ rest) = body ++ nameNumbers rest := by
  induction body with
  | nil => rfl
  | cons c body ih =>
      rw [List.cons_append, nameNumbers_of_ne (h c (by simp)), ih fun c hc => h c (by simp [hc]),
        List.cons_append]

theorem nameNumbers_text (chars rest : List Char) :
    nameNumbers (chars.flatMap double ++ rest) = chars.flatMap double ++ nameNumbers rest := by
  induction chars with
  | nil => rfl
  | cons c chars ih =>
      rw [List.flatMap_cons, List.append_assoc]
      by_cases hopen : c = '{'
      · subst hopen
        have h := nameNumbers_doubled (chars.flatMap double ++ rest)
        rw [ih] at h
        exact h
      · have hplain : ∀ d ∈ double c, d ≠ '{' := by
          intro d hd
          have hd : d = c := by
            simp only [double] at hd
            split at hd <;> simpa using hd
          rw [hd]
          exact hopen
        rw [nameNumbers_of_plain hplain, ih, List.append_assoc]

theorem nameNumbers_open {first : Char} (h : first ≠ '{') (rest : List Char) :
    nameNumbers ('{' :: first :: rest) =
      '{' :: ((if first.isDigit then ['f'] else []) ++ first :: nameNumbers rest) := by
  rw [nameNumbers]
  · split
    · rfl
    · rw [nameNumbers_of_ne h]
      rfl
  · intro hc
    exact h hc

theorem nameNumbers_placeholder (name : Name) (specification : Option Specification)
    (rest : List Char) :
    nameNumbers ('{' :: (between name specification ++ '}' :: rest)) =
      '{' :: (between name.number specification ++ '}' :: nameNumbers rest) := by
  have hclose := nameNumbers_of_ne (show '}' ≠ '{' by decide) rest
  have hopen : ∀ c ∈ between name specification, c ≠ '{' :=
    fun c hc => (between_plain name specification c hc).1
  cases hname : name.chars with
  | cons first chars =>
      -- Numbering puts the letter in front of what stands between the braces.
      have hbetween : between name.number specification =
          (if first.isDigit then ['f'] else []) ++ between name specification := by
        cases specification <;> simp only [between, Name.number, numbered, hname] <;> split <;> rfl
      obtain ⟨tail, htail⟩ : ∃ tail, between name specification = first :: tail := by
        cases specification <;> simp [between, hname]
      rw [hbetween]
      rw [htail] at hopen ⊢
      rw [List.cons_append, nameNumbers_open (hopen first (by simp)),
        nameNumbers_of_plain fun c hc => hopen c (by simp [hc]), hclose]
      simp
  | nil =>
      have hbetween : between name.number specification = between name specification := by
        cases specification <;> simp only [between, Name.number, numbered, hname]
      rw [hbetween]
      cases specification with
      | none =>
          simp only [between, hname, List.nil_append]
          exact nameNumbers_open (by decide) rest
      | some specification =>
          have h := nameNumbers_open (show ':' ≠ '{' by decide)
            (specification.chars ++ '}' :: rest)
          rw [nameNumbers_of_plain fun c hc => (specification.plain c hc).1, hclose] at h
          simpa [between, hname] using h

theorem nameNumbers_piece (piece : Piece) (rest : List Char) :
    nameNumbers (piece.write ++ rest) = piece.number.write ++ nameNumbers rest := by
  cases piece with
  | text chars => exact nameNumbers_text chars rest
  | placeholder name specification =>
      simpa [Piece.write, Piece.number] using nameNumbers_placeholder name specification rest

theorem nameNumbers_write (pieces : List Piece) :
    nameNumbers (write pieces) = write (pieces.map Piece.number) := by
  induction pieces with
  | nil => rfl
  | cons piece pieces ih =>
      rw [write, List.flatMap_cons, nameNumbers_piece, ← write, ih]
      rfl

/-! ## First uses -/

/-- The names that are not empty, each listed once, in the order in which they first occur. -/
structure FirstUses (names uses : List (List Char)) : Prop where
  nodup : uses.Nodup
  mem_iff : ∀ name, name ∈ uses ↔ name ∈ names ∧ name ≠ []
  ordered : uses.Pairwise fun a b => names.idxOf a < names.idxOf b

section Uses

variable {α : Type} [BEq α] [LawfulBEq α]

theorem idxOf_lt_of_cons {x : α} {xs uses : List α} (hne : ∀ a ∈ uses, a ≠ x)
    (h : uses.Pairwise fun a b => xs.idxOf a < xs.idxOf b) :
    uses.Pairwise fun a b => (x :: xs).idxOf a < (x :: xs).idxOf b := by
  refine h.imp_of_mem ?_
  intro a b ha hb hlt
  rw [List.idxOf_cons_ne _ (hne a ha).symm, List.idxOf_cons_ne _ (hne b hb).symm]
  exact Nat.succ_lt_succ hlt

/-- What is left of a list without repetitions, and without the elements that are not wanted, is in
the order of the first occurrences in that list. -/
theorem eraseDups_filter_ordered (p : α → Bool) (xs : List α) :
    (xs.filter p).eraseDups.Pairwise fun a b => xs.idxOf a < xs.idxOf b := by
  induction xs generalizing p with
  | nil => simp
  | cons x xs ih =>
      by_cases hx : p x = true
      · rw [List.filter_cons_of_pos hx, List.eraseDups_cons, List.filter_filter]
        have hne : ∀ a ∈ (xs.filter fun a => (!a == x) && p a).eraseDups, a ≠ x := by
          intro a ha
          have ha := (List.mem_filter.mp (List.mem_eraseDups.mp ha)).2
          rintro rfl
          simp at ha
        refine List.Pairwise.cons ?_ (idxOf_lt_of_cons hne (ih _))
        intro a ha
        rw [List.idxOf_cons_self, List.idxOf_cons_ne _ (hne a ha).symm]
        exact Nat.succ_pos _
      · rw [List.filter_cons_of_neg hx]
        refine idxOf_lt_of_cons ?_ (ih p)
        intro a ha
        have ha := (List.mem_filter.mp (List.mem_eraseDups.mp ha)).2
        rintro rfl
        exact hx ha

end Uses

theorem references_firstUses (template : List Char) :
    FirstUses (placeholders template) (references template) := by
  have hordered := eraseDups_filter_ordered (!·.isEmpty) (placeholders template)
  refine ⟨hordered.imp ?_, ?_, hordered⟩
  · rintro a b hlt rfl
    exact absurd hlt (Nat.lt_irrefl _)
  · intro name
    simp [references, List.mem_eraseDups]

/-! ## Scanning -/

/-- What the scanners find in a template that was written from pieces. Numbering takes the pieces to
others that differ from them in the names that begin with a digit. -/
structure ScanSpec (pieces : List Piece) : Prop where
  uses : FirstUses (names pieces) (references (write pieces))
  numbers_eq : nameNumbers (write pieces) = write (pieces.map Piece.number)
  numbered_uses :
    FirstUses (names (pieces.map Piece.number)) (references (nameNumbers (write pieces)))

/-- Whatever the pieces, the fields a template refers to are the names of its placeholders, each at
its first use, and numbering puts a letter in front of exactly those names that begin with a
digit. -/
theorem scanning_follows_pieces (pieces : List Piece) : ScanSpec pieces := by
  have huses := references_firstUses (write pieces)
  have hnumbered := references_firstUses (write (pieces.map Piece.number))
  rw [placeholders_write] at huses hnumbered
  refine ⟨huses, nameNumbers_write pieces, ?_⟩
  rw [nameNumbers_write]
  exact hnumbered

/-- A placeholder between doubled braces. -/
example : nameNumbers ['{', '{', '{', '0', '}', '}', '}'] =
    ['{', '{', '{', 'f', '0', '}', '}', '}'] := by
  decide

end FloatMachine.Template
