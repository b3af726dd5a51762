import FloatMachine.Proofs.Mentions
import FloatMachine.Proofs.Templates

/-! An accepted message becomes a pattern and a call with arguments. The arguments are the names of
its placeholders, and the pattern binds each of them, except for the numbers of tuple fields that
are written with needless zeros: a number is looked up by its value and bound by its text. -/

namespace FloatMachine

/-! ## Numerals -/

namespace Text

theorem digitChar_of_isDigit {c : Char} (h : c.isDigit = true) :
    c.toNat - '0'.toNat < 10 ∧ (c.toNat - '0'.toNat).digitChar = c := by
  obtain ⟨hfirst, hlast⟩ := Char.isDigit_iff_toNat.mp h
  have hzero : '0'.toNat = 48 := rfl
  have hnine : '9'.toNat = 57 := rfl
  have hlt : c.toNat - '0'.toNat < 10 := by omega
  refine ⟨hlt, Char.toNat_inj.mp ?_⟩
  rw [Nat.toNat_digitChar_of_lt_ten hlt]
  omega

theorem toDigits_ofDigitChars_of_pos {digits : List Char} (h : ∀ c ∈ digits, c.isDigit = true)
    {n : Nat} (hn : 0 < n) :
    Nat.toDigits 10 (Nat.ofDigitChars 10 digits n) = Nat.toDigits 10 n ++ digits := by
  induction digits generalizing n with
  | nil => simp [Nat.ofDigitChars]
  | cons c digits ih =>
      obtain ⟨hlt, hc⟩ := digitChar_of_isDigit (h c List.mem_cons_self)
      have hstep : Nat.ofDigitChars 10 (c :: digits) n =
          Nat.ofDigitChars 10 digits (10 * n + (c.toNat - '0'.toNat)) := rfl
      have hlast := Nat.toDigits_append_toDigits (by decide : 1 < 10) hn hlt
      rw [Nat.toDigits_of_lt_base hlt, hc] at hlast
      rw [hstep, ih (fun d hd => h d (List.mem_cons_of_mem c hd)) (by omega), ← hlast,
        List.append_assoc, List.singleton_append]

/-- A numeral without needless zeros is the one of its value. -/
theorem toDigits_ofDigitChars {digits : List Char} (hne : digits ≠ [])
    (h : ∀ c ∈ digits, c.isDigit = true) (hzero : ∀ c rest, digits ≠ '0' :: c :: rest) :
    Nat.toDigits 10 (Nat.ofDigitChars 10 digits 0) = digits := by
  obtain ⟨c, rest, rfl⟩ := List.exists_cons_of_ne_nil hne
  by_cases hc : c = '0'
  · subst hc
    cases rest with
    | nil => rfl
    | cons d rest => exact absurd rfl (hzero d rest)
  · obtain ⟨hlt, hdigit⟩ := digitChar_of_isDigit (h c List.mem_cons_self)
    have hstep : Nat.ofDigitChars 10 (c :: rest) 0 =
        Nat.ofDigitChars 10 rest (c.toNat - '0'.toNat) := by
      simp [Nat.ofDigitChars]
    have hpos : 0 < c.toNat - '0'.toNat := by
      refine Nat.pos_of_ne_zero fun heq => hc ?_
      rw [← hdigit, heq]
      rfl
    rw [hstep, toDigits_ofDigitChars_of_pos (fun d hd => h d (List.mem_cons_of_mem c hd)) hpos,
      Nat.toDigits_of_lt_base hlt, hdigit, List.singleton_append]

theorem toDigits_ne_zero_cons (n : Nat) (c : Char) (rest : List Char) :
    Nat.toDigits 10 n ≠ '0' :: c :: rest := by
  induction n using Nat.strongRecOn generalizing c rest with
  | ind n ih =>
      intro h
      rw [Nat.toDigits_eq_if (by decide)] at h
      split at h
      · simp at h
      · rename_i hten
        rcases hfront : Nat.toDigits 10 (n / 10) with _ | ⟨first, _ | ⟨second, front⟩⟩
        · exact Nat.toDigits_ne_nil hfront
        · -- The number in front of the last digit would be zero.
          rw [hfront] at h
          obtain ⟨rfl, -⟩ := List.cons.inj h
          have hvalue := @Nat.ofDigitChars_ten_toDigits (n / 10)
          rw [hfront] at hvalue
          have hzero : Nat.ofDigitChars 10 ['0'] 0 = 0 := by decide
          omega
        · rw [hfront] at h
          obtain ⟨rfl, -⟩ := List.cons.inj h
          exact ih (n / 10) (by omega) second front hfront

end Text

/-! ## What a pattern binds -/

namespace FieldPattern

/-- The names that a pattern binds. -/
def bound : FieldPattern → List String
  | unit => []
  | tuple slots => slots.filterMap id
  | record names => names

end FieldPattern

namespace Fields

/-- The number of a tuple field has needless zeros in front. -/
def Padded : Fields → String → Prop
  | tuple _, name => ∃ c rest, name.toList = 'f' :: '0' :: c :: rest
  | unit, _ | named _, _ => False

theorem toList_numberedName (index : Nat) :
    (numberedName index).toList = 'f' :: Nat.toDigits 10 index := by
  have hletter : "f".toList = ['f'] := String.toList_ofList
  rw [numberedName, String.toList_append, hletter, Nat.toString_eq_ofList_toDigits,
    String.toList_ofList, List.singleton_append]

/-- The names of tuple fields that are identifiers are the texts of their numbers, but for needless
zeros. -/
theorem eq_numberedName_iff {count : Nat} {name : String}
    (hfield : (tuple count).has name = true) (hidentifier : Text.isIdentifier name.toList = true) :
    (∃ index < count, name = numberedName index) ↔ ¬(tuple count).Padded name := by
  obtain ⟨index, hindex, hlt⟩ := Declaration.has_tuple hfield
  obtain ⟨digits, hshape, hne, hdigits, hvalue⟩ := Declaration.fieldIndex?_eq_some hindex
  have hplain : name.toList = 'f' :: digits := by
    refine hshape.resolve_right fun hsigned => ?_
    rw [hsigned, Text.not_isIdentifier_of_mem List.mem_cons_self
      Text.not_isIdentifierPart_plus] at hidentifier
    exact Bool.false_ne_true hidentifier
  constructor
  · rintro ⟨other, -, rfl⟩ ⟨c, rest, hpadded⟩
    rw [toList_numberedName] at hpadded
    exact Text.toDigits_ne_zero_cons other c rest (List.cons.inj hpadded).2
  · intro hpadded
    have hnumeral : Nat.toDigits 10 index = digits := by
      rw [← hvalue]
      refine Text.toDigits_ofDigitChars hne hdigits fun c rest heq => hpadded ⟨c, rest, ?_⟩
      rw [hplain, heq]
    refine ⟨index, hlt, ?_⟩
    rw [← String.toList_inj, toList_numberedName, hnumeral, hplain]

theorem mem_bound_tuple {count : Nat} {names : List String} {name : String} :
    name ∈ ((tuple count).pattern names).bound ↔
      name ∈ names ∧ ∃ index < count, name = numberedName index := by
  simp only [pattern, FieldPattern.bound, List.mem_filterMap, List.mem_map, List.mem_range]
  constructor
  · rintro ⟨slot, ⟨index, hlt, rfl⟩, hslot⟩
    split at hslot
    · rename_i hmem
      cases hslot
      exact ⟨List.contains_iff_mem.mp hmem, index, hlt, rfl⟩
    · cases hslot
  · rintro ⟨hmem, index, hlt, rfl⟩
    exact ⟨_, ⟨index, hlt, rfl⟩, by rw [if_pos (List.contains_iff_mem.mpr hmem)]; rfl⟩

theorem mem_bound_iff {fields : Fields} {names : List String}
    (hfields : ∀ name ∈ names, fields.has name = true)
    (hidentifiers : ∀ name ∈ names, Text.isIdentifier name.toList = true) (name : String) :
    name ∈ (fields.pattern names).bound ↔ name ∈ names ∧ ¬fields.Padded name := by
  cases fields with
  | unit =>
      have hnot : name ∉ names := fun hmem => Bool.false_ne_true (hfields name hmem)
      simp [pattern, FieldPattern.bound, hnot]
  | tuple count =>
      rw [mem_bound_tuple]
      exact and_congr_right fun hmem =>
        eq_numberedName_iff (hfields name hmem) (hidentifiers name hmem)
  | named all => simp [pattern, FieldPattern.bound, Padded]

end Fields

/-! ## Accepted messages -/

namespace Formatting

/-- The names of the placeholders of the template, each at its first use. -/
def names (formatting : Formatting) : List String :=
  (Template.references formatting.template.toList).map String.ofList

end Formatting

namespace Fields

/-- The pattern has the shape of the fields. In the pattern for a tuple there is one slot for each
field, which is left empty or bound to the name of that very field. -/
def Matches : Fields → FieldPattern → List String → Prop
  | unit, pattern, _ => pattern = .unit
  | tuple count, pattern, names => ∃ slots, pattern = .tuple slots ∧ slots.length = count ∧
      ∀ index < count, slots[index]? =
        some (if numberedName index ∈ names then some (numberedName index) else none)
  | named _, pattern, names => pattern = .record names

theorem matches_pattern (fields : Fields) (names : List String) :
    fields.Matches (fields.pattern names) names := by
  cases fields with
  | unit => rfl
  | tuple count =>
      refine ⟨_, rfl, by simp, fun index hlt => ?_⟩
      simp [hlt]
  | named all => rfl

theorem mentions_eq {fields : Fields} (h : fields ≠ unit) (message : String) :
    fields.mentions message =
      (Template.references (fields.template message)).map String.ofList := by
  cases fields with
  | unit => exact absurd rfl h
  | tuple count => rfl
  | named all => rfl

theorem arguments_eq {fields : Fields} (h : fields ≠ unit) (names : List String) :
    fields.arguments false names = some (names.map fun name => ⟨name, .bound name⟩) := by
  cases fields with
  | unit => exact absurd rfl h
  | tuple count => rfl
  | named all => rfl

end Fields

namespace Declaration

/-- What an accepted message is turned into. The arguments are the names of the placeholders that
are not empty, each once and with the value bound to it. The pattern binds no other names, and it
misses those with needless zeros. -/
structure BindingSpec (fields : Fields) (formatting : Formatting) : Prop where
  arguments_eq :
    formatting.arguments = some (formatting.names.map fun name => ⟨name, .bound name⟩)
  nodup : formatting.names.Nodup
  mem_names : ∀ name, name ∈ formatting.names ↔
    name.toList ∈ Template.placeholders formatting.template.toList ∧ name.toList ≠ []
  mem_bound : ∀ name, name ∈ formatting.pattern.bound ↔
    name ∈ formatting.names ∧ ¬fields.Padded name
  shape : fields.Matches formatting.pattern formatting.names

theorem mem_map_ofList {name : String} {texts : List (List Char)} :
    name ∈ texts.map String.ofList ↔ name.toList ∈ texts := by
  constructor
  · intro h
    obtain ⟨text, htext, rfl⟩ := List.mem_map.mp h
    rwa [String.toList_ofList]
  · exact fun h => List.mem_map.mpr ⟨name.toList, h, String.ofList_toList⟩

/-- An accepted message makes a call whose arguments are exactly its names, and all of them are
bound, except for numbers of tuple fields with needless zeros. -/
theorem accepted_message_binds (fields : Fields) (hfields : fields ≠ .unit) (message : String)
    (formatting : Formatting) (h : format fields message false = .ok formatting) :
    BindingSpec fields formatting := by
  obtain ⟨hknown, hidentifiers, rfl⟩ := format_eq_ok.mp h
  have hnames : Formatting.names ⟨fields.pattern (fields.mentions message),
      String.ofList (fields.template message),
      fields.arguments false (fields.mentions message)⟩ = fields.mentions message := by
    rw [Formatting.names, String.toList_ofList, Fields.mentions_eq hfields]
  have huses := Template.references_firstUses (fields.template message)
  refine ⟨?_, ?_, ?_, ?_, ?_⟩
  · rw [hnames]
    exact Fields.arguments_eq hfields _
  · rw [Formatting.names, String.toList_ofList]
    refine List.pairwise_map.mpr (huses.nodup.imp fun hne heq => hne ?_)
    simpa only [String.toList_ofList] using congrArg String.toList heq
  · intro name
    rw [Formatting.names, mem_map_ofList, String.toList_ofList]
    exact huses.mem_iff name.toList
  · intro name
    rw [hnames]
    exact Fields.mem_bound_iff hknown hidentifiers name
  · rw [hnames]
    exact fields.matches_pattern _

/-- Placeholders by number, out of order, with a format and a repetition. -/
theorem accepted_message_binds_of_tuple :
    let formatting : Formatting := ⟨.tuple [some "f0", none, some "f2"],
      "\x7bf2:x\x7d \x7bf0\x7d \x7bf2\x7d", some [⟨"f2", .bound "f2"⟩, ⟨"f0", .bound "f0"⟩]⟩
    Fields.tuple 3 ≠ .unit ∧
      format (.tuple 3) "\x7b2:x\x7d \x7b0\x7d \x7b2\x7d" false = .ok formatting ∧
      BindingSpec (.tuple 3) formatting := by
  intro formatting
  have hfields : Fields.tuple 3 ≠ .unit := by decide
  have h : format (.tuple 3) "\x7b2:x\x7d \x7b0\x7d \x7b2\x7d" false = .ok formatting :=
    format_eq_ok.mpr ⟨by decide +kernel, by decide +kernel, by decide +kernel⟩
  exact ⟨hfields, h, accepted_message_binds _ hfields _ _ h⟩

/-- The number of the only field is written with one zero too many: it is accepted, and an argument
of the call, but the pattern does not bind it. -/
theorem padded_number_unbound :
    let formatting : Formatting := ⟨.tuple [none], "\x7bf00\x7d", some [⟨"f00", .bound "f00"⟩]⟩
    format (.tuple 1) "\x7b00\x7d" false = .ok formatting ∧
      ¬∀ name, name ∈ formatting.names ↔ name ∈ formatting.pattern.bound := by
  intro formatting
  refine ⟨format_eq_ok.mpr ⟨by decide +kernel, by decide +kernel, by decide +kernel⟩, ?_⟩
  intro hsame
  have hbound : "f00" ∈ formatting.pattern.bound := (hsame "f00").mp (by decide +kernel)
  exact absurd hbound (by decide +kernel)

end Declaration

end FloatMachine
