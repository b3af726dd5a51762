import FloatMachine.Declaration.Expansion
import FloatMachine.Proofs.Execution
import Mathlib.Data.List.Basic

/-! The names that a message mentions are checked before they become identifiers: each of them has
to be the name of a field. The check lets pass names that are no identifiers, and on these the
expansion stops; the results here say on which ones. -/

namespace FloatMachine

/-! ## Mentions -/

namespace Fields

/-- The message with the numbers of tuple fields turned into names. -/
def template : Fields → String → List Char
  | tuple _, message => Template.nameNumbers message.toList
  | unit, message | named _, message => message.toList

/-- The names that a message mentions, each at its first use. Without fields, a message is not
looked into. -/
def mentions : Fields → String → List String
  | unit, _ => []
  | fields, message => (Template.references (fields.template message)).map String.ofList

/-- A name stands for a field. -/
def has : Fields → String → Bool
  | unit, _ => false
  | tuple count, name => ((Declaration.fieldIndex? name).filter (· < count)).isSome
  | named names, name => names.contains name

/-- The name of a tuple field. -/
def numberedName (index : Nat) : String := "f" ++ toString index

def pattern : Fields → List String → FieldPattern
  | unit, _ => .unit
  | tuple count, names => .tuple ((List.range count).map fun index =>
      if names.contains (numberedName index) then some (numberedName index) else none)
  | named _, names => .record names

/-- Where the value for a name comes from. -/
def source : Fields → Bool → String → ArgumentSource
  | _, false, name => .bound name
  | tuple count, true, name =>
    .element (((Declaration.fieldIndex? name).filter (· < count)).getD 0)
  | _, true, name => .field name

def arguments : Fields → Bool → List String → Option (List Argument)
  | unit, _, _ => none
  | fields, onSelf, names => some (names.map fun name => ⟨name, fields.source onSelf name⟩)

end Fields

namespace Declaration

/-- A formatting step is made in the same way for all fields: the names are looked up, turned into
identifiers, and put into a pattern and arguments. -/
theorem format_eq (fields : Fields) (message : String) (onSelf : Bool) :
    format fields message onSelf = do
      checkFields fields.has (fields.mentions message)
      checkIdentifiers (fields.mentions message)
      return ⟨fields.pattern (fields.mentions message), String.ofList (fields.template message),
        fields.arguments onSelf (fields.mentions message)⟩ := by
  cases fields with
  | unit =>
      rw [Fields.template, String.ofList_toList]
      rfl
  | tuple count => cases onSelf <;> rfl
  | named names =>
      rw [Fields.template, String.ofList_toList]
      cases onSelf <;> rfl

/-! ## Checks -/

theorem find?_not_eq_none {p : String → Bool} {names : List String} :
    names.find? (!p ·) = none ↔ ∀ name ∈ names, p name = true := by
  simp only [List.find?_eq_none, Bool.not_eq_true', Bool.not_eq_false]

theorem checkFields_eq_ok {isField : String → Bool} {names : List String} :
    checkFields isField names = .ok () ↔ ∀ name ∈ names, isField name = true := by
  rw [← find?_not_eq_none]
  cases h : names.find? (!isField ·) <;> simp [checkFields, h]

theorem checkFields_eq_error {isField : String → Bool} {names : List String} {r : Rejection} :
    checkFields isField names = .error r ↔
      ∃ name, names.find? (!isField ·) = some name ∧ r = .unknownField name := by
  cases h : names.find? (!isField ·) <;> simp [checkFields, h, eq_comm]

theorem checkIdentifiers_eq_ok {names : List String} :
    checkIdentifiers names = .ok () ↔ ∀ name ∈ names, Text.isIdentifier name.toList = true := by
  rw [← find?_not_eq_none (p := fun name => Text.isIdentifier name.toList)]
  cases h : names.find? (!Text.isIdentifier ·.toList) <;> simp [checkIdentifiers, h]

theorem checkIdentifiers_eq_error {names : List String} {r : Rejection} :
    checkIdentifiers names = .error r ↔
      ∃ name, names.find? (!Text.isIdentifier ·.toList) = some name ∧ r = .notIdentifier name := by
  cases h : names.find? (!Text.isIdentifier ·.toList) <;> simp [checkIdentifiers, h, eq_comm]

theorem format_eq_ok {fields : Fields} {message : String} {onSelf : Bool}
    {formatting : Formatting} :
    format fields message onSelf = .ok formatting ↔
      (∀ name ∈ fields.mentions message, fields.has name = true) ∧
      (∀ name ∈ fields.mentions message, Text.isIdentifier name.toList = true) ∧
      formatting = ⟨fields.pattern (fields.mentions message),
        String.ofList (fields.template message),
        fields.arguments onSelf (fields.mentions message)⟩ := by
  rw [format_eq, except_bind_eq_ok, ← checkFields_eq_ok, ← checkIdentifiers_eq_ok]
  constructor
  · rintro ⟨⟨⟩, hfields, h⟩
    obtain ⟨⟨⟩, hidentifiers, h⟩ := except_bind_eq_ok.mp h
    exact ⟨hfields, hidentifiers, (Except.ok.inj h).symm⟩
  · rintro ⟨hfields, hidentifiers, rfl⟩
    exact ⟨(), hfields, except_bind_eq_ok.mpr ⟨(), hidentifiers, rfl⟩⟩

/-- A message is rejected for the first name that is none of a field, or else the expansion stops
at the first one that is no identifier. -/
theorem format_eq_error {fields : Fields} {message : String} {onSelf : Bool} {r : Rejection} :
    format fields message onSelf = .error r ↔
      (∃ name, (fields.mentions message).find? (!fields.has ·) = some name ∧
        r = .unknownField name) ∨
      (∀ name ∈ fields.mentions message, fields.has name = true) ∧
        ∃ name, (fields.mentions message).find? (!Text.isIdentifier ·.toList) = some name ∧
          r = .notIdentifier name := by
  rw [format_eq, except_bind_eq_error, ← checkFields_eq_error, ← checkIdentifiers_eq_error,
    ← checkFields_eq_ok]
  refine or_congr_right ⟨?_, ?_⟩
  · rintro ⟨⟨⟩, hfields, h⟩
    rcases except_bind_eq_error.mp h with hstop | ⟨⟨⟩, -, hreturn⟩
    · exact ⟨hfields, hstop⟩
    · cases hreturn
  · rintro ⟨hfields, hstop⟩
    exact ⟨(), hfields, except_bind_eq_error.mpr (.inl hstop)⟩

/-! ## Names of fields that are no identifiers -/

theorem fieldIndex?_eq_some {name : String} {index : Nat} (h : fieldIndex? name = some index) :
    ∃ digits, (name.toList = 'f' :: digits ∨ name.toList = 'f' :: '+' :: digits) ∧ digits ≠ [] ∧
      (∀ c ∈ digits, c.isDigit = true) ∧ Nat.ofDigitChars 10 digits 0 = index := by
  rw [fieldIndex?] at h
  split at h
  · rename_i rest hname
    obtain ⟨digits, hdigits⟩ :
        ∃ digits, (if rest.head? = some '+' then rest.drop 1 else rest) = digits := ⟨_, rfl⟩
    have hshape : rest = digits ∨ rest = '+' :: digits := by
      split at hdigits
      · rename_i hsign
        obtain ⟨tail, rfl⟩ := List.head?_eq_some_iff.mp hsign
        exact .inr (by rw [← hdigits]; rfl)
      · exact .inl hdigits
    simp only [hdigits] at h
    split at h
    · cases h
    · rename_i hcheck
      simp only [Bool.or_eq_true, List.isEmpty_iff, Bool.not_eq_true', decide_eq_true_eq, not_or,
        Bool.not_eq_false, List.all_eq_true] at hcheck
      refine ⟨digits, ?_, hcheck.1.1, hcheck.1.2, Option.some.inj h⟩
      rw [hname]
      exact hshape.imp (congrArg _) (congrArg _)
  · cases h

theorem has_tuple {count : Nat} {name : String} (h : (Fields.tuple count).has name = true) :
    ∃ index, fieldIndex? name = some index ∧ index < count := by
  obtain ⟨index, hindex⟩ := Option.isSome_iff_exists.mp h
  exact ⟨index, by simpa using Option.filter_eq_some_iff.mp hindex⟩

end Declaration

namespace Text

theorem isIdentifierPart_of_isDigit {c : Char} (h : c.isDigit = true) :
    isIdentifierPart c = true := by
  obtain ⟨hfirst, hlast⟩ := Char.isDigit_iff_toNat.mp h
  have hjoiner : isJoiner c = true := by
    refine List.any_eq_true.mpr ⟨(0x30, 0x39), List.mem_cons_self, ?_⟩
    simp only [Bool.and_eq_true, decide_eq_true_eq]
    exact ⟨hfirst, hlast⟩
  rw [isIdentifierPart, hjoiner, Bool.or_true]

theorem isIdentifier_number {digits : List Char} (h : ∀ c ∈ digits, c.isDigit = true) :
    isIdentifier ('f' :: digits) = true := by
  have hstart : isIdentifierStart 'f' = true := by decide
  rw [isIdentifier, hstart, Bool.true_and, List.all_eq_true]
  exact fun c hc => isIdentifierPart_of_isDigit (h c hc)

theorem not_isIdentifier_of_mem {first c : Char} {rest : List Char} (hc : c ∈ rest)
    (h : isIdentifierPart c = false) : isIdentifier (first :: rest) = false := by
  have hall : rest.all isIdentifierPart = false :=
    List.all_eq_false.mpr ⟨c, hc, by rw [h]; exact Bool.false_ne_true⟩
  rw [isIdentifier, hall, Bool.and_false]

theorem not_isIdentifierPart_plus : isIdentifierPart '+' = false := by decide +kernel

theorem not_isIdentifierPart_hash : isIdentifierPart '#' = false := by decide +kernel

end Text

namespace Fields

/-- Names of fields are written as identifiers, some of them with the mark `r#`. -/
def WellNamed : Fields → Prop
  | named names => ∀ name ∈ names, Text.isIdentifier name.toList = true ∨
      ∃ plain, Text.isIdentifier plain = true ∧ name.toList = 'r' :: '#' :: plain
  | unit | tuple _ => True

/-- The names that are taken for names of fields but are no identifiers: numbers with a plus sign,
and names with the mark `r#`. -/
def isStray : Fields → String → Bool
  | unit, _ => false
  | tuple _, name => ['f', '+'].isPrefixOf name.toList
  | named _, name => ['r', '#'].isPrefixOf name.toList

theorem isIdentifier_eq {fields : Fields} (h : fields.WellNamed) {name : String}
    (hname : fields.has name = true) :
    Text.isIdentifier name.toList = !fields.isStray name := by
  cases fields with
  | unit => cases hname
  | tuple count =>
      obtain ⟨index, hindex, -⟩ := Declaration.has_tuple hname
      obtain ⟨digits, hshape | hshape, hne, hdigits, -⟩ := Declaration.fieldIndex?_eq_some hindex
      · obtain ⟨c, rest, rfl⟩ := List.exists_cons_of_ne_nil hne
        have hplus : c ≠ '+' := by
          rintro rfl
          exact absurd (hdigits '+' List.mem_cons_self) (by decide)
        rw [hshape, Text.isIdentifier_number hdigits]
        simp [isStray, hshape, List.isPrefixOf, hplus.symm]
      · rw [hshape, Text.not_isIdentifier_of_mem List.mem_cons_self Text.not_isIdentifierPart_plus]
        simp [isStray, hshape]
  | named names =>
      rcases h name (List.contains_iff_mem.mp hname) with hplain | ⟨plain, -, hshape⟩
      · rw [hplain]
        cases hstray : (named names).isStray name with
        | false => rfl
        | true =>
            obtain ⟨rest, hrest⟩ := List.isPrefixOf_iff_prefix.mp hstray
            have hhash : '#' ∈ '#' :: rest := List.mem_cons_self
            rw [← hrest] at hplain
            exact absurd hplain (by
              simp [Text.not_isIdentifier_of_mem hhash Text.not_isIdentifierPart_hash])
      · rw [hshape, Text.not_isIdentifier_of_mem List.mem_cons_self Text.not_isIdentifierPart_hash]
        simp [isStray, hshape]

theorem find?_stray {fields : Fields} (h : fields.WellNamed) {names : List String}
    (hnames : ∀ name ∈ names, fields.has name = true) :
    names.find? (!Text.isIdentifier ·.toList) = names.find? fields.isStray := by
  induction names with
  | nil => rfl
  | cons name names ih =>
      have hname := isIdentifier_eq h (hnames name List.mem_cons_self)
      simp only [List.find?_cons, hname, Bool.not_not]
      rw [ih fun other hother => hnames other (List.mem_cons_of_mem name hother)]

/-- All names of a message are names of fields, and this one of them is the first stray one. -/
def StopsAt (fields : Fields) (message name : String) : Prop :=
  (∀ other ∈ fields.mentions message, fields.has other = true) ∧
    (fields.mentions message).find? fields.isStray = some name

end Fields

/-! ## Where the expansion stops -/

namespace Declaration

theorem format_stops_iff {fields : Fields} (h : fields.WellNamed) {message : String}
    {onSelf : Bool} {name : String} :
    format fields message onSelf = .error (.notIdentifier name) ↔ fields.StopsAt message name := by
  rw [format_eq_error, Fields.StopsAt]
  constructor
  · rintro (⟨_, -, hr⟩ | ⟨hfields, other, hfind, hr⟩)
    · cases hr
    · cases hr
      exact ⟨hfields, Fields.find?_stray h hfields ▸ hfind⟩
  · rintro ⟨hfields, hfind⟩
    exact .inr ⟨hfields, name, (Fields.find?_stray h hfields).trans hfind, rfl⟩

/-- Nothing but identifiers is turned into identifiers: there is something to report, or all names
of the message are identifiers. -/
def Guarded (fields : Fields) (message : String) (onSelf : Bool) : Prop :=
  (∃ r, format fields message onSelf = .error r ∧ r.isReported = true) ∨
    ∀ name ∈ fields.mentions message, Text.isIdentifier name.toList = true

theorem guarded_iff {fields : Fields} (h : fields.WellNamed) {message : String} {onSelf : Bool} :
    Guarded fields message onSelf ↔ ¬∃ name, fields.StopsAt message name := by
  constructor
  · rintro hguarded ⟨name, hstop⟩
    rcases hguarded with ⟨r, hformat, hreported⟩ | hidentifiers
    · rw [(format_stops_iff h).mpr hstop] at hformat
      cases hformat
      exact Bool.false_ne_true hreported
    · have hmem := List.mem_of_find?_eq_some hstop.2
      have hname := hidentifiers name hmem
      rw [Fields.isIdentifier_eq h (hstop.1 name hmem), List.find?_some hstop.2] at hname
      exact Bool.false_ne_true hname
  · intro hnone
    cases hformat : format fields message onSelf with
    | ok formatting => exact .inr (format_eq_ok.mp hformat).2.1
    | error r =>
        rcases format_eq_error.mp hformat with ⟨name, -, rfl⟩ | ⟨-, name, -, rfl⟩
        · exact .inl ⟨_, hformat, rfl⟩
        · exact absurd ⟨name, (format_stops_iff h).mp hformat⟩ hnone

/-- What becomes of the names of a message: they are guarded unless all of them are names of fields
and one of these is stray, and then the expansion stops at the first stray one. -/
structure IdentifierSpec (fields : Fields) (message : String) (onSelf : Bool) : Prop where
  guarded_iff : Guarded fields message onSelf ↔ ¬∃ name, fields.StopsAt message name
  stops_iff : ∀ name,
    format fields message onSelf = .error (.notIdentifier name) ↔ fields.StopsAt message name

/-- For all fields and messages, stray names are the only ones that get past the checks. -/
theorem identifiers_guarded (fields : Fields) (h : fields.WellNamed) (message : String)
    (onSelf : Bool) : IdentifierSpec fields message onSelf :=
  ⟨guarded_iff h, fun _ => format_stops_iff h⟩

/-- The second of two names has the mark of a raw one. -/
theorem identifiers_guarded_of_raw_name :
    (Fields.named ["at", "r#type"]).WellNamed ∧
      IdentifierSpec (.named ["at", "r#type"]) "\x7bat\x7d: \x7br#type\x7d" false := by
  have hnames : (Fields.named ["at", "r#type"]).WellNamed := by
    intro name hname
    rcases List.mem_pair.mp hname with rfl | rfl
    · exact .inl (by decide +kernel)
    · exact .inr ⟨['t', 'y', 'p', 'e'], by decide +kernel, by decide +kernel⟩
  exact ⟨hnames, identifiers_guarded _ hnames _ _⟩

/-- A number with a plus sign is taken for the name of a tuple field, and a raw name is the name of
its field. Neither is an identifier, and neither is reported. -/
theorem stray_names_unguarded :
    ¬Guarded (.tuple 1) "\x7bf+0\x7d" false ∧
      ¬Guarded (.named ["r#type"]) "\x7br#type\x7d" false := by
  have hnames : (Fields.named ["r#type"]).WellNamed := by
    intro name hname
    rw [List.mem_singleton.mp hname]
    exact .inr ⟨['t', 'y', 'p', 'e'], by decide +kernel, by decide +kernel⟩
  have htuple : (Fields.tuple 1).WellNamed := trivial
  refine ⟨fun hguarded => ?_, fun hguarded => ?_⟩
  · exact (guarded_iff htuple).mp hguarded ⟨"f+0", by decide +kernel, by decide +kernel⟩
  · exact (guarded_iff hnames).mp hguarded ⟨"r#type", by decide +kernel, by decide +kernel⟩

/-! ## Declarations -/

/-- All names of fields in a declaration are identifiers, with or without a mark. -/
def WellNamed (declaration : Declaration) : Prop :=
  match declaration.body with
  | .enumeration variants => ∀ variant ∈ variants, variant.fields.WellNamed
  | .record _ fields => fields.WellNamed
  | .union => True

/-- The expansion of a declaration comes to a message with a stray name: all variants in front of it
can be expanded. -/
inductive StopsAt : Declaration → String → Prop where
  | variant {type parameters before current after message name}
      (hbefore : ∀ earlier ∈ before, ∃ arm, expandVariant earlier = .ok arm)
      (hmessage : messageOf current.attributes (.variant current.name) = .ok message)
      (hstop : current.fields.StopsAt message name) :
      StopsAt ⟨type, parameters, .enumeration (before ++ current :: after)⟩ name
  | record {type parameters attributes fields message name}
      (hmessage : messageOf attributes (.type type) = .ok message)
      (hstop : fields.StopsAt message name) :
      StopsAt ⟨type, parameters, .record attributes fields⟩ name

theorem mapM_eq_error {α β ε : Type} {f : α → Except ε β} {xs : List α} {e : ε} :
    xs.mapM f = .error e ↔ ∃ before x after, xs = before ++ x :: after ∧
      (∀ y ∈ before, ∃ b, f y = .ok b) ∧ f x = .error e := by
  induction xs with
  | nil => simp [pure, Except.pure]
  | cons x xs ih =>
      rw [List.mapM_cons, except_bind_eq_error]
      constructor
      · rintro (hx | ⟨b, hx, hxs⟩)
        · exact ⟨[], x, xs, rfl, by simp, hx⟩
        · rcases except_bind_eq_error.mp hxs with hxs | ⟨bs, -, hreturn⟩
          · obtain ⟨before, y, after, rfl, hbefore, hy⟩ := ih.mp hxs
            refine ⟨x :: before, y, after, rfl, ?_, hy⟩
            exact List.forall_mem_cons.mpr ⟨⟨b, hx⟩, hbefore⟩
          · cases hreturn
      · rintro ⟨before, y, after, heq, hbefore, hy⟩
        cases before with
        | nil =>
            obtain ⟨rfl, -⟩ := List.cons.inj heq
            exact .inl hy
        | cons first before =>
            obtain ⟨rfl, rfl⟩ := List.cons.inj heq
            obtain ⟨⟨b, hx⟩, hbefore⟩ := List.forall_mem_cons.mp hbefore
            have hxs := ih.mpr ⟨before, y, after, rfl, hbefore, hy⟩
            exact .inr ⟨b, hx, except_bind_eq_error.mpr (.inl hxs)⟩

theorem messageOf_eq_error {attributes : List Attribute} {target : MessageTarget} {r : Rejection}
    (h : messageOf attributes target = .error r) : r.isReported = true := by
  rw [messageOf] at h
  split at h
  · cases h
    rfl
  · split at h
    · cases h
    · split at h <;> cases h
      rfl
    all_goals
      cases h
      rfl

theorem messageOf_format_stops_iff {α : Type} {attributes : List Attribute}
    {target : MessageTarget} {fields : Fields} (h : fields.WellNamed) {onSelf : Bool}
    {f : Formatting → α} {name : String} :
    (messageOf attributes target >>= fun message =>
      format fields message onSelf >>= fun formatting => pure (f formatting)) =
        .error (.notIdentifier name) ↔
      ∃ message, messageOf attributes target = .ok message ∧ fields.StopsAt message name := by
  rw [except_bind_eq_error]
  constructor
  · rintro (hmessage | ⟨message, hmessage, hrest⟩)
    · exact absurd (messageOf_eq_error hmessage) Bool.false_ne_true
    · rcases except_bind_eq_error.mp hrest with hformat | ⟨formatting, -, hreturn⟩
      · exact ⟨message, hmessage, (format_stops_iff h).mp hformat⟩
      · cases hreturn
  · rintro ⟨message, hmessage, hstop⟩
    have hformat := (@format_stops_iff fields h message onSelf name).mpr hstop
    exact .inr ⟨message, hmessage, except_bind_eq_error.mpr (.inl hformat)⟩

theorem StopsAt.expand {declaration : Declaration} {name : String} (h : declaration.WellNamed)
    (hstops : declaration.StopsAt name) : declaration.expand = .error (.notIdentifier name) := by
  cases hstops with
  | @variant _ _ before current after message _ hbefore hmessage hstop =>
      have hcurrent : expandVariant current = .error (.notIdentifier name) :=
        (messageOf_format_stops_iff (h current (by simp))).mpr ⟨message, hmessage, hstop⟩
      have hvariants := mapM_eq_error.mpr ⟨before, current, after, rfl, hbefore, hcurrent⟩
      exact except_bind_eq_error.mpr (.inl hvariants)
  | @record _ _ attributes fields message _ hmessage hstop =>
      exact (messageOf_format_stops_iff h).mpr ⟨message, hmessage, hstop⟩

/-- The expansion of a declaration stops exactly where one of its messages has a stray name. -/
theorem expand_stops_iff {declaration : Declaration} (h : declaration.WellNamed) {name : String} :
    declaration.expand = .error (.notIdentifier name) ↔ declaration.StopsAt name := by
  refine ⟨fun hexpand => ?_, StopsAt.expand h⟩
  obtain ⟨type, parameters, variants | ⟨attributes, fields⟩ | _⟩ := declaration
  · rcases except_bind_eq_error.mp hexpand with hvariants | ⟨arms, -, hreturn⟩
    · obtain ⟨before, current, after, rfl, hbefore, hcurrent⟩ := mapM_eq_error.mp hvariants
      obtain ⟨message, hmessage, hstop⟩ :=
        (messageOf_format_stops_iff (h current (by simp))).mp hcurrent
      exact .variant hbefore hmessage hstop
    · cases hreturn
  · obtain ⟨message, hmessage, hstop⟩ := (messageOf_format_stops_iff h).mp hexpand
    exact .record hmessage hstop
  · cases hexpand

end Declaration

end FloatMachine
