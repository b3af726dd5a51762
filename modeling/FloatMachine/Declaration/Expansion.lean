import FloatMachine.Declaration
import FloatMachine.Declaration.Literal
import FloatMachine.Declaration.Template

/-!
# Expanding error declarations

Every message of a declaration becomes a formatting step: a pattern that binds the fields the
message mentions, and a call that writes the message with these fields as arguments.
-/

namespace FloatMachine

/-- What a formatting step matches the fields of a variant with. -/
inductive FieldPattern where
  | unit
  /-- A name for every field that is mentioned. -/
  | tuple (slots : List (Option String))
  /-- The mentioned fields by name; the others are left out. -/
  | record (names : List String)
deriving DecidableEq

/-- Where the value of an argument comes from. -/
inductive ArgumentSource where
  /-- A name bound by the pattern. -/
  | bound (name : String)
  /-- A field of the value itself, by number. -/
  | element (index : Nat)
  /-- A field of the value itself, by name. -/
  | field (name : String)
deriving DecidableEq

/-- An argument of the call that writes a message. -/
structure Argument where
  name : String
  source : ArgumentSource
deriving DecidableEq

/-- How one set of fields is written. -/
structure Formatting where
  pattern : FieldPattern
  template : String
  /-- The arguments; without fields there is no list of them, not even an empty one. -/
  arguments : Option (List Argument)
deriving DecidableEq

/-- The steps of a whole declaration. -/
inductive Expansion where
  /-- One step for each variant, by name. -/
  | choice (arms : List (String × Formatting))
  | single (formatting : Formatting)
deriving DecidableEq

namespace Rejection

/-- Whether the declaration is answered with an error at compile time. A name that cannot be
written as an identifier stops the expansion instead. -/
def isReported : Rejection → Bool
  | notIdentifier _ => false
  | _ => true

def message : Rejection → String
  | missingMessage (.variant name) => missing ("variant `" ++ name ++ "`")
  | missingMessage (.type name) => missing ("type `" ++ name ++ "`")
  | invalidAttribute => "invalid #[error] attribute; use #[error(\"message\")]"
  | notStringLiteral =>
    "#[error] message must be a string literal, e.g. #[error(\"bad opcode \x7b0:#04x\x7d\")]"
  | unknownField name => "#[error] message refers to `" ++ name ++ "`, which is not a field"
  | unsupportedUnion => "Error derive does not support unions"
  | notIdentifier name => Text.quoted name ++ " is not a valid Ident"
where
  missing (target : String) : String :=
    "missing #[error(\"...\")] attribute on " ++ target

end Rejection

namespace Declaration

/-- The message given by the first attribute named `error`. -/
def messageOf (attributes : List Attribute) (target : MessageTarget) : Except Rejection String :=
  match attributes.find? (·.path = "error") with
  | none => .error (.missingMessage target)
  | some found =>
    match found.form with
    | .message text => .ok text
    | .list tokens =>
      match Literal.read? tokens with
      | some text => .ok text
      | none => .error .notStringLiteral
    | .value | .bare => .error .invalidAttribute

/-- The number of the field that a name such as `f0` stands for. The number may have a plus sign
and leading zeros, and must fit into 64 bits. -/
def fieldIndex? (name : String) : Option Nat :=
  match name.toList with
  | 'f' :: rest =>
    let digits := if rest.head? = some '+' then rest.drop 1 else rest
    let index := digits.foldl (fun n c => 10 * n + (c.toNat - '0'.toNat)) 0
    if digits.isEmpty || !digits.all Char.isDigit || Nat.pow 2 64 ≤ index then none else some index
  | _ => none

/-- Checks that every name is an identifier. A raw identifier, with its mark `r#`, is none. -/
def checkIdentifiers (names : List String) : Except Rejection Unit :=
  match names.find? (!Text.isIdentifier ·.toList) with
  | some name => .error (.notIdentifier name)
  | none => .ok ()

/-- Checks that every name is the name of a field. -/
def checkFields (isField : String → Bool) (names : List String) : Except Rejection Unit :=
  match names.find? (!isField ·) with
  | some name => .error (.unknownField name)
  | none => .ok ()

/-- The formatting step for a set of fields. With `onSelf` the fields are taken from the value
itself, not from the pattern. Without fields, the message is written as it is. -/
def format (fields : Fields) (message : String) (onSelf : Bool) : Except Rejection Formatting :=
  match fields with
  | .unit => .ok ⟨.unit, message, none⟩
  | .tuple count => do
    let template := Template.nameNumbers message.toList
    let used := (Template.references template).map String.ofList
    let index (name : String) : Option Nat := (fieldIndex? name).filter (· < count)
    checkFields (fun name => (index name).isSome) used
    checkIdentifiers used
    let slot (i : Nat) : Option String :=
      let name := "f" ++ toString i
      if used.contains name then some name else none
    let argument (name : String) : Argument :=
      ⟨name, if onSelf then .element ((index name).getD 0) else .bound name⟩
    return ⟨.tuple ((List.range count).map slot), String.ofList template,
      some (used.map argument)⟩
  | .named names => do
    let used := (Template.references message.toList).map String.ofList
    checkFields names.contains used
    checkIdentifiers used
    let argument (name : String) : Argument :=
      ⟨name, if onSelf then .field name else .bound name⟩
    return ⟨.record used, message, some (used.map argument)⟩

/-- The step for a variant. -/
def expandVariant (variant : Variant) : Except Rejection (String × Formatting) := do
  let message ← messageOf variant.attributes (.variant variant.name)
  let formatting ← format variant.fields message false
  return (variant.name, formatting)

/-- The steps of a declaration. The first variant that cannot be expanded decides. -/
def expand (declaration : Declaration) : Except Rejection Expansion :=
  match declaration.body with
  | .enumeration variants => do
    let arms ← variants.mapM expandVariant
    return .choice arms
  | .record attributes fields => do
    let message ← messageOf attributes (.type declaration.name)
    let formatting ← format fields message true
    return .single formatting
  | .union => .error .unsupportedUnion

end Declaration

end FloatMachine
