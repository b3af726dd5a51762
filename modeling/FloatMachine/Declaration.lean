/-!
# Error declarations

Rust error types are declared with a message template on every variant. A declaration is what the
expansion into `Display` and `Error` implementations needs to know of such a type.
-/

namespace FloatMachine

/-- How the content of an attribute is written. -/
inductive AttributeForm where
  /-- A string literal between parentheses, by its value. -/
  | message (text : String)
  /-- Any tokens between parentheses, as text. -/
  | list (tokens : String)
  /-- A value behind an equals sign. -/
  | value
  /-- Nothing. -/
  | bare
deriving DecidableEq

/-- An attribute of a type or a variant. -/
structure Attribute where
  path : String
  form : AttributeForm
deriving DecidableEq

/-- The fields of a variant or a structure. -/
inductive Fields where
  | unit
  | tuple (count : Nat)
  | named (names : List String)
deriving DecidableEq

/-- One variant of an enumeration. -/
structure Variant where
  name : String
  attributes : List Attribute
  fields : Fields
deriving DecidableEq

/-- The kinds of types that can be declared. Attributes of an enumeration play no role. -/
inductive DeclarationBody where
  | enumeration (variants : List Variant)
  | record (attributes : List Attribute) (fields : Fields)
  | union
deriving DecidableEq

/-- A type declaration: its name, the names of its lifetime and type parameters, and its body. -/
structure Declaration where
  name : String
  parameters : List String
  body : DeclarationBody
deriving DecidableEq

/-- What a message belongs to. -/
inductive MessageTarget where
  | variant (name : String)
  | type (name : String)
deriving DecidableEq

/-- Why a declaration cannot be expanded. -/
inductive Rejection where
  | missingMessage (target : MessageTarget)
  | invalidAttribute
  | notStringLiteral
  | unknownField (name : String)
  | unsupportedUnion
  /-- A placeholder names a field but cannot be written as an identifier. -/
  | notIdentifier (name : String)
deriving DecidableEq

end FloatMachine
