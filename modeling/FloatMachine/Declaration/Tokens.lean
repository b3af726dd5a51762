import FloatMachine.Declaration.Expansion

/-!
# Expansions as Rust tokens

The expansion of a declaration is written as a sequence of tokens: an implementation of `Display`
that carries out the formatting steps, and an empty implementation of `Error`.
-/

namespace FloatMachine

/-- The tokens on one line, with a blank between two of them but none inside parentheses next to
the parentheses. -/
def joinTokens : List String → String
  | [] => ""
  | [token] => token
  | token :: next :: rest =>
    let gap := if token = "(" || next = ")" then "" else " "
    token ++ gap ++ joinTokens (next :: rest)

/-- Items with a comma between two of them. -/
def separate : List (List String) → List String
  | [] => []
  | [item] => item
  | item :: rest => item ++ "," :: separate rest

namespace FieldPattern

def tokens : FieldPattern → List String
  | unit => []
  | tuple slots => "(" :: separate (slots.map fun slot => [slot.getD "_"]) ++ [")"]
  | record names => "\x7b" :: names.flatMap (fun name => [name, ","]) ++ ["..", "\x7d"]

end FieldPattern

namespace Argument

def tokens (argument : Argument) : List String :=
  let value :=
    match argument.source with
    | .bound name => [name]
    | .element index => ["self", ".", toString index]
    | .field name => ["self", ".", name]
  argument.name :: "=" :: value

end Argument

namespace Formatting

/-- The call that writes the message. -/
def call (formatting : Formatting) : List String :=
  let arguments :=
    match formatting.arguments with
    | none => []
    | some arguments => "," :: separate (arguments.map Argument.tokens)
  ["write", "!", "(", "f", ",", Literal.write formatting.template] ++ arguments ++ [")"]

end Formatting

namespace Expansion

/-- The body of the formatting function. -/
def body : Expansion → List String
  | single formatting => formatting.call
  | choice arms =>
    ["match", "self", "\x7b"]
      ++ arms.flatMap (fun (name, formatting) =>
        ["Self", "::", name] ++ formatting.pattern.tokens ++ ["=>"] ++ formatting.call ++ [","])
      ++ ["\x7d"]

end Expansion

namespace Declaration

/-- Lifetimes are marked by an apostrophe. -/
def isLifetime (parameter : String) : Bool := parameter.toList.head? = some '\''

/-- The parameters between angle brackets, lifetimes first. Each keeps the comma that follows it
in the declaration, and one is added where it is needed. -/
def generics (parameters : List String) : List String :=
  let last := parameters.length - 1
  let withComma := parameters.zipIdx.map fun (parameter, i) => (parameter, decide (i ≠ last))
  let lifetimes := withComma.filter fun (parameter, _) => isLifetime parameter
  let types := withComma.filter fun (parameter, _) => !isLifetime parameter
  let write := List.flatMap fun (parameter, comma) => parameter :: if comma then [","] else []
  let needsComma := !types.isEmpty && lifetimes.any fun (_, comma) => !comma
  if parameters.isEmpty then []
  else "<" :: write lifetimes ++ (if needsComma then [","] else []) ++ write types ++ [">"]

/-- The head of an implementation of a trait for the declared type. -/
def implementation (declaration : Declaration) (trait : List String) : List String :=
  "impl" :: generics declaration.parameters ++ trait ++ ["for", declaration.name]
    ++ generics declaration.parameters

/-- The two implementations. -/
def tokens (declaration : Declaration) (expansion : Expansion) : List String :=
  declaration.implementation ["::", "std", "::", "fmt", "::", "Display"]
    ++ ["\x7b", "fn", "fmt", "(", "&", "self", ",", "f", ":", "&", "mut", "::", "std", "::",
      "fmt", "::", "Formatter", "<", "'_", ">", ")", "->", "::", "std", "::", "fmt", "::",
      "Result", "\x7b"]
    ++ expansion.body ++ ["\x7d", "\x7d"]
    ++ declaration.implementation ["::", "std", "::", "error", "::", "Error"]
    ++ ["\x7b", "\x7d"]

/-- The text of the two implementations. -/
def render (declaration : Declaration) : Except Rejection String :=
  declaration.expand.map fun expansion => joinTokens (declaration.tokens expansion)

end Declaration

end FloatMachine
