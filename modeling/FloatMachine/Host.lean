import FloatMachine.Fault

/-!
# Hosts

A host is what a running image exchanges words with. It may refuse either direction with a fault
and keeps whatever state it has then reached.
-/

namespace FloatMachine

/-- States from which a word can be read and to which one can be written. -/
class Host (σ : Type) where
  /-- The next word from the host. -/
  read : EStateM Fault σ Word
  /-- Hands a word to the host. -/
  write : Word → EStateM Fault σ Unit

end FloatMachine
