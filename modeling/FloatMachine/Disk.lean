import FloatMachine.System

/-!
# Disks

A disk holds the files and directories below a working directory. Around it there are only
directories without entries of their own. Paths are followed component by component.
-/

namespace FloatMachine

/-- What a name on a disk stands for. -/
inductive Entry where
  | file (content : List UInt8)
  | directory
deriving DecidableEq

/-- Entries, each with the names that lead to it from the working directory. -/
structure Disk where
  entries : List (List String × Entry)

/-- Why a path cannot be opened or read. -/
inductive PathError where
  | notFound
  | notDirectory
  | isDirectory
  | nameTooLong
  | containsNull
deriving DecidableEq

/-- The wording of the operating system. -/
def PathError.reason : PathError → String
  | notFound => "No such file or directory (os error 2)"
  | notDirectory => "Not a directory (os error 20)"
  | isDirectory => "Is a directory (os error 21)"
  | nameTooLong => "File name too long (os error 36)"
  | containsNull => "file name contained an unexpected NUL byte"

/-- A point reached while following a path. -/
inductive Place where
  | file (content : List UInt8)
  /-- A directory of the disk, by the names that lead to it. -/
  | directory (trail : List String)
  /-- A directory that is not below the working directory. -/
  | outside
deriving DecidableEq

namespace Disk

/-- The most bytes a name can have. -/
def nameLimit : Nat := 255

/-- The most bytes a path can have. -/
def pathLimit : Nat := 4095

/-- The disk with files and, where no content is given, directories. -/
def ofFiles (files : List (String × Option (List UInt8))) : Disk where
  entries := files.map fun (name, content) =>
    (name.splitOn "/",
      match content with
      | some bytes => .file bytes
      | none => .directory)

/-- The entry that names lead to. Leading to another entry makes a directory. -/
def entry? (disk : Disk) (trail : List String) : Option Entry :=
  match disk.entries.lookup trail with
  | some entry => some entry
  | none =>
    if disk.entries.any fun (other, _) => trail.isPrefixOf other then some .directory else none

/-- Follows one component of a path. An empty component stands for the directory itself. -/
def follow (disk : Disk) (place : Place) (component : String) : Except PathError Place :=
  match place with
  | .file _ => .error .notDirectory
  | .outside =>
    if component = "" || component = "." || component = ".." then .ok .outside
    else if nameLimit < component.utf8ByteSize then .error .nameTooLong
    else .error .notFound
  | .directory trail =>
    if component = "" || component = "." then .ok (.directory trail)
    else if component = ".." then
      .ok (if trail.isEmpty then .outside else .directory trail.dropLast)
    else if nameLimit < component.utf8ByteSize then .error .nameTooLong
    else
      match disk.entry? (trail ++ [component]) with
      | some (.file content) => .ok (.file content)
      | some .directory => .ok (.directory (trail ++ [component]))
      | none => .error .notFound

/-- The place a path leads to. -/
def find (disk : Disk) (path : String) : Except PathError Place :=
  if path.toList.contains '\x00' then .error .containsNull
  else if path = "" then .error .notFound
  else if pathLimit < path.utf8ByteSize then .error .nameTooLong
  else
    let start := if path.toList.head? = some '/' then .outside else .directory []
    (path.splitOn "/").foldlM disk.follow start

/-- Opens the file a path leads to. A directory can be opened but not read. -/
def openFile (disk : Disk) (path : String) : Except PathError OpenFile :=
  match disk.find path with
  | .error error => .error error
  | .ok (.file content) => .ok (.ofBytes content)
  | .ok (.directory _) | .ok .outside => .ok (.unreadable PathError.isDirectory.reason)

/-- A system with a disk and an address space of 47 bits. -/
def system (disk : Disk) : System where
  openFile := fun path => (disk.openFile path).mapError PathError.reason
  heap := fun _ => Image.roomy

end Disk

end FloatMachine
