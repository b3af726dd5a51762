import FloatMachine.Image.Loading

/-!
# The operating system

What a program asks of the system it runs on: to open a file and to grant memory. Either may be
refused, and an opened file may still fail or come in pieces.
-/

namespace FloatMachine

/-- How a system answers a program. -/
structure System where
  /-- The file that a path leads to, or the reason why it cannot be opened. -/
  openFile : String → Except String OpenFile
  heap : Heap

/-- Loads the image a path leads to. -/
def System.loadImage (system : System) (path : String) : Except Fault Image :=
  match system.openFile path with
  | .error reason => .error (.load path reason)
  | .ok file => Image.load system.heap path file

end FloatMachine
