import FloatMachine.CommandLine
import Std.Time.DateTime.Timestamp

/-!
# The program

Reads the command line, loads the image and drives the job: input is fetched line by line when the
image asks for it, output and log lines are shown as they come up.
-/

namespace FloatMachine.Main

/-- What the clock shows. -/
def now : IO Instant := do
  let time ← Std.Time.Timestamp.now
  let nanoseconds := time.toNanosecondsSinceUnixEpoch.val
  return .ofClock (nanoseconds / 1000000000) (nanoseconds % 1000000000).toNat

/-- Terminals take colours unless they say they cannot or the user objects. -/
def currentTerminal : IO Terminal := do
  let terminal ← IO.getEnv "TERM"
  let objection ← IO.getEnv "NO_COLOR"
  if terminal.isSome && terminal ≠ some "dumb" && objection.isNone then return .colored
  else return .plain

/-- The reason of an error, with its number. -/
def reasonOf : IO.Error → String
  | .noFileOrDirectory _ code details | .interrupted _ code details
  | .alreadyExists _ code details | .invalidArgument _ code details
  | .permissionDenied _ code details | .resourceExhausted _ code details
  | .inappropriateType _ code details | .noSuchThing _ code details
  | .otherError code details | .resourceBusy code details | .resourceVanished code details
  | .unsupportedOperation code details | .hardwareFault code details
  | .unsatisfiedConstraints code details | .illegalOperation code details
  | .protocolError code details | .timeExpired code details => s!"{details} (os error {code})"
  | .unexpectedEof => "unexpected end of file"
  | .userError details => details

/-- The image at a path of the file system. -/
def loadImage (path : String) : IO (Except Fault Image) := do
  try
    let handle ← IO.FS.Handle.mk path .read
    let content ← handle.readBinToEnd
    return Image.load (fun _ => Image.roomy) path (.ofBytes content.toList)
  catch error => return .error (.load path (reasonOf error))

/-- One line of input, byte by byte, so that nothing behind it is waited for. -/
partial def readLine (input : IO.FS.Stream) (line : List UInt8) : IO (List UInt8) := do
  match (← input.read 1).toList with
  | byte :: _ =>
    if byte = Console.newline then return (byte :: line).reverse
    else readLine input (byte :: line)
  | [] => return line.reverse

/-- How log lines are shown. -/
structure Display where
  settings : LogSettings
  terminal : Terminal

/-- Shows log lines. Each has the time at which it is shown. -/
def showRecords (display : Display) (records : List Record) : IO Unit := do
  let stream ← IO.getStderr
  for record in records do
    let time ← now
    stream.putStr (display.terminal.paintAll (display.settings.lines (fun _ => time) [record]))

/-- Shows what has come up and goes on without it. -/
def showProgress (display : Display) (job : Job) : IO Job := do
  let (output, records, job) := job.drain
  showRecords display records.toList
  let stdout ← IO.getStdout
  stdout.putStr output
  stdout.flush
  return job

/-- Drives a job to its end. Input that has ended is not asked for again. -/
partial def drive (display : Display) (inputEnded : Bool) (job : Job) : IO Report := do
  if job.isStarved && !inputEnded then
    let line ← readLine (← IO.getStdin) []
    drive display line.isEmpty (job.feed line)
  else
    let (ending, job) := job.resume 1
    match ending with
    | none => drive display inputEnded (← showProgress display job)
    | some ending => return (← showProgress display job).report ending

/-- Runs the image at a path. -/
def execute (display : Display) (path : String) : IO Report := do
  match ← loadImage path with
  | .error fault => return { fault := some fault, console := {}, journal := #[] }
  | .ok image =>
    let job ← showProgress display (.ofImage path display.settings.showDebug {} image)
    match job.start with
    | .error fault => return job.report (.failed fault)
    | .ok job => drive display false job

/-- The status a shell sees of a program that was aborted. -/
def abortStatus : UInt32 := 134

/-- Answers a request that runs nothing. -/
def explain (display : Display) (line : CommandLine) (status : Nat)
    (complaint : Option String) : IO UInt32 := do
  let time ← now
  let outcome := line.explain status complaint [] fun _ => time
  (← IO.getStderr).putStr (outcome.errors display.terminal)
  return UInt32.ofNat status

/-- The whole program. -/
def run (arguments : List String) : IO UInt32 := do
  let line := CommandLine.ofWords (CommandLine.defaultProgram :: arguments)
  let display := ⟨line.settings, ← currentTerminal⟩
  match line.request with
  | .help => explain display line 0 none
  | .misuse complaint => explain display line 1 complaint
  | .run path =>
    let report ← execute display path
    showRecords display (report.records path)
    match (report.verdict path).1.status? with
    | some status => return UInt32.ofNat status
    | none => return abortStatus

end FloatMachine.Main

def main (arguments : List String) : IO UInt32 := FloatMachine.Main.run arguments
