import FloatMachine.Job

/-!
# The command line

The program takes the path of one image and two switches. Arguments are looked at from left to
right, and the first one that settles the matter does so.
-/

namespace FloatMachine

/-- What a command line asks for. -/
inductive Request where
  /-- Show how the program is used. -/
  | help
  /-- Run the image at a path. -/
  | run (path : String)
  /-- Complain, and show how the program is used. -/
  | misuse (complaint : Option String)
deriving DecidableEq

/-- A command line: the name the program was called by, the request, and how the log is to
look. -/
structure CommandLine where
  program : String
  request : Request
  settings : LogSettings

namespace CommandLine

/-- Reads arguments from left to right, given what the ones in front have settled. -/
def read (program : String) (settings : LogSettings) (image : Option String) :
    List String → CommandLine
  | [] =>
    match image with
    | some path => ⟨program, .run path, settings⟩
    | none => ⟨program, .misuse none, settings⟩
  | argument :: rest =>
    if argument = "--help" || argument = "-h" then ⟨program, .help, settings⟩
    else if argument = "--trace" then
      read program { settings with showDebug := true } image rest
    else if argument = "--no-timestamp" then
      read program { settings with showTime := false } image rest
    else if argument.toList.head? = some '-' then
      ⟨program, .misuse (some ("Unknown option: " ++ argument ++ "\n")), settings⟩
    else
      match image with
      | none => read program settings (some argument) rest
      | some _ =>
        ⟨program, .misuse (some ("Unexpected argument: " ++ argument ++ "\n")), settings⟩

/-- The name of a program that was called by none. -/
def defaultProgram : String := "hybrid-vm"

/-- The command line in a list of words. The first one is the name the program was called by. -/
def ofWords (words : List String) : CommandLine :=
  read (words.head?.getD defaultProgram) {} none words.tail

/-- How the program is used. -/
def usage (program : String) : String :=
  "Usage: " ++ program ++ " <image> [OPTIONS]\n\nOptions:\n"
    ++ "  --trace          Log every fetched instruction\n"
    ++ "  --no-timestamp   Omit timestamps from log lines\n"
    ++ "  -h, --help       Show this message\n"

/-- What a process leaves behind. -/
structure Outcome where
  /-- The exit status; none if the process was aborted. -/
  status : Option Nat
  output : String
  log : List LogLine
  /-- What is written behind the log. -/
  notice : String
  /-- The input that has not been read. -/
  unread : List UInt8
deriving DecidableEq

/-- The text on the stream for errors, on a terminal. -/
def Outcome.errors (outcome : Outcome) (terminal : Terminal) : String :=
  terminal.paintAll outcome.log ++ outcome.notice

/-- The answer to a request that runs nothing. -/
def explain (line : CommandLine) (status : Nat) (complaint : Option String) (input : List UInt8)
    (clock : Clock) : Outcome where
  status := some status
  output := ""
  log := line.settings.lines clock (complaint.toList.map fun text => ⟨.error, text⟩)
  notice := usage line.program
  unread := input

/-- The whole program, for up to `fuel` steps of the machine. Nothing is known of its outcome while
the run has not ended. -/
def perform (line : CommandLine) (fuel : Nat) (system : System) (input : List UInt8)
    (clock : Clock) : Option Outcome :=
  match line.request with
  | .help => some (line.explain 0 none input clock)
  | .misuse complaint => some (line.explain 1 complaint input clock)
  | .run path =>
    (Job.execute fuel system path line.settings.showDebug { unread := input }).map fun report =>
      { status := (report.verdict path).1.status?
        output := report.console.written
        log := line.settings.lines clock (report.records path)
        notice := ""
        unread := report.console.unread }

end CommandLine

end FloatMachine
