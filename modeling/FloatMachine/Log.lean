import FloatMachine.Calendar

/-!
# Log records

What a run has to say beside its output is a sequence of records. Turning a record into a line is
a matter of settings, which say what parts the line has. How a line looks is up to the terminal.
-/

namespace FloatMachine

inductive Color where
  | cyan
  | yellow
  | red
deriving DecidableEq

/-- How a line looks on a terminal. -/
structure Style where
  color : Option Color := none
  bold : Bool := false
  dimmed : Bool := false
deriving DecidableEq

/-- How much a record matters. -/
inductive Level where
  | debug
  | info
  | warn
  | error
deriving DecidableEq

namespace Level

def label : Level → String
  | debug => "DEBUG"
  | info => "INFO"
  | warn => "WARN"
  | error => "ERROR"

/-- Debugging is dim cyan, a warning bold yellow and an error bold red. -/
def style : Level → Style
  | debug => { color := some .cyan, dimmed := true }
  | info => {}
  | warn => { color := some .yellow, bold := true }
  | error => { color := some .red, bold := true }

end Level

/-- One thing worth telling. -/
structure Record where
  level : Level
  message : String
deriving DecidableEq

/-- A line of the log, and how it is to look. -/
structure LogLine where
  style : Style
  text : String
deriving DecidableEq

/-- What a clock shows each time it is looked at. -/
abbrev Clock := Nat → Instant

/-- How records become lines. -/
structure LogSettings where
  /-- Records of the lowest level are written too. -/
  showDebug : Bool := false
  showLevel : Bool := true
  showTime : Bool := true
deriving DecidableEq

namespace LogSettings

/-- Whether records of a level are written. -/
def enables (settings : LogSettings) (level : Level) : Bool :=
  level ≠ .debug || settings.showDebug

/-- The line for a record written at a point in time. -/
def line (settings : LogSettings) (now : Instant) (record : Record) : LogLine where
  style := record.level.style
  text :=
    (if settings.showTime then now.timestamp ++ " " else "")
      ++ (if settings.showLevel then "[" ++ record.level.label ++ "] " else "")
      ++ record.message ++ "\n"

/-- The lines for records. The clock is looked at once for each record that is written. -/
def lines (settings : LogSettings) (clock : Clock) (records : List Record) : List LogLine :=
  (records.filter fun record => settings.enables record.level).zipIdx.map fun (record, i) =>
    settings.line (clock i) record

end LogSettings

/-! ## Terminals -/

/-- What a terminal is sent to take a style on, and to take it off again. -/
structure Terminal where
  enter : Style → String
  leave : String

namespace Terminal

/-- A terminal that knows no styles. -/
def plain : Terminal := ⟨fun _ => "", ""⟩

/-- The control sequence `ESC [ code m`, which sets one attribute of a terminal. -/
def control (code : String) : String := "\x1b[" ++ code ++ "m"

/-- A terminal that takes control sequences. What was set before is taken off first. -/
def colored : Terminal where
  enter style :=
    control "0" ++ (if style.bold then control "1" else "")
      ++ (if style.dimmed then control "2" else "")
      ++ match style.color with
        | some .cyan => control "36"
        | some .yellow => control "33"
        | some .red => control "31"
        | none => ""
  leave := control "0"

/-- What is sent for a line. -/
def paint (terminal : Terminal) (line : LogLine) : String :=
  terminal.enter line.style ++ line.text ++ terminal.leave

/-- What is sent for several lines. -/
def paintAll (terminal : Terminal) (lines : List LogLine) : String :=
  String.join (lines.map terminal.paint)

end Terminal

end FloatMachine
