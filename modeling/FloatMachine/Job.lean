import FloatMachine.Host.Console
import FloatMachine.Session.Trace
import FloatMachine.System

/-!
# Jobs

A job loads the image a path leads to, runs it on a console and keeps a journal of what there is
to tell. How a job ends decides the exit status of the program.
-/

namespace FloatMachine

/-- An image on its way through the machine. -/
structure Job where
  path : String
  /-- The journal gets a record for every instruction. -/
  traced : Bool
  session : Session Console
  journal : Array Record

/-- A job that has come to its end. -/
structure Report where
  /-- The fault that ended the job, if it did not end by halting. -/
  fault : Option Fault
  console : Console
  journal : Array Record

namespace Job

/-- A job for a loaded image. -/
def ofImage (path : String) (traced : Bool) (console : Console) (image : Image) : Job where
  path
  traced
  session := { image, host := console }
  journal := #[⟨.info, s!"loaded {image.size} bytes from {path}"⟩]

/-- Takes up to `fuel` steps. -/
def resume (fuel : Nat) (job : Job) : Option Session.Ending × Job :=
  if job.traced then
    let (ending, session, journal) := job.session.resumeTraced fuel job.journal
    (ending, { job with session, journal })
  else
    let (ending, session) := job.session.resume fuel
    (ending, { job with session })

/-- The next step reads from the console, and there is nothing to read. -/
def isStarved (job : Job) : Bool :=
  match job.session.image.fetch job.session.machine.ip with
  | .ok fetched => fetched.instruction = .input && job.session.host.isExhausted
  | .error _ => false

/-- Puts more input behind the one that has not been read. -/
def feed (bytes : List UInt8) (job : Job) : Job :=
  let console := job.session.host
  { job with session.host := { console with unread := console.unread ++ bytes } }

/-- The output and the records that have come up so far, and the job without them. -/
def drain (job : Job) : String × Array Record × Job :=
  let console := job.session.host
  (console.written, job.journal,
    { job with session.host := { console with written := "" }, journal := #[] })

/-- Checks the header and goes to the first instruction. -/
def start (job : Job) : Except Fault Job :=
  job.session.start.map fun session => { job with session }

/-- The report on a job that has ended. -/
def report (job : Job) : Session.Ending → Report
  | .halted =>
    let offset := job.session.machine.ip
    { fault := none
      console := job.session.host
      journal := job.journal.push ⟨.info, s!"{job.path} halted at offset {offset}"⟩ }
  | .failed fault =>
    { fault := some fault, console := job.session.host, journal := job.journal }

/-- Runs a job for up to `fuel` steps. There is no report while the run has not ended. -/
def run (fuel : Nat) (job : Job) : Option Report :=
  match job.start with
  | .error fault => some (job.report (.failed fault))
  | .ok job =>
    match job.resume fuel with
    | (some ending, job) => some (job.report ending)
    | (none, _) => none

/-- Loads and runs the image a path leads to, for up to `fuel` steps. -/
def execute (fuel : Nat) (system : System) (path : String) (traced : Bool) (console : Console) :
    Option Report :=
  match system.loadImage path with
  | .error fault => some { fault := some fault, console, journal := #[] }
  | .ok image => (ofImage path traced console image).run fuel

end Job

/-- What a job amounts to. -/
inductive Verdict where
  /-- The image was run until it halted. -/
  | halted
  /-- There is no image to run. -/
  | notLoaded
  /-- The image or its input is not well-formed. -/
  | malformed
  /-- A stack ran full or empty, which leaves no orderly way on. -/
  | aborted
deriving DecidableEq

namespace Verdict

/-- The exit status, unless the program is to be aborted. -/
def status? : Verdict → Option Nat
  | halted => some 0
  | notLoaded => some 2
  | malformed => some 3
  | aborted => none

end Verdict

namespace Report

/-- What the report amounts to for a path, and the record that says so. -/
def verdict (report : Report) (path : String) : Verdict × List Record :=
  match report.fault with
  | none => (.halted, [])
  | some fault =>
    match fault.kind with
    | .load | .allocation => (.notLoaded, [⟨.error, fault.message⟩])
    | .format | .decode => (.malformed, [⟨.error, path ++ ": " ++ fault.message⟩])
    | .resource => (.aborted, [⟨.error, "fatal: " ++ path ++ ": " ++ fault.message⟩])

/-- All records of a job, those on its end included. -/
def records (report : Report) (path : String) : List Record :=
  report.journal.toList ++ (report.verdict path).2

end Report

end FloatMachine
