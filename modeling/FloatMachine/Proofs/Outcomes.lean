import FloatMachine.Proofs.Arguments
import FloatMachine.Proofs.Tracing

/-! What the program leaves behind. Arguments that ask for a run leave what the image at the path
leaves: its exit status, its output, the input it has not read, and a log. How long the run is
watched makes no difference once it has ended. Arguments that are refused leave the usage and a
status, and neither a file nor the input is touched. -/

namespace FloatMachine

/-! ## Runs watched for longer -/

section Watched

variable {n m : Nat}

theorem Session.resumeTraced_of_le {σ : Type} [Host σ] {s s' : Session σ} {ending : Ending}
    {journal journal' : Array Record}
    (h : s.resumeTraced n journal = (some ending, s', journal')) (hle : n ≤ m) :
    s.resumeTraced m journal = (some ending, s', journal') := by
  induction n generalizing s journal m with
  | zero => cases h
  | succ n ih =>
      obtain ⟨m, rfl⟩ := Nat.exists_eq_succ_of_ne_zero (Nat.ne_zero_of_lt hle)
      simp only [resumeTraced] at h ⊢
      cases hstep : step s with
      | error fault s₁ => simpa only [hstep] using h
      | ok flow s₁ =>
          cases flow with
          | halt => simpa only [hstep] using h
          | next =>
              simp only [hstep] at h ⊢
              exact ih h (Nat.le_of_succ_le_succ hle)

namespace Job

theorem resume_of_le {job job' : Job} {ending : Session.Ending}
    (h : job.resume n = (some ending, job')) (hle : n ≤ m) :
    job.resume m = (some ending, job') := by
  unfold resume at h ⊢
  by_cases ht : job.traced = true
  · rw [if_pos ht] at h ⊢
    rcases hr : job.session.resumeTraced n job.journal with ⟨ending', s', journal'⟩
    simp only [hr] at h
    cases h
    rw [Session.resumeTraced_of_le hr hle]
  · rw [if_neg ht] at h ⊢
    rcases hr : job.session.resume n with ⟨ending', s'⟩
    simp only [hr] at h
    cases h
    rw [Session.resume_of_le hr hle]

theorem run_of_le {job : Job} {report : Report} (h : job.run n = some report) (hle : n ≤ m) :
    job.run m = some report := by
  unfold run at h ⊢
  cases hs : job.start with
  | error fault => simpa only [hs] using h
  | ok started =>
      simp only [hs] at h ⊢
      rcases hr : started.resume n with ⟨_ | ending, job'⟩
      · simp [hr] at h
      · simp only [hr] at h
        rw [resume_of_le hr hle]
        exact h

theorem execute_of_le {system : System} {path : String} {traced : Bool} {console : Console}
    {report : Report} (h : execute n system path traced console = some report) (hle : n ≤ m) :
    execute m system path traced console = some report := by
  unfold execute at h ⊢
  cases hl : system.loadImage path with
  | error fault => simpa only [hl] using h
  | ok image =>
      simp only [hl] at h ⊢
      exact run_of_le h hle

end Job

end Watched

namespace CommandLine

section Performances

variable {line : CommandLine} {system : System} {input : List UInt8} {clock : Clock} {n m : Nat}

theorem perform_of_le {outcome : Outcome} (h : line.perform n system input clock = some outcome)
    (hle : n ≤ m) : line.perform m system input clock = some outcome := by
  unfold perform at h ⊢
  cases hr : line.request with
  | help => simpa only [hr] using h
  | misuse complaint => simpa only [hr] using h
  | run path =>
      simp only [hr] at h ⊢
      obtain ⟨report, hreport, rfl⟩ := Option.map_eq_some_iff.mp h
      rw [Job.execute_of_le hreport hle, Option.map_some]

theorem perform_unique {o₁ o₂ : Outcome} (h₁ : line.perform n system input clock = some o₁)
    (h₂ : line.perform m system input clock = some o₂) : o₁ = o₂ := by
  have hsame := (perform_of_le h₁ (Nat.le_max_left n m)).symm.trans
    (perform_of_le h₂ (Nat.le_max_right n m))
  exact Option.some.inj hsame

theorem lines_of_timeless {settings : LogSettings} (h : settings.showTime = false)
    (clock clock' : Clock) (records : List Record) :
    settings.lines clock records = settings.lines clock' records := by
  have hline : ∀ now now', settings.line now = settings.line now' := by
    intro now now'
    funext record
    simp only [LogSettings.line, h, Bool.false_eq_true, if_false]
  unfold LogSettings.lines
  refine List.map_congr_left fun record _ => ?_
  exact congrFun (hline _ _) _

theorem perform_of_timeless (h : line.settings.showTime = false) (fuel : Nat) (system : System)
    (input : List UInt8) (clock clock' : Clock) :
    line.perform fuel system input clock = line.perform fuel system input clock' := by
  unfold perform explain
  simp only [lines_of_timeless h clock clock']

end Performances

/-! ## What is seen of the program -/

/-- What can be seen of a process that has ended. -/
structure Seen where
  /-- The exit status; none if the process was aborted. -/
  status : Option Nat
  output : String
  /-- The text on the stream for errors. -/
  errors : String
  /-- The input that has not been read. -/
  unread : List UInt8
deriving DecidableEq

/-- What is seen of an outcome on a terminal. -/
def Outcome.seen (outcome : Outcome) (terminal : Terminal) : Seen :=
  ⟨outcome.status, outcome.output, outcome.errors terminal, outcome.unread⟩

/-- The log of records: each is on a line of its own, in the style of its level, with its level and,
if times are wanted, with what its own look at the clock shows. -/
def logText (terminal : Terminal) (timed : Bool) (clock : Clock) (records : List Record) :
    String :=
  String.join (records.mapIdx fun i record =>
    terminal.enter record.level.style
      ++ ((if timed then (clock i).timestamp ++ " " else "")
        ++ "[" ++ record.level.label ++ "] " ++ record.message ++ "\n")
      ++ terminal.leave)

/-- The lines that say how a program is used. -/
def usageLines (program : String) : List String :=
  ["Usage: " ++ program ++ " <image> [OPTIONS]", "", "Options:",
    "  --trace          Log every fetched instruction",
    "  --no-timestamp   Omit timestamps from log lines",
    "  -h, --help       Show this message"]

theorem usage_eq (program : String) :
    usage program = String.join ((usageLines program).map (· ++ "\n")) := by
  simp [usage, usageLines, String.append_assoc]

theorem paintAll_lines {settings : LogSettings} {records : List Record}
    (hlevel : settings.showLevel = true)
    (henabled : ∀ record ∈ records, settings.enables record.level = true) (terminal : Terminal)
    (clock : Clock) :
    terminal.paintAll (settings.lines clock records) =
      logText terminal settings.showTime clock records := by
  have hfilter : records.filter (fun record => settings.enables record.level) = records :=
    List.filter_eq_self.mpr henabled
  simp only [Terminal.paintAll, Terminal.paint, LogSettings.lines, LogSettings.line, logText,
    hfilter, hlevel, List.mapIdx_eq_zipIdx_map, List.map_map, Function.comp_def, if_true,
    String.append_assoc]

/-! ## Runs -/

/-- What is seen of a program that is to run the image at a path, watched for a number of steps. The
image is run from its first instruction, on a console in front of the input. The log tells what was
loaded and how it ended, and has the trace of the run in between if one is wanted. -/
inductive Launched (fuel : Nat) (system : System) (path : String) (traced timed : Bool)
    (input : List UInt8) (clock : Clock) (terminal : Terminal) : Option Seen → Prop where
  | unloadable {fault} (h : system.Unloadable path fault) :
      Launched fuel system path traced timed input clock terminal
        (some ⟨some 2, "", logText terminal timed clock [⟨.error, fault.message⟩], input⟩)
  | unfinished {content} (h : system.Loadable path content)
      (hr : ((Session.fresh ⟨content.toArray⟩ ({ unread := input } : Console)).run fuel).1 = none) :
      Launched fuel system path traced timed input clock terminal none
  | ended {content s ending trace status final} (h : system.Loadable path content)
      (hr : (Session.fresh ⟨content.toArray⟩ ({ unread := input } : Console)).run fuel =
        (some ending, s))
      (ht : Session.RunTrace (Session.fresh ⟨content.toArray⟩ ({ unread := input } : Console)) s
        ending trace)
      (hc : Conclusion path s ending status final) :
      Launched fuel system path traced timed input clock terminal
        (some ⟨status, s.host.written,
          logText terminal timed clock
            (⟨.info, s!"loaded {content.length} bytes from {path}"⟩
              :: (if traced then trace else []) ++ [final]),
          s.host.unread⟩)

/-- What is seen of a report. -/
def seenOf (settings : LogSettings) (path : String) (clock : Clock) (terminal : Terminal)
    (report : Report) : Seen :=
  ⟨(report.verdict path).1.status?, report.console.written,
    terminal.paintAll (settings.lines clock (report.records path)), report.console.unread⟩

theorem toList_journal (first : Record) (trace : List Record) (traced : Bool) :
    (#[first] ++ if traced then trace.toArray else #[]).toList =
      first :: if traced then trace else [] := by
  cases traced <;> simp

/-- The records of a trace are there only if they are written, and all others are written. -/
theorem enables_records (settings : LogSettings) {message : String} (trace : List Record)
    {final : Record} (hfinal : final.level ≠ .debug) :
    ∀ record ∈ ⟨.info, message⟩ :: (if settings.showDebug then trace else []) ++ [final],
      settings.enables record.level = true := by
  intro record hmem
  cases hd : settings.showDebug with
  | true => simp [LogSettings.enables, hd]
  | false =>
      have hrecord : record = ⟨.info, message⟩ ∨ record = final := by simpa [hd] using hmem
      rcases hrecord with rfl | rfl
      · rfl
      · simp [LogSettings.enables, hfinal]

section Launches

variable {settings : LogSettings} (hlevel : settings.showLevel = true) {fuel : Nat}
  {system : System} {path : String} {input : List UInt8} {clock : Clock} {terminal : Terminal}
include hlevel

theorem launched_of_unloaded {fault : Fault} (h : system.loadImage path = .error fault) :
    Launched fuel system path settings.showDebug settings.showTime input clock terminal
      (some (seenOf settings path clock terminal ⟨some fault, { unread := input }, #[]⟩)) := by
  have hsource := loadImage_error h
  have hverdict : (Report.verdict ⟨some fault, { unread := input }, #[]⟩ path).1 = .notLoaded :=
    Report.verdict_of_loading rfl hsource path
  have henabled : ∀ record ∈ [(⟨.error, fault.message⟩ : Record)],
      settings.enables record.level = true := by simp [LogSettings.enables]
  rw [seenOf, hverdict, Report.records_of_loading hsource, paintAll_lines hlevel henabled]
  exact .unloadable (System.unloadable_of_loadImage h)

theorem launched_of_ended {content : List UInt8} {s : Session Console} {ending : Session.Ending}
    (h : system.Loadable path content)
    (hr : (Session.fresh ⟨content.toArray⟩ ({ unread := input } : Console)).run fuel =
      (some ending, s)) :
    ∃ report, (Job.ofImage path settings.showDebug { unread := input } ⟨content.toArray⟩).run
        fuel = some report ∧
      Launched fuel system path settings.showDebug settings.showTime input clock terminal
        (some (seenOf settings path clock terminal report)) := by
  obtain ⟨trace, ht, hjob⟩ := Job.run_of_ended hr
  obtain ⟨status, final, hc, hreport⟩ := conclusion_of_run hr path
  refine ⟨_, hjob path settings.showDebug _, ?_⟩
  rw [seenOf, (hreport _ _).1, (hreport _ _).2, Job.console_report, toList_journal,
    paintAll_lines hlevel (enables_records settings trace hc.level_ne)]
  exact .ended h hr ht hc

theorem launched_of_execute :
    Launched fuel system path settings.showDebug settings.showTime input clock terminal
      ((Job.execute fuel system path settings.showDebug { unread := input }).map
        (seenOf settings path clock terminal)) := by
  unfold Job.execute
  cases h : system.loadImage path with
  | error fault => exact launched_of_unloaded hlevel h
  | ok image =>
      obtain ⟨content, rfl, hloadable⟩ := System.loadable_of_loadImage h
      rcases hr : (Session.fresh ⟨content.toArray⟩ ({ unread := input } : Console)).run fuel with
        ⟨_ | ending, s⟩
      · have hend := congrArg Prod.fst hr
        have hjob : (Job.ofImage path settings.showDebug { unread := input }
            ⟨content.toArray⟩).run fuel = none := Job.run_of_unended hend
        simp only [hjob, Option.map_none]
        exact .unfinished hloadable hend
      · obtain ⟨report, hjob, hlaunched⟩ := launched_of_ended hlevel hloadable hr
        simp only [hjob, Option.map_some]
        exact hlaunched

end Launches

/-! ## Arguments -/

theorem settingsOf_congr {arguments arguments' : List String}
    (htrace : "--trace" ∈ arguments' ↔ "--trace" ∈ arguments)
    (htime : "--no-timestamp" ∈ arguments' ↔ "--no-timestamp" ∈ arguments) :
    settingsOf arguments' = settingsOf arguments := by
  simp only [settingsOf, List.contains_eq_mem, htrace, htime]

theorem Runs.perform_eq {words : List String} {path : String} (h : Runs words.tail path)
    (fuel : Nat) (system : System) (input : List UInt8) (clock : Clock) :
    (ofWords words).perform fuel system input clock =
      (Job.execute fuel system path (settingsOf words.tail).showDebug { unread := input }).map
        fun report =>
          { status := (report.verdict path).1.status?
            output := report.console.written
            log := (settingsOf words.tail).lines clock (report.records path)
            notice := ""
            unread := report.console.unread } := by
  rw [ofWords, h.read_eq]
  rfl

theorem Runs.seen_eq {words : List String} {path : String} (h : Runs words.tail path) (fuel : Nat)
    (system : System) (input : List UInt8) (clock : Clock) (terminal : Terminal) :
    (((ofWords words).perform fuel system input clock).map fun outcome => outcome.seen terminal) =
      (Job.execute fuel system path (settingsOf words.tail).showDebug { unread := input }).map
        (seenOf (settingsOf words.tail) path clock terminal) := by
  rw [h.perform_eq, Option.map_map]
  refine Option.map_congr fun report _ => ?_
  simp [seenOf, Outcome.seen, Outcome.errors]

theorem Refusal.seen_eq {words front : List String} {status : Nat} {complaint : Option String}
    (h : Refusal words.tail front status complaint) (fuel : Nat) (system : System)
    (input : List UInt8) (clock : Clock) (terminal : Terminal) :
    (((ofWords words).perform fuel system input clock).map fun outcome => outcome.seen terminal) =
      some ⟨some status, "",
        logText terminal (settingsOf front).showTime clock
            (complaint.toList.map fun text => ⟨.error, text⟩)
          ++ String.join ((usageLines (words.head?.getD defaultProgram)).map (· ++ "\n")),
        input⟩ := by
  have hperform : (ofWords words).perform fuel system input clock =
      some (explain ⟨words.head?.getD defaultProgram, CommandLine.refused status complaint,
        settingsOf front⟩ status complaint input clock) := by
    rw [ofWords, h.read_eq]
    cases h <;> rfl
  have henabled : ∀ record ∈ complaint.toList.map fun text => (⟨.error, text⟩ : Record),
      (settingsOf front).enables record.level = true := by simp [LogSettings.enables]
  rw [hperform, Option.map_some, Outcome.seen, Outcome.errors, explain,
    paintAll_lines rfl henabled, usage_eq]

/-- What the program makes of the words it is called by: its name and its arguments. An image is run
exactly if there is one path among switches, and then it does not matter where the switches stand
and how often; without times in the log, the clock does not matter either. Any other list is refused
by the rules, with the usage on the stream for errors, on every system and input alike. -/
structure ArgumentsSpec (words : List String) : Prop where
  request_iff : ∀ path, (ofWords words).request = .run path ↔ Runs words.tail path
  launched : ∀ path, Runs words.tail path → ∀ fuel system input clock terminal,
    Launched fuel system path (words.tail.contains "--trace")
      (!words.tail.contains "--no-timestamp") input clock terminal
      (((ofWords words).perform fuel system input clock).map fun outcome =>
        outcome.seen terminal)
  indifferent : ∀ path words', Runs words.tail path → Runs words'.tail path →
    ("--trace" ∈ words'.tail ↔ "--trace" ∈ words.tail) →
    ("--no-timestamp" ∈ words'.tail ↔ "--no-timestamp" ∈ words.tail) →
    (ofWords words').perform = (ofWords words).perform
  timeless : ∀ path, Runs words.tail path → "--no-timestamp" ∈ words.tail →
    ∀ fuel system input clock clock', (ofWords words).perform fuel system input clock =
      (ofWords words).perform fuel system input clock'
  unique : ∀ system input clock m n o₁ o₂,
    (ofWords words).perform m system input clock = some o₁ →
    (ofWords words).perform n system input clock = some o₂ → o₁ = o₂
  refused : (∀ path, ¬ Runs words.tail path) →
    ∃ front status complaint, Refusal words.tail front status complaint ∧
      ∀ fuel system input clock terminal,
        (((ofWords words).perform fuel system input clock).map fun outcome =>
          outcome.seen terminal) =
        some ⟨some status, "",
          logText terminal (!front.contains "--no-timestamp") clock
              (complaint.toList.map fun text => ⟨.error, text⟩)
            ++ String.join ((usageLines (words.head?.getD "hybrid-vm")).map (· ++ "\n")),
          input⟩

theorem arguments_decide (words : List String) : ArgumentsSpec words where
  request_iff := fun path => request_eq_run_iff
  launched := by
    intro path h fuel system input clock terminal
    have hlevel : (settingsOf words.tail).showLevel = true := rfl
    rw [h.seen_eq]
    exact launched_of_execute hlevel
  indifferent := by
    intro path words' h h' htrace htime
    funext fuel system input clock
    rw [h.perform_eq, h'.perform_eq, settingsOf_congr htrace htime]
  timeless := by
    intro path h htime fuel system input clock clock'
    apply perform_of_timeless
    rw [ofWords, h.read_eq]
    simpa [settingsOf] using htime
  unique := fun system input clock m n o₁ o₂ h₁ h₂ => perform_unique h₁ h₂
  refused := by
    intro h
    obtain ⟨front, status, complaint, hrefusal⟩ := exists_refusal h
    exact ⟨front, status, complaint, hrefusal, hrefusal.seen_eq⟩

/-- Switches on both sides of the path, one of them twice, for an image that halts at once. -/
theorem arguments_decide_of_switches :
    let system : System :=
      ⟨fun _ => .ok (.ofBytes [0x48, 0x59, 0x56, 0x4d, 3, 0x00]), fun _ _ => true⟩
    let words : List String := ["vm", "--trace", "a", "--no-timestamp", "--trace"]
    Runs words.tail "a" ∧
      (((ofWords words).perform 1 system [] fun _ => .ofClock 0 0).map fun outcome =>
        outcome.seen .plain) =
      some ⟨some 0, "", "[INFO] loaded 6 bytes from a\n[DEBUG]      5: HLT  (0x00) - stack=[]\n"
        ++ "[INFO] a halted at offset 5\n", []⟩ ∧
      ArgumentsSpec words := by
  intro system words
  have hruns : Runs words.tail "a" := ⟨by decide, by decide⟩
  have hload : system.loadImage "a" = .ok ⟨#[0x48, 0x59, 0x56, 0x4d, 3, 0x00]⟩ :=
    Image.load_complete (fun _ _ => rfl) (by rintro _ _ ⟨⟩) (by decide) "a"
  refine ⟨hruns, ?_, arguments_decide words⟩
  rw [hruns.perform_eq]
  simp only [Job.execute, hload]
  decide +kernel

end CommandLine

end FloatMachine
