import FloatMachine.Job
import FloatMachine.Proofs.Bytes
import FloatMachine.Proofs.Faults
import FloatMachine.Proofs.Filling
import FloatMachine.Proofs.Runs

/-! What the end of a job says about it. Loading, the header, steps and stacks raise faults of
different kinds, so the verdict on a job tells where it ended. -/

namespace FloatMachine

/-! ## Runs and the header -/

/-- The byte at an offset has the number of the instruction that halts: its low five bits are
zero. -/
def Image.HaltsAt (image : Image) (offset : Nat) : Prop :=
  ∃ byte, image.byte? offset = some byte ∧ byte &&& Opcode.commandMask = 0

theorem validate_error {image : Image} {fault : Fault} (h : image.validate = .error fault) :
    fault.source = .header := by
  simp only [Image.validate] at h
  split at h
  · cases h
    rfl
  · split at h
    · cases h
      rfl
    · split at h <;> cases h
      rfl

namespace Session

variable {σ : Type}

theorem start_of_header {s : Session σ} (h : s.image.HasHeader) :
    s.start = .ok { s with machine := { s.machine with ip := Image.headerSize } } := by
  rw [start, Image.validate_eq_ok.mpr h]
  rfl

theorem start_of_no_header {s : Session σ} (h : ¬ s.image.HasHeader) :
    ∃ fault, fault.source = .header ∧ s.start = .error fault := by
  cases hv : s.image.validate with
  | ok => exact absurd (Image.validate_eq_ok.mp hv) h
  | error fault =>
      refine ⟨fault, validate_error hv, ?_⟩
      rw [start, hv]
      rfl

variable [Host σ]

theorem run_of_header {s : Session σ} (h : s.image.HasHeader) (fuel : Nat) :
    s.run fuel =
      resume fuel { s with machine := { s.machine with ip := Image.headerSize } } := by
  rw [run, start_of_header h]

theorem run_of_no_header {s : Session σ} (h : ¬ s.image.HasHeader) (fuel : Nat) :
    ∃ fault, fault.source = .header ∧ s.run fuel = (some (.failed fault), s) := by
  obtain ⟨fault, hsource, hs⟩ := start_of_no_header h
  exact ⟨fault, hsource, by rw [run, hs]⟩

theorem step_fault_kind (hp : Host.Plain σ) {s s' : Session σ} {fault : Fault}
    (h : step s = .error fault s') : fault.kind = .decode ∨ fault.source = .stack :=
  (StepDerivation.of_step h).fault.kind hp

theorem run_fault_kind (hp : Host.Plain σ) {s s' : Session σ} {fuel : Nat} {fault : Fault}
    (hh : s.image.HasHeader) (h : s.run fuel = (some (.failed fault), s')) :
    fault.kind = .decode ∨ fault.source = .stack := by
  rw [run_of_header hh] at h
  obtain ⟨_, t, _, _, he⟩ := stepEnds_of_resume h
  cases he with
  | failed h => exact step_fault_kind hp h

/-- The kinds of faults that steps and runs on a host raise. -/
structure FaultSpec (σ : Type) [Host σ] : Prop where
  step_kind : ∀ (s s' : Session σ) (fault : Fault), step s = .error fault s' →
    fault.kind = .decode ∨ fault.kind = .resource
  step_resource : ∀ (s s' : Session σ) (fault : Fault), step s = .error fault s' →
    fault.kind = .resource → fault.source = .stack
  format_iff : ∀ (s : Session σ) (fuel : Nat),
    (∃ fault, (s.run fuel).1 = some (.failed fault) ∧ fault.kind = .format) ↔
      ¬ s.image.HasHeader
  format_unchanged : ∀ (s : Session σ) (fuel : Nat), ¬ s.image.HasHeader → (s.run fuel).2 = s

theorem faultSpec (hp : Host.Plain σ) : FaultSpec σ := by
  refine ⟨?_, ?_, ?_, ?_⟩
  · intro s s' fault h
    rw [kind_eq_resource_iff]
    exact step_fault_kind hp h
  · intro s s' fault _ hk
    exact kind_eq_resource_iff.mp hk
  · intro s fuel
    constructor
    · rintro ⟨fault, hr, hk⟩ hh
      rcases run_fault_kind hp hh (Prod.ext hr rfl) with h | h
      · cases hk.symm.trans h
      · cases (kind_eq_format_iff.mp hk).symm.trans h
    · intro hh
      obtain ⟨fault, hsource, hr⟩ := run_of_no_header hh fuel
      exact ⟨fault, by rw [hr], kind_eq_format_iff.mpr hsource⟩
  · intro s fuel hh
    obtain ⟨fault, _, hr⟩ := run_of_no_header hh fuel
    rw [hr]

/-- A step halts exactly on a byte whose low five bits are zero, and stays there. -/
theorem step_eq_halt_iff {s s' : Session σ} :
    step s = .ok .halt s' ↔ s' = s ∧ s.image.HaltsAt s.machine.ip := by
  constructor
  · intro h
    cases StepDerivation.of_step h with
    | halt hf =>
        obtain ⟨_, hb, hi⟩ := fetch_eq_ok.mp hf
        have hzero := List.find?_some hi
        exact ⟨rfl, _, hb, (of_decide_eq_true hzero).symm⟩
  · rintro ⟨rfl, byte, hb, hzero⟩
    have hf : s'.image.fetch s'.machine.ip = .ok ⟨s'.machine.ip, byte, .halt⟩ :=
      fetch_eq_ok.mpr ⟨rfl, hb, by rw [hzero]; rfl⟩
    simp only [step, bind_apply, get_apply, hf]
    rfl

end Session

/-! ## Jobs -/

/-- Tracing changes neither the end of a run nor the session. -/
theorem Session.resumeTraced_eq {σ : Type} [Host σ] (fuel : Nat) (s : Session σ)
    (journal : Array Record) :
    ∃ journal', s.resumeTraced fuel journal =
      ((s.resume fuel).1, (s.resume fuel).2, journal') := by
  induction fuel generalizing s journal with
  | zero => exact ⟨journal, rfl⟩
  | succ fuel ih =>
      simp only [resumeTraced]
      match heq : step s with
      | .ok .next s' =>
          rw [resume_succ_of_next heq]
          exact ih s' _
      | .ok .halt s' =>
          rw [resume_succ_of_halt heq]
          exact ⟨_, rfl⟩
      | .error fault s' =>
          rw [resume_succ_of_error heq]
          exact ⟨_, rfl⟩

namespace Job

theorem resume_eq (fuel : Nat) (job : Job) :
    ∃ journal, job.resume fuel = ((job.session.resume fuel).1,
      { job with session := (job.session.resume fuel).2, journal }) := by
  unfold resume
  split
  · obtain ⟨journal, heq⟩ := Session.resumeTraced_eq fuel job.session job.journal
    exact ⟨journal, by rw [heq]⟩
  · exact ⟨job.journal, rfl⟩

theorem run_eq (fuel : Nat) (job : Job) :
    ∃ journal, job.run fuel = (job.session.run fuel).1.map
      { job with session := (job.session.run fuel).2, journal }.report := by
  by_cases hh : job.session.image.HasHeader
  · have hs : job.start = .ok { job with session.machine.ip := Image.headerSize } := by
      rw [start, Session.start_of_header hh]
      rfl
    obtain ⟨journal, heq⟩ := resume_eq fuel { job with session.machine.ip := Image.headerSize }
    refine ⟨journal, ?_⟩
    rw [Session.run_of_header hh]
    simp only [run, hs, heq]
    cases (Session.resume fuel { job.session with machine.ip := Image.headerSize }).1 <;> rfl
  · obtain ⟨fault, _, hs⟩ := Session.start_of_no_header hh
    have hj : job.start = .error fault := by
      rw [start, hs]
      rfl
    refine ⟨job.journal, ?_⟩
    simp only [run, hj, Session.run, hs]
    rfl

end Job

/-! ## Loading -/

namespace System

/-- There is no image at a path: the file cannot be opened, or loading it fails. -/
def Unloadable (system : System) (path : String) (fault : Fault) : Prop :=
  (∃ reason, system.openFile path = .error reason ∧ fault = .load path reason) ∨
    ∃ file, system.openFile path = .ok file ∧
      Image.LoadOutcome system.heap path file (.error fault)

/-- There is an image at a path, and it consists of these bytes. -/
def Loadable (system : System) (path : String) (content : List UInt8) : Prop :=
  ∃ file, system.openFile path = .ok file ∧ file.content = content ∧
    Image.LoadOutcome system.heap path file (.ok ⟨content.toArray⟩)

variable {system : System} {path : String}

theorem unloadable_of_loadImage {fault : Fault} (h : system.loadImage path = .error fault) :
    system.Unloadable path fault := by
  unfold loadImage at h
  cases ho : system.openFile path with
  | error reason =>
      simp only [ho] at h
      cases h
      exact .inl ⟨reason, ho, rfl⟩
  | ok file =>
      simp only [ho] at h
      exact .inr ⟨file, ho, Image.loadOutcome_iff.mpr h⟩

theorem loadable_of_loadImage {image : Image} (h : system.loadImage path = .ok image) :
    ∃ content, image = ⟨content.toArray⟩ ∧ system.Loadable path content := by
  unfold loadImage at h
  cases ho : system.openFile path with
  | error reason =>
      simp only [ho] at h
      cases h
  | ok file =>
      simp only [ho] at h
      have houtcome := Image.loadOutcome_iff.mpr h
      cases houtcome with
      | loaded => exact ⟨file.content, rfl, file, ho, rfl, Image.loadOutcome_iff.mpr h⟩

theorem Unloadable.source_eq {fault : Fault} (h : system.Unloadable path fault) :
    fault.source = .loading := by
  rcases h with ⟨reason, _, rfl⟩ | ⟨file, _, houtcome⟩
  · rfl
  · cases houtcome <;> rfl

end System

theorem loadImage_error {system : System} {path : String} {fault : Fault}
    (h : system.loadImage path = .error fault) : fault.source = .loading :=
  (System.unloadable_of_loadImage h).source_eq

/-! ## Verdicts -/

/-- The ways of a job: there is nothing to run, the run has not ended, or the run has ended and
the job is reported on. -/
inductive JobDerivation (fuel : Nat) (system : System) (path : String) (console : Console) :
    Option Report → Prop where
  | notLoaded {fault} (h : system.loadImage path = .error fault) :
      JobDerivation fuel system path console
        (some { fault := some fault, console, journal := #[] })
  | unfinished {image} (h : system.loadImage path = .ok image)
      (hr : ((Session.fresh image console).run fuel).1 = none) :
      JobDerivation fuel system path console none
  | ended {image ending s job} (h : system.loadImage path = .ok image)
      (hr : (Session.fresh image console).run fuel = (some ending, s)) :
      JobDerivation fuel system path console (some (Job.report job ending))

theorem job_derivation (fuel : Nat) (system : System) (path : String) (traced : Bool)
    (console : Console) :
    JobDerivation fuel system path console (Job.execute fuel system path traced console) := by
  unfold Job.execute
  cases h : system.loadImage path with
  | error fault => exact .notLoaded h
  | ok image =>
      obtain ⟨journal, heq⟩ := Job.run_eq fuel (Job.ofImage path traced console image)
      simp only [heq]
      match hr : (Session.fresh image console).run fuel with
      | (none, s) => exact .unfinished h (congrArg Prod.fst hr)
      | (some ending, s) => exact .ended h hr

@[simp] theorem Job.console_report (job : Job) (ending : Session.Ending) :
    (job.report ending).console = job.session.host := by
  cases ending <;> rfl

namespace Report

theorem verdict_of_loading {report : Report} {fault : Fault} (h : report.fault = some fault)
    (hs : fault.source = .loading) (path : String) : (report.verdict path).1 = .notLoaded := by
  rcases kind_eq_load_iff.mpr hs with hk | hk <;> simp only [verdict, h, hk]

theorem records_of_loading {fault : Fault} (hs : fault.source = .loading) (console : Console)
    (path : String) :
    records ⟨some fault, console, #[]⟩ path = [⟨.error, fault.message⟩] := by
  rcases kind_eq_load_iff.mpr hs with hk | hk <;> simp [records, verdict, hk]

theorem verdict_of_stack {report : Report} {fault : Fault} (h : report.fault = some fault)
    (hs : fault.source = .stack) (path : String) : (report.verdict path).1 = .aborted := by
  simp only [verdict, h, kind_eq_resource_iff.mpr hs]

theorem verdict_of_malformed {report : Report} {fault : Fault} (h : report.fault = some fault)
    (hk : fault.kind = .format ∨ fault.kind = .decode) (path : String) :
    (report.verdict path).1 = .malformed := by
  rcases hk with hk | hk <;> simp only [verdict, h, hk]

end Report

/-- What a verdict and its exit status say: whether the image was loaded, whether the run behind its
header came to a byte that halts, and whether a stack fault ended it. -/
structure VerdictSpec (fuel : Nat) (system : System) (path : String) (console : Console)
    (verdict : Verdict) : Prop where
  notLoaded_iff : verdict = .notLoaded ∧ verdict.status? = some 2 ↔
    ∃ fault, system.loadImage path = .error fault
  halted_iff : verdict = .halted ∧ verdict.status? = some 0 ↔
    ∃ image n s, system.loadImage path = .ok image ∧ image.HasHeader ∧
      (Session.fresh image console).resume n = (none, s) ∧ image.HaltsAt s.machine.ip
  halted_at : verdict = .halted → ∃ image s, system.loadImage path = .ok image ∧
    (Session.fresh image console).run fuel = (some .halted, s) ∧ image.HaltsAt s.machine.ip
  aborted_iff : verdict = .aborted ∧ verdict.status? = none ↔
    ∃ image fault s, system.loadImage path = .ok image ∧
      (Session.fresh image console).run fuel = (some (.failed fault), s) ∧ fault.source = .stack
  malformed_iff : verdict = .malformed ∧ verdict.status? = some 3 ↔
    ∃ image fault s, system.loadImage path = .ok image ∧
      (Session.fresh image console).run fuel = (some (.failed fault), s) ∧ fault.source ≠ .stack

section Spec

variable {fuel : Nat} {system : System} {path : String} {console : Console}

theorem verdictSpec_of_notLoaded {fault : Fault} (h : system.loadImage path = .error fault) :
    VerdictSpec fuel system path console .notLoaded := by
  refine ⟨⟨fun _ => ⟨fault, h⟩, fun _ => ⟨rfl, rfl⟩⟩, ⟨nofun, ?_⟩, nofun, ⟨nofun, ?_⟩, ⟨nofun, ?_⟩⟩
  · rintro ⟨image, _, _, hl, _⟩
    cases h.symm.trans hl
  · rintro ⟨image, _, _, hl, _⟩
    cases h.symm.trans hl
  · rintro ⟨image, _, _, hl, _⟩
    cases h.symm.trans hl

theorem image_of_resume {image : Image} {n : Nat} {s : Session Console}
    (h : (Session.fresh image console).resume n = (none, s)) : s.image = image := by
  have himage := Session.resume_image n (Session.fresh image console)
  rw [h] at himage
  exact himage

theorem halt_of_run {image : Image} {s : Session Console}
    (hr : (Session.fresh image console).run fuel = (some .halted, s)) :
    image.HasHeader ∧ image.HaltsAt s.machine.ip ∧
      ∃ n, (Session.fresh image console).resume n = (none, s) := by
  by_cases hh : (Session.fresh image console).image.HasHeader
  · rw [Session.run_of_header hh] at hr
    obtain ⟨n, t, _, hn, he⟩ := Session.stepEnds_of_resume hr
    cases he with
    | halted hstep =>
        obtain ⟨rfl, hhalts⟩ := Session.step_eq_halt_iff.mp hstep
        rw [image_of_resume hn] at hhalts
        exact ⟨hh, hhalts, n, hn⟩
  · obtain ⟨fault, _, hf⟩ := Session.run_of_no_header hh fuel
    cases hf.symm.trans hr

theorem verdictSpec_of_halted {image : Image} {s : Session Console}
    (h : system.loadImage path = .ok image)
    (hr : (Session.fresh image console).run fuel = (some .halted, s)) :
    VerdictSpec fuel system path console .halted := by
  obtain ⟨hh, hhalts, n, hn⟩ := halt_of_run hr
  refine ⟨⟨nofun, ?_⟩, ⟨fun _ => ⟨image, n, s, h, hh, hn, hhalts⟩, fun _ => ⟨rfl, rfl⟩⟩,
    fun _ => ⟨image, s, h, hr, hhalts⟩, ⟨nofun, ?_⟩, ⟨nofun, ?_⟩⟩
  · rintro ⟨fault, hl⟩
    cases h.symm.trans hl
  · rintro ⟨image', fault, s', hl, hf, _⟩
    cases h.symm.trans hl
    cases hr.symm.trans hf
  · rintro ⟨image', fault, s', hl, hf, _⟩
    cases h.symm.trans hl
    cases hr.symm.trans hf

theorem no_halt_of_failed {image : Image} {fault : Fault} {n : Nat} {s t : Session Console}
    (hr : (Session.fresh image console).run fuel = (some (.failed fault), s))
    (hh : image.HasHeader) (hn : (Session.fresh image console).resume n = (none, t))
    (hhalts : image.HaltsAt t.machine.ip) : False := by
  rw [Session.run_of_header hh] at hr
  rw [← image_of_resume hn] at hhalts
  have hstep := Session.step_eq_halt_iff.mpr ⟨rfl, hhalts⟩
  -- Watched one step longer, the run would have halted, and it ends in one way only.
  have hhalt := (Session.StepEnds.halted hstep).resume_eq hn (Nat.lt_succ_self n)
  obtain ⟨he, _⟩ := Session.resume_unique hr hhalt
  cases he

theorem verdictSpec_of_failed {image : Image} {fault : Fault} {s : Session Console}
    (h : system.loadImage path = .ok image)
    (hr : (Session.fresh image console).run fuel = (some (.failed fault), s)) :
    VerdictSpec fuel system path console
      (if fault.source = .stack then .aborted else .malformed) := by
  have hload : ¬ ∃ fault, system.loadImage path = .error fault := by
    rintro ⟨fault, hl⟩
    cases h.symm.trans hl
  have hhalt : ¬ ∃ image n s, system.loadImage path = .ok image ∧ image.HasHeader ∧
      (Session.fresh image console).resume n = (none, s) ∧ image.HaltsAt s.machine.ip := by
    rintro ⟨image', n, t, hl, hh, hn, hhalts⟩
    cases h.symm.trans hl
    exact no_halt_of_failed hr hh hn hhalts
  split
  · rename_i hs
    refine ⟨⟨nofun, fun hl => absurd hl hload⟩, ⟨nofun, fun hl => absurd hl hhalt⟩, nofun,
      ⟨fun _ => ⟨image, fault, s, h, hr, hs⟩, fun _ => ⟨rfl, rfl⟩⟩, ⟨nofun, ?_⟩⟩
    rintro ⟨image', fault', s', hl, hf, hne⟩
    cases h.symm.trans hl
    cases hr.symm.trans hf
    exact absurd hs hne
  · rename_i hs
    refine ⟨⟨nofun, fun hl => absurd hl hload⟩, ⟨nofun, fun hl => absurd hl hhalt⟩, nofun,
      ⟨nofun, ?_⟩, ⟨fun _ => ⟨image, fault, s, h, hr, hs⟩, fun _ => ⟨rfl, rfl⟩⟩⟩
    rintro ⟨image', fault', s', hl, hf, heq⟩
    cases h.symm.trans hl
    cases hr.symm.trans hf
    exact absurd heq hs

end Spec

section Conclusions

variable {fuel : Nat} {image : Image} {console : Console} {s : Session Console}

theorem kind_of_run_failed {fault : Fault}
    (hr : (Session.fresh image console).run fuel = (some (.failed fault), s)) :
    fault.source = .stack ∨ fault.kind = .format ∨ fault.kind = .decode := by
  by_cases hh : (Session.fresh image console).image.HasHeader
  · rcases Session.run_fault_kind console_plain hh hr with hk | hs
    · exact .inr (.inr hk)
    · exact .inl hs
  · obtain ⟨fault', hsource, hr'⟩ := Session.run_of_no_header hh fuel
    cases hr.symm.trans hr'
    exact .inr (.inl (kind_eq_format_iff.mpr hsource))

theorem verdict_of_run_failed {fault : Fault} {report : Report}
    (hr : (Session.fresh image console).run fuel = (some (.failed fault), s))
    (hf : report.fault = some fault) (path : String) :
    (report.verdict path).1 = if fault.source = .stack then .aborted else .malformed := by
  split
  · rename_i hs
    exact report.verdict_of_stack hf hs path
  · rename_i hs
    exact report.verdict_of_malformed hf ((kind_of_run_failed hr).resolve_left hs) path

/-- The exit status of a run that has ended, and what is said last. -/
inductive Conclusion (path : String) (s : Session Console) :
    Session.Ending → Option Nat → Record → Prop where
  | halted :
      Conclusion path s .halted (some 0) ⟨.info, s!"{path} halted at offset {s.machine.ip}"⟩
  | malformed {fault} (h : fault.source ≠ .stack) :
      Conclusion path s (.failed fault) (some 3) ⟨.error, path ++ ": " ++ fault.message⟩
  | aborted {fault} (h : fault.source = .stack) :
      Conclusion path s (.failed fault) none ⟨.error, "fatal: " ++ path ++ ": " ++ fault.message⟩

theorem Conclusion.level_ne {path : String} {ending : Session.Ending} {status : Option Nat}
    {final : Record} (h : Conclusion path s ending status final) : final.level ≠ .debug := by
  cases h <;> exact nofun

/-- A job whose run has ended is reported on with the conclusion of the run behind its journal. -/
theorem conclusion_of_run {ending : Session.Ending}
    (hr : (Session.fresh image console).run fuel = (some ending, s)) (path : String) :
    ∃ status final, Conclusion path s ending status final ∧ ∀ traced journal,
      ((Job.report ⟨path, traced, s, journal⟩ ending).verdict path).1.status? = status ∧
        (Job.report ⟨path, traced, s, journal⟩ ending).records path =
          journal.toList ++ [final] := by
  cases ending with
  | halted =>
      refine ⟨_, _, .halted, ?_⟩
      intro traced journal
      simp [Job.report, Report.records, Report.verdict, Verdict.status?]
  | failed fault =>
      by_cases hs : fault.source = .stack
      · refine ⟨_, _, .aborted hs, ?_⟩
        intro traced journal
        simp [Job.report, Report.records, Report.verdict, Verdict.status?,
          kind_eq_resource_iff.mpr hs]
      · refine ⟨_, _, .malformed hs, ?_⟩
        intro traced journal
        rcases (kind_of_run_failed hr).resolve_left hs with hk | hk <;>
          simp [Job.report, Report.records, Report.verdict, Verdict.status?, hk]

end Conclusions

/-- Faults of steps and runs are of the kinds that belong to them, so that the verdict on a job
and its exit status tell how it ended. There is no verdict only while a run goes on. -/
theorem execute_verdict :
    Session.FaultSpec Tape ∧ Session.FaultSpec Console ∧
      ∀ (fuel : Nat) (system : System) (path : String) (traced : Bool) (console : Console),
        match Job.execute fuel system path traced console with
        | none => ∃ image, system.loadImage path = .ok image ∧
            ((Session.fresh image console).run fuel).1 = none
        | some report => VerdictSpec fuel system path console (report.verdict path).1 := by
  refine ⟨Session.faultSpec tape_plain, Session.faultSpec console_plain, ?_⟩
  intro fuel system path traced console
  have hd := job_derivation fuel system path traced console
  generalize Job.execute fuel system path traced console = result at hd ⊢
  cases hd with
  | @notLoaded fault h =>
      have hv : (Report.verdict ⟨some fault, console, #[]⟩ path).1 = .notLoaded :=
        Report.verdict_of_loading rfl (loadImage_error h) path
      simp only [hv]
      exact verdictSpec_of_notLoaded h
  | unfinished h hr => exact ⟨_, h, hr⟩
  | @ended image ending s job h hr =>
      cases ending with
      | halted => exact verdictSpec_of_halted h hr
      | failed fault =>
          have hv : ((job.report (.failed fault)).verdict path).1 =
              if fault.source = .stack then .aborted else .malformed :=
            verdict_of_run_failed hr rfl path
          simp only [hv]
          exact verdictSpec_of_failed h hr

/-- An image that consists of a header and the instruction that halts. -/
theorem execute_verdict_of_halt :
    let system : System :=
      ⟨fun _ => .ok (.ofBytes [0x48, 0x59, 0x56, 0x4d, 3, 0x00]), fun _ _ => true⟩
    ∃ report, Job.execute 1 system "a" false {} = some report ∧
      (report.verdict "a").1 = .halted ∧ (report.verdict "a").1.status? = some 0 ∧
      VerdictSpec 1 system "a" {} (report.verdict "a").1 := by
  intro system
  have hload : system.loadImage "a" = .ok ⟨#[0x48, 0x59, 0x56, 0x4d, 3, 0x00]⟩ :=
    Image.load_complete (fun _ _ => rfl) (by rintro _ _ ⟨⟩) (by decide) "a"
  have hexecute := execute_verdict.2.2 1 system "a" false {}
  obtain ⟨report, hreport, hfault⟩ : ∃ report, Job.execute 1 system "a" false {} = some report ∧
      report.fault = none := by
    simp only [Job.execute, hload]
    exact ⟨_, rfl, rfl⟩
  rw [hreport] at hexecute
  have hverdict : (report.verdict "a").1 = .halted := by simp only [Report.verdict, hfault]
  refine ⟨report, hreport, hverdict, ?_, hexecute⟩
  rw [hverdict]
  rfl

end FloatMachine
