import FloatMachine.Proofs.Determinism
import FloatMachine.Proofs.Verdicts

/-! Tracing watches a run and does not touch it. A traced job ends as the job without a trace does,
with the same output and the same input left, and its journal differs only by one record for every
instruction that was fetched. -/

namespace FloatMachine

/-! ## Steps without an instruction -/

/-- The faults of a step that finds no instruction. -/
def Fault.isUnfetched : Fault → Bool
  | missingHalt .. | invalidInstruction .. => true
  | load .. | allocation .. | truncatedHeader .. | badSignature .. | unsupportedVersion ..
  | invalidAddressingMode .. | unexpectedEnd .. | invalidRegister .. | memoryOutOfBounds ..
  | jumpOutOfRange .. | literalNotWritable .. | invalidInput .. | io .. | stackOverflow ..
  | stackUnderflow | callOverflow .. | returnWithoutCall => false

theorem isUnfetched_of_source {fault : Fault}
    (h : fault.source = .exchange ∨ fault.source = .value ∨ fault.source = .stack) :
    fault.isUnfetched = false := by
  cases fault <;> simp_all [Fault.source, Fault.isUnfetched]

theorem DecodeFault.isUnfetched {image : Image} {opcode : UInt8} {offset : Nat} {fault : Fault}
    (h : DecodeFault image opcode offset fault) : fault.isUnfetched = false := by
  cases h <;> rfl

/-- Once an instruction has been fetched, its step does not fail as if there were none. -/
theorem StepFault.isUnfetched {σ : Type} [Host σ] (hp : Host.Plain σ) {s : Session σ}
    {fault : Fault} (h : StepFault s fault) {fetched : Fetched}
    (hf : s.image.fetch s.machine.ip = .ok fetched) : fault.isUnfetched = false := by
  cases h with
  | unfetched h => cases h.symm.trans hf
  | refused h => exact isUnfetched_of_source (.inl (hp _ _ h))
  | full h => exact isUnfetched_of_source (.inr (.inr h))
  | command _ hc =>
      cases hc with
      | undecoded _ h => exact (decode_error h).isUnfetched
      | value _ h => exact isUnfetched_of_source (.inr (.inl h))
      | stack h => exact isUnfetched_of_source (.inr (.inr h))

namespace Session

/-- The ending of a run whose last step finds no instruction. -/
def Ending.isUnfetched : Ending → Bool
  | halted => false
  | failed fault => fault.isUnfetched

variable {σ : Type}

/-! ## Traces -/

/-- What is said about the operand of an instruction, as the bits of its opcode byte have it. -/
inductive OperandLabel (instruction : Instruction) (opcode : UInt8) : String → Prop where
  | none (h : instruction.hasOperand = false) : OperandLabel instruction opcode "-"
  | register (h : instruction.hasOperand = true) (hr : opcode &&& Opcode.registerBit ≠ 0)
      (hl : opcode &&& Opcode.literalBit = 0) : OperandLabel instruction opcode "Register"
  | literal (h : instruction.hasOperand = true) (hr : opcode &&& Opcode.registerBit = 0)
      (hl : opcode &&& Opcode.literalBit ≠ 0) : OperandLabel instruction opcode "Immediate"
  | sum (h : instruction.hasOperand = true) (hr : opcode &&& Opcode.registerBit ≠ 0)
      (hl : opcode &&& Opcode.literalBit ≠ 0) :
      OperandLabel instruction opcode "Register+Immediate"
  | unknown (h : instruction.hasOperand = true) (hr : opcode &&& Opcode.registerBit = 0)
      (hl : opcode &&& Opcode.literalBit = 0) : OperandLabel instruction opcode "?"

/-- The text `offset: name (byte) operand stack=[words]`. The offset stands in a column of six
characters and the name in one of four, the byte has two hexadecimal digits, and the words go from
the bottom of the stack to its top. -/
def traceText (offset : Nat) (opcode : UInt8) (name label : String) (stack : List Word) :
    List Char :=
  let digits := Nat.toDigits 10 offset
  List.replicate (6 - digits.length) ' ' ++ digits ++ [':', ' ']
    ++ name.toList ++ List.replicate (4 - name.length) ' '
    ++ [' ', '(', '0', 'x', Nat.digitChar (opcode.toNat / 16), Nat.digitChar (opcode.toNat % 16),
      ')', ' '] ++ label.toList
    ++ " stack=[".toList
    ++ [',', ' '].intercalate (stack.reverse.map NumberStyle.detailed.chars) ++ [']']

/-- The record of the next step: there is a byte that names an instruction, and the record tells
where it was found, what it is and what is on the stack before the step. -/
structure StepRecord (s : Session σ) (record : Record) : Prop where
  level_eq : record.level = .debug
  message_eq : ∃ opcode instruction label, s.image.byte? s.machine.ip = some opcode ∧
    Instruction.ofOpcode? (opcode &&& Opcode.commandMask) = some instruction ∧
    OperandLabel instruction opcode label ∧
    record.message.toList =
      traceText s.machine.ip opcode instruction.mnemonic label s.machine.stack

theorem operandLabel_fetched (fetched : Fetched) :
    OperandLabel fetched.instruction fetched.opcode fetched.operandLabel := by
  unfold Fetched.operandLabel
  cases ho : fetched.instruction.hasOperand with
  | false => exact .none ho
  | true =>
      unfold Mode.ofOpcode?
      cases hr : fetched.opcode &&& Opcode.registerBit != 0 <;>
        cases hl : fetched.opcode &&& Opcode.literalBit != 0
      · exact .unknown ho (by simpa using hr) (by simpa using hl)
      · exact .literal ho (by simpa using hr) (by simpa using hl)
      · exact .register ho (by simpa using hr) (by simpa using hl)
      · exact .sum ho (by simpa using hr) (by simpa using hl)

theorem toList_hexadecimal (opcode : UInt8) :
    (Text.hexadecimal 2 opcode.toNat).toList =
      ['0', 'x', Nat.digitChar (opcode.toNat / 16), Nat.digitChar (opcode.toNat % 16)] := by
  have hall : ∀ n : Fin 256, (Text.hexadecimal 2 n.val).toList =
      ['0', 'x', Nat.digitChar (n.val / 16), Nat.digitChar (n.val % 16)] := by decide +kernel
  exact hall opcode.toFin

theorem message_record (fetched : Fetched) (stack : List Word) :
    (fetched.record stack).message.toList =
      traceText fetched.offset fetched.opcode fetched.instruction.mnemonic fetched.operandLabel
        stack := by
  have htext : ∀ w, (NumberStyle.detailed.text w).toList = NumberStyle.detailed.chars w :=
    fun w => String.toList_ofList
  have hdigits : fetched.offset.repr.length = (Nat.toDigits 10 fetched.offset).length :=
    String.length_ofList
  simp [Fetched.record, traceText, Text.padLeft, Text.padRight, toList_hexadecimal, Stack.text,
    Function.comp_def, htext, hdigits]

theorem nextRecord?_of_fetch {s : Session σ} {fetched : Fetched}
    (h : s.image.fetch s.machine.ip = .ok fetched) :
    ∃ record, s.nextRecord? = some record ∧ s.StepRecord record := by
  obtain ⟨hoffset, hb, hi⟩ := fetch_eq_ok.mp h
  refine ⟨fetched.record s.machine.stack, ?_, rfl, fetched.opcode, fetched.instruction,
    fetched.operandLabel, hb, hi, operandLabel_fetched fetched, ?_⟩
  · rw [nextRecord?, h]
  · rw [message_record, hoffset]

variable [Host σ] {s s' : Session σ} {ending : Ending}

/-- The trace of a run that comes to its end with the step behind `n` others: each step has its
record, in the order of the steps, but for a last one that finds no instruction. -/
structure ResumeTrace (s s' : Session σ) (ending : Ending) (n : Nat) (records : List Record) :
    Prop where
  ends : ∃ t, s.resume n = (none, t) ∧ StepEnds t s' ending
  length_eq : records.length = if ending.isUnfetched then n else n + 1
  record : ∀ i record, records[i]? = some record → (s.resume i).2.StepRecord record

/-- The trace of a run from the first instruction. There are no steps without a header. -/
inductive RunTrace (s : Session σ) : Session σ → Ending → List Record → Prop where
  | unstarted {fault} (h : ¬ s.image.HasHeader) (hs : fault.source = .header) :
      RunTrace s s (.failed fault) []
  | started {s' ending n trace} (h : s.image.HasHeader)
      (ht : ResumeTrace { s with machine := { s.machine with ip := Image.headerSize } } s' ending
        n trace) : RunTrace s s' ending trace

theorem resumeTrace_nil {fault : Fault} (h : step s = .error fault s')
    (hu : fault.isUnfetched = true) : ResumeTrace s s' (.failed fault) 0 [] where
  ends := ⟨s, rfl, .failed h⟩
  length_eq := by simp [Ending.isUnfetched, hu]
  record := nofun

theorem resumeTrace_singleton {record : Record} (h : StepEnds s s' ending)
    (hu : ending.isUnfetched = false) (hr : s.StepRecord record) :
    ResumeTrace s s' ending 0 [record] where
  ends := ⟨s, rfl, h⟩
  length_eq := by simp [hu]
  record := by
    intro i record' hi
    obtain ⟨rfl, rfl⟩ : i = 0 ∧ record = record' := by simpa [List.getElem?_singleton] using hi
    exact hr

theorem ResumeTrace.cons {s₁ : Session σ} {n : Nat} {trace : List Record} {record : Record}
    (h : ResumeTrace s₁ s' ending n trace) (hstep : step s = .ok .next s₁)
    (hr : s.StepRecord record) : ResumeTrace s s' ending (n + 1) (record :: trace) where
  ends := by
    rw [resume_succ_of_next hstep]
    exact h.ends
  length_eq := by
    rw [List.length_cons, h.length_eq]
    split <;> rfl
  record := by
    intro i record' hi
    cases i with
    | zero =>
        cases hi
        exact hr
    | succ i =>
        rw [resume_succ_of_next hstep]
        exact h.record i record' hi

theorem RunTrace.level_eq {trace : List Record} (h : RunTrace s s' ending trace) :
    ∀ record ∈ trace, record.level = .debug := by
  intro record hmem
  cases h with
  | unstarted => cases hmem
  | started _ ht =>
      obtain ⟨i, hi⟩ := List.mem_iff_getElem?.mp hmem
      exact (ht.record i record hi).level_eq

/-! ## Traced runs -/

theorem resumeTraced_of_resume (hp : Host.Plain σ) {fuel : Nat}
    (h : s.resume fuel = (some ending, s')) :
    ∃ n trace, ResumeTrace s s' ending n trace ∧
      ∀ journal, s.resumeTraced fuel journal = (some ending, s', journal ++ trace.toArray) := by
  -- The journal stays free: a record is in it before the rest of the run is traced.
  induction fuel generalizing s with
  | zero => cases h
  | succ fuel ih =>
      cases hf : s.image.fetch s.machine.ip with
      | error fault =>
          have hstep := (StepDerivation.unfetched hf).execution
          rw [resume_succ_of_error hstep] at h
          cases h
          have hu : fault.isUnfetched = true := by
            rcases fetch_error hf with rfl | ⟨opcode, rfl⟩ <;> rfl
          refine ⟨0, [], resumeTrace_nil hstep hu, ?_⟩
          intro journal
          simp [resumeTraced, nextRecord?, hf, hstep]
      | ok fetched =>
          obtain ⟨record, hnext, hr⟩ := nextRecord?_of_fetch hf
          cases hstep : step s with
          | ok flow s₁ =>
              cases flow with
              | next =>
                  rw [resume_succ_of_next hstep] at h
                  obtain ⟨n, trace, ht, htraced⟩ := ih h
                  refine ⟨n + 1, record :: trace, ht.cons hstep hr, ?_⟩
                  intro journal
                  simp [resumeTraced, hnext, hstep, htraced]
              | halt =>
                  rw [resume_succ_of_halt hstep] at h
                  cases h
                  refine ⟨0, [record], resumeTrace_singleton (.halted hstep) rfl hr, ?_⟩
                  intro journal
                  simp [resumeTraced, hnext, hstep]
          | error fault s₁ =>
              rw [resume_succ_of_error hstep] at h
              cases h
              have hu := (stepDerivation_iff.mpr hstep).fault.isUnfetched hp hf
              refine ⟨0, [record], resumeTrace_singleton (.failed hstep) hu hr, ?_⟩
              intro journal
              simp [resumeTraced, hnext, hstep]

end Session

/-! ## Traced jobs -/

namespace Job

/-- A job whose run ends is reported on as the run has ended, and the trace of the run goes into its
journal if the job is traced. -/
theorem run_of_ended {fuel : Nat} {s s' : Session Console} {ending : Session.Ending}
    (h : s.run fuel = (some ending, s')) :
    ∃ trace, Session.RunTrace s s' ending trace ∧ ∀ path traced journal,
      Job.run fuel ⟨path, traced, s, journal⟩ = some (Job.report
        ⟨path, traced, s', journal ++ if traced then trace.toArray else #[]⟩ ending) := by
  by_cases hh : s.image.HasHeader
  · have hs := Session.start_of_header hh
    rw [Session.run_of_header hh] at h
    obtain ⟨n, trace, ht, htraced⟩ := Session.resumeTraced_of_resume console_plain h
    refine ⟨trace, .started hh ht, ?_⟩
    intro path traced journal
    cases traced with
    | false => simp [run, start, resume, hs, h, Except.map]
    | true => simp [run, start, resume, hs, htraced, Except.map]
  · obtain ⟨fault, hsource, hs⟩ := Session.start_of_no_header hh
    simp only [Session.run, hs] at h
    cases h
    refine ⟨[], .unstarted hh hsource, ?_⟩
    intro path traced journal
    simp [run, start, hs, Except.map]

theorem run_of_unended {fuel : Nat} {job : Job} (h : (job.session.run fuel).1 = none) :
    job.run fuel = none := by
  obtain ⟨journal, heq⟩ := run_eq fuel job
  rw [heq, h]
  rfl

end Job

/-- The report on a traced job differs from the one without a trace by the records of the trace,
which stand between the first record and the last. -/
structure TraceSpec (path : String) (first : Record) (trace : List Record)
    (plain traced : Report) : Prop where
  fault_eq : traced.fault = plain.fault
  verdict_eq : traced.verdict path = plain.verdict path
  console_eq : traced.console = plain.console
  level_eq : ∀ record ∈ trace, record.level = .debug
  records : ∃ last : Record, last.level ≠ .debug ∧ plain.records path = [first, last] ∧
    traced.records path = first :: (trace ++ [last])

theorem traceSpec_report {fuel : Nat} {image : Image} {console : Console} {s : Session Console}
    {ending : Session.Ending} (hr : (Session.fresh image console).run fuel = (some ending, s))
    (path : String) (first : Record) {trace : List Record}
    (h : ∀ record ∈ trace, record.level = .debug) :
    TraceSpec path first trace (Job.report ⟨path, false, s, #[first]⟩ ending)
      (Job.report ⟨path, true, s, #[first] ++ trace.toArray⟩ ending) := by
  obtain ⟨status, last, hlast, hreport⟩ := conclusion_of_run hr path
  refine ⟨?_, ?_, ?_, h, last, hlast.level_ne, ?_, ?_⟩
  · cases ending <;> rfl
  · cases ending <;> rfl
  · simp only [Job.console_report]
  · rw [(hreport _ _).2]
    rfl
  · simp [(hreport _ _).2]

/-- What a trace adds to a job: nothing if there is nothing to run or the run has not ended, and
otherwise the trace of the run. -/
inductive TracingRule (fuel : Nat) (system : System) (path : String) (console : Console) :
    Option Report → Option Report → Prop where
  | notLoaded {fault report} (h : system.loadImage path = .error fault)
      (hr : report.records path = [⟨.error, fault.message⟩]) :
      TracingRule fuel system path console (some report) (some report)
  | unfinished {image} (h : system.loadImage path = .ok image)
      (hr : ((Session.fresh image console).run fuel).1 = none) :
      TracingRule fuel system path console none none
  | ended {image s ending trace plain traced} (h : system.loadImage path = .ok image)
      (hr : (Session.fresh image console).run fuel = (some ending, s))
      (ht : Session.RunTrace (Session.fresh image console) s ending trace)
      (hs : TraceSpec path ⟨.info, s!"loaded {image.size} bytes from {path}"⟩ trace plain traced) :
      TracingRule fuel system path console (some plain) (some traced)

/-- Tracing does not interfere: a job comes to the same end with and without a trace, with the same
output and the same input left, and the trace has a record for every instruction that was fetched,
in the order of the run, between the record on loading and the last one. -/
theorem tracing_adds_only_records (fuel : Nat) (system : System) (path : String)
    (console : Console) :
    TracingRule fuel system path console (Job.execute fuel system path false console)
      (Job.execute fuel system path true console) := by
  unfold Job.execute
  cases h : system.loadImage path with
  | error fault => exact .notLoaded h (Report.records_of_loading (loadImage_error h) console path)
  | ok image =>
      rcases hr : (Session.fresh image console).run fuel with ⟨_ | ending, s⟩
      · have hend : ((Session.fresh image console).run fuel).1 = none := congrArg Prod.fst hr
        have hrun : ∀ traced, (Job.ofImage path traced console image).run fuel = none :=
          fun traced => Job.run_of_unended hend
        simp only [hrun]
        exact .unfinished h hend
      · obtain ⟨trace, ht, hjob⟩ := Job.run_of_ended hr
        have hrun : ∀ traced, (Job.ofImage path traced console image).run fuel = _ :=
          fun traced => hjob path traced _
        simp only [hrun]
        exact .ended h hr ht (traceSpec_report hr path _ ht.level_eq)

/-- A trace of two instructions, the first of which puts a word on the stack. -/
theorem tracing_adds_only_records_of_push :
    let system : System := ⟨fun _ => .ok (.ofBytes [0x48, 0x59, 0x56, 0x4d, 3,
      0x21, 0, 0, 0, 0, 0, 0, 0xf8, 0x3f, 0x00]), fun _ _ => true⟩
    ((Job.execute 2 system "a" false {}).map fun report => report.records "a") =
      some [⟨.info, "loaded 15 bytes from a"⟩, ⟨.info, "a halted at offset 14"⟩] ∧
    ((Job.execute 2 system "a" true {}).map fun report => report.records "a") =
      some [⟨.info, "loaded 15 bytes from a"⟩,
        ⟨.debug, "     5: PUSH (0x21) Immediate stack=[]"⟩,
        ⟨.debug, "    14: HLT  (0x00) - stack=[1.5]"⟩, ⟨.info, "a halted at offset 14"⟩] ∧
    TracingRule 2 system "a" {} (Job.execute 2 system "a" false {})
      (Job.execute 2 system "a" true {}) := by
  intro system
  have hload : system.loadImage "a" = .ok ⟨#[0x48, 0x59, 0x56, 0x4d, 3,
      0x21, 0, 0, 0, 0, 0, 0, 0xf8, 0x3f, 0x00]⟩ :=
    Image.load_complete (fun _ _ => rfl) (by rintro _ _ ⟨⟩) (by decide) "a"
  refine ⟨?_, ?_, tracing_adds_only_records 2 system "a" {}⟩
  · simp only [Job.execute, hload]
    decide +kernel
  · simp only [Job.execute, hload]
    decide +kernel

end FloatMachine
