import FloatMachine.CommandLine
import Mathlib.Data.List.Induction

/-! What a list of arguments asks for. One path among switches, in whatever order and however often
these are given, asks for a run. Any other list is refused, and the leftmost argument that settles
the matter decides what is said about it. Reading goes from left to right and takes note of every
argument that leaves the matter open. -/

namespace FloatMachine

/-! ## Kinds of arguments -/

namespace CommandLine

/-- The argument is one of the two switches. -/
def isSwitch (argument : String) : Bool :=
  argument = "--trace" || argument = "--no-timestamp"

/-- The argument asks how the program is used. -/
def asksHelp (argument : String) : Bool := argument = "--help" || argument = "-h"

/-- The argument does not start with a dash. It is a path then, even if it is empty. -/
def isPath (argument : String) : Bool := argument.toList.head? ≠ some '-'

/-- The argument starts with a dash, and there is no such option. -/
def isUnknown (argument : String) : Bool :=
  !isPath argument && !isSwitch argument && !asksHelp argument

/-- Behind the arguments in front of it, the argument settles the matter: it asks for help, it is an
unknown option or a second path. -/
def settles (front : List String) (argument : String) : Bool :=
  asksHelp argument || isUnknown argument || (isPath argument && front.any isPath)

/-- No argument settles the matter. -/
def Undecided (arguments : List String) : Prop :=
  ∀ front argument, front ++ [argument] <+: arguments → settles front argument = false

/-- The argument behind those in `front` is the leftmost one that settles the matter. -/
structure Decides (arguments front : List String) (argument : String) : Prop where
  among : front ++ [argument] <+: arguments
  settles : settles front argument = true
  leftmost : Undecided front

/-- One argument is a path, this one, and all others are switches. -/
structure Runs (arguments : List String) (path : String) : Prop where
  paths : arguments.filter isPath = [path]
  switches : ∀ argument ∈ arguments, isPath argument = false → isSwitch argument = true

/-- The log as the switches among the arguments want it. -/
def settingsOf (arguments : List String) : LogSettings where
  showDebug := arguments.contains "--trace"
  showTime := !arguments.contains "--no-timestamp"

theorem not_isPath_of_isSwitch {argument : String} (h : isSwitch argument = true) :
    isPath argument = false := by
  simp only [isSwitch, Bool.or_eq_true, decide_eq_true_eq] at h
  rcases h with rfl | rfl <;> decide

theorem not_isPath_of_asksHelp {argument : String} (h : asksHelp argument = true) :
    isPath argument = false := by
  simp only [asksHelp, Bool.or_eq_true, decide_eq_true_eq] at h
  rcases h with rfl | rfl <;> decide

theorem not_isSwitch_of_asksHelp {argument : String} (h : asksHelp argument = true) :
    isSwitch argument = false := by
  simp only [asksHelp, Bool.or_eq_true, decide_eq_true_eq] at h
  rcases h with rfl | rfl <;> decide

theorem ne_of_isPath {argument : String} (h : isPath argument = true) (option : String)
    (ho : isPath option = false) : argument ≠ option := by
  rintro rfl
  cases h.symm.trans ho

theorem settles_eq_false {front : List String} {argument : String} :
    settles front argument = false ↔
      isSwitch argument = true ∨ (isPath argument = true ∧ front.any isPath = false) := by
  cases hs : isSwitch argument with
  | true =>
      have hh : asksHelp argument = false := by
        by_contra h
        rw [not_isSwitch_of_asksHelp (Bool.of_not_eq_false h)] at hs
        cases hs
      simp [settles, isUnknown, hs, hh, not_isPath_of_isSwitch hs]
  | false =>
      cases hh : asksHelp argument with
      | true => simp [settles, hh, not_isPath_of_asksHelp hh]
      | false => cases hp : isPath argument <;> simp [settles, isUnknown, hs, hh, hp]

example : isUnknown "-" = true ∧ settles [] "" = false ∧ settles ["", "--trace"] "" = true := by
  decide

/-! ## Reading from left to right -/

variable {program : String}

theorem read_switch {argument : String} (h : isSwitch argument = true)
    (front rest : List String) (image : Option String) :
    read program (settingsOf front) image (argument :: rest) =
      read program (settingsOf (front ++ [argument])) image rest := by
  simp only [isSwitch, Bool.or_eq_true, decide_eq_true_eq] at h
  rcases h with rfl | rfl <;> simp [read, settingsOf]

theorem read_path {argument : String} (h : isPath argument = true) (settings : LogSettings)
    (image : Option String) (rest : List String) :
    read program settings image (argument :: rest) =
      if image.isNone then read program settings (some argument) rest
      else
        ⟨program, .misuse (some ("Unexpected argument: " ++ argument ++ "\n")), settings⟩ := by
  have hdash : argument.toList.head? ≠ some '-' := by simpa [isPath] using h
  cases image <;>
    simp [read, hdash, ne_of_isPath h "--help" (by decide), ne_of_isPath h "-h" (by decide),
      ne_of_isPath h "--trace" (by decide), ne_of_isPath h "--no-timestamp" (by decide)]

theorem read_help {argument : String} (h : asksHelp argument = true) (settings : LogSettings)
    (image : Option String) (rest : List String) :
    read program settings image (argument :: rest) = ⟨program, .help, settings⟩ := by
  simp only [asksHelp, Bool.or_eq_true, decide_eq_true_eq] at h
  rcases h with rfl | rfl <;> simp [read]

theorem read_unknown {argument : String} (h : isUnknown argument = true) (settings : LogSettings)
    (image : Option String) (rest : List String) :
    read program settings image (argument :: rest) =
      ⟨program, .misuse (some ("Unknown option: " ++ argument ++ "\n")), settings⟩ := by
  simp only [isUnknown, isPath, isSwitch, asksHelp, Bool.and_eq_true, Bool.not_eq_true',
    Bool.or_eq_false_iff, decide_eq_false_iff_not, not_not] at h
  obtain ⟨⟨hdash, htrace, htime⟩, hhelp, hh⟩ := h
  simp [read, hdash, htrace, htime, hhelp, hh]

theorem settingsOf_path {argument : String} (h : isPath argument = true)
    (front : List String) : settingsOf (front ++ [argument]) = settingsOf front := by
  have htrace := ne_of_isPath h "--trace" (by decide)
  have htime := ne_of_isPath h "--no-timestamp" (by decide)
  simp [settingsOf, htrace.symm, htime.symm]

/-- One step: an argument that leaves the matter open is taken note of. -/
theorem read_cons_of_open {front : List String} {argument : String}
    (h : settles front argument = false) (rest : List String) :
    read program (settingsOf front) (front.find? isPath) (argument :: rest) =
      read program (settingsOf (front ++ [argument])) ((front ++ [argument]).find? isPath)
        rest := by
  rw [List.find?_append]
  rcases settles_eq_false.mp h with hs | ⟨hp, hfront⟩
  · rw [read_switch hs, List.find?_cons_of_neg (by simp [not_isPath_of_isSwitch hs]),
      List.find?_nil, Option.or_none]
  · have hnone : front.find? isPath = none := by simpa using hfront
    rw [read_path hp, hnone, settingsOf_path hp, List.find?_cons_of_pos hp]
    rfl

theorem undecided_nil : Undecided [] := by
  intro front argument h
  simp at h

theorem undecided_concat {front : List String} {argument : String} :
    Undecided (front ++ [argument]) ↔ Undecided front ∧ settles front argument = false := by
  constructor
  · intro h
    refine ⟨?_, h front argument List.prefix_rfl⟩
    intro front' argument' hfront'
    exact h front' argument' (hfront'.trans (List.prefix_append _ _))
  · rintro ⟨hfront, hsettles⟩ front' argument' hfront'
    rw [List.prefix_concat_iff] at hfront'
    rcases hfront' with heq | hfront'
    · obtain ⟨rfl, hlast⟩ := List.append_inj' heq rfl
      cases hlast
      exact hsettles
    · exact hfront front' argument' hfront'

theorem read_append {front : List String} (h : Undecided front) (rest : List String) :
    read program {} none (front ++ rest) =
      read program (settingsOf front) (front.find? isPath) rest := by
  -- The front grows at its end, as it does while it is read.
  induction front using List.reverseRecOn generalizing rest with
  | nil => rfl
  | append_singleton front argument ih =>
      obtain ⟨hfront, hsettles⟩ := undecided_concat.mp h
      rw [List.append_assoc, List.singleton_append, ih hfront, read_cons_of_open hsettles]

theorem undecided_or_decides (arguments : List String) :
    Undecided arguments ∨ ∃ front argument, Decides arguments front argument := by
  induction arguments using List.reverseRecOn with
  | nil => exact .inl undecided_nil
  | append_singleton front argument ih =>
      rcases ih with hfront | ⟨front', argument', h⟩
      · cases hs : settles front argument with
        | false => exact .inl (undecided_concat.mpr ⟨hfront, hs⟩)
        | true => exact .inr ⟨front, argument, List.prefix_rfl, hs, hfront⟩
      · have hamong := h.among.trans (List.prefix_append front [argument])
        exact .inr ⟨front', argument', hamong, h.settles, h.leftmost⟩

theorem Decides.read_eq {arguments front : List String} {argument : String}
    (h : Decides arguments front argument) (program : String) :
    ∃ rest, read program {} none arguments =
      read program (settingsOf front) (front.find? isPath) (argument :: rest) := by
  obtain ⟨rest, rfl⟩ := h.among
  refine ⟨rest, ?_⟩
  rw [List.append_assoc, List.singleton_append, read_append h.leftmost]

theorem Undecided.read_eq {arguments : List String} (h : Undecided arguments)
    (program : String) :
    read program {} none arguments =
      ⟨program, (arguments.find? isPath).elim (.misuse none) .run, settingsOf arguments⟩ := by
  have hread : read program {} none (arguments ++ []) = _ := read_append h []
  rw [List.append_nil] at hread
  rw [hread]
  cases arguments.find? isPath <;> rfl

/-! ## Lines that run an image -/

theorem Undecided.isSwitch_of_mem {arguments : List String} (h : Undecided arguments)
    {argument : String} (hmem : argument ∈ arguments) (hp : isPath argument = false) :
    isSwitch argument = true := by
  obtain ⟨front, rest, rfl⟩ := List.append_of_mem hmem
  have hopen := h front argument ⟨rest, by simp⟩
  rcases settles_eq_false.mp hopen with hs | ⟨hpath, _⟩
  · exact hs
  · cases hp.symm.trans hpath

theorem Undecided.filter_isPath {arguments : List String} (h : Undecided arguments) :
    arguments.filter isPath = (arguments.find? isPath).toList := by
  induction arguments using List.reverseRecOn with
  | nil => rfl
  | append_singleton front argument ih =>
      obtain ⟨hfront, hsettles⟩ := undecided_concat.mp h
      rw [List.filter_append, List.find?_append, ih hfront]
      rcases settles_eq_false.mp hsettles with hs | ⟨hp, hnone⟩
      · simp [not_isPath_of_isSwitch hs]
      · have hfind : front.find? isPath = none := by simpa using hnone
        simp [hfind, hp]

theorem Runs.undecided {arguments : List String} {path : String} (h : Runs arguments path) :
    Undecided arguments := by
  rintro front argument ⟨rest, rfl⟩
  rw [settles_eq_false]
  cases hp : isPath argument with
  | false => exact .inl (h.switches argument (by simp) hp)
  | true =>
      -- A path in front would be a second one.
      refine .inr ⟨rfl, ?_⟩
      have hlength := congrArg List.length h.paths
      simp only [List.filter_append, List.filter_cons_of_pos hp, List.length_append,
        List.length_cons, List.length_nil] at hlength
      have hnil : front.filter isPath = [] := List.length_eq_zero_iff.mp (by omega)
      simpa using hnil

theorem runs_iff {arguments : List String} {path : String} :
    Runs arguments path ↔ Undecided arguments ∧ arguments.find? isPath = some path := by
  constructor
  · intro h
    refine ⟨h.undecided, ?_⟩
    rw [← List.head?_filter, h.paths, List.head?_cons]
  · rintro ⟨hopen, hfind⟩
    refine ⟨?_, fun argument hmem hp => hopen.isSwitch_of_mem hmem hp⟩
    rw [hopen.filter_isPath, hfind, Option.toList_some]

theorem Runs.read_eq {arguments : List String} {path : String} (h : Runs arguments path)
    (program : String) :
    read program {} none arguments = ⟨program, .run path, settingsOf arguments⟩ := by
  obtain ⟨hopen, hfind⟩ := runs_iff.mp h
  rw [hopen.read_eq, hfind, Option.elim_some]

/-! ## Lines that run nothing -/

/-- What is to be said about arguments that run nothing. The leftmost argument that settles the
matter decides; without one there is no path. The log is as the arguments in front want it. -/
inductive Refusal (arguments : List String) :
    List String → Nat → Option String → Prop where
  | help {front argument} (h : Decides arguments front argument)
      (ha : asksHelp argument = true) : Refusal arguments front 0 none
  | unknown {front argument} (h : Decides arguments front argument)
      (ha : isUnknown argument = true) :
      Refusal arguments front 1 (some ("Unknown option: " ++ argument ++ "\n"))
  | second {front argument} (h : Decides arguments front argument)
      (ha : isPath argument = true) :
      Refusal arguments front 1 (some ("Unexpected argument: " ++ argument ++ "\n"))
  | missing (h : ∀ argument ∈ arguments, isSwitch argument = true) :
      Refusal arguments arguments 1 none

theorem undecided_of_isSwitch {arguments : List String}
    (h : ∀ argument ∈ arguments, isSwitch argument = true) : Undecided arguments := by
  rintro front argument ⟨rest, rfl⟩
  exact settles_eq_false.mpr (.inl (h argument (by simp)))

theorem Decides.refusal {arguments front : List String} {argument : String}
    (h : Decides arguments front argument) :
    ∃ status complaint, Refusal arguments front status complaint := by
  have hsettles := h.settles
  simp only [CommandLine.settles, Bool.or_eq_true, Bool.and_eq_true] at hsettles
  rcases hsettles with (ha | ha) | ⟨ha, _⟩
  · exact ⟨_, _, .help h ha⟩
  · exact ⟨_, _, .unknown h ha⟩
  · exact ⟨_, _, .second h ha⟩

theorem exists_refusal {arguments : List String} (h : ∀ path, ¬ Runs arguments path) :
    ∃ front status complaint, Refusal arguments front status complaint := by
  rcases undecided_or_decides arguments with hopen | ⟨front, argument, hdecides⟩
  · refine ⟨arguments, 1, none, .missing ?_⟩
    have hfind : arguments.find? isPath = none := by
      rw [Option.eq_none_iff_forall_ne_some]
      intro path hpath
      exact h path (runs_iff.mpr ⟨hopen, hpath⟩)
    intro argument hmem
    have hpath := List.find?_eq_none.mp hfind argument hmem
    exact hopen.isSwitch_of_mem hmem (Bool.of_not_eq_true hpath)
  · obtain ⟨status, complaint, hrefusal⟩ := hdecides.refusal
    exact ⟨front, status, complaint, hrefusal⟩

/-- The request that a refusal answers. -/
def refused (status : Nat) (complaint : Option String) : Request :=
  if status = 0 then .help else .misuse complaint

theorem Refusal.read_eq {arguments front : List String} {status : Nat}
    {complaint : Option String} (h : Refusal arguments front status complaint)
    (program : String) :
    read program {} none arguments =
      ⟨program, refused status complaint, settingsOf front⟩ := by
  cases h with
  | help h ha =>
      obtain ⟨rest, heq⟩ := h.read_eq program
      rw [heq, read_help ha]
      rfl
  | unknown h ha =>
      obtain ⟨rest, heq⟩ := h.read_eq program
      rw [heq, read_unknown ha]
      rfl
  | @second front argument h ha =>
      obtain ⟨rest, heq⟩ := h.read_eq program
      have hfront : (front.find? isPath).isNone = false := by
        by_contra hnone
        have hopen : CommandLine.settles front argument = false :=
          settles_eq_false.mpr (.inr ⟨ha, by simpa using hnone⟩)
        cases h.settles.symm.trans hopen
      rw [heq, read_path ha, hfront]
      rfl
  | missing h =>
      have hfind : arguments.find? isPath = none := by
        rw [List.find?_eq_none]
        intro argument hmem
        rw [not_isPath_of_isSwitch (h argument hmem)]
        exact Bool.false_ne_true
      rw [(undecided_of_isSwitch h).read_eq, hfind]
      rfl

theorem runs_or_refusal (arguments : List String) :
    (∃ path, Runs arguments path) ∨
      ∃ front status complaint, Refusal arguments front status complaint := by
  by_cases h : ∃ path, Runs arguments path
  · exact .inl h
  · exact .inr (exists_refusal (not_exists.mp h))

theorem request_eq_run_iff {arguments : List String} {path : String} :
    (read program {} none arguments).request = .run path ↔ Runs arguments path := by
  constructor
  · intro h
    rcases runs_or_refusal arguments with ⟨path', hruns⟩ | ⟨front, status, complaint, hrefusal⟩
    · rw [hruns.read_eq] at h
      cases h
      exact hruns
    · rw [hrefusal.read_eq] at h
      cases hrefusal <;> cases h
  · intro h
    rw [h.read_eq]

end CommandLine

end FloatMachine
