import EffectText.CommandLine
import Mathlib.Logic.Relation

/-! # Runs of the program

    A run loads a ruleset and then content, and audits the content if both could be loaded. So
    there are three ways for it to end, and each one has its outcome
    (`Request.run_of_ruleset_error`, `Request.run_of_content_error`, `Request.run_of_loaded`).

    * **Flags**: wherever flags are inserted into the arguments or deleted from them, the
      request is the same but for the format of the report
      (`Request.ofArguments_of_sameBesidesFlags`), and the format decides nothing but what is
      printed.
    * **Files**: a run reads both its files from the surroundings, wherever they stand
      (`Request.run_of_unreadable_ruleset`). It sees no others, and not even the second one if
      the first cannot be loaded (`Request.run_eq_of_file_eq`,
      `Request.run_eq_of_ruleset_error`). So what the program gathers before it runs is enough
      (`runProgram_gathered`).
    * `runProgram_handles_arguments`: what arguments select, when a run fails, and what a
      failed run leaves out.
-/

namespace EffectText

/-! ## Flags among the arguments -/

/-- **One flag more**: the other list has the flag at one more place. -/
def OneFlagMore (arguments other : List String) : Prop :=
  ∃ front back, arguments = front ++ back ∧ other = front ++ jsonFlag :: back

/-- **Same besides flags**: flags can be inserted and deleted, at any places, so that the one
    list becomes the other. -/
def SameBesidesFlags : List String → List String → Prop := Relation.EqvGen OneFlagMore

/-- The arguments that are no flags. -/
def pathArguments (arguments : List String) : List String := arguments.filter (· ≠ jsonFlag)

theorem SameBesidesFlags.pathArguments_eq {arguments other : List String}
    (h : SameBesidesFlags arguments other) : pathArguments arguments = pathArguments other := by
  unfold pathArguments
  induction h with
  | rel arguments other hmore =>
    obtain ⟨front, back, rfl, rfl⟩ := hmore
    rw [List.filter_append, List.filter_append, List.filter_cons_of_neg (by simp)]
  | refl => rfl
  | symm _ _ _ ih => exact ih.symm
  | trans _ _ _ _ _ first second => exact first.trans second

namespace Request

/-- The request of arguments, by the places of the arguments that are no flags. -/
theorem ofArguments_eq (arguments : List String) :
    ofArguments arguments =
      { json := arguments.contains jsonFlag
        ruleset := (pathArguments arguments)[0]?
        content := (pathArguments arguments)[1]? } := by
  unfold ofArguments pathArguments
  dsimp only
  rw [List.head?_eq_getElem?, List.head?_eq_getElem?, List.getElem?_tail]

/-- Flags select the format of the report and nothing else. -/
theorem ofArguments_of_sameBesidesFlags {arguments other : List String}
    (h : SameBesidesFlags arguments other) :
    ofArguments other = { ofArguments arguments with json := other.contains jsonFlag } := by
  rw [ofArguments_eq, ofArguments_eq, h.pathArguments_eq]

example : ofArguments ["rules.toml", "--json", "more.ron", "--json", "rest"] =
    { json := true, ruleset := some "rules.toml", content := some "more.ron" } := by
  decide

/-! ## The three ways for a run to end -/

variable (request : Request) (around : Surroundings)

/-- The ruleset of a request, or why it cannot be loaded. -/
def loadedRuleset : Except LoadError Ruleset :=
  Ruleset.load RulesetDefinition.ofToml? (request.rulesetPath around)
    (around.file (request.rulesetPath around))

/-- The content of a request, or why it cannot be loaded. -/
def loadedContent : Except LoadError ContentDefinition :=
  ContentDefinition.load ContentDefinition.ofRon? (request.contentPath around)
    (around.file (request.contentPath around))

/-- The report on a request, if both its files can be loaded. -/
def report? : Option Report :=
  match request.loadedRuleset around, request.loadedContent around with
  | .ok ruleset, .ok content => some (audit content.parsed ruleset)
  | _, _ => none

variable {request around}

/-- Without a ruleset nothing is printed, and nothing is told after the start. -/
theorem run_of_ruleset_error {cause : LoadError}
    (h : request.loadedRuleset around = .error cause) :
    request.run around =
      { events := request.startEvents around
        failure := some { task := .loadingRuleset, cause } } := by
  unfold loadedRuleset at h
  unfold run
  simp [h, Outcome.after]

/-- A ruleset that cannot be read fails the run, wherever it stands, and even if there is a
    file. -/
theorem run_of_unreadable_ruleset (h : around.file (request.rulesetPath around) = none) :
    request.run around =
      { events := request.startEvents around
        failure := some
          { task := .loadingRuleset, cause := .unreadable (request.rulesetPath around) } } := by
  apply run_of_ruleset_error
  unfold loadedRuleset
  rw [h]
  rfl

/-- Without any files, the bundled ones are missing too. -/
example :
    let nowhere : Surroundings :=
      { bundledDirectory := "data", isFile := fun _ => false, file := fun _ => none }
    (runProgram [] nowhere).exitCode = 1 := by
  rfl

/-- A local ruleset that is locked is chosen, and then it cannot be read. -/
example :
    let locked : Surroundings :=
      { bundledDirectory := "bundled"
        isFile := fun path => path == "./data/ruleset.toml"
        file := fun _ => none }
    (runProgram [] locked).failure =
      some { task := .loadingRuleset, cause := .unreadable "./data/ruleset.toml" } := by
  cbv

/-- Without content nothing is printed, and nothing is told after the ruleset. -/
theorem run_of_content_error {ruleset : Ruleset} {cause : LoadError}
    (hruleset : request.loadedRuleset around = .ok ruleset)
    (hcontent : request.loadedContent around = .error cause) :
    request.run around =
      { events := request.startEvents around ++
          [ruleset.loadedEvent (request.rulesetPath around)]
        failure := some { task := .loadingContent, cause } } := by
  unfold loadedRuleset at hruleset
  unfold loadedContent at hcontent
  unfold run
  simp [hruleset, hcontent, Outcome.after]

/-- With both files the run does not fail, and the report is printed. -/
theorem run_of_loaded {ruleset : Ruleset} {content : ContentDefinition}
    (hruleset : request.loadedRuleset around = .ok ruleset)
    (hcontent : request.loadedContent around = .ok content) :
    request.run around =
      { output := request.print around (audit content.parsed ruleset)
        events := request.startEvents around ++
          ruleset.loadedEvent (request.rulesetPath around) ::
            (content.loadedEvents (request.contentPath around) ++
              (request.finish around ruleset content).events) } := by
  unfold loadedRuleset at hruleset
  unfold loadedContent at hcontent
  unfold run
  simp [hruleset, hcontent, Outcome.after, finish]

/-! ## What a run depends on -/

/-- The format decides what is printed of a report, and nothing else. -/
theorem run_of_json (request : Request) (around : Surroundings) (json : Bool) :
    { request with json }.run around =
      { request.run around with
        output :=
          ((request.report? around).map ({ request with json }.print around)).getD "" } := by
  -- the format is not asked for before both files are loaded, so both runs end the same way
  cases hruleset : request.loadedRuleset around with
  | error cause =>
    have hother : { request with json }.loadedRuleset around = .error cause := hruleset
    rw [run_of_ruleset_error hruleset, run_of_ruleset_error hother, report?, hruleset]
    rfl
  | ok ruleset =>
    have hother : { request with json }.loadedRuleset around = .ok ruleset := hruleset
    cases hcontent : request.loadedContent around with
    | error cause =>
      have hmissing : { request with json }.loadedContent around = .error cause := hcontent
      rw [run_of_content_error hruleset hcontent, run_of_content_error hother hmissing, report?,
        hruleset, hcontent]
      rfl
    | ok content =>
      have hfound : { request with json }.loadedContent around = .ok content := hcontent
      rw [run_of_loaded hruleset hcontent, run_of_loaded hother hfound, report?, hruleset,
        hcontent]
      rfl

/-- A run does not fail exactly if both files can be loaded. -/
theorem exitCode_run_eq_zero_iff :
    (request.run around).exitCode = 0 ↔
      (∃ ruleset, request.loadedRuleset around = .ok ruleset) ∧
        ∃ content, request.loadedContent around = .ok content := by
  cases hruleset : request.loadedRuleset around with
  | error cause =>
    rw [run_of_ruleset_error hruleset]
    simp [Outcome.exitCode]
  | ok ruleset =>
    cases hcontent : request.loadedContent around with
    | error cause =>
      rw [run_of_content_error hruleset hcontent]
      simp [Outcome.exitCode]
    | ok content =>
      rw [run_of_loaded hruleset hcontent]
      simp [Outcome.exitCode]

/-- What was loaded was read before. -/
theorem isSome_file_of_loaded {ruleset : Ruleset} {content : ContentDefinition}
    (hruleset : request.loadedRuleset around = .ok ruleset)
    (hcontent : request.loadedContent around = .ok content) :
    (around.file (request.rulesetPath around)).isSome ∧
      (around.file (request.contentPath around)).isSome := by
  constructor
  · cases hfile : around.file (request.rulesetPath around) with
    | some bytes => rfl
    | none =>
      rw [loadedRuleset, hfile] at hruleset
      contradiction
  · cases hfile : around.file (request.contentPath around) with
    | some bytes => rfl
    | none =>
      rw [loadedContent, hfile] at hcontent
      contradiction

section Elsewhere

variable {elsewhere : Surroundings} (hroot : elsewhere.dataRoot = around.dataRoot)
  (hruleset : elsewhere.file (request.rulesetPath around) =
    around.file (request.rulesetPath around))

include hroot

/-- The surroundings decide where a ruleset stands by their data directory alone. -/
theorem rulesetPath_eq_of_dataRoot_eq :
    request.rulesetPath elsewhere = request.rulesetPath around := by
  unfold rulesetPath
  rw [hroot]

include hruleset

/-- Surroundings with the same ruleset give the same ruleset. -/
theorem loadedRuleset_eq_of_file_eq :
    request.loadedRuleset elsewhere = request.loadedRuleset around := by
  unfold loadedRuleset
  rw [rulesetPath_eq_of_dataRoot_eq hroot, hruleset]

/-- If the ruleset cannot be loaded, no other file makes a difference. -/
theorem run_eq_of_ruleset_error {cause : LoadError}
    (hcause : request.loadedRuleset around = .error cause) :
    request.run elsewhere = request.run around := by
  have hother : request.loadedRuleset elsewhere = .error cause :=
    (loadedRuleset_eq_of_file_eq hroot hruleset).trans hcause
  rw [run_of_ruleset_error hcause, run_of_ruleset_error hother]
  unfold startEvents
  rw [hroot]

/-- No file makes a difference but the two that are loaded. -/
theorem run_eq_of_file_eq (hcolors : elsewhere.colors = around.colors)
    (hcontent : elsewhere.file (request.contentPath around) =
      around.file (request.contentPath around)) :
    request.run elsewhere = request.run around := by
  have hrulesetPath : request.rulesetPath elsewhere = request.rulesetPath around :=
    rulesetPath_eq_of_dataRoot_eq hroot
  have hcontentPath : request.contentPath elsewhere = request.contentPath around := by
    unfold contentPath
    rw [hroot]
  unfold run finish print startEvents
  simp only [hrulesetPath, hcontentPath, hruleset, hcontent, hroot, hcolors]

end Elsewhere

end Request

/-- **Gathering.** A run asks whether there is a local ruleset, and for the files that may be
    needed. Surroundings that answer these questions alike give the same run. -/
theorem runProgram_gathered (arguments : List String) (around : Surroundings)
    {isFile : String → Bool} {file : String → Option ByteArray}
    (hlocal : isFile around.localRuleset = around.isFile around.localRuleset)
    (hneeded : ∀ path ∈ neededPaths arguments around, file path = around.file path) :
    runProgram arguments { around with isFile, file } = runProgram arguments around := by
  -- the data directory is found before any file is read
  have hroot : { around with isFile, file }.dataRoot = around.dataRoot := by
    have hanswer : { around with isFile, file }.isFile { around with isFile, file }.localRuleset =
        around.isFile around.localRuleset := hlocal
    unfold Surroundings.dataRoot
    rw [hanswer]
    rfl
  apply Request.run_eq_of_file_eq hroot
  case hruleset => exact hneeded _ List.mem_cons_self
  case hcolors => rfl
  case hcontent => exact hneeded _ (List.mem_cons_of_mem _ List.mem_cons_self)

/-! ## What arguments select -/

/-- **Handled**: what the program does with arguments in its surroundings. -/
structure HandlesArguments (arguments : List String) (around : Surroundings) : Prop where
  /-- The ruleset is the first argument that is no flag, or else stands in the data
      directory. -/
  rulesetPath : (Request.ofArguments arguments).rulesetPath around =
    (pathArguments arguments)[0]?.getD (inDirectory around.dataRoot rulesetFile)
  /-- The content is the second argument that is no flag, or else stands in the data
      directory. -/
  contentPath : (Request.ofArguments arguments).contentPath around =
    (pathArguments arguments)[1]?.getD (inDirectory around.dataRoot contentFile)
  /-- All further arguments mean nothing. -/
  further : ∀ other, (pathArguments other).take 2 = (pathArguments arguments).take 2 →
    (jsonFlag ∈ other ↔ jsonFlag ∈ arguments) →
      runProgram other around = runProgram arguments around
  /-- Flags change neither the files, nor the exit code, nor what is told. -/
  flags : ∀ other, SameBesidesFlags arguments other →
    (Request.ofArguments other).rulesetPath around =
        (Request.ofArguments arguments).rulesetPath around ∧
      (Request.ofArguments other).contentPath around =
        (Request.ofArguments arguments).contentPath around ∧
      (runProgram other around).exitCode = (runProgram arguments around).exitCode ∧
      (runProgram other around).failure = (runProgram arguments around).failure ∧
      (runProgram other around).events = (runProgram arguments around).events
  /-- One flag or more selects JSON for the same report, and without a report nothing is
      printed. -/
  printed : ∀ other, SameBesidesFlags arguments other →
    (runProgram other around).output =
      match (Request.ofArguments arguments).report? around with
      | none => ""
      | some report =>
        if jsonFlag ∈ other then report.json.pretty ++ "\n" else report.render around.colors
  /-- The exit code tells whether both files were loaded, whatever the report says. -/
  exitCode : (runProgram arguments around).exitCode = 0 ↔
    (∃ ruleset, (Request.ofArguments arguments).loadedRuleset around = .ok ruleset) ∧
      ∃ content, (Request.ofArguments arguments).loadedContent around = .ok content
  /-- Both files are read from the surroundings, whether they are bundled or not: if one of
      them cannot be read, the run fails. -/
  readable : (runProgram arguments around).exitCode = 0 →
    (around.file ((Request.ofArguments arguments).rulesetPath around)).isSome ∧
      (around.file ((Request.ofArguments arguments).contentPath around)).isSome
  /-- A ruleset that cannot be read is why the run fails, even if there is a file. -/
  unreadable : around.file ((Request.ofArguments arguments).rulesetPath around) = none →
    (runProgram arguments around).failure = some
      { task := .loadingRuleset
        cause := .unreadable ((Request.ofArguments arguments).rulesetPath around) }
  /-- The program sees no file but the two that it loads. -/
  files : ∀ elsewhere : Surroundings, elsewhere.dataRoot = around.dataRoot →
    elsewhere.colors = around.colors →
    elsewhere.file ((Request.ofArguments arguments).rulesetPath around) =
      around.file ((Request.ofArguments arguments).rulesetPath around) →
    elsewhere.file ((Request.ofArguments arguments).contentPath around) =
      around.file ((Request.ofArguments arguments).contentPath around) →
    runProgram arguments elsewhere = runProgram arguments around
  /-- If the ruleset cannot be loaded, nothing is printed, nothing is told of content, and no
      other file is seen. -/
  withoutRuleset : ∀ cause,
    (Request.ofArguments arguments).loadedRuleset around = .error cause →
      (runProgram arguments around).output = "" ∧
      (runProgram arguments around).events =
        (Request.ofArguments arguments).startEvents around ∧
      ∀ elsewhere : Surroundings, elsewhere.dataRoot = around.dataRoot →
        elsewhere.file ((Request.ofArguments arguments).rulesetPath around) =
          around.file ((Request.ofArguments arguments).rulesetPath around) →
        runProgram arguments elsewhere = runProgram arguments around
  /-- If the content cannot be loaded, nothing is printed, and nothing is told after the
      ruleset. -/
  withoutContent : ∀ ruleset cause,
    (Request.ofArguments arguments).loadedRuleset around = .ok ruleset →
    (Request.ofArguments arguments).loadedContent around = .error cause →
      (runProgram arguments around).output = "" ∧
      (runProgram arguments around).events =
        (Request.ofArguments arguments).startEvents around ++
          [ruleset.loadedEvent ((Request.ofArguments arguments).rulesetPath around)]

/-- What is printed, by the report and by whether there is a flag. -/
theorem output_of_sameBesidesFlags {arguments other : List String}
    (h : SameBesidesFlags arguments other) (around : Surroundings) :
    (runProgram other around).output =
      match (Request.ofArguments arguments).report? around with
      | none => ""
      | some report =>
        if jsonFlag ∈ other then report.json.pretty ++ "\n" else report.render around.colors := by
  unfold runProgram
  rw [Request.ofArguments_of_sameBesidesFlags h, Request.run_of_json]
  cases (Request.ofArguments arguments).report? around with
  | none => rfl
  | some report =>
    show (if other.contains jsonFlag = true then _ else _) = _
    simp only [List.contains_iff_mem]

/-- **Arguments.** Flags may stand anywhere and only select the format of the report. The
    first two other arguments are the files, for which the data directory has defaults, and
    the rest mean nothing. The run fails exactly if one of the two files cannot be loaded, and
    then nothing is printed; if it is the ruleset, the content is not even seen. -/
theorem runProgram_handles_arguments (arguments : List String) (around : Surroundings) :
    HandlesArguments arguments around := by
  have hrequest : Request.ofArguments arguments = _ := Request.ofArguments_eq arguments
  constructor
  case rulesetPath =>
    rw [hrequest]
    rfl
  case contentPath =>
    rw [hrequest]
    rfl
  case further =>
    intro other hpaths hjson
    -- a request is made of the first two places and of whether there is a flag
    have hplace : ∀ i < 2, (pathArguments other)[i]? = (pathArguments arguments)[i]? := by
      intro i hi
      rw [← List.getElem?_take_of_lt hi, hpaths, List.getElem?_take_of_lt hi]
    have hcontains : other.contains jsonFlag = arguments.contains jsonFlag := by
      rw [Bool.eq_iff_iff, List.contains_iff_mem, List.contains_iff_mem, hjson]
    unfold runProgram
    rw [hrequest, Request.ofArguments_eq other, hplace 0 (by omega), hplace 1 (by omega),
      hcontains]
  case flags =>
    intro other hsame
    have hother := Request.ofArguments_of_sameBesidesFlags hsame
    have hrun : runProgram other around =
        { runProgram arguments around with output := (runProgram other around).output } := by
      unfold runProgram
      rw [hother, Request.run_of_json]
    refine ⟨?_, ?_, ?_, ?_, ?_⟩
    · rw [hother]
      rfl
    · rw [hother]
      rfl
    · rw [hrun]
      rfl
    · rw [hrun]
    · rw [hrun]
  case printed =>
    intro other hsame
    exact output_of_sameBesidesFlags hsame around
  case exitCode => exact Request.exitCode_run_eq_zero_iff
  case readable =>
    intro hzero
    obtain ⟨⟨ruleset, hruleset⟩, content, hcontent⟩ := Request.exitCode_run_eq_zero_iff.mp hzero
    exact Request.isSome_file_of_loaded hruleset hcontent
  case unreadable =>
    intro hfile
    exact congrArg Outcome.failure (Request.run_of_unreadable_ruleset hfile)
  case files =>
    intro elsewhere hroot hcolors hruleset hcontent
    exact Request.run_eq_of_file_eq hroot hruleset hcolors hcontent
  case withoutRuleset =>
    intro cause hcause
    have hrun := Request.run_of_ruleset_error hcause
    refine ⟨congrArg Outcome.output hrun, congrArg Outcome.events hrun, ?_⟩
    intro elsewhere hroot hruleset
    exact Request.run_eq_of_ruleset_error hroot hruleset hcause
  case withoutContent =>
    intro ruleset cause hruleset hcause
    have hrun := Request.run_of_content_error hruleset hcause
    exact ⟨congrArg Outcome.output hrun, congrArg Outcome.events hrun⟩

end EffectText
