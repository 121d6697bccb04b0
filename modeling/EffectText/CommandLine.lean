import EffectText.Definition.OfRon
import EffectText.Definition.OfToml
import EffectText.Loading
import EffectText.Report.Render
import EffectText.Surroundings

/-! # The command line

    The program audits a content file against a ruleset:

        unique_audit [RULESET.toml] [CONTENT.ron] [--json]

    What it does is a function of its arguments and its surroundings. The function
    gives an **outcome**, which says what to print, what to tell, and whether the run
    failed.
-/

namespace EffectText

/-! ## Arguments -/

/-- **Request**: what the arguments ask for. -/
structure Request where
  /-- Whether the report is wanted as JSON. -/
  json : Bool
  /-- The path of the ruleset, if it is given. -/
  ruleset : Option String
  /-- The path of the content, if it is given. -/
  content : Option String
  deriving DecidableEq, Repr

/-- The argument that asks for JSON. -/
def jsonFlag : String := "--json"

/-- The request of arguments: the flag may stand anywhere, the first two others are
    paths, and the rest mean nothing. -/
def Request.ofArguments (arguments : List String) : Request :=
  let paths := arguments.filter (· ≠ jsonFlag)
  { json := arguments.contains jsonFlag
    ruleset := paths.head?
    content := paths.tail.head? }

/-! ## Paths -/

/-- The path of the ruleset that a request is about. -/
def Request.rulesetPath (request : Request) (around : Surroundings) : String :=
  request.ruleset.getD (inDirectory around.dataRoot rulesetFile)

/-- The path of the content that a request is about. -/
def Request.contentPath (request : Request) (around : Surroundings) : String :=
  request.content.getD (inDirectory around.dataRoot contentFile)

/-! ## Runs -/

/-- What a run was doing when it failed. -/
inductive Task where
  | loadingRuleset
  | loadingContent
  deriving DecidableEq, Repr

/-- The words for a task. -/
def Task.message : Task → String
  | .loadingRuleset => "while loading ruleset"
  | .loadingContent => "while loading content"

/-- **Failure** of a run: the task, and why it could not be done. -/
structure Failure where
  task : Task
  cause : LoadError
  deriving DecidableEq, Repr

/-- The lines that tell of a failure. -/
def Failure.lines (failure : Failure) : List String :=
  [s!"Error: {failure.task.message}", "", "Caused by:"] ++
    (failure.cause.message.splitOn "\n").map ("    " ++ ·)

/-- **Outcome** of a run. -/
structure Outcome where
  /-- What goes to standard output. -/
  output : String := ""
  /-- What there is to tell, in order. -/
  events : List Event := []
  /-- Why the run failed, if it did. -/
  failure : Option Failure := none
  deriving DecidableEq, Repr

/-- The exit code: zero exactly for a run that did not fail. -/
def Outcome.exitCode (outcome : Outcome) : Nat :=
  if outcome.failure.isSome then 1 else 0

/-- The version of the program. -/
def version : String := "0.3.0"

/-- What there is to tell before anything is loaded: the data directory, if a file of
    it is needed, and that the program started. -/
def Request.startEvents (request : Request) (around : Surroundings) : List Event :=
  let directory :=
    if request.ruleset.isNone || request.content.isNone then
      [.dataDirectory around.dataRoot]
    else []
  directory ++ [.started version]

/-- A report as a request wants it. -/
def Request.print (request : Request) (around : Surroundings) (report : Report) : String :=
  if request.json then report.json.pretty ++ "\n" else report.render around.colors

/-- The outcome of the last part of a run: the audit of what was loaded. -/
def Request.finish (request : Request) (around : Surroundings) (ruleset : Ruleset)
    (content : ContentDefinition) : Outcome :=
  let report := audit content.parsed ruleset
  { output := request.print around report
    events :=
      auditEvents content.parsed ruleset ++
        [.auditFinished report.recognized report.total report.problemCount] }

/-- An outcome with more to tell at its start. -/
def Outcome.after (earlier : List Event) (outcome : Outcome) : Outcome :=
  { outcome with events := earlier ++ outcome.events }

/-- **Running** a request: the ruleset is loaded, then the content, and then the
    statements of the content are audited. -/
def Request.run (request : Request) (around : Surroundings) : Outcome :=
  let rulesetPath := request.rulesetPath around
  let contentPath := request.contentPath around
  let outcome : Outcome :=
    match Ruleset.load RulesetDefinition.ofToml? rulesetPath (around.file rulesetPath) with
    | .error cause => { failure := some { task := .loadingRuleset, cause } }
    | .ok ruleset =>
      .after [ruleset.loadedEvent rulesetPath] <|
        let loaded :=
          ContentDefinition.load ContentDefinition.ofRon? contentPath (around.file contentPath)
        match loaded with
        | .error cause => { failure := some { task := .loadingContent, cause } }
        | .ok content =>
          .after (content.loadedEvents contentPath) (request.finish around ruleset content)
  outcome.after (request.startEvents around)

/-- **The program**: the outcome of a run with these arguments. -/
def runProgram (arguments : List String) (around : Surroundings) : Outcome :=
  (Request.ofArguments arguments).run around

/-- The paths of the files that a run may need. -/
def neededPaths (arguments : List String) (around : Surroundings) : List String :=
  let request := Request.ofArguments arguments
  [request.rulesetPath around, request.contentPath around]

end EffectText
