import EffectText.Catalog.Entry

/-! # Log events

    What is worth telling about a run, as data: the events themselves, their levels,
    the components they come from, and their messages. Nothing here writes anything.
-/

namespace EffectText

/-- How much an event matters. -/
inductive Level where
  | error
  | warn
  | info
  | debug
  | trace
  deriving DecidableEq, Repr, Inhabited

/-- The name of a level. -/
def Level.name : Level → String
  | .error => "ERROR"
  | .warn => "WARN"
  | .info => "INFO"
  | .debug => "DEBUG"
  | .trace => "TRACE"

/-- A level counted from the most important, which is one. -/
def Level.rank : Level → Nat
  | .error => 1
  | .warn => 2
  | .info => 3
  | .debug => 4
  | .trace => 5

/-- The part of the program that an event comes from. -/
inductive Component where
  | program
  | statements
  | conditions
  | rulesetLoader
  | contentLoader
  | report
  | dataDirectory
  deriving DecidableEq, Repr, Inhabited

/-- The path by which log filters call a component. -/
def Component.path : Component → String
  | .program => "unique_audit"
  | .statements => "unique_engine::unique"
  | .conditions => "unique_engine::conditionals"
  | .rulesetLoader => "unique_engine::loader::ruleset"
  | .contentLoader => "unique_engine::loader::content"
  | .report => "unique_engine::report"
  | .dataDirectory => "unique_engine::data_paths"

/-- **Event**: one thing worth telling about a run. -/
inductive Event where
  /-- A text was read as a statement that the catalog does not know. -/
  | unrecognized (half : Half) (text pattern : String)
  /-- A condition was asked whose kind has no predicate. -/
  | noPredicate (kind : Kind)
  /-- An object is of no kind that can declare statements. -/
  | unknownObjectKind (kind name : String)
  /-- The audit found a statement without a kind. -/
  | unrecognizedStatement (text source : String)
  /-- The audit found a condition without a kind. -/
  | unrecognizedCondition (condition text source : String)
  /-- The audit found a condition that names something the ruleset lacks. -/
  | unknownReference (detail text source : String)
  /-- A ruleset was loaded. -/
  | rulesetLoaded (name path : String) (eras techs policies : Nat)
  /-- A content file was loaded. -/
  | contentLoaded (statements objects : Nat) (path : String)
  /-- The directory of the default files was settled. -/
  | dataDirectory (path : String)
  /-- The program started. -/
  | started (version : String)
  /-- The audit ended. -/
  | auditFinished (recognized total problems : Nat)
  deriving DecidableEq, Repr, Inhabited

namespace Event

/-- The level of an event. -/
def level : Event → Level
  | .unrecognized .. | .noPredicate .. | .dataDirectory .. => .debug
  | .unknownObjectKind .. | .unrecognizedStatement .. | .unrecognizedCondition ..
  | .unknownReference .. => .warn
  | .rulesetLoaded .. | .contentLoaded .. | .started .. | .auditFinished .. => .info

/-- The component that an event comes from. -/
def component : Event → Component
  | .unrecognized .. => .statements
  | .noPredicate .. => .conditions
  | .unknownObjectKind .. | .contentLoaded .. => .contentLoader
  | .unrecognizedStatement .. | .unrecognizedCondition .. | .unknownReference .. => .report
  | .rulesetLoaded .. => .rulesetLoader
  | .dataDirectory .. => .dataDirectory
  | .started .. | .auditFinished .. => .program

/-- The message of an event. -/
def message : Event → String
  | .unrecognized half text pattern =>
    s!"unrecognized {half.name} unique \"{text}\" (pattern \"{pattern}\")"
  | .noPredicate kind => s!"no predicate registered for condition kind {kind.name}"
  | .unknownObjectKind kind name =>
    s!"unknown object kind '{kind}' for '{name}'; its uniques keep no source kind"
  | .unrecognizedStatement text source => s!"unrecognized unique \"{text}\" on {source}"
  | .unrecognizedCondition condition text source =>
    s!"unrecognized conditional <{condition}> in \"{text}\" on {source}"
  | .unknownReference detail text source => s!"{detail} in \"{text}\" on {source}"
  | .rulesetLoaded name path eras techs policies =>
    s!"ruleset '{name}' loaded from '{path}' " ++
      s!"({eras} eras, {techs} techs, {policies} policies)"
  | .contentLoaded statements objects path =>
    s!"{statements} uniques parsed from {objects} objects in '{path}'"
  | .dataDirectory path => s!"data directory resolved to '{path}'"
  | .started version => s!"unique_audit {version} starting"
  | .auditFinished recognized total problems =>
    s!"audit finished: {recognized} of {total} uniques recognized, {problems} problem(s)"

end Event

end EffectText
