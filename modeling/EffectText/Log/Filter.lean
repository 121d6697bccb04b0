import EffectText.Log
import EffectText.Regex.Matching
import EffectText.Regex.Reading

/-! # Log filters

    A **filter** decides which events are shown. It is written as directives between
    commas, and may end with a slash and a pattern that messages must contain:

    * a level alone holds for all components;
    * a path holds for the components whose paths start with it, at every level;
    * a path, an equals sign and a level hold for those components at that level.

    The longest path decides, and of equally long ones the last. Without directives,
    errors are shown.
-/

namespace EffectText

/-! ## Thresholds -/

/-- **Threshold**: events are shown up to this level; none are shown without one. -/
abbrev Threshold := Option Level

namespace Threshold

/-- The threshold of a name, in letters of either case. -/
def ofName? (name : String) : Option Threshold :=
  match String.ofList (name.toList.map Char.toLower) with
  | "off" => some none
  | "error" => some (some .error)
  | "warn" => some (some .warn)
  | "info" => some (some .info)
  | "debug" => some (some .debug)
  | "trace" => some (some .trace)
  | _ => none

/-- Whether events of a level are shown. -/
def allows (threshold : Threshold) (level : Level) : Bool :=
  threshold.any (level.rank ≤ ·.rank)

end Threshold

/-! ## Filters -/

/-- **Directive**: the threshold of all components, or of those whose paths start with
    `path`. -/
structure Directive where
  path : Option String
  threshold : Threshold
  deriving DecidableEq, Repr

namespace Directive

/-- The length of the path. -/
def length (directive : Directive) : Nat := (directive.path.map String.utf8ByteSize).getD 0

/-- Whether the directive holds for a component. -/
def covers (directive : Directive) (component : Component) : Bool :=
  directive.path.all (component.path.startsWith ·)

end Directive

/-- **Filter**: directives, and a pattern that messages must contain. -/
structure LogFilter where
  directives : List Directive
  needed : Option Regex := none
  deriving DecidableEq, Repr

namespace LogFilter

/-- The threshold of a component: that of the last of the longest paths that its path
    starts with. -/
def thresholdOf (filter : LogFilter) (component : Component) : Threshold :=
  let best (found : Option Directive) (directive : Directive) : Option Directive :=
    if directive.covers component && found.all (·.length ≤ directive.length) then
      some directive
    else found
  (filter.directives.foldl best none).bind (·.threshold)

/-- Whether an event is shown. -/
def shows (filter : LogFilter) (event : Event) : Bool :=
  (filter.thresholdOf event.component).allows event.level &&
    filter.needed.all (·.occursIn event.message)

/-! ## Reading filters -/

/-- A text without the blanks at either end. -/
def trimmed (text : String) : String := String.ofList (Text.trim text.toList)

/-- Reads one directive. What cannot be read is given back. -/
def directive (text : String) : Except String Directive :=
  match text.splitOn "=" with
  | [path] =>
    match Threshold.ofName? path with
    | some threshold => .ok { path := none, threshold }
    | none => .ok { path, threshold := some .trace }
  | [path, level] =>
    let level := trimmed level
    if level.isEmpty then .ok { path, threshold := some .trace }
    else
      match Threshold.ofName? level with
      | some threshold => .ok { path, threshold }
      | none => .error level
  | _ => .error text

/-- Adds a directive, in the place of one that has its path. -/
def addDirective (directives : List Directive) (added : Directive) : List Directive :=
  if directives.any (·.path == added.path) then
    directives.map fun old => if old.path == added.path then added else old
  else directives ++ [added]

/-- The filter without directives. -/
def standard : LogFilter := { directives := [{ path := none, threshold := some .error }] }

/-- The message about a part of a filter that means nothing. -/
def warning (text detail : String) : String :=
  s!"warning: invalid logging spec '{text}'{detail}, ignoring it"

/-- The message about a pattern that writes no regular expression. What is wrong with
    its notation is left out. -/
def patternWarning : PatternError → String
  | .malformed => "warning: invalid regex filter - regex parse error:"
  | .tooLarge =>
    "warning: invalid regex filter - Compiled regex exceeds size limit of " ++
      s!"{Regex.maxSize} bytes., ignoring it"

/-- The pattern that messages must contain, if one is written, and messages about it. -/
def pattern (text : Option String) : Option Regex × List String :=
  match text.map Regex.ofText with
  | none => (none, [])
  | some (.ok regex) => (some regex, [])
  | some (.error error) => (none, [patternWarning error])

/-- **Reading** a filter: the filter, and messages about the parts that mean nothing. -/
def ofText (text : String) : LogFilter × List String :=
  match text.splitOn "/" with
  | directives :: rest =>
    if rest.length > 1 then (standard, [warning text " (too many '/'s)"])
    else
      let parts := (directives.splitOn ",").map trimmed
      let results := (parts.filter (· ≠ "")).map directive
      let good := results.filterMap fun
        | .ok directive => some directive
        | .error _ => none
      let bad := results.filterMap fun
        | .ok _ => none
        | .error part => some (warning part "")
      let found := good.foldl addDirective []
      let (needed, patternBad) := pattern rest.head?
      ({ directives := if found.isEmpty then standard.directives else found, needed },
        bad ++ patternBad)
  | [] => (standard, [])

end LogFilter

end EffectText
