import EffectText.Data.Json
import EffectText.Report.Audit
import EffectText.Report.Style

/-! # Reports for people and for tools

    A report is written as text for a terminal, or as JSON.
-/

namespace EffectText.Report

/-! ## Text -/

/-- A number with blanks in front, up to the width. -/
def padded (width n : Nat) : String :=
  let digits := (toString n).toList
  String.ofList (List.replicate (width - digits.length) ' ' ++ digits)

/-- The lines of findings under a title; nothing if there are none. -/
def renderFindings (colors : Bool) (title : String) (findings : List Finding) : String :=
  if findings.isEmpty then ""
  else
    let lines := findings.map fun finding =>
      s!"  {Style.cyan.paint colors finding.source} {finding.text}\n" ++
        s!"      {Style.dimmed.paint colors finding.detail}\n"
    s!"\n{Style.boldRed.paint colors title} ({findings.length})\n" ++ String.join lines

/-- The lines of the counts of kinds; nothing if there are none. -/
def renderCounts (colors : Bool) (counts : List (Kind × Nat)) : String :=
  if counts.isEmpty then ""
  else
    let lines := counts.map fun (kind, count) => s!"  {padded 4 count}  {kind.name}\n"
    "\n" ++ Style.bold.paint colors "Recognized types" ++ "\n" ++ String.join lines

/-- **Text** of a report. -/
def render (report : Report) (colors : Bool) : String :=
  let title := s!"Unique audit for ruleset '{report.ruleset}'"
  let total := Style.bold.paint colors (toString report.total)
  let recognized := Style.boldGreen.paint colors (toString report.recognized)
  let verdict :=
    if report.isClean then Style.brightGreen.paint colors "No problems found."
    else Style.brightRed.paint colors s!"{report.problemCount} problem(s) found."
  s!"{Style.heading.paint colors title}\n" ++
    s!"{total} uniques, {recognized} recognized, " ++
    s!"{report.distinctPatterns} distinct patterns\n" ++
    renderCounts colors report.kindCounts ++
    renderFindings colors "Unrecognized uniques" report.unrecognized ++
    renderFindings colors "Unrecognized conditionals" report.unknownConditions ++
    renderFindings colors "Unknown references" report.unknownReferences ++
    s!"\n{verdict}\n"

/-! ## JSON -/

/-- A finding as a JSON value. -/
def findingJson (finding : Finding) : Json :=
  .object [("source", .string finding.source), ("text", .string finding.text),
    ("detail", .string finding.detail)]

/-- **JSON value** of a report. -/
def json (report : Report) : Json :=
  .object
    [("ruleset", .string report.ruleset),
      ("total", .integer report.total),
      ("recognized", .integer report.recognized),
      ("distinct_patterns", .integer report.distinctPatterns),
      ("type_counts", .array (report.kindCounts.map fun (kind, count) =>
        .object [("unique_type", .string kind.name), ("count", .integer count)])),
      ("unrecognized", .array (report.unrecognized.map findingJson)),
      ("unknown_conditionals", .array (report.unknownConditions.map findingJson)),
      ("unknown_references", .array (report.unknownReferences.map findingJson))]

end EffectText.Report
