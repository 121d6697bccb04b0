import EffectText.Bundled
import EffectText.Catalog.Entry
import EffectText.Catalog.Kind
import EffectText.Catalog.Lookup
import EffectText.Catalog.Target
import EffectText.Clause
import EffectText.CommandLine
import EffectText.Condition.Registry
import EffectText.Condition.Standard
import EffectText.Content
import EffectText.Data.Json
import EffectText.Data.Ron.Basic
import EffectText.Data.Ron.Document
import EffectText.Data.Ron.Scalar
import EffectText.Data.Toml.Basic
import EffectText.Data.Toml.Document
import EffectText.Definition.Basic
import EffectText.Definition.ContentProblems
import EffectText.Definition.OfRon
import EffectText.Definition.OfToml
import EffectText.Definition.Problem
import EffectText.Definition.RulesetProblems
import EffectText.FileTree
import EffectText.Index
import EffectText.Loading
import EffectText.Log
import EffectText.Log.Filter
import EffectText.Log.Line
import EffectText.Main
import EffectText.Number.Decimal
import EffectText.Number.Double
import EffectText.Number.Reading
import EffectText.Number.Rounding
import EffectText.Number.Shortest
import EffectText.Number.Single
import EffectText.Proofs.Catalog.Recognition
import EffectText.Proofs.Clause.Conditions
import EffectText.Proofs.Clause.Filling
import EffectText.Proofs.Clause.Plain
import EffectText.Proofs.Clause.Removal
import EffectText.Proofs.Clause.Scanning
import EffectText.Proofs.CommandLine.Runs
import EffectText.Proofs.Condition.Context
import EffectText.Proofs.Condition.Eras
import EffectText.Proofs.Condition.Meaning
import EffectText.Proofs.Condition.Parameters
import EffectText.Proofs.Condition.Reading
import EffectText.Proofs.Condition.Registrations
import EffectText.Proofs.Content.Identity
import EffectText.Proofs.Content.Problems
import EffectText.Proofs.Data.JsonText
import EffectText.Proofs.Index.Agreement
import EffectText.Proofs.Index.Grouping
import EffectText.Proofs.Index.Slots
import EffectText.Proofs.Index.Tally
import EffectText.Proofs.Number.Numeral
import EffectText.Proofs.Number.Rank
import EffectText.Proofs.Number.Shown
import EffectText.Proofs.Report.DeadEffects
import EffectText.Proofs.Report.Findings
import EffectText.Proofs.Report.Issues
import EffectText.Proofs.Report.Order
import EffectText.Proofs.Report.Warnings
import EffectText.Proofs.Ruleset.Lossless
import EffectText.Proofs.Ruleset.Problems
import EffectText.Proofs.Statement.Insertion
import EffectText.Proofs.Statement.Nesting
import EffectText.Proofs.Statement.Verdict
import EffectText.Proofs.Statement.Wording
import EffectText.Proofs.Temporary.Histories
import EffectText.Proofs.Temporary.Reloading
import EffectText.Proofs.Temporary.Runs
import EffectText.Proofs.Temporary.Wrapping
import EffectText.Proofs.Text.BracketShape
import EffectText.Proofs.Text.Cut
import EffectText.Proofs.Text.Pairs
import EffectText.Proofs.Text.Readers
import EffectText.Proofs.Text.Respacing
import EffectText.Proofs.Text.Spacing
import EffectText.Proofs.Text.Trimming
import EffectText.Proofs.Yield.Amounts
import EffectText.Proofs.Yield.Commas
import EffectText.Proofs.Yield.Shown
import EffectText.Proofs.Yield.Written
import EffectText.Regex.Basic
import EffectText.Regex.Bracket
import EffectText.Regex.Escape
import EffectText.Regex.Matching
import EffectText.Regex.Reading
import EffectText.Regex.Scope
import EffectText.Report.Audit
import EffectText.Report.Render
import EffectText.Report.Style
import EffectText.Ruleset
import EffectText.Statement
import EffectText.Surroundings
import EffectText.Temporary
import EffectText.Text.Blank
import EffectText.Text.Brackets
import EffectText.Text.Category
import EffectText.Text.Category.Letters
import EffectText.Text.Category.Marks
import EffectText.Text.Category.Signs
import EffectText.Text.CodeRanges
import EffectText.Text.Digit
import EffectText.Text.Extending
import EffectText.Text.Folding
import EffectText.Text.Identifier
import EffectText.Text.Lines
import EffectText.Text.Property
import EffectText.Text.Quoted
import EffectText.Text.Reader
import EffectText.Text.Script
import EffectText.Text.Terminal
import EffectText.Text.Unprintable
import EffectText.World.Basic
import EffectText.World.Plain
import EffectText.World.Snapshot
import EffectText.Yield.Basic
import EffectText.Yield.Term
