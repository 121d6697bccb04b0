import EffectText.CommandLine
import EffectText.Log.Filter
import EffectText.Log.Line

/-! # The program

    Gathers the arguments and the surroundings, runs, and prints the outcome.
-/

open EffectText

/-- Whether there is a file at a path. -/
def isFileAt (path : String) : IO Bool := do
  try
    return (← (← IO.FS.realPath path).metadata).type == .file
  catch _ => return false

/-- The bytes of a file, if it can be read. -/
def readFile? (path : String) : IO (Option ByteArray) := do
  try
    return some (← IO.FS.readBinFile path)
  catch _ => return none

/-- The path of the working directory; empty if there is none. -/
def workingDirectoryPath : IO String := do
  try
    return (← IO.currentDir).toString
  catch _ => return ""

/-- Prints a report about content files. -/
def main (arguments : List String) : IO UInt32 := do
  let (filter, warnings) := LogFilter.ofText ((← IO.getEnv logFilterVariable).getD "")
  let around : Surroundings :=
    { dataDirectory := ← IO.getEnv dataDirectoryVariable
      workingDirectory := ← workingDirectoryPath
      bundledDirectory := inDirectory (← IO.appDir).toString "data"
      isFile := fun _ => false
      file := fun _ => none
      colors := ← (← IO.getStdout).isTty }
  -- the questions come before the run, which asks about no other paths
  let hasLocal ← isFileAt around.localRuleset
  let around := { around with isFile := fun path => path == around.localRuleset && hasLocal }
  let files ← (neededPaths arguments around).mapM fun path => do
    return (path, ← readFile? path)
  let around := { around with file := fun path => (files.lookup path).join }
  let outcome := runProgram arguments around
  for warning in warnings do
    IO.eprintln warning
  for event in outcome.events do
    if filter.shows event then IO.eprint s!"[{event.logText}"
  IO.print outcome.output
  if let some failure := outcome.failure then
    for line in failure.lines do
      IO.eprintln line
  return UInt32.ofNat outcome.exitCode
