import EffectText.Log
import EffectText.Text.Terminal

/-! # Log lines

    An event is written as its level, the path of its component and its message.
    Levels are padded to one width, and the later lines of a message are indented.
    Terminal controls in it are left out.
-/

namespace EffectText

/-- The name of a level, padded to the width of the longest one. -/
def Level.paddedName (level : Level) : String :=
  level.name ++ String.ofList (List.replicate (5 - level.name.length) ' ')

/-- A message whose later lines are indented by four spaces. -/
def indentLaterLines (message : String) : String :=
  "\n    ".intercalate (message.splitOn "\n")

/-- **Log text** of an event, with the line feed at its end, and without what stands in
    front of the level. -/
def Event.logText (event : Event) : String :=
  Text.shownText
    s!"{event.level.paddedName} {event.component.path}] {indentLaterLines event.message}\n"

end EffectText
