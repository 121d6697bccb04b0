import EffectText.Definition.Basic
import EffectText.Statement

/-! # Statements of a content definition

    Every statement that an object declares is parsed as an effect with that object
    as its source. An object whose kind is no target still gives its statements its
    name.
-/

namespace EffectText

namespace ObjectDefinition

/-- The target that the kind of an object names. -/
def target? (object : ObjectDefinition) : Option Target := Target.ofAuthored? object.kind

/-- The statements of an object, in order. -/
def parsed (object : ObjectDefinition) : List Statement :=
  object.statements.map (.declared object.target? (some object.name))

/-- What there is to tell about parsing the statements of an object. -/
def events (object : ObjectDefinition) : List Event :=
  let unknown :=
    if object.target?.isNone then [.unknownObjectKind object.kind object.name] else []
  unknown ++ object.parsed.flatMap (·.events)

end ObjectDefinition

namespace ContentDefinition

/-- **Statements** of a content definition: object by object, in order. -/
def parsed (definition : ContentDefinition) : List Statement :=
  definition.objects.flatMap (·.parsed)

/-- What there is to tell about parsing the statements. -/
def events (definition : ContentDefinition) : List Event :=
  definition.objects.flatMap (·.events)

end ContentDefinition

end EffectText
