import Stencil.Markup.Scanner
import Stencil.Tag.BuiltIn
/-!
# Engines

An engine is a valid configuration with its tags and filters. Rendering reads a text token by token:
text is copied, expressions are written, and tags act and say where to go on. Renders are nested no
deeper than the configuration allows, and each of them moves forward only, so all of them end.
-/
namespace Stencil

structure Engine extends Settings where
  tags : Table Tag

namespace Engine

/-- The engine of a configuration, with tags and filters that come before the built-in ones. -/
def ofConfig (config : Config) (tags : List (Text × Tag)) (filters : List (Text × Filter)) :
    Except Config.Error Engine := do
  let delimiters ← config.validate
  pure { config, delimiters, tags := Tag.builtIns.setAll tags
         filters := Filter.builtIns.setAll filters }

/-- The engine with default settings. -/
def standard : Engine where
  config := {}
  delimiters := Delimiters.standard
  tags := Tag.builtIns
  filters := Filter.builtIns

def action? (engine : Engine) (name : Text) : Option TagAction :=
  (engine.tags.get? name).map (Tag.action engine.tags engine.tags.length)

/-- Writes the text of an expression, or acts as a tag does. -/
def runTag (engine : Engine) (scene : Scene) (tag : TagSpan) (following : Text) (draft : Draft) :
    Draft × Nat :=
  if tag.isExpression then
    (draft.writeOrReport ((Expression.evaluate engine.filters draft.context tag.contents).map
      Value.toText), tag.stop)
  else
    let (name, arguments) := tag.nameAndArguments
    match engine.action? name with
    | none => (draft.report (.unknownTag name), tag.stop)
    | some action => action scene ⟨name, arguments, tag.start, tag.stop, following⟩ draft

/-- Renders what a scanner has left. -/
def scan (engine : Engine) (scene : Scene) (scanner : Scanner) (draft : Draft) : Draft :=
  match _h : scanner.next? with
  | none => draft
  | some (.unclosed position, _) =>
    draft.report (.unclosedDelimiter position engine.delimiters.stop)
  | some (.text text, rest) => engine.scan scene rest (draft.write text)
  | some (.tag tag, rest) =>
    let (draft, next) := engine.runTag scene tag rest.rest draft
    engine.scan scene (rest.seek next) draft
termination_by scanner.rest.length
decreasing_by
  · exact Scanner.next?_rest_length_lt _h (by simp)
  · exact Nat.lt_of_le_of_lt (Scanner.seek_rest_length_le _ _)
      (Scanner.next?_rest_length_lt _h (by simp))

/-- Renders a text with `levels` more renders allowed inside one another. -/
def renderWithin (engine : Engine) (files : Files) : (levels : Nat) → Text → Draft → Draft
  | 0, _, draft =>
    draft.report (.depthExceeded engine.config.maxDepth draft.context.templateLabel)
  | levels + 1, text, draft =>
    let scene : Scene :=
      { engine.toSettings with files, render := engine.renderWithin files levels }
    let rendered := engine.scan scene (.ofText engine.delimiters text) (draft.mapContext (·.deeper))
    rendered.mapContext (·.shallower)

/-- Renders a text onto a draft. -/
def render (engine : Engine) (files : Files) (text : Text) (draft : Draft) : Draft :=
  engine.renderWithin files (engine.config.maxDepth - draft.context.depth) text draft

/-- Renders a text on its own with an object of values. -/
def renderText (engine : Engine) (files : Files) (text : Text) (data : Value) : Draft :=
  let data : Fields := match data with
    | .object members => members
    | _ => []
  engine.render files text { context := { site := ".", data } }

end Engine
end Stencil
