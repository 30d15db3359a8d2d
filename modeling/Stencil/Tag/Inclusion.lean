import Stencil.Expression
import Stencil.Tag.Call
/-!
# Inclusion

`partial` renders another file in place, with arguments of its own and nothing of the caller's.
The arguments in force before are in force again afterwards.
-/
namespace Stencil.Inclusion

/-- One `key=value` argument. -/
def argument (context : Context) (call : Call) (token : Text) : Except Problem (Text × Value) :=
  match Text.breakAt? (· == '=') token with
  | some (key, written) =>
    if key.isEmpty then .error (call.misuse (.notAPair token))
    else (Expression.value context written).map fun value => (key, value)
  | none => .error (call.misuse (.notAPair token))

/-- The arguments that can be read. The others are noted as problems. -/
def arguments (call : Call) (tokens : List Text) (draft : Draft) : Fields × Draft :=
  tokens.foldl (fun (fields, draft) token => match argument draft.context call token with
    | .ok (key, value) => (fields.set key value, draft)
    | .error problem => (fields, draft.report problem)) ([], draft)

/-- Renders a file with the arguments given, or notes why it cannot be entered. -/
def renderFile (scene : Scene) (path : Path) (content : Text) (props : Fields) (draft : Draft) :
    Draft :=
  let inside := draft.mapContext fun context => { context with props }
  let rendered := match inside.inTemplate scene.refusesCycles path (scene.render content) with
    | .ok rendered => rendered
    | .error problem => inside.report problem
  rendered.mapContext fun context => { context with props := draft.context.props }

def run : TagAction := .leaf fun scene call draft =>
  match call.tokens with
  | [] => draft.report (call.misuse (.missing .partialName))
  | name :: rest =>
    let (props, draft) := arguments call rest draft
    match Template.load scene.config scene.files draft.context.site .inclusion name with
    | .ok (path, content) => renderFile scene path content props draft
    | .error problem => draft.report problem

end Stencil.Inclusion
