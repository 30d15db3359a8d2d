import Stencil.Condition
import Stencil.Expression
import Stencil.Tag.Call
/-!
# Control flow

`if` renders one part of its body or none, `each` renders its body once per item, and `assign`
stores a value. The body of a branch is split at its own `else` before anything is rendered, so an
`else` that is met on its own belongs to no branch. Every item has a scope of its own, which holds
the loop variable, and whatever is assigned in that scope is dropped with it.
-/
namespace Stencil

namespace Branch

/-- The parts of a body around its own `else` marker. -/
def splitAtElse (delimiters : Delimiters) (name body : Text) : Text × Option Text :=
  match Balance.topLevel (delimiters.openMarker name) (delimiters.closeMarker name)
    (delimiters.bareMarker "else") 0 0 body with
  | some (first, second) => (first, some second)
  | none => (body, none)

def run : TagAction := .ofBlock fun scene call body draft =>
  let (first, second) := splitAtElse scene.delimiters call.name body
  match Condition.evaluate draft.context call.arguments with
  | .ok true => scene.render first draft
  | .ok false => match second with
    | some second => scene.render second draft
    | none => draft
  | .error problem => draft.report problem

/-- An `else` that no `if` body was split at. -/
def strayElse : TagAction := .leaf fun _ call draft => draft.report (call.misuse .strayElse)

end Branch

namespace Loop

/-- Loop variable and path of `VAR in PATH`. -/
def head (call : Call) : Except Problem (Text × Text) :=
  match call.tokens with
  | [written, keyword, path] =>
    if keyword ≠ "in" then .error (call.misuse .notALoop)
    else
      let name := written.dropWhile (· == '.')
      if name.isEmpty then .error (call.misuse .emptyLoopVariable) else .ok (name, path)
  | _ => .error (call.misuse .notALoop)

/-- Items in order, or members in key order. Null has none. -/
def itemsOf? : Value → Option (List Value)
  | .array items => some items
  | .object members => some (Table.values members)
  | .null => some []
  | _ => none

def items (context : Context) (path : Text) : Except Problem (List Value) := do
  match itemsOf? (← Expression.value context path) with
  | some items => pure items
  | none => throw (.notIterable path)

/-- Runs the body for one item in a fresh scope. -/
def iterate (scene : Scene) (name body : Text) (draft : Draft) (item : Value) : Draft :=
  (scene.render body (draft.mapContext (·.pushScope [(name, item)]))).mapContext (·.popScope)

def run : TagAction := .ofBlock fun scene call body draft =>
  match (do let (name, path) ← head call; pure (name, ← items draft.context path)) with
  | .ok (name, items) => items.foldl (iterate scene name body) draft
  | .error problem => draft.report problem

end Loop

namespace Assignment

/-- The context after an assignment that succeeds. -/
def assigned (filters : Table Filter) (call : Call) (context : Context) :
    Except Problem Context :=
  match Text.breakAt? (· == '=') call.arguments with
  | none => .error (call.misuse .notAnAssignment)
  | some (name, expression) => do
    if Text.isBlankText expression then throw (call.misuse (.missing .value))
    let value ← Expression.evaluate filters context (Text.trim expression)
    match context.assign? name value with
    | some context => pure context
    | none => throw (call.misuse (.missing .variableName))

def run : TagAction := .leaf fun scene call draft =>
  match assigned scene.filters call draft.context with
  | .ok context => { draft with context }
  | .error problem => draft.report problem

end Assignment
end Stencil
