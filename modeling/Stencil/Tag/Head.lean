import Stencil.Expression
import Stencil.Tag.Call
/-!
# Head tags

`meta`, `link` and `title` collect elements for the document head. Of two equal elements, and of two
titles, the first one stays. The `root` tags write what has been collected so far, which is why they
belong into the root layout.
-/
namespace Stencil

namespace HeadTag

/-- A path to a variable, or the text itself. -/
def valueText (context : Context) (written : Text) : Except Problem Text :=
  if Text.startsWith "." written then (Expression.value context written).map Value.toText
  else .ok (Arguments.unquote written)

def addToken (context : Context) (element : HeadElement) (token : Text) :
    Except Problem HeadElement :=
  match Arguments.pair? token with
  | some (key, written) => (valueText context written).map fun value => element.withValue key value
  | none => .ok (element.withFlag (Arguments.unquote token))

def addElement (context : Context) (element : HeadElement) : Context :=
  { context with head := (context.head.add element).2 }

def element (name : Text) : TagAction := .leaf fun _ call draft =>
  match call.tokens with
  | [] => draft.report (call.misuse (.missing .attributes))
  | tokens => match tokens.foldlM (addToken draft.context) { name } with
    | .ok element => draft.mapContext (addElement · element)
    | .error problem => draft.report problem

/-- A title is an expression if it starts like one, else plain words. -/
def titleText (filters : Table Filter) (context : Context) (written : Text) : Except Problem Text :=
  if (written.head?.map fun c => c == '.' || Arguments.isQuote c).getD false then
    (Expression.evaluate filters context written).map Value.toText
  else .ok written

def title : TagAction := .leaf fun scene call draft =>
  let written := Text.trim call.arguments
  if written.isEmpty then draft.report (call.misuse (.missing .title))
  else match titleText scene.filters draft.context written with
    | .ok text => draft.mapContext (addElement · { name := "title", body := some text })
    | .error problem => draft.report problem

end HeadTag

namespace Emission

def head : TagAction := .leaf fun _ _ draft => draft.write draft.context.head.html

def assets (kind : AssetKind) : TagAction := .leaf fun _ _ draft =>
  draft.write (draft.context.assets.html kind)

end Emission
end Stencil
