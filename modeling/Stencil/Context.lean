import Stencil.Asset.Registry
import Stencil.Head
import Stencil.Problem
import Stencil.Value
/-!
# Context

What one page render carries from tag to tag: the values that variables are found in, the content
relayed between templates, and the assets and head elements collected on the way.

A variable is looked up in the arguments of the current partial, then in the loop scopes from the
innermost on, then in the page data. Assignment writes to the innermost scope that has the name,
else to the innermost one, else to the page data.
-/
namespace Stencil

/-! ### Requests -/

/-- The part of an inbound request that templates can see: headers, found without regard to case,
and query parameters in order. -/
structure Request where
  headers : List (Text × Text) := []
  query : List (Text × Text) := []

namespace Request

/-- The value of the first header of that name. -/
def header? (request : Request) (name : Text) : Option Text :=
  (request.headers.find? fun header => Text.asciiEqualFold header.1 name).map Prod.snd

/-- The value of a key after one more parameter. -/
def grown (old : Option Value) (new : Text) : Value :=
  match old with
  | none => .text new
  | some (.array values) => .array (values ++ [.text new])
  | some first => .array [first, .text new]

/-- The parameters by key: one given once is a text, one given more often an array of its values. -/
def queryObject (request : Request) : Fields :=
  request.query.foldl (fun fields (key, value) => fields.set key (grown (fields.get? key) value)) []

end Request

/-! ### Variables and collected state -/

structure Context where
  /-- Where partials, layouts and imports are found. -/
  site : Path
  /-- The values of the page. -/
  data : Fields := []
  /-- The arguments of the partial that is being rendered. -/
  props : Fields := []
  /-- One per loop under way, the innermost first. -/
  scopes : List Fields := []
  /-- The content that named blocks are filled with. -/
  blocks : Table Text := []
  /-- Rendered content that waits to be placed. -/
  passed : Option Text := none
  /-- The file whose content is being rendered. -/
  template : Option Path := none
  /-- The files being rendered with the arguments each was entered with, the innermost first. -/
  active : List (Path × Fields) := []
  /-- How many renders are under way inside one another. -/
  depth : Nat := 0
  assets : AssetRegistry := {}
  head : HeadRegistry := {}
  request : Option Request := none

namespace Value

/-- The value at the end of a path through members and items. -/
def at? (value : Value) : List Text → Option Value
  | [] => some value
  | segment :: rest => match value with
    | .object members => (Table.get? segment members).bind fun member => member.at? rest
    | .array items => do (← items[← Text.readNat? Text.largestCount segment]?).at? rest
    | _ => none

/-- The members of an object; any other value is replaced by an empty one. -/
def membersOrNone : Option Value → Fields
  | some (.object members) => members
  | _ => []

end Value

namespace Fields

def at? (fields : Fields) : List Text → Option Value
  | [] => none
  | first :: rest => (fields.get? first).bind fun value => value.at? rest

/-- Writes a value at the end of a path. Objects are made on the way, in place of other values. -/
def insertAt (value : Value) : List Text → Fields → Fields
  | [], fields => fields
  | [last], fields => fields.set last value
  | segment :: rest, fields =>
    fields.set segment (.object (insertAt value rest (Value.membersOrNone (fields.get? segment))))

end Fields

namespace Context

/-- The segments of a dotted path, less the empty ones. -/
def segments (path : Text) : List Text :=
  (((Text.trim path).dropWhile (· == '.')).splitOn '.').filter fun segment => !segment.isEmpty

/-- The value of a name in the innermost loop scope that has it. -/
def binding? (context : Context) (name : Text) : Option Value :=
  context.scopes.findSome? fun scope => scope.get? name

/-- The value at a dotted path. A path that a scope follows only in part is tried in the next. -/
def lookup? (context : Context) (path : Text) : Option Value :=
  match segments path with
  | [] => none
  | first :: rest =>
    Fields.at? context.props (first :: rest) <|>
      (context.binding? first).bind (fun value => value.at? rest) <|>
      Fields.at? context.data (first :: rest)

/-- The scopes after a write to the innermost one that has the name. -/
def writeWhereBound? (first : Text) (write : Fields → Fields) :
    List Fields → Option (List Fields)
  | [] => none
  | scope :: outer =>
    if scope.has first then some (write scope :: outer)
    else (writeWhereBound? first write outer).map fun written => scope :: written

/-- Stores a value at a dotted path, if the path has a segment. Before a write below a page value
that no scope has, the innermost scope gets a copy of it. -/
def assign? (context : Context) (path : Text) (value : Value) : Option Context :=
  match segments path with
  | [] => none
  | first :: rest =>
    let write := Fields.insertAt value (first :: rest)
    match writeWhereBound? first write context.scopes, context.scopes with
    | some scopes, _ => some { context with scopes }
    | none, [] => some { context with data := write context.data }
    | none, scope :: outer =>
      let copied := match rest, context.data.get? first with
        | _ :: _, some existing => scope.set first existing
        | _, _ => scope
      some { context with scopes := write copied :: outer }

def pushScope (context : Context) (scope : Fields) : Context :=
  { context with scopes := scope :: context.scopes }

def popScope (context : Context) : Context := { context with scopes := context.scopes.tail }

/-- The context inside of one more render. -/
def deeper (context : Context) : Context := { context with depth := context.depth + 1 }

/-- The context behind a render, given the one at its end. -/
def shallower (context : Context) : Context := { context with depth := context.depth - 1 }

theorem deeper_shallower {context : Context} (h : 0 < context.depth) :
    context.shallower.deeper = context := by
  have hd : context.depth - 1 + 1 = context.depth := Nat.sub_add_cancel h
  simp only [deeper, shallower, hd]

/-- The first content of a name stays. -/
def storeBlock (context : Context) (name content : Text) : Context :=
  if context.blocks.has name then context
  else { context with blocks := context.blocks.set name content }

/-- The folder of the current template, or the site outside of any file. -/
def templateFolder (context : Context) : Path :=
  (context.template.bind Path.parent?).getD context.site

/-- How messages name what is being rendered. -/
def templateLabel (context : Context) : Text := context.template.getD "<inline template>"

/-- The request carries the header and does not set it to `false`. -/
def bypassesLayouts (context : Context) (header : Text) : Bool :=
  !header.isEmpty &&
    match context.request.bind fun request => request.header? header with
    | some value => !Text.asciiEqualFold (Text.trim value) "false"
    | none => false

/-- The template is being rendered with the arguments in force. -/
def isActive (context : Context) (path : Path) : Bool :=
  context.active.any fun (active, props) =>
    Path.same active path && Value.sameMembers props context.props

/-- The problem of entering a template that is being rendered. -/
def cycleAt (context : Context) (path : Path) : Problem :=
  .cycle path ((context.active.map Prod.fst).reverse ++ [path])

/-- The context inside a template. -/
def enter (context : Context) (path : Path) : Context :=
  { context with active := (path, context.props) :: context.active, template := some path }

/-- The context behind a template, given the one in front of it. -/
def leave (context before : Context) : Context :=
  { context with active := context.active.tail, template := before.template }

/-- Runs something inside a template, or gives the problem of entering it. -/
def inTemplate {α : Type} (context : Context) (refusesCycles : Bool) (path : Path)
    (run : Context → α × Context) : Except Problem (α × Context) :=
  if refusesCycles && context.isActive path then .error (context.cycleAt path)
  else
    let (result, after) := run (context.enter path)
    .ok (result, after.leave context)

end Context
end Stencil
