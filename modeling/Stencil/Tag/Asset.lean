import Stencil.Condition
import Stencil.Tag.Call
/-!
# Asset tags

`import` reads or links a file. A stylesheet or script is registered for the layout to emit; any
other file is written in place. An import that fails leaves no trace but its problem. `css` and `js`
register their rendered body as a stylesheet or script. An element written around the body is taken
off, and an empty body is nothing.
-/
namespace Stencil

/-! ### Options -/

namespace AssetTag

def readPriority (call : Call) (options : Options) (asset : Asset) : Except Problem Asset :=
  match options.get? "priority" with
  | none => .ok asset
  | some written =>
    match Text.readInt? AssetRegistry.lowestPriority AssetRegistry.highestPriority written with
    | some priority => .ok { asset with priority }
    | none => .error (call.misuse (.badPriority written))

/-- The asset with what the options say about it. -/
def withOptions (call : Call) (options : Options) (asset : Asset) : Except Problem Asset := do
  let asset ← readPriority call options asset
  pure { asset with
    media := (options.get? "media").orElse fun _ => asset.media
    isAsync := asset.isAsync || options.has "async"
    isDeferred := asset.isDeferred || options.has "defer"
    isModule := asset.isModule || options.has "module" }

def register (context : Context) (asset : Asset) (dependencies : List Text) :
    Except Problem Context :=
  match context.assets.add asset dependencies with
  | .ok (_, assets) => .ok { context with assets }
  | .error (.missingPath kind) => .error (.pathlessAsset kind)

end AssetTag

/-! ### Imports -/

namespace Import

def isRemote (path : Path) : Bool :=
  Text.startsWith "https://" path || Text.startsWith "http://" path || Text.startsWith "//" path

/-- The kind that the extension in front of a query or fragment tells, and whether it is that of a
module script. -/
def kindOf? (path : Path) : Option (AssetKind × Bool) := do
  let file := path.takeWhile fun c => c != '?' && c != '#'
  let extension := Text.asciiLower (← Path.extension? file)
  if extension = "css" then some (.css, false)
  else if extension = "js" then some (.js, false)
  else if extension = "mjs" then some (.js, true)
  else none

/-- Where a file to import lies: next to the current template behind `~/`, else in the site. -/
def importPath (context : Context) (path : Path) : Path :=
  match Text.dropStart? "~/" path with
  | some relative => Path.join context.templateFolder relative
  | none => Path.join context.site (path.dropWhile (· == '/'))

/-- What an import finds. -/
inductive Found where
  | asset (asset : Asset)
  | text (content : Text)

def find (files : Files) (call : Call) (options : Options) (context : Context) (path : Path) :
    Except Problem Found :=
  if isRemote path || (options.has "external" && !options.has "inline") then
    match kindOf? path with
    | some (kind, isModule) => .ok (.asset { kind, source := .external path, isModule })
    | none => .error (call.misuse (.notLinkable path))
  else do
    let content ← Template.read files (importPath context path)
    match kindOf? path with
    | some (kind, isModule) => pure (.asset { kind, source := .inline content, isModule })
    | none => pure (.text content)

/-- The condition of an import, which holds if there is none. -/
def isWanted (options : Options) (context : Context) : Except Problem Bool :=
  match options.get? "if" with
  | some condition => Condition.evaluate context condition
  | none => .ok true

/-- The draft after an import that succeeds. -/
def imported (files : Files) (call : Call) (draft : Draft) : Except Problem Draft := do
  let options := Options.ofTokens call.tokens
  match options.positional.orElse fun _ => options.get? "path" with
  | none => throw (call.misuse (.missing .path))
  | some path =>
    if !(← isWanted options draft.context) then return draft
    match ← find files call options draft.context path with
    | .text content => pure (draft.write content)
    | .asset asset =>
      let asset ← AssetTag.withOptions call options asset
      let context ← AssetTag.register draft.context asset (options.get? "after").toList
      pure { draft with context }

def run : TagAction := .leaf fun scene call draft =>
  match imported scene.files call draft with
  | .ok draft => draft
  | .error problem => draft.report problem

end Import

/-! ### Inline assets -/

namespace InlineAsset

/-- The element that may stand around the content of an inline asset. -/
def wrapper : AssetKind → Text × Text
  | .css => ("<style>", "</style>")
  | .js => ("<script>", "</script>")

def withoutWrapper (kind : AssetKind) (content : Text) : Text :=
  let content := Text.trim content
  let content := (Text.dropStart? (wrapper kind).1 content).getD content
  Text.trim ((Text.dropEnd? (wrapper kind).2 content).getD content)

/-- Registers rendered content, unless there is none. -/
def register (kind : AssetKind) (call : Call) (rendered : Text) (draft : Draft) : Draft :=
  let content := withoutWrapper kind rendered
  if content.isEmpty then draft
  else
    let registered := do
      let asset ← AssetTag.withOptions call (Options.ofFlags call.tokens)
        { kind, source := .inline content }
      AssetTag.register draft.context asset []
    match registered with
    | .ok context => { draft with context }
    | .error problem => draft.report problem

def run (kind : AssetKind) : TagAction := .ofBlock fun scene call body draft =>
  let (rendered, draft) := draft.capture (scene.render body)
  register kind call rendered draft

end InlineAsset
end Stencil
