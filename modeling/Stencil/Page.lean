import Stencil.Engine
import Stencil.Json.Reader
/-!
# Pages

A page is rendered on its own and then placed by the root layout. Its data comes from three places:
the data file in its folder wins over the query of the request, which wins over what the caller
gives. Only a page or data file that cannot be read stops a page.
-/
namespace Stencil.Page

/-- What a render has produced. -/
structure Rendered where
  output : Text
  problems : List Problem

def ofDraft (draft : Draft) : Rendered := ⟨draft.output, draft.problems⟩

/-- The data with the query of the request below `URL`. -/
def withQuery (data : Fields) (query : Fields) : Fields :=
  data.set "URL" (.object ((Value.membersOrNone (data.get? "URL")).set "Query" (.object query)))

/-- The data with that of a file, if there is one. -/
def withDataFile (files : Files) (data : Fields) (path : Path) : Except Problem Fields :=
  if files.isFile path then do
    match Json.readObject? (← Template.read files path) with
    | some own => pure (data.setAll own)
    | none => throw (.badData path)
  else .ok data

def dataOf (engine : Engine) (files : Files) (path : Path) (data : Fields)
    (request : Option Request) : Except Problem Fields :=
  let data := match request with
    | some request => withQuery data request.queryObject
    | none => data
  match Path.parent? path with
  | some folder => withDataFile files data (Path.join folder engine.config.dataFile)
  | none => .ok data

/-- Renders a file into an empty output. -/
def renderFile (engine : Engine) (files : Files) (path : Path) (content : Text) (draft : Draft) :
    Draft :=
  let fresh := { draft with output := [] }
  match fresh.inTemplate engine.refusesCycles path (engine.render files content) with
  | .ok rendered => rendered
  | .error problem => fresh.report problem

/-- Puts the page into the root layout. Without one the page stays as it is. -/
def wrapInRoot (engine : Engine) (files : Files) (site : Path) (page : Draft) : Draft :=
  match Template.load engine.config files site .layout engine.config.rootLayout with
  | .error problem => page.report problem
  | .ok (path, layout) =>
    renderFile engine files path layout
      (page.mapContext fun context => { context with passed := some page.output })

/-- Renders the page at a path within the site. -/
def render (engine : Engine) (files : Files) (site page : Path) (data : Fields)
    (request : Option Request) : Except Problem Rendered := do
  let path := Path.join site page
  let content ← Template.read files path
  let data ← dataOf engine files path data request
  let draft := renderFile engine files path content { context := { site, data, request } }
  pure (ofDraft (if draft.context.bypassesLayouts engine.config.bypassHeader then draft
    else wrapInRoot engine files site draft))

end Stencil.Page
