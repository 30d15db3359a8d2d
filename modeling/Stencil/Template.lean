import Stencil.Config
import Stencil.Markup.Arguments
import Stencil.Problem
/-!
# Template files

A template is named without its folder and extension. It is looked for as a file of that name and
as the index of a folder of that name, or first as it is when the name has the extension.
-/
namespace Stencil.Template

def folderOf (config : Config) : TemplateRole → Path
  | .inclusion => config.partialsFolder
  | .layout => config.layoutsFolder

/-- A name as written, quoted or not. -/
def nameOf (written : Text) : Text := Arguments.unquote (Text.trim written)

/-- The paths at which a template may be, in the order they are tried. -/
def candidates (config : Config) (site : Path) (role : TemplateRole) (written : Text) : List Path :=
  let name := nameOf written
  let folder := Path.join site (folderOf config role)
  let asWritten :=
    if !config.extension.isEmpty && Text.endsWith config.extension name then
      [Path.join folder name]
    else []
  asWritten ++ [Path.join folder (name ++ config.extension),
    Path.join (Path.join folder name) ("index" ++ config.extension)]

/-- The first candidate that is a file. -/
def locate (config : Config) (files : Files) (site : Path) (role : TemplateRole) (written : Text) :
    Except Problem Path :=
  let tried := candidates config site role written
  match tried.find? files.isFile with
  | some path => .ok path
  | none => .error (.templateNotFound role (nameOf written) tried)

def read (files : Files) (path : Path) : Except Problem Text :=
  match files.read path with
  | .ok content => .ok content
  | .error cause => .error (.unreadable path cause)

/-- Path and content of a template. -/
def load (config : Config) (files : Files) (site : Path) (role : TemplateRole) (written : Text) :
    Except Problem (Path × Text) := do
  let path ← locate config files site role written
  pure (path, ← read files path)

end Stencil.Template
