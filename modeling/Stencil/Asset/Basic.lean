import Stencil.Digest
import Stencil.Value
import Stencil.Path
/-!
# Assets

A stylesheet or script that a page asks for, with its content or the path to link. Kind and
content, or kind and cleaned path, are its identity; options change how it is emitted only.
-/
namespace Stencil

inductive AssetKind where
  | css
  | js
deriving DecidableEq

def AssetKind.label : AssetKind → Text
  | css => "CSS"
  | js => "JS"

inductive AssetSource where
  | inline (content : Text)
  | external (path : Path)
deriving DecidableEq

structure Asset where
  kind : AssetKind
  source : AssetSource
  /-- Lower ones are emitted first; 0 stands for the default of the type. -/
  priority : Int := 0
  media : Option Text := none
  isAsync : Bool := false
  isDeferred : Bool := false
  isModule : Bool := false
deriving DecidableEq

namespace Asset

def isInline (asset : Asset) : Bool :=
  match asset.source with
  | .inline _ => true
  | .external _ => false

/-- The identity by which an asset is registered once. -/
def key (asset : Asset) : Text :=
  match asset.source with
  | .inline content => "inline:" ++ asset.kind.label ++ ":" ++ Digest.sha256 (Text.utf8 content)
  | .external path => "external:" ++ asset.kind.label ++ ":" ++ Path.clean path

def defaultPriority (asset : Asset) : Int :=
  match asset.kind with
  | .css => 100
  | .js => if asset.isModule then 200 else 300

/-- A dependency names an asset by its key or by a path that cleans to its own. -/
def isNamedBy (asset : Asset) (key dependency : Text) : Bool :=
  key == dependency ||
    match asset.source with
    | .external path => Path.clean path == Path.clean dependency
    | .inline _ => false

def mediaAttribute (asset : Asset) : Text :=
  match asset.media with
  | some media => if media.isEmpty then [] else " " ++ Html.valueAttribute "media" media
  | none => []

def scriptAttributes (asset : Asset) : Text :=
  let given (wanted : Bool) (written : Text) : Text := if wanted then written else []
  given asset.isModule " type=\"module\"" ++ given asset.isAsync " async" ++
    given asset.isDeferred " defer"

def html (asset : Asset) : Text :=
  match asset.kind, asset.source with
  | .css, .inline content => "<style" ++ asset.mediaAttribute ++ ">" ++ content ++ "</style>"
  | .css, .external path =>
    "<link rel=\"stylesheet\" " ++ Html.valueAttribute "href" path ++ asset.mediaAttribute ++ ">"
  | .js, .inline content => "<script" ++ asset.scriptAttributes ++ ">" ++ content ++ "</script>"
  | .js, .external path =>
    "<script " ++ Html.valueAttribute "src" path ++ asset.scriptAttributes ++ "></script>"

end Asset
end Stencil
