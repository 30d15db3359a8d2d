import Stencil.Asset.Basic
import Stencil.Text.Blank
/-!
# Asset registry

The assets of one page in the order they were accepted, each identity once. An asset that names
others it depends on gets a priority above theirs, and assets of equal priority are emitted in the
order of their acceptance.
-/
namespace Stencil

structure AssetEntry where
  asset : Asset
  key : Text
  key_eq : key = asset.key

structure AssetRegistry where
  entries : List AssetEntry := []

namespace AssetRegistry

inductive Error where
  | missingPath (kind : AssetKind)
deriving DecidableEq

def Error.message : Error → Text
  | missingPath kind => "external " ++ kind.label ++ " asset has no path"

def assets (registry : AssetRegistry) : List Asset := registry.entries.map AssetEntry.asset

def has (registry : AssetRegistry) (key : Text) : Bool :=
  registry.entries.any fun entry => entry.key == key

def lowestPriority : Int := -0x80000000

def highestPriority : Int := 0x7fffffff

/-- The gap between an asset and those it depends on. -/
def dependencyStep : Int := 10

/-- The priority of the first asset that a dependency names. -/
def priorityOf? (registry : AssetRegistry) (dependency : Text) : Option Int :=
  (registry.entries.find? fun entry => entry.asset.isNamedBy entry.key dependency).map
    fun entry => entry.asset.priority

/-- The priority that an asset is accepted with. -/
def effectivePriority (registry : AssetRegistry) (asset : Asset) (dependencies : List Text) : Int :=
  let own := if asset.priority = 0 then asset.defaultPriority else asset.priority
  match (dependencies.filterMap registry.priorityOf?).max? with
  | some floor => if own ≤ floor then min (floor + dependencyStep) highestPriority else own
  | none => own

def isPathless (asset : Asset) : Bool :=
  match asset.source with
  | .external path => Text.isBlankText path
  | .inline _ => false

/-- Accepts an asset unless one of its identity is registered, and says whether it did. -/
def add (registry : AssetRegistry) (asset : Asset) (dependencies : List Text) :
    Except Error (Bool × AssetRegistry) :=
  if isPathless asset then .error (.missingPath asset.kind)
  else if registry.has asset.key then .ok (false, registry)
  else
    let accepted := { asset with priority := registry.effectivePriority asset dependencies }
    .ok (true, ⟨registry.entries ++ [⟨accepted, accepted.key, rfl⟩]⟩)

def insertByPriority (asset : Asset) : List Asset → List Asset
  | [] => [asset]
  | first :: rest =>
    if asset.priority ≤ first.priority then asset :: first :: rest
    else first :: insertByPriority asset rest

/-- The assets of one kind in the order they are emitted. -/
def ordered (registry : AssetRegistry) (kind : AssetKind) : List Asset :=
  (registry.assets.filter fun asset => asset.kind == kind).foldr insertByPriority []

def html (registry : AssetRegistry) (kind : AssetKind) : Text :=
  Text.join "\n" ((registry.ordered kind).map Asset.html)

end AssetRegistry
end Stencil
