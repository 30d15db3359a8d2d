import Stencil.Tag.Asset
import Stencil.Tag.Control
import Stencil.Tag.Head
import Stencil.Tag.Inclusion
import Stencil.Tag.Inheritance
/-!
# Tags

The tags of the template language, and tags of an engine's own: an action, or another name for a
tag of the same table.
-/
namespace Stencil

inductive BuiltIn where
  | branch
  | strayElse
  | loop
  | assign
  | comment
  | partialFile
  | layout
  | passed
  | extend
  | slot
  | define
  | block
  | importFile
  | css
  | js
  | metaElement
  | linkElement
  | title
  | rootHead
  | rootCss
  | rootJs
deriving DecidableEq

namespace BuiltIn

def name : BuiltIn → Text
  | branch => "if"
  | strayElse => "else"
  | loop => "each"
  | assign => "assign"
  | comment => "comment"
  | partialFile => "partial"
  | layout => "layout"
  | passed => "passed"
  | extend => "extends"
  | slot => "slot"
  | define => "define"
  | block => "block"
  | importFile => "import"
  | css => "css"
  | js => "js"
  | metaElement => "meta"
  | linkElement => "link"
  | title => "title"
  | rootHead => "root-head"
  | rootCss => "root-css"
  | rootJs => "root-js"

def all : List BuiltIn :=
  [branch, strayElse, loop, assign, comment, partialFile, layout, passed, extend, slot, define,
   block, importFile, css, js, metaElement, linkElement, title, rootHead, rootCss, rootJs]

def run : BuiltIn → TagAction
  | branch => Branch.run
  | strayElse => Branch.strayElse
  | loop => Loop.run
  | assign => Assignment.run
  | comment => TagAction.skip
  | partialFile => Inclusion.run
  | layout => Layout.run
  | passed => Layout.place
  | extend => Inheritance.run
  | slot => Slot.store
  | define => Slot.store
  | block => Slot.fill
  | importFile => Import.run
  | css => InlineAsset.run .css
  | js => InlineAsset.run .js
  | metaElement => HeadTag.element "meta"
  | linkElement => HeadTag.element "link"
  | title => HeadTag.title
  | rootHead => Emission.head
  | rootCss => Emission.assets .css
  | rootJs => Emission.assets .js

end BuiltIn

inductive Tag where
  | builtIn (tag : BuiltIn)
  | custom (action : TagAction)
  /-- Another name for a tag of the table. -/
  | renamed (name : Text)

namespace Tag

def builtIns : Table Tag :=
  Table.ofEntries (BuiltIn.all.map fun tag => (tag.name, .builtIn tag))

/-- What a tag does, with at most `steps` names followed. A name that leads to no tag does
nothing. -/
def action (tags : Table Tag) : (steps : Nat) → Tag → TagAction
  | _, builtIn tag => tag.run
  | _, custom action => action
  | 0, renamed _ => .leaf fun _ _ draft => draft
  | steps + 1, renamed name => match tags.get? name with
    | some tag => action tags steps tag
    | none => .leaf fun _ _ draft => draft

end Tag
end Stencil
