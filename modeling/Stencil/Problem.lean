import Stencil.Asset.Basic
import Stencil.Files
import Stencil.Text.Numeral
import Stencil.Text.Quoted
/-!
# Problems

What can go wrong while a template is rendered. A problem is noted and rendering goes on, so each
one carries what its message needs.
-/
namespace Stencil

/-- How far a problem reaches. -/
inductive ProblemKind where
  | structural
  | dispatch
  | resolution
  | io
  | usage
deriving DecidableEq

/-- What a template file is loaded for. -/
inductive TemplateRole where
  | inclusion
  | layout
deriving DecidableEq

def TemplateRole.label : TemplateRole → Text
  | inclusion => "partial"
  | layout => "layout"

/-- What a tag may lack. -/
inductive Need where
  | attributes
  | blockName
  | condition
  | layoutName
  | name
  | parentName
  | partialName
  | path
  | title
  | value
  | variableName
deriving DecidableEq

def Need.label : Need → Text
  | attributes => "attributes"
  | blockName => "block name"
  | condition => "condition"
  | layoutName => "layout name"
  | name => "name"
  | parentName => "parent name"
  | partialName => "partial name"
  | path => "path"
  | title => "title"
  | value => "value"
  | variableName => "variable name"

/-- Ways to write a tag wrongly. -/
inductive Misuse where
  | missing (need : Need)
  | emptyStage
  | notACondition (written : Text)
  | unknownOperator (operator : Text)
  | strayElse
  | notALoop
  | emptyLoopVariable
  | notAnAssignment
  | notAPair (token : Text)
  | badPriority (written : Text)
  | notLinkable (path : Path)
deriving DecidableEq

def Misuse.message : Misuse → Text
  | missing need => "missing " ++ need.label
  | emptyStage => "empty filter stage"
  | notACondition written => "expected `VALUE` or `LEFT OP RIGHT`, got `" ++ written ++ "`"
  | unknownOperator operator => "unknown comparison operator `" ++ operator ++ "`"
  | strayElse => "`else` outside of an `if` block"
  | notALoop => "expected `VAR in PATH`"
  | emptyLoopVariable => "loop variable is empty"
  | notAnAssignment => "expected `VAR = EXPR`"
  | notAPair token => "expected `key=value`, got `" ++ token ++ "`"
  | badPriority written => "invalid priority `" ++ written ++ "`"
  | notLinkable path => "cannot link `" ++ path ++ "`: not a .css or .js file"

inductive Problem where
  | unclosedDelimiter (position : Nat) (delimiter : Text)
  | unclosedBlock (tag marker : Text)
  | depthExceeded (limit : Nat) (template : Text)
  | cycle (path : Path) (chain : List Path)
  | unknownTag (name : Text)
  | unknownFilter (name : Text)
  | filterFailed (name message : Text)
  | notFound (path : Text)
  | notIterable (path : Text)
  | incomparable (left operator right : Text)
  | templateNotFound (role : TemplateRole) (name : Text) (tried : List Path)
  | unreadable (path : Path) (cause : ReadError)
  | badData (path : Path)
  | misuse (tag : Text) (how : Misuse)
  | pathlessAsset (kind : AssetKind)
deriving DecidableEq

namespace Problem

def kind : Problem → ProblemKind
  | unclosedDelimiter .. | unclosedBlock .. | depthExceeded .. | cycle .. => .structural
  | unknownTag _ | unknownFilter _ | filterFailed .. => .dispatch
  | notFound _ | notIterable _ | incomparable .. => .resolution
  | templateNotFound .. | unreadable .. | badData _ => .io
  | misuse .. | pathlessAsset _ => .usage

def message : Problem → Text
  | unclosedDelimiter position delimiter =>
    "missing closing delimiter " ++ Text.quoted delimiter ++ " for tag opened at byte " ++
      Text.ofNat position
  | unclosedBlock tag marker => "unclosed `" ++ tag ++ "` block: expected " ++ Text.quoted marker
  | depthExceeded limit template =>
    "render depth limit of " ++ Text.ofNat limit ++ " exceeded in " ++ template
  | cycle path chain => path ++ " includes itself: " ++ Text.join " -> " chain
  | unknownTag name => "unknown tag `" ++ name ++ "`"
  | unknownFilter name => "unknown filter `" ++ name ++ "`"
  | filterFailed name message => "filter `" ++ name ++ "` failed: " ++ message
  | notFound path => "variable not found: " ++ path
  | notIterable path => "value at `" ++ path ++ "` is not iterable"
  | incomparable left operator right =>
    "cannot compare " ++ left ++ " " ++ operator ++ " " ++ right
  | templateNotFound role name tried =>
    role.label ++ " `" ++ name ++ "` not found (tried " ++ Text.join ", " tried ++ ")"
  | unreadable path cause => "cannot read " ++ path ++ ": " ++ cause.message
  | badData path => "invalid data file " ++ path
  | misuse tag how => "`" ++ tag ++ "`: " ++ how.message
  | pathlessAsset kind => "external " ++ kind.label ++ " asset has no path"

end Problem
end Stencil
