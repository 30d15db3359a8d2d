import Stencil.Draft
import Stencil.Filter
import Stencil.Markup.Balance
import Stencil.Template
/-!
# Tag calls

One occurrence of a tag in a text, with the text behind it, from which a block tag takes its body.
The body of a block and what comes after its closing marker make up the text behind the tag.
-/
namespace Stencil

/-- What the tags of every render work with and none of them changes. -/
structure Settings where
  config : Config
  delimiters : Delimiters
  filters : Table Filter
  /-- Whether a file that is being rendered may not be entered again with the same arguments. -/
  refusesCycles : Bool := true

/-- What a tag works with: settings, files and how to render a text one level deeper. -/
structure Scene extends Settings where
  files : Files
  render : Text → Draft → Draft

structure Call where
  name : Text
  arguments : Text
  /-- The bytes in front of the tag. -/
  start : Nat
  /-- The bytes in front of `following`. -/
  stop : Nat
  following : Text

structure Block where
  body : Text
  /-- Where scanning resumes behind the block. -/
  next : Nat

namespace Call

/-- The length of the whole text in bytes. -/
def size (call : Call) : Nat := call.stop + Text.bytes call.following

def tokens (call : Call) : List Text := Arguments.split call.arguments

def misuse (call : Call) (how : Misuse) : Problem := .misuse call.name how

/-- The body up to the closing marker that balances this tag. -/
def block? (call : Call) (delimiters : Delimiters) : Option Block :=
  let close := delimiters.closeMarker call.name
  (Balance.closing (delimiters.openMarker call.name) close 0 0 call.following).map
    fun (body, _) => ⟨body, call.stop + Text.bytes body + Text.bytes close⟩

def block (call : Call) (delimiters : Delimiters) : Except Problem Block :=
  match call.block? delimiters with
  | some block => .ok block
  | none => .error (.unclosedBlock call.name (delimiters.closeMarker call.name))

/-- The body up to a closing marker, or all that follows. -/
def blockOrRest (call : Call) (delimiters : Delimiters) : Block :=
  (call.block? delimiters).getD ⟨call.following, call.size⟩

/-- The first argument without its quotes, unless it is empty. -/
def firstName? (call : Call) : Option Text :=
  (call.tokens.head?.map Arguments.unquote).filter fun name => !name.isEmpty

end Call

/-- A tag writes to the draft and says where scanning resumes. -/
abbrev TagAction := Scene → Call → Draft → Draft × Nat

namespace TagAction

/-- A tag without a body, behind which scanning resumes. -/
def leaf (act : Scene → Call → Draft → Draft) : TagAction := fun scene call draft =>
  (act scene call draft, call.stop)

/-- A tag with a body. Without a closing marker it is a problem and scanning resumes in what was
meant to be the body. -/
def ofBlock (act : Scene → Call → Text → Draft → Draft) : TagAction := fun scene call draft =>
  match call.block scene.delimiters with
  | .ok block => (act scene call block.body draft, block.next)
  | .error problem => (draft.report problem, call.stop)

/-- A tag whose body runs to the end of the text if it is not closed. -/
def ofBlockOrRest (act : Scene → Call → Text → Draft → Draft) : TagAction := fun scene call draft =>
  let block := call.blockOrRest scene.delimiters
  (act scene call block.body draft, block.next)

/-- A tag whose body is passed over. -/
def skip : TagAction := ofBlock fun _ _ _ draft => draft

end TagAction
end Stencil
