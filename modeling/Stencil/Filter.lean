import Stencil.Value
import Stencil.Text.LetterCase
import Stencil.Text.Numeral
import Stencil.Text.Quoted
/-!
# Filters

A filter turns the value piped into it and its arguments into a value, or says why it cannot. Most
of them work on the text of a value. Slicing at a separator and joining with it undo each other.
-/
namespace Stencil

abbrev Filter := Value → List Text → Except Text Value

namespace Filter

/-- A filter on the text of its value that takes no arguments. -/
def onText (change : Text → Text) : Filter := fun value _ => .ok (.text (change value.toText))

/-- The first `length` characters. -/
def truncate : Filter := fun value arguments =>
  match arguments with
  | [] => .error "expected a length"
  | length :: _ => match Text.readNat? Text.largestCount (Text.trim length) with
    | some n => .ok (.text (value.toText.take n))
    | none => .error ("invalid length " ++ Text.quoted length)

/-- The trimmed pieces between separators, none for a blank text. An array stays as it is. -/
def slice : Filter := fun value arguments =>
  match value with
  | .array items => .ok (.array items)
  | value =>
    let separator := arguments.head?.getD [',']
    if separator.isEmpty then .error "delimiter must not be empty"
    else if Text.isBlankText value.toText then .ok (.array [])
    else .ok (.array ((Text.splitOnText separator value.toText).map fun piece =>
      .text (Text.trim piece)))

/-- The texts of an array's items with a separator between them. -/
def join : Filter := fun value arguments =>
  match value with
  | .array items =>
    .ok (.text (Text.join (arguments.head?.getD [',', ' ']) (items.map Value.toText)))
  | value => .ok (.text value.toText)

/-- Null, the empty text and the empty array have no content; `false` and zero have. -/
def lacksContent : Value → Bool
  | .null => true
  | .text t => t.isEmpty
  | .array items => items.isEmpty
  | _ => false

/-- The first argument in place of a value without content. -/
def default : Filter := fun value arguments =>
  .ok (if lacksContent value then .text (arguments.head?.getD []) else value)

def sizeOf : Value → Nat
  | .null => 0
  | .array items => items.length
  | .object members => members.length
  | value => value.toText.length

def size : Filter := fun value _ => .ok (.int (sizeOf value))

def builtIns : Table Filter := Table.ofEntries
  [("upcase", onText Text.toUpper), ("downcase", onText Text.toLower),
   ("capitalize", onText Text.capitalize), ("strip", onText Text.trim), ("truncate", truncate),
   ("slice", slice), ("join", join), ("default", default), ("escape", onText Html.escape),
   ("size", size)]

end Filter
end Stencil
