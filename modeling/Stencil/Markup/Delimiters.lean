import Stencil.Text.Blank
import Stencil.Text.Quoted
/-!
# Delimiters

A tag stands between two delimiters, which are not empty and differ. Block tags are found by the
canonical spelling of their markers, with single spaces around the name.
-/
namespace Stencil

structure Delimiters where
  start : Text
  stop : Text
  start_ne_nil : start ≠ []
  stop_ne_nil : stop ≠ []
  start_ne_stop : start ≠ stop

namespace Delimiters

inductive Error where
  | empty
  | identical (delimiter : Text)
deriving DecidableEq

def Error.message : Error → Text
  | empty => "delimiters must not be empty"
  | identical d => "start and end delimiters must differ (both are " ++ Text.quoted d ++ ")"

def ofTexts (start stop : Text) : Except Error Delimiters :=
  if h : start = [] ∨ stop = [] then .error .empty
  else if hs : start = stop then .error (.identical start)
  else .ok ⟨start, stop, fun e => h (.inl e), fun e => h (.inr e), hs⟩

def standard : Delimiters := ⟨"\x7b%", "%\x7d", by decide, by decide, by decide⟩

def openMarker (d : Delimiters) (name : Text) : Text := d.start ++ " " ++ name ++ " "

def closeMarker (d : Delimiters) (name : Text) : Text := d.start ++ " end-" ++ name ++ " " ++ d.stop

/-- The whole of a tag without arguments. -/
def bareMarker (d : Delimiters) (name : Text) : Text := d.start ++ " " ++ name ++ " " ++ d.stop

/-- The trimmed contents of a tag; a delimiter that is missing is not taken off. -/
def inner (d : Delimiters) (tag : Text) : Text :=
  let tag := (Text.dropStart? d.start tag).getD tag
  Text.trim ((Text.dropEnd? d.stop tag).getD tag)

theorem openMarker_ne_nil (d : Delimiters) (name : Text) : d.openMarker name ≠ [] := by
  simp [openMarker]

theorem closeMarker_ne_nil (d : Delimiters) (name : Text) : d.closeMarker name ≠ [] := by
  simp [closeMarker]

end Delimiters
end Stencil
