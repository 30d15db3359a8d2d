import Stencil.Markup.Delimiters
/-!
# Balanced markers

Pairs the markers of block tags that may nest inside themselves. Both searches walk the text once,
stepping over each marker they count, and split it around the marker they find.
-/
namespace Stencil

/-- A range of bytes. -/
structure Span where
  start : Nat
  stop : Nat
deriving DecidableEq

namespace Balance

def after (c : Char) (found : Text × Text) : Text × Text := (c :: found.1, found.2)

/-- An opening marker starts here and ends before the next closing one starts. -/
def opensHere (opening close t : Text) : Bool :=
  opening.isPrefixOf t &&
    (Text.breakOn? close t).all fun found => opening.length ≤ found.1.length

/-- The text around the closing marker that balances `depth` open blocks and the one around them.
`skip` characters belong to a marker already counted. -/
def closing (opening close : Text) : (skip depth : Nat) → Text → Option (Text × Text)
  | _, _, [] => none
  | skip + 1, depth, c :: t => (closing opening close skip depth t).map (after c)
  | 0, depth, c :: t =>
    if close.isPrefixOf (c :: t) then
      match depth with
      | 0 => some ([], (c :: t).drop close.length)
      | depth + 1 => (closing opening close (close.length - 1) depth t).map (after c)
    else if opensHere opening close (c :: t) then
      (closing opening close (opening.length - 1) (depth + 1) t).map (after c)
    else (closing opening close 0 depth t).map (after c)

/-- The text around the first `marker` that no pair of the other two encloses. A closing marker
outside every pair is passed over. -/
def topLevel (opening close marker : Text) : (skip depth : Nat) → Text → Option (Text × Text)
  | _, _, [] => none
  | skip + 1, depth, c :: t => (topLevel opening close marker skip depth t).map (after c)
  | 0, depth, c :: t =>
    if opening ≠ [] ∧ opening.isPrefixOf (c :: t) then
      (topLevel opening close marker (opening.length - 1) (depth + 1) t).map (after c)
    else if close ≠ [] ∧ close.isPrefixOf (c :: t) then
      (topLevel opening close marker (close.length - 1) (depth - 1) t).map (after c)
    else if marker ≠ [] ∧ marker.isPrefixOf (c :: t) then
      if depth = 0 then some ([], (c :: t).drop marker.length)
      else (topLevel opening close marker (marker.length - 1) depth t).map (after c)
    else (topLevel opening close marker 0 depth t).map (after c)

def spanFrom (position : Nat) (marker : Text) (found : Text × Text) : Span :=
  let start := position + Text.bytes found.1
  ⟨start, start + Text.bytes marker⟩

/-- Where the closing marker stands that balances an opening one before `position`. There is none
from a position inside a character. -/
def findClosing? (t opening close : Text) (position : Nat) : Option Span :=
  if opening = [] ∨ close = [] then none
  else (Text.dropBytes? position t).bind fun rest =>
    (closing opening close 0 0 rest).map (spanFrom position close)

/-- Where the first `marker` stands that no pair encloses. -/
def findTopLevel? (t opening close marker : Text) : Option Span :=
  (topLevel opening close marker 0 0 t).map (spanFrom 0 marker)

theorem eq_append_of_closing {opening close : Text} {skip depth : Nat} {t body rest : Text}
    (h : closing opening close skip depth t = some (body, rest)) : t = body ++ close ++ rest := by
  induction t generalizing skip depth body with
  | nil => simp [closing] at h
  | cons c t ih =>
    have step {skip depth : Nat}
        (h : (closing opening close skip depth t).map (after c) = some (body, rest)) :
        c :: t = body ++ close ++ rest := by
      obtain ⟨⟨x, y⟩, hxy, he⟩ := Option.map_eq_some_iff.mp h
      obtain ⟨rfl, rfl⟩ := by simpa [after] using he
      simp [ih hxy]
    cases skip with
    | succ skip => exact step h
    | zero =>
      simp only [closing] at h
      split at h
      · next hp =>
        split at h
        · obtain ⟨rfl, rfl⟩ := by simpa using h
          simpa using Text.eq_append_of_isPrefixOf hp
        · exact step h
      · split at h <;> exact step h

end Balance
end Stencil
