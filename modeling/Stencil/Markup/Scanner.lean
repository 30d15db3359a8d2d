import Stencil.Markup.Delimiters
/-!
# Scanner

Reads a text from left to right as stretches of plain text and tags. Each token is shorter than
what was left to read, the position only moves forward, and a start delimiter that is never closed
ends the scan for good.
-/
namespace Stencil

/-- A tag with the trimmed text between its delimiters and the bytes it spans. -/
structure TagSpan where
  contents : Text
  start : Nat
  stop : Nat

namespace TagSpan

/-- A tag that starts with a dot shows a value. -/
def isExpression (tag : TagSpan) : Bool := Text.startsWith "." tag.contents

/-- The first word and what follows it. -/
def nameAndArguments (tag : TagSpan) : Text × Text :=
  (tag.contents.takeWhile fun c => !Text.isBlank c,
    Text.trimStart (tag.contents.dropWhile fun c => !Text.isBlank c))

end TagSpan

inductive Token where
  | text (t : Text)
  | tag (span : TagSpan)
  | unclosed (position : Nat)

structure Scanner where
  delimiters : Delimiters
  rest : Text
  position : Nat := 0
  finished : Bool := false

namespace Scanner

def ofText (delimiters : Delimiters) (t : Text) : Scanner := { delimiters, rest := t }

def advance (s : Scanner) (taken rest : Text) : Scanner :=
  { s with rest, position := s.position + Text.bytes taken }

def next? (s : Scanner) : Option (Token × Scanner) :=
  if s.finished || s.rest.isEmpty then none
  else match Text.breakOn? s.delimiters.start s.rest with
    | none => some (.text s.rest, s.advance s.rest [])
    | some ([], inside) =>
      match Text.breakOn? s.delimiters.stop inside with
      | none => some (.unclosed s.position, { s with finished := true })
      | some (contents, rest) =>
        let after := s.advance (s.delimiters.start ++ contents ++ s.delimiters.stop) rest
        some (.tag ⟨Text.trim contents, s.position, after.position⟩, after)
    | some (plain, inside) => some (.text plain, s.advance plain (s.delimiters.start ++ inside))

/-- Moves forward to a position inside the text; a smaller one is ignored. -/
def seek (s : Scanner) (position : Nat) : Scanner :=
  let target := min position (s.position + Text.bytes s.rest)
  if s.position < target then
    { s with rest := Text.dropBytes (target - s.position) s.rest, position := target }
  else s

theorem seek_rest_length_le (s : Scanner) (position : Nat) :
    (s.seek position).rest.length ≤ s.rest.length := by
  simp only [seek]
  split
  · exact Text.dropBytes_length_le _ _
  · exact Nat.le_refl _

/-- Seeking to the end of a known stretch leaves what follows it. -/
theorem seek_behind {scanner : Scanner} {taken rest : Text}
    (h : scanner.rest = taken ++ rest) :
    scanner.seek (scanner.position + Text.bytes taken) =
      { scanner with rest, position := scanner.position + Text.bytes taken } := by
  have hmin : min (scanner.position + Text.bytes taken)
      (scanner.position + Text.bytes scanner.rest) = scanner.position + Text.bytes taken := by
    rw [h, Text.bytes_append]
    omega
  cases taken with
  | nil =>
    obtain ⟨delimiters, remaining, position, finished⟩ := scanner
    simp only [List.nil_append] at h
    subst h
    simp [seek, Text.bytes]
  | cons c taken =>
    have hlt : scanner.position < scanner.position + Text.bytes (c :: taken) := by
      have := c.utf8Size_pos
      simp only [Text.bytes]
      omega
    simp only [seek, hmin, if_pos hlt, Nat.add_sub_cancel_left]
    rw [h, Text.dropBytes_append]

theorem seek_position (scanner : Scanner) : scanner.seek scanner.position = scanner := by
  have h : scanner.rest = [] ++ scanner.rest := rfl
  simpa [Text.bytes] using seek_behind h

theorem next?_rest_length_lt {s s' : Scanner} {token : Token} (h : s.next? = some (token, s'))
    (hu : ∀ p, token ≠ .unclosed p) : s'.rest.length < s.rest.length := by
  simp only [next?] at h
  split at h
  · simp at h
  next hf =>
  have hr : s.rest ≠ [] := by
    intro e
    simp [e] at hf
  have hpos := List.length_pos_iff.mpr hr
  have hstart := List.length_pos_iff.mpr s.delimiters.start_ne_nil
  split at h
  · obtain ⟨-, rfl⟩ := by simpa using h
    simpa [advance] using hpos
  · next inside hb =>
    have hlen := congrArg List.length (Text.eq_append_of_breakOn? hb)
    split at h
    · obtain ⟨rfl, -⟩ := by simpa using h
      exact absurd rfl (hu _)
    · next contents rest hc =>
      have hlen' := congrArg List.length (Text.eq_append_of_breakOn? hc)
      obtain ⟨-, rfl⟩ := by simpa using h
      simp [advance] at hlen hlen' ⊢
      omega
  · next plain inside hne hb =>
    have hlen := congrArg List.length (Text.eq_append_of_breakOn? hb)
    have hp := List.length_pos_iff.mpr hne
    obtain ⟨-, rfl⟩ := by simpa using h
    simp [advance] at hlen ⊢
    omega

end Scanner
end Stencil
