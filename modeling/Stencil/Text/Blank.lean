import Stencil.Text.Basic
/-!
# Blanks

The 25 white-space characters of Unicode, the five of ASCII, and trimming. Contents of tags and
values are trimmed by the first set, arguments are split by the second.
-/
namespace Stencil.Text

def inRanges (ranges : List (Nat × Nat)) (c : Char) : Bool :=
  ranges.any fun (low, high) => low ≤ c.toNat && c.toNat ≤ high

def blankRanges : List (Nat × Nat) :=
  [(0x09, 0x0D), (0x20, 0x20), (0x85, 0x85), (0xA0, 0xA0), (0x1680, 0x1680), (0x2000, 0x200A),
   (0x2028, 0x2029), (0x202F, 0x202F), (0x205F, 0x205F), (0x3000, 0x3000)]

def isBlank (c : Char) : Bool := inRanges blankRanges c

/-- Space, tab, line feed, form feed and carriage return; not the vertical tab. -/
def isAsciiBlank (c : Char) : Bool := c == ' ' || c == '\t' || c == '\n' || c == '\x0c' || c == '\r'

theorem isBlank_of_isAsciiBlank {c : Char} (h : isAsciiBlank c = true) : isBlank c = true := by
  simp only [isAsciiBlank, Bool.or_eq_true, beq_iff_eq] at h
  rcases h with (((rfl | rfl) | rfl) | rfl) | rfl <;> decide

def trimStart (t : Text) : Text := t.dropWhile isBlank

def trimEnd (t : Text) : Text := (t.reverse.dropWhile isBlank).reverse

def trim (t : Text) : Text := trimEnd (trimStart t)

theorem trim_append_blank {c : Char} (hc : isBlank c = true) (t : Text) :
    trim (t ++ [c]) = trim t := by
  simp only [trim, trimStart, List.dropWhile_append, List.dropWhile_cons, hc, if_true,
    List.dropWhile_nil]
  split
  · next h =>
    rw [List.isEmpty_iff.mp h]
  · simp [trimEnd, hc]

theorem trim_cons_blank {c : Char} (hc : isBlank c = true) (t : Text) : trim (c :: t) = trim t := by
  simp [trim, trimStart, hc]

theorem trimStart_of_trim {t : Text} (h : trim t = t) : trimStart t = t := by
  have hs : trimStart t <:+ t := List.dropWhile_suffix _
  have he : (trimEnd (trimStart t)).length ≤ (trimStart t).length := by
    have hd : ((trimStart t).reverse.dropWhile isBlank).length ≤ (trimStart t).reverse.length :=
      (List.dropWhile_suffix _).length_le
    simpa [trimEnd] using hd
  have ht : (trimEnd (trimStart t)).length = t.length := congrArg List.length h
  exact hs.eq_of_length (Nat.le_antisymm hs.length_le (ht ▸ he))

/-- A trimmed text behind one that begins with no blank. -/
theorem trim_append {s t : Text} (hs : trimStart s = s) (hs' : s ≠ []) (ht : trim t = t)
    (ht' : t ≠ []) : trim (s ++ t) = s ++ t := by
  have hstart : trimStart (s ++ t) = s ++ t := by
    have hne : ¬ (s.dropWhile isBlank).isEmpty = true := by
      rw [show s.dropWhile isBlank = s from hs, List.isEmpty_iff]
      exact hs'
    rw [trimStart, List.dropWhile_append, if_neg hne]
    exact congrArg (· ++ t) hs
  have hend : t.reverse.dropWhile isBlank = t.reverse := by
    have he : trimEnd t = t := by
      rw [trim, trimStart_of_trim ht] at ht
      exact ht
    rw [← List.reverse_inj, List.reverse_reverse]
    exact he
  have hne : ¬ (t.reverse.dropWhile isBlank).isEmpty = true := by
    rw [hend, List.isEmpty_iff, List.reverse_eq_nil_iff]
    exact ht'
  rw [trim, hstart, trimEnd, List.reverse_append, List.dropWhile_append, if_neg hne, hend,
    ← List.reverse_append, List.reverse_reverse]

def isBlankText (t : Text) : Bool := (trim t).isEmpty

/-- The first run of characters that are not blank. -/
def firstWord (t : Text) : Text := (trimStart t).takeWhile fun c => !isBlank c

end Stencil.Text
