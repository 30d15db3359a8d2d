import Stencil.Text.Blank
/-!
# Blanks around a text

Trimming reaches over a part of a text only if that part is blank, and the two ends are trimmed
independently of each other.
-/
namespace Stencil.Text

theorem trimStart_append (s t : Text) :
    trimStart (s ++ t) = if trimStart s = [] then trimStart t else trimStart s ++ t := by
  have h : trimStart (s ++ t) =
      if (trimStart s).isEmpty then trimStart t else trimStart s ++ t := List.dropWhile_append
  rw [h]
  simp only [List.isEmpty_iff]

theorem trimEnd_append (s t : Text) :
    trimEnd (s ++ t) = if trimEnd t = [] then trimEnd s else s ++ trimEnd t := by
  have hn : trimEnd t = [] ↔ trimStart t.reverse = [] := List.reverse_eq_nil_iff
  have hs : trimEnd (s ++ t) = (trimStart (t.reverse ++ s.reverse)).reverse := by
    rw [← List.reverse_append]
    rfl
  rw [hs, trimStart_append]
  by_cases h : trimEnd t = []
  · rw [if_pos h, if_pos (hn.mp h)]
    rfl
  · rw [if_neg h, if_neg (h ∘ hn.mpr), List.reverse_append, List.reverse_reverse]
    rfl

theorem trimStart_cons (c : Char) (t : Text) :
    trimStart (c :: t) = if isBlank c then trimStart t else c :: t := by
  simp only [trimStart, List.dropWhile_cons]

theorem trimEnd_cons (c : Char) (t : Text) :
    trimEnd (c :: t) =
      if trimEnd t = [] then (if isBlank c then [] else [c]) else c :: trimEnd t := by
  have h := trimEnd_append [c] t
  by_cases hc : isBlank c = true
  · simpa [trimEnd, hc] using h
  · simpa [trimEnd, hc] using h

theorem trim_eq (t : Text) : trim t = trimStart (trimEnd t) := by
  induction t with
  | nil => rfl
  | cons c t ih =>
    rw [trim, trimStart_cons, trimEnd_cons]
    by_cases hc : isBlank c = true
    · rw [if_pos hc, if_pos hc, ← trim, ih]
      split
      · next h => rw [h]
      · rw [trimStart_cons, if_pos hc]
    · rw [if_neg hc, if_neg hc, trimEnd_cons, if_neg hc]
      split <;> rw [trimStart_cons, if_neg hc]

theorem trimStart_of_head {c : Char} (hc : isBlank c = false) (t : Text) :
    trimStart (c :: t) = c :: t := by
  rw [trimStart_cons, hc]
  rfl

private theorem trimStart_of_all {t : Text} (h : ∀ c ∈ t, isBlank c = false) : trimStart t = t := by
  cases t with
  | nil => rfl
  | cons c t => exact trimStart_of_head (h c List.mem_cons_self) t

theorem trimEnd_of_all {t : Text} (h : ∀ c ∈ t, isBlank c = false) : trimEnd t = t := by
  have hr : trimStart t.reverse = t.reverse :=
    trimStart_of_all fun c hc => h c (List.mem_reverse.mp hc)
  change (trimStart t.reverse).reverse = t
  rw [hr, List.reverse_reverse]

end Stencil.Text
