import Stencil.Proofs.Passage
/-!
# Passages without the blanks around them

Trimming what a passage is written as takes blanks from its texts only: a tag begins and ends with
a delimiter.
-/
namespace Stencil

open Spelling

namespace PlainText

def trimStart (t : PlainText) : PlainText where
  text := Text.trimStart t.text
  no_brace h := t.no_brace ((List.dropWhile_sublist _).subset h)

def trimEnd (t : PlainText) : PlainText where
  text := Text.trimEnd t.text
  no_brace h := t.no_brace
    (List.mem_reverse.mp ((List.dropWhile_sublist _).subset (List.mem_reverse.mp h)))

end PlainText

namespace Passage

def trimStart : Passage → Passage
  | text t rest => if Text.trimStart t.text = [] then rest.trimStart else text t.trimStart rest
  | p => p

def trimEnd : Passage → Passage
  | done => done
  | text t rest =>
    if Text.trimEnd rest.written = [] then text t.trimEnd done else text t rest.trimEnd
  | leaf tag rest => leaf tag rest.trimEnd
  | block tag arguments body rest => block tag arguments body rest.trimEnd
  | choice condition yes no rest => choice condition yes no rest.trimEnd
  | comment commented rest => comment commented rest.trimEnd
  | child arguments body => child arguments body.trimEnd

/-- The passage without the blanks around it. -/
def trimmed (p : Passage) : Passage := p.trimStart.trimEnd

theorem trimStart_span (inside t : Text) :
    Text.trimStart (span inside ++ t) = span inside ++ t := by
  rw [span_eq_cons, List.cons_append]
  exact Text.trimStart_of_head (by decide) _

private theorem trimEnd_stop (s t : Text) :
    Text.trimEnd (s ++ "%\x7d" ++ t) = s ++ "%\x7d" ++ Text.trimEnd t := by
  have hstop : Text.trimEnd "%\x7d" = "%\x7d" := by decide
  have hne : ("%\x7d" : Text) ≠ [] := by decide
  rw [Text.trimEnd_append]
  by_cases h : Text.trimEnd t = []
  · rw [if_pos h, Text.trimEnd_append, hstop, if_neg hne, h, List.append_nil]
  · rw [if_neg h]

theorem trimEnd_span (s inside t : Text) :
    Text.trimEnd (s ++ span inside ++ t) = s ++ span inside ++ Text.trimEnd t := by
  have h := trimEnd_stop (s ++ ("\x7b%" ++ inside)) t
  simp only [List.append_assoc, span] at h ⊢
  exact h

private theorem written_trimStart (p : Passage) :
    p.trimStart.written = Text.trimStart p.written := by
  induction p with
  | text t rest ih =>
    rw [trimStart, written, Text.trimStart_append]
    by_cases h : Text.trimStart t.text = []
    · rw [if_pos h, if_pos h, ih]
    · rw [if_neg h, if_neg h]
      rfl
  | done => rfl
  | leaf tag rest _ => exact (trimStart_span _ _).symm
  | block tag arguments body rest _ _ =>
    simp only [trimStart, written, opening, List.append_assoc, trimStart_span]
  | choice condition yes no rest _ _ _ =>
    simp only [trimStart, written, opening, List.append_assoc, trimStart_span]
  | comment commented rest _ =>
    simp only [trimStart, written, Commented.written, tag_eq_span, List.append_assoc,
      trimStart_span]
  | child arguments body _ => exact (trimStart_span _ _).symm

private theorem written_trimEnd (p : Passage) : p.trimEnd.written = Text.trimEnd p.written := by
  induction p with
  | done => rfl
  | text t rest ih =>
    rw [trimEnd, written, Text.trimEnd_append]
    by_cases h : Text.trimEnd rest.written = []
    · rw [if_pos h, if_pos h]
      exact List.append_nil _
    · rw [if_neg h, if_neg h, ← ih]
      rfl
  | leaf tag rest ih =>
    have h := trimEnd_span [] tag.text rest.written
    rw [List.nil_append, ← ih] at h
    exact h.symm
  | block tag arguments body rest _ ih =>
    simp only [trimEnd, written, tag_eq_span, trimEnd_span, ih]
  | choice condition yes no rest _ _ ih =>
    have hend : Spelling.tag "end-if" = span (" " ++ "end-if" ++ " ") := tag_eq_span _
    simp only [trimEnd, written, hend, trimEnd_span, ih]
  | comment commented rest ih =>
    have hend : Spelling.tag "end-comment" = span (" " ++ "end-comment" ++ " ") := tag_eq_span _
    simp only [trimEnd, written, Commented.written, hend, trimEnd_span, ih]
  | child arguments body ih =>
    have h := trimEnd_span [] (" " ++ "extends" ++ " " ++ arguments.text) body.written
    rw [List.nil_append, ← ih] at h
    exact h.symm

theorem written_trimmed (p : Passage) : p.trimmed.written = Text.trim p.written := by
  rw [trimmed, written_trimEnd, written_trimStart]
  rfl

end Passage
end Stencil
