import Stencil.Markup.Scanner
import Stencil.Proofs.Search
/-!
# Tokens

What a scanner reads next, from the text in front of it. A token stands between the texts before and
behind it, and what follows it does not change it.
-/
namespace Stencil.Scanner

variable {scanner after : Scanner}

/-- The scanner at another place, with another text to read. -/
def moved (scanner : Scanner) (position : Nat) (rest : Text) : Scanner :=
  { scanner with rest, position }

theorem breakOn?_self {pattern : Text} (hp : pattern ≠ []) (rest : Text) :
    Text.breakOn? pattern (pattern ++ rest) = some ([], rest) := by
  cases pattern with
  | nil => exact absurd rfl hp
  | cons c pattern => simp [Text.breakOn?]

theorem next?_of_finished (h : scanner.finished = true) : scanner.next? = none := by
  simp [next?, h]

theorem next?_of_nil (h : scanner.rest = []) : scanner.next? = none := by
  simp [next?, h]

theorem next?_plain (hf : scanner.finished = false) {t plain inside : Text}
    (hb : Text.breakOn? scanner.delimiters.start t = some (plain, inside)) (hn : plain ≠ [])
    (position : Nat) :
    (scanner.moved position t).next? =
      some (.text plain, scanner.moved (position + Text.bytes plain)
        (scanner.delimiters.start ++ inside)) := by
  have ht : t.isEmpty = false := by
    rw [Text.eq_append_of_breakOn? hb]
    simp [hn]
  simp only [next?, moved, hf, ht, Bool.or_self, Bool.false_eq_true, if_false]
  rw [hb]
  cases plain with
  | nil => exact absurd rfl hn
  | cons c plain => rfl

theorem next?_last (hf : scanner.finished = false) {t : Text}
    (hb : Text.breakOn? scanner.delimiters.start t = none) (hn : t ≠ []) (position : Nat) :
    (scanner.moved position t).next? =
      some (.text t, scanner.moved (position + Text.bytes t) []) := by
  have ht : t.isEmpty = false := by simp [hn]
  simp only [next?, moved, hf, ht, Bool.or_self, Bool.false_eq_true, if_false]
  rw [hb]
  rfl

theorem next?_unclosed (hf : scanner.finished = false) {inside : Text}
    (hb : Text.breakOn? scanner.delimiters.stop inside = none) (position : Nat) :
    (scanner.moved position (scanner.delimiters.start ++ inside)).next? =
      some (.unclosed position,
        { scanner.moved position (scanner.delimiters.start ++ inside) with finished := true }) := by
  have ht : (scanner.delimiters.start ++ inside).isEmpty = false := by
    simp [scanner.delimiters.start_ne_nil]
  simp only [next?, moved, hf, ht, Bool.or_self, Bool.false_eq_true, if_false]
  rw [breakOn?_self scanner.delimiters.start_ne_nil]
  simp only [hb]

theorem next?_tag (hf : scanner.finished = false) {contents other : Text}
    (hb : Text.breakOn? scanner.delimiters.stop (contents ++ scanner.delimiters.stop ++ other) =
      some (contents, other)) (position : Nat) :
    let written := scanner.delimiters.start ++ contents ++ scanner.delimiters.stop
    (scanner.moved position (written ++ other)).next? =
      some (.tag ⟨Text.trim contents, position, position + Text.bytes written⟩,
        scanner.moved (position + Text.bytes written) other) := by
  intro written
  have hw : written ++ other =
      scanner.delimiters.start ++ (contents ++ scanner.delimiters.stop ++ other) := by
    simp [written]
  have hs := breakOn?_self scanner.delimiters.start_ne_nil
    (contents ++ scanner.delimiters.stop ++ other)
  have hn : (written ++ other).isEmpty = false := by
    rw [hw]
    simp [scanner.delimiters.start_ne_nil]
  simp only [next?, moved, hf, hn, Bool.or_self, Bool.false_eq_true, if_false]
  rw [hw, hs]
  simp only [hb]
  rfl

theorem next?_eq_none (h : scanner.next? = none) : scanner.finished = true ∨ scanner.rest = [] := by
  simp only [next?] at h
  split at h
  · next he => simpa using he
  · split at h
    · cases h
    · split at h <;> cases h
    · cases h

theorem next?_eq_unclosed {position : Nat} (h : scanner.next? = some (.unclosed position, after)) :
    position = scanner.position ∧ scanner.finished = false ∧ ∃ inside,
      scanner.rest = scanner.delimiters.start ++ inside ∧
      Text.breakOn? scanner.delimiters.stop inside = none := by
  simp only [next?] at h
  split at h
  · cases h
  next hf =>
  simp only [Bool.or_eq_true, not_or, Bool.not_eq_true] at hf
  split at h
  · cases h
  · next inside hs =>
    split at h
    · next hb =>
      cases h
      exact ⟨rfl, hf.1, inside, Text.eq_append_of_breakOn? hs, hb⟩
    · cases h
  · cases h

theorem next?_eq_text {text : Text} (h : scanner.next? = some (.text text, after)) :
    scanner.finished = false ∧ scanner.rest = text ++ after.rest ∧
      after = scanner.moved (scanner.position + Text.bytes text) after.rest ∧
      ∀ kept cut, after.rest = kept ++ cut → Text.Passes scanner.delimiters.start text kept := by
  have hstart := scanner.delimiters.start_ne_nil
  simp only [next?] at h
  split at h
  · cases h
  next hf =>
  simp only [Bool.or_eq_true, not_or, Bool.not_eq_true] at hf
  split at h
  · next hb =>
    cases h
    refine ⟨hf.1, (List.append_nil _).symm, rfl, fun kept cut hk => ?_⟩
    obtain ⟨rfl, -⟩ := List.append_eq_nil_iff.mp hk.symm
    simp [Text.Passes, hb, Text.breakOn?, hstart]
  · split at h <;> cases h
  · next plain inside _ hb =>
    cases h
    have hr := Text.eq_append_of_breakOn? hb
    rw [List.append_assoc] at hr
    refine ⟨hf.1, hr, rfl, fun kept cut hk => ?_⟩
    change scanner.delimiters.start ++ inside = kept ++ cut at hk
    rw [hr, hk, ← List.append_assoc] at hb
    exact Text.passes_of_breakOn? hb

theorem next?_eq_tag {tag : TagSpan} (h : scanner.next? = some (.tag tag, after)) :
    ∃ contents,
      let written := scanner.delimiters.start ++ contents ++ scanner.delimiters.stop
      scanner.finished = false ∧ scanner.rest = written ++ after.rest ∧
      after = scanner.moved (scanner.position + Text.bytes written) after.rest ∧
      tag = ⟨Text.trim contents, scanner.position, scanner.position + Text.bytes written⟩ ∧
      ∀ other, Text.breakOn? scanner.delimiters.stop
        (contents ++ scanner.delimiters.stop ++ other) = some (contents, other) := by
  simp only [next?] at h
  split at h
  · cases h
  next hf =>
  simp only [Bool.or_eq_true, not_or, Bool.not_eq_true] at hf
  split at h
  · cases h
  · next inside hs =>
    split at h
    · cases h
    · next contents rest hb =>
      cases h
      have hr := Text.eq_append_of_breakOn? hs
      rw [Text.eq_append_of_breakOn? hb] at hr
      refine ⟨contents, hf.1, ?_, rfl, rfl, Text.breakOn?_replace hb⟩
      rw [hr]
      simp [advance]
  · cases h

end Stencil.Scanner
