import Stencil.Filter
import Stencil.Proofs.Moves
/-!
# Slicing and joining

The pieces of a text between the occurrences of a separator, found from left to right, make up the
text again with the separator between them. Pieces without the separator are found again in what
they are joined to. Where nothing is trimmed and the text is not blank, the filters that slice and
join do the same with values.
-/
namespace Stencil

namespace Text

variable {separator t front back : Text} {pieces : List Text}

/-- The separator does not occur earlier than between the two texts. -/
def IsFirst (separator front back : Text) : Prop :=
  ∀ earlier later, front ++ separator ++ back = earlier ++ separator ++ later →
    front.length ≤ earlier.length

/-- The pieces between the occurrences of a separator, each occurrence the first one behind the one
before. -/
inductive Sliced (separator : Text) : Text → List Text → Prop
  | whole {t : Text} (h : ¬ separator <:+: t) : Sliced separator t [t]
  | cut {front back : Text} {pieces : List Text} (h : IsFirst separator front back)
      (hback : Sliced separator back pieces) :
      Sliced separator (front ++ separator ++ back) (front :: pieces)

private theorem breakOn?_of_isFirst (h : IsFirst separator front back) :
    breakOn? separator (front ++ separator ++ back) = some (front, back) := by
  obtain ⟨⟨before, after⟩, hb⟩ :=
    Option.isSome_iff_exists.mp (breakOn?_isSome separator front back)
  have hcut : front ++ separator ++ back = before ++ separator ++ after := eq_append_of_breakOn? hb
  have hlength : front.length = before.length :=
    Nat.le_antisymm (h before after hcut) (length_le_of_breakOn? hb rfl)
  have hparts : front ++ (separator ++ back) = before ++ (separator ++ after) := by
    simpa only [List.append_assoc] using hcut
  obtain ⟨rfl, hrest⟩ := List.append_inj hparts hlength
  rw [hb, List.append_cancel_left hrest]

theorem isFirst_of_breakOn? (h : breakOn? separator t = some (front, back)) :
    IsFirst separator front back := fun _ _ heq =>
  length_le_of_breakOn? h ((eq_append_of_breakOn? h).trans heq)

private theorem splitOnText_of_none (hs : separator ≠ []) (h : breakOn? separator t = none) :
    splitOnText separator t = [t] := by
  rw [splitOnText, dif_neg hs]
  split
  · rfl
  · next hb => rw [h] at hb; cases hb

private theorem splitOnText_of_some (hs : separator ≠ [])
    (h : breakOn? separator t = some (front, back)) :
    splitOnText separator t = front :: splitOnText separator back := by
  rw [splitOnText, dif_neg hs]
  split
  · next hb => rw [h] at hb; cases hb
  · next hb => rw [h] at hb; cases hb; rfl

private theorem sliced_splitOnText (hs : separator ≠ []) (t : Text) :
    Sliced separator t (splitOnText separator t) := by
  fun_induction splitOnText separator t with
  | case1 => contradiction
  | case2 t _ hb => exact .whole (breakOn?_eq_none_iff.mp hb)
  | case3 t _ front back hb ih =>
    rw [eq_append_of_breakOn? hb]
    exact .cut (isFirst_of_breakOn? hb) ih

/-- There is one way to slice a text. -/
theorem sliced_iff (hs : separator ≠ []) :
    Sliced separator t pieces ↔ splitOnText separator t = pieces := by
  constructor
  · intro h
    induction h with
    | whole h => exact splitOnText_of_none hs (breakOn?_eq_none_iff.mpr h)
    | cut h _ ih => rw [splitOnText_of_some hs (breakOn?_of_isFirst h), ih]
  · rintro rfl
    exact sliced_splitOnText hs t

private theorem Sliced.join_eq (h : Sliced separator t pieces) : join separator pieces = t := by
  induction h with
  | whole => exact join_singleton _ _
  | @cut front back pieces _ hback ih =>
    obtain ⟨first, rest, rfl⟩ : ∃ first rest, pieces = first :: rest := by
      cases hback with
      | whole => exact ⟨_, _, rfl⟩
      | cut => exact ⟨_, _, rfl⟩
    rw [join_cons_cons, ih]

private theorem sliced_join {c : Char} (hne : pieces ≠ []) (h : ∀ piece ∈ pieces, c ∉ piece) :
    Sliced [c] (join [c] pieces) pieces := by
  induction pieces with
  | nil => exact absurd rfl hne
  | cons piece rest ih =>
    obtain ⟨hpiece, hrest⟩ := List.forall_mem_cons.mp h
    cases rest with
    | nil =>
      rw [join_singleton]
      exact .whole fun hc => hpiece (hc.subset (List.mem_singleton_self c))
    | cons next rest =>
      rw [join_cons_cons]
      have hfirst : IsFirst [c] piece (join [c] (next :: rest)) :=
        isFirst_of_breakOn? (breakOn?_of_notMem hpiece _)
      exact .cut hfirst (ih (List.cons_ne_nil _ _) hrest)

end Text

namespace Filter

variable {separator t : Text} {pieces : List Text}

private theorem slice_text (hs : separator ≠ []) (ht : Text.isBlankText t = false) :
    slice (.text t) [separator] =
      .ok (.array ((Text.splitOnText separator t).map fun piece => .text (Text.trim piece))) := by
  have hempty : separator.isEmpty = false := List.isEmpty_eq_false_iff.mpr hs
  simp [slice, Value.toText, hempty, ht]

private theorem slice_of_trimmed (hs : separator ≠ []) (ht : Text.isBlankText t = false)
    (h : Text.Sliced separator t pieces) (htrim : ∀ piece ∈ pieces, Text.trim piece = piece) :
    slice (.text t) [separator] = .ok (.array (pieces.map .text)) := by
  have hsame : (pieces.map fun piece => Value.text (Text.trim piece)) = pieces.map .text :=
    List.map_congr_left fun piece hm => congrArg Value.text (htrim piece hm)
  rw [slice_text hs ht, (Text.sliced_iff hs).mp h, hsame]

private theorem join_texts (separator : Text) (pieces : List Text) :
    join (.array (pieces.map .text)) [separator] = .ok (.text (Text.join separator pieces)) := by
  simp [join, Value.toText, Function.comp_def]

/-- A text that is not blank is sliced into the pieces between the separators and joined to itself
again, if nothing is trimmed off the pieces. Trimmed texts without a character that are joined with
it are found again by slicing at it, if what they are joined to is not blank. -/
theorem sliced_then_joined :
    (∀ separator t : Text, separator ≠ [] → ∃ pieces, Text.Sliced separator t pieces ∧
      (∀ others, Text.Sliced separator t others → others = pieces) ∧
      (Text.isBlankText t = false → (∀ piece ∈ pieces, Text.trim piece = piece) →
        slice (.text t) [separator] = .ok (.array (pieces.map .text)) ∧
        join (.array (pieces.map .text)) [separator] = .ok (.text t))) ∧
    ∀ (c : Char) (pieces : List Text), pieces ≠ [] →
      (∀ piece ∈ pieces, Text.trim piece = piece ∧ c ∉ piece) →
      Text.isBlankText (Text.join [c] pieces) = false →
        ∃ joined, join (.array (pieces.map .text)) [[c]] = .ok joined ∧
          slice joined [[c]] = .ok (.array (pieces.map .text)) := by
  constructor
  · intro separator t hs
    have hsliced := Text.sliced_splitOnText hs t
    refine ⟨_, hsliced, fun others h => ((Text.sliced_iff hs).mp h).symm, fun ht htrim => ⟨?_, ?_⟩⟩
    · exact slice_of_trimmed hs ht hsliced htrim
    · rw [join_texts, hsliced.join_eq]
  · intro c pieces hne hpieces hjoined
    have hsliced := Text.sliced_join hne fun piece hm => (hpieces piece hm).2
    exact ⟨_, join_texts [c] pieces, slice_of_trimmed (List.cons_ne_nil c []) hjoined hsliced
      fun piece hm => (hpieces piece hm).1⟩

/-- A separator that overlaps itself is taken where it comes first, and empty pieces are kept. -/
theorem sliced_then_joined_overlapping :
    let t : Text := "a---b--"
    let sliced : List Text := ["a", "-b", ""]
    let pieces : List Text := ["", "b c", ""]
    (("--" : Text) ≠ [] ∧ Text.isBlankText t = false ∧
      (∀ piece ∈ sliced, Text.trim piece = piece) ∧
      slice (.text t) [("--" : Text)] = .ok (.array (sliced.map .text)) ∧
      join (.array (sliced.map .text)) [("--" : Text)] = .ok (.text t)) ∧
    pieces ≠ [] ∧ (∀ piece ∈ pieces, Text.trim piece = piece ∧ ',' ∉ piece) ∧
      Text.isBlankText (Text.join [','] pieces) = false ∧
      ∃ joined, join (.array (pieces.map .text)) [[',']] = .ok joined ∧
        slice joined [[',']] = .ok (.array (pieces.map .text)) := by
  intro t sliced pieces
  have hseparator : ("--" : Text) ≠ [] := by decide
  have ht : Text.isBlankText t = false := by decide
  have htrim : ∀ piece ∈ sliced, Text.trim piece = piece := by decide
  have hsliced : Text.Sliced "--" t sliced :=
    (Text.sliced_iff hseparator).mpr (by decide +kernel)
  have hne : pieces ≠ [] := by decide
  have hpieces : ∀ piece ∈ pieces, Text.trim piece = piece ∧ ',' ∉ piece := by decide
  have hjoined : Text.isBlankText (Text.join [','] pieces) = false := by decide
  obtain ⟨hslice, hjoin⟩ := sliced_then_joined
  obtain ⟨found, -, hunique, hundo⟩ := hslice "--" t hseparator
  obtain rfl := hunique sliced hsliced
  exact ⟨⟨hseparator, ht, htrim, hundo ht htrim⟩, hne, hpieces, hjoined,
    hjoin ',' pieces hne hpieces hjoined⟩

end Filter
end Stencil
