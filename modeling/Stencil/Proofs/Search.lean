import Stencil.Markup.Balance
/-!
# Searching in a longer text

What a search finds lies in a stretch of the text, and no more than this stretch decides what it
finds. So a text may be cut behind it, and what follows it may be anything.
-/
namespace Stencil
namespace Text

variable {pattern t : Text}

theorem isPrefixOf_append (h : pattern.isPrefixOf t = true) (tail : Text) :
    pattern.isPrefixOf (t ++ tail) = true :=
  List.isPrefixOf_iff_prefix.mpr ((List.isPrefixOf_iff_prefix.mp h).trans (List.prefix_append _ _))

theorem isPrefixOf_append_of_le (h : pattern.length ≤ t.length) (tail : Text) :
    pattern.isPrefixOf (t ++ tail) = pattern.isPrefixOf t := by
  rw [Bool.eq_iff_iff, List.isPrefixOf_iff_prefix, List.isPrefixOf_iff_prefix]
  constructor
  · intro hp
    exact List.prefix_of_prefix_length_le hp (List.prefix_append _ _) h
  · intro hp
    exact hp.trans (List.prefix_append _ _)

theorem isPrefixOf_append_cons {c : Char} (hc : c ∉ pattern) (t tail : Text) :
    pattern.isPrefixOf (t ++ c :: tail) = pattern.isPrefixOf t := by
  induction pattern generalizing t with
  | nil => cases t <;> rfl
  | cons d pattern ih =>
    have hcd : (d == c) = false := by
      rw [beq_eq_false_iff_ne]
      intro he
      exact hc (he ▸ List.mem_cons_self)
    cases t with
    | nil => simp [List.isPrefixOf, hcd]
    | cons e t =>
      have ht : c ∉ pattern := fun hm => hc (List.mem_cons_of_mem d hm)
      simp only [List.cons_append, List.isPrefixOf, ih ht]

theorem breakOn?_isSome (pattern before after : Text) :
    (breakOn? pattern (before ++ pattern ++ after)).isSome = true := by
  induction before with
  | nil =>
    cases pattern with
    | nil => cases after <;> simp [breakOn?]
    | cons c pattern => simp [breakOn?]
  | cons c before ih =>
    simp only [List.cons_append, breakOn?]
    split
    · rfl
    · simpa using ih

theorem breakOn?_eq_none_iff : breakOn? pattern t = none ↔ ¬ pattern <:+: t := by
  constructor
  · rintro h ⟨before, after, rfl⟩
    have hsome := breakOn?_isSome pattern before after
    rw [h] at hsome
    cases hsome
  · intro h
    cases hb : breakOn? pattern t with
    | none => rfl
    | some found => exact absurd ⟨found.1, found.2, (eq_append_of_breakOn? hb).symm⟩ h

theorem contains_iff_infix : contains pattern t = true ↔ pattern <:+: t := by
  rw [contains, Option.isSome_iff_ne_none, Ne, breakOn?_eq_none_iff, Classical.not_not]

private theorem breakOn?_append {before after : Text}
    (h : breakOn? pattern t = some (before, after))
    (tail : Text) : breakOn? pattern (t ++ tail) = some (before, after ++ tail) := by
  induction t generalizing before with
  | nil =>
    obtain rfl : pattern = [] := by
      have ht := eq_append_of_breakOn? h
      simp_all
    cases tail <;> simp_all [breakOn?]
  | cons c t ih =>
    have hl := congrArg List.length (eq_append_of_breakOn? h)
    have hle : pattern.length ≤ (c :: t).length := by
      simp only [List.length_append] at hl
      omega
    have hp := isPrefixOf_append_of_le hle tail
    simp only [List.cons_append] at hp
    simp only [List.cons_append, breakOn?, hp] at h ⊢
    split at h
    · next hc =>
      cases h
      rw [if_pos hc, ← List.cons_append, List.drop_append_of_le_length hle]
    · next hc =>
      obtain ⟨⟨x, y⟩, hxy, he⟩ := Option.map_eq_some_iff.mp h
      cases he
      rw [if_neg hc, ih hxy]
      rfl

private theorem breakOn?_cut {before after tail : Text}
    (h : breakOn? pattern (t ++ tail) = some (before, after ++ tail)) :
    breakOn? pattern t = some (before, after) := by
  have ht := eq_append_of_breakOn? h
  rw [← List.append_assoc] at ht
  rw [List.append_cancel_right ht] at h ⊢
  cases hb : breakOn? pattern (before ++ pattern ++ after) with
  | none => exact absurd ⟨before, after, rfl⟩ (breakOn?_eq_none_iff.mp hb)
  | some found =>
    have he := (breakOn?_append hb tail).symm.trans h
    simp only [Option.some.injEq, Prod.mk.injEq] at he ⊢
    exact Prod.ext he.1 (List.append_cancel_right he.2)

theorem breakOn?_replace {before after : Text} (h : breakOn? pattern t = some (before, after))
    (other : Text) : breakOn? pattern (before ++ pattern ++ other) = some (before, other) := by
  rw [eq_append_of_breakOn? h] at h
  have hc : breakOn? pattern (before ++ pattern) = some (before, []) := breakOn?_cut h
  exact breakOn?_append hc other

/-- No occurrence of the pattern begins in front of `rest`. -/
def Passes (pattern plain rest : Text) : Prop :=
  breakOn? pattern (plain ++ rest) =
    (breakOn? pattern rest).map fun found => (plain ++ found.1, found.2)

theorem passes_nil (pattern rest : Text) : Passes pattern [] rest := by
  simp [Passes]

theorem passes_cons {c : Char} {plain rest : Text}
    (hc : pattern.isPrefixOf (c :: (plain ++ rest)) = false) (h : Passes pattern plain rest) :
    Passes pattern (c :: plain) rest := by
  have hn : ¬ pattern.isPrefixOf (c :: (plain ++ rest)) = true := by simp [hc]
  simp only [Passes] at h ⊢
  rw [List.cons_append, breakOn?, if_neg hn, h, Option.map_map]
  rfl

theorem Passes.append {first second rest : Text} (h : Passes pattern first (second ++ rest))
    (h' : Passes pattern second rest) : Passes pattern (first ++ second) rest := by
  simp only [Passes, List.append_assoc] at h h' ⊢
  rw [h, h', Option.map_map]
  congr 1

theorem passes_of_notMem {c : Char} {pattern plain : Text} (h : c ∉ plain) (rest : Text) :
    Passes (c :: pattern) plain rest := by
  induction plain with
  | nil => exact passes_nil _ rest
  | cons d plain ih =>
    have hd : (c == d) = false := by
      rw [beq_eq_false_iff_ne]
      intro he
      exact h (he ▸ List.mem_cons_self)
    refine passes_cons ?_ (ih fun hm => h (List.mem_cons_of_mem _ hm))
    simp only [List.isPrefixOf, hd, Bool.false_and]

theorem breakOn?_of_notMem {c : Char} {pattern front : Text} (h : c ∉ front) (rest : Text) :
    breakOn? (c :: pattern) (front ++ c :: pattern ++ rest) = some (front, rest) := by
  have hp : Passes (c :: pattern) front (c :: pattern ++ rest) := passes_of_notMem h _
  rw [List.append_assoc, hp]
  simp [breakOn?]

theorem not_isPrefixOf_of_contains {c : Char} {pattern t back : Text} (hc : c ∉ pattern)
    (h : contains (c :: pattern) t = false) (hne : back ≠ []) (hback : back <:+ t) (tail : Text) :
    (c :: pattern).isPrefixOf (back ++ c :: tail) = false := by
  obtain ⟨front, rfl⟩ := hback
  obtain ⟨d, back, rfl⟩ := List.exists_cons_of_ne_nil hne
  have hshort : (c :: pattern).isPrefixOf (d :: back ++ c :: tail) =
      (c :: pattern).isPrefixOf (d :: back) := by
    simp only [List.cons_append, List.isPrefixOf, isPrefixOf_append_cons hc]
  rw [hshort, Bool.eq_false_iff]
  intro hp
  rw [Bool.eq_false_iff, Ne, contains_iff_infix] at h
  have hstart : c :: pattern <+: d :: back := List.isPrefixOf_iff_prefix.mp hp
  exact h (hstart.isInfix.trans (List.suffix_append front _).isInfix)

theorem passes_of_contains {c : Char} {pattern t : Text} (hc : c ∉ pattern)
    (h : contains (c :: pattern) t = false) (tail : Text) :
    Passes (c :: pattern) t (c :: tail) := by
  suffices hs : ∀ back, back <:+ t → Passes (c :: pattern) back (c :: tail) from
    hs t (List.suffix_refl t)
  intro back hback
  induction back with
  | nil => exact passes_nil _ _
  | cons d back ih =>
    exact passes_cons (not_isPrefixOf_of_contains hc h (List.cons_ne_nil d back) hback tail)
      (ih ((List.suffix_cons d back).trans hback))

theorem not_isPrefixOf_of_breakOn? {before after back : Text}
    (h : breakOn? pattern t = some (before, after)) (hne : back ≠ []) (hback : back <:+ before) :
    pattern.isPrefixOf (back ++ pattern ++ after) = false := by
  induction t generalizing before with
  | nil =>
    simp only [breakOn?] at h
    split at h
    · cases h
      exact absurd (List.suffix_nil.mp hback) hne
    · cases h
  | cons c t ih =>
    have ht := eq_append_of_breakOn? h
    simp only [breakOn?] at h
    split at h
    · cases h
      exact absurd (List.suffix_nil.mp hback) hne
    · next hc =>
      obtain ⟨⟨x, y⟩, hxy, he⟩ := Option.map_eq_some_iff.mp h
      cases he
      rcases List.suffix_cons_iff.mp hback with rfl | hback
      · rw [← ht]
        exact Bool.eq_false_iff.mpr hc
      · exact ih hxy hback

theorem not_isPrefixOf_of_breakOn?_eq_none {back : Text} (h : breakOn? pattern t = none)
    (hback : back <:+ t) : pattern.isPrefixOf back = false := by
  rw [Bool.eq_false_iff, Ne, List.isPrefixOf_iff_prefix]
  intro hp
  exact breakOn?_eq_none_iff.mp h (hp.isInfix.trans hback.isInfix)

theorem breakOn?_suffix {before after back : Text}
    (h : breakOn? pattern t = some (before, after)) (hback : back <:+ before) :
    breakOn? pattern (back ++ pattern ++ after) = some (back, after) := by
  obtain ⟨front, rfl⟩ := hback
  rw [eq_append_of_breakOn? h] at h
  induction front with
  | nil => exact h
  | cons c front ih =>
    simp only [List.cons_append, breakOn?] at h
    split at h
    · cases h
    · obtain ⟨⟨x, y⟩, hxy, he⟩ := Option.map_eq_some_iff.mp h
      cases he
      exact ih hxy

theorem passes_of_breakOn? {plain rest tail after : Text}
    (h : breakOn? pattern (plain ++ rest ++ tail) = some (plain, after)) :
    Passes pattern plain rest := by
  induction plain with
  | nil => exact passes_nil pattern rest
  | cons c plain ih =>
    simp only [List.cons_append, breakOn?] at h
    split at h
    · cases h
    · next hc =>
      obtain ⟨⟨x, y⟩, hxy, he⟩ := Option.map_eq_some_iff.mp h
      simp only [Prod.mk.injEq, List.cons.injEq, true_and] at he
      obtain ⟨rfl, rfl⟩ := he
      refine passes_cons ?_ (ih hxy)
      cases hp : pattern.isPrefixOf (c :: (x ++ rest)) with
      | false => rfl
      | true => exact absurd (isPrefixOf_append hp tail) hc

end Text

namespace Balance

variable {opening close : Text}

private theorem map_after_eq_some {found : Option (Text × Text)} {c : Char} {body rest : Text} :
    found.map (after c) = some (body, rest) ↔
      ∃ inner, body = c :: inner ∧ found = some (inner, rest) := by
  constructor
  · intro h
    obtain ⟨⟨x, y⟩, hxy, he⟩ := Option.map_eq_some_iff.mp h
    cases he
    exact ⟨x, rfl, hxy⟩
  · rintro ⟨inner, rfl, rfl⟩
    rfl

private theorem opensHere_append (opening : Text) {t before after : Text}
    (h : Text.breakOn? close t = some (before, after)) (tail : Text) :
    opensHere opening close (t ++ tail) = opensHere opening close t := by
  simp only [opensHere, h, Text.breakOn?_append h, Option.all_some]
  by_cases hl : opening.length ≤ before.length
  · have ht := congrArg List.length (Text.eq_append_of_breakOn? h)
    simp only [List.length_append] at ht
    rw [Text.isPrefixOf_append_of_le (by omega)]
  · simp [hl]

private theorem closing_append_here {depth : Nat} {c : Char} {t body rest tail : Text}
    (ht : c :: t = body ++ close ++ rest)
    (hstep : ∀ skip depth,
      (closing opening close skip depth (t ++ tail)).map (after c) = some (body, rest ++ tail) ↔
        (closing opening close skip depth t).map (after c) = some (body, rest)) :
    closing opening close 0 depth (c :: t ++ tail) = some (body, rest ++ tail) ↔
      closing opening close 0 depth (c :: t) = some (body, rest) := by
  have hle : close.length ≤ (c :: t).length := by
    rw [ht]
    simp only [List.length_append]
    omega
  obtain ⟨⟨x, y⟩, hb⟩ := Option.isSome_iff_exists.mp (ht ▸ Text.breakOn?_isSome close body rest)
  have hp := Text.isPrefixOf_append_of_le hle tail
  have ho := opensHere_append opening hb tail
  simp only [List.cons_append] at hp ho ⊢
  simp only [closing, hp, ho]
  split
  · cases depth with
    | zero =>
      rw [← List.cons_append, List.drop_append_of_le_length hle]
      simp only [Option.some.injEq, Prod.mk.injEq, List.append_cancel_right_eq]
    | succ depth => exact hstep _ _
  · split
    · exact hstep _ _
    · exact hstep _ _

private theorem closing_append (hclose : close ≠ []) {skip depth : Nat} {t body rest : Text}
    (tail : Text) :
    closing opening close skip depth (t ++ tail) = some (body, rest ++ tail) ↔
      closing opening close skip depth t = some (body, rest) := by
  induction t generalizing skip depth body with
  | nil =>
    constructor
    · intro h
      have ht := congrArg List.length (eq_append_of_closing h)
      have hpos := List.length_pos_iff.mpr hclose
      simp only [List.nil_append, List.length_append] at ht
      omega
    · intro h
      simp [closing] at h
  | cons c t ih =>
    have hstep (skip depth : Nat) :
        (closing opening close skip depth (t ++ tail)).map (after c) = some (body, rest ++ tail) ↔
          (closing opening close skip depth t).map (after c) = some (body, rest) := by
      rw [map_after_eq_some, map_after_eq_some]
      simp only [ih]
    cases skip with
    | succ skip => exact hstep _ _
    | zero =>
      -- Either side says where the marker stands, so what comes before it is the same on both.
      constructor
      · intro h
        have ht := eq_append_of_closing h
        rw [← List.append_assoc] at ht
        exact (closing_append_here (List.append_cancel_right ht) hstep).mp h
      · intro h
        exact (closing_append_here (eq_append_of_closing h) hstep).mpr h

theorem closing_replace (hclose : close ≠ []) {skip depth : Nat} {t body rest : Text}
    (h : closing opening close skip depth t = some (body, rest)) (other : Text) :
    closing opening close skip depth (body ++ close ++ other) = some (body, other) := by
  rw [eq_append_of_closing h] at h
  have hc : closing opening close skip depth (body ++ close) = some (body, []) :=
    (closing_append hclose rest).mp h
  exact (closing_append hclose other).mpr hc

theorem closing_eq_none_of_append (hclose : close ≠ []) {skip depth : Nat} {t tail : Text}
    (h : closing opening close skip depth (t ++ tail) = none) :
    closing opening close skip depth t = none := by
  cases ht : closing opening close skip depth t with
  | none => rfl
  | some found =>
    have hf := (closing_append hclose tail).mpr ht
    rw [h] at hf
    cases hf

end Balance
end Stencil
