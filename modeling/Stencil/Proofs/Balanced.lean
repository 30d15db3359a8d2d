import Stencil.Proofs.MarkerRanges
import Stencil.Proofs.Occurrences
import Stencil.Proofs.Spelling
/-!
# The balancing marker

Markers that meet nowhere are counted one by one, so a search that steps from marker to marker
stands at every cut of the text with as many blocks open as opening markers outnumber closing ones.
What it finds is the first closing marker in front of which both are equally many.
-/
namespace Stencil.Balance

/-- Markers that meet nowhere: none contains another, and no proper end of one begins one. -/
structure Apart (markers : List Text) : Prop where
  nodup : markers.Nodup
  ne_nil : ∀ m ∈ markers, m ≠ []
  not_infix : ∀ m ∈ markers, ∀ n ∈ markers, m ≠ n → ¬ m <:+: n
  not_overlap : ∀ m ∈ markers, ∀ n ∈ markers, ∀ back, back <:+ m → back ≠ [] → back ≠ m →
    ¬ back <+: n

namespace Apart

variable {markers : List Text} (h : Apart markers) {m n : Text} (hm : m ∈ markers)
  (hn : n ∈ markers)

include h hm hn

theorem not_both (hne : n ≠ m) (rest : Text) : n.isPrefixOf (m ++ rest) = false := by
  rw [Bool.eq_false_iff]
  intro hp
  rcases List.prefix_or_prefix_of_prefix (List.isPrefixOf_iff_prefix.mp hp)
    (List.prefix_append m rest) with hp | hp
  · exact h.not_infix n hn m hm hne hp.isInfix
  · exact h.not_infix m hm n hn hne.symm hp.isInfix

theorem not_within {back : Text} (hback : back <:+ m) (hne : back ≠ []) (hproper : back ≠ m)
    (rest : Text) : n.isPrefixOf (back ++ rest) = false := by
  rw [Bool.eq_false_iff]
  intro hp
  rcases List.prefix_or_prefix_of_prefix (List.isPrefixOf_iff_prefix.mp hp)
    (List.prefix_append back rest) with hp | hp
  · by_cases he : n = m
    · subst he
      exact hproper (hback.eq_of_length (Nat.le_antisymm hback.length_le hp.length_le))
    · exact h.not_infix n hn m hm he (hp.isInfix.trans hback.isInfix)
  · exact h.not_overlap m hm n hn back hback hne hproper hp

theorem begins_marker (rest : Text) : Text.begins n m rest = if n = m then 1 else 0 := by
  obtain ⟨c, s, hcs⟩ := List.exists_cons_of_ne_nil (h.ne_nil m hm)
  have hs : s <:+ m := hcs ▸ List.suffix_cons c s
  have hinside : Text.begins n s rest = 0 := by
    refine Text.begins_eq_zero fun back hb hback => ?_
    refine h.not_within hm hn (hback.trans hs) hb (fun he => ?_) rest
    have hl := hback.length_le
    rw [he, hcs, List.length_cons] at hl
    omega
  have hhead : n.isPrefixOf (c :: (s ++ rest)) = decide (n = m) := by
    rw [← List.cons_append, ← hcs]
    by_cases he : n = m
    · rw [he, List.isPrefixOf_iff_prefix.mpr (List.prefix_append m rest), decide_eq_true rfl]
    · rw [h.not_both hm hn he, decide_eq_false he]
  rw [hcs, Text.begins, hinside, hhead, ← hcs, Nat.add_zero]
  simp only [decide_eq_true_eq]

private theorem cut_behind {rest before after : Text} (ht : m ++ rest = before ++ n ++ after) :
    before = [] ∧ n = m ∨ ∃ inner, before = m ++ inner ∧ rest = inner ++ n ++ after := by
  rw [List.append_assoc] at ht
  rcases List.append_eq_append_iff.mp ht with ⟨inner, hb, hr⟩ | ⟨back, hback, hr⟩
  · exact .inr ⟨inner, hb, by rw [hr, List.append_assoc]⟩
  have hp : n.isPrefixOf (back ++ rest) = true := List.isPrefixOf_iff_prefix.mpr ⟨after, hr⟩
  by_cases he : back = []
  · subst he
    rw [List.append_nil] at hback
    exact .inr ⟨[], by rw [hback, List.append_nil], hr.symm⟩
  by_cases hproper : back = m
  · subst hproper
    refine .inl ⟨List.append_left_eq_self.mp hback.symm, ?_⟩
    by_cases hnm : n = back
    · exact hnm
    · rw [h.not_both hm hn hnm] at hp
      cases hp
  · rw [h.not_within hm hn ⟨before, hback.symm⟩ he hproper] at hp
    cases hp

theorem isPrefixOf_before {s : Text} (hs : s ≠ []) (rest : Text) :
    n.isPrefixOf (s ++ (m ++ rest)) = n.isPrefixOf s := by
  rw [Bool.eq_iff_iff]
  refine ⟨fun hp => ?_, fun hp => Text.isPrefixOf_append hp _⟩
  rw [List.isPrefixOf_iff_prefix] at hp ⊢
  rcases List.prefix_or_prefix_of_prefix hp (List.prefix_append s _) with hp' | ⟨back, rfl⟩
  · exact hp'
  by_cases hb : back = []
  · simp [hb]
  have hsuffix : back <:+ s ++ back := List.suffix_append s back
  have hpos := List.length_pos_iff.mpr hs
  rw [List.prefix_append_right_inj] at hp
  rcases List.prefix_or_prefix_of_prefix hp (List.prefix_append m rest) with hover | hin
  · refine absurd hover (h.not_overlap _ hn m hm back hsuffix hb fun he => ?_)
    have hl := congrArg List.length he
    rw [List.length_append] at hl
    omega
  · refine absurd (hin.isInfix.trans hsuffix.isInfix) (h.not_infix m hm _ hn fun he => ?_)
    have hl := hin.length_le
    rw [he, List.length_append] at hl
    omega

omit hm hn

theorem induction {P : Text → Prop} (nil : P [])
    (marker : ∀ n ∈ markers, ∀ rest, P rest → P (n ++ rest))
    (char : ∀ c rest, (∀ n ∈ markers, n.isPrefixOf (c :: rest) = false) → P rest → P (c :: rest))
    (t : Text) : P t := by
  induction hl : t.length using Nat.strongRecOn generalizing t with
  | ind l ih =>
    subst hl
    cases t with
    | nil => exact nil
    | cons c rest =>
      by_cases hp : ∃ n ∈ markers, n.isPrefixOf (c :: rest) = true
      · obtain ⟨n, hn, hp⟩ := hp
        obtain ⟨behind, ht⟩ := List.isPrefixOf_iff_prefix.mp hp
        have hpos := List.length_pos_iff.mpr (h.ne_nil n hn)
        rw [← ht]
        refine marker n hn behind (ih _ ?_ behind rfl)
        rw [← ht, List.length_append]
        omega
      · refine char c rest (fun n hn => ?_) (ih _ (Nat.lt_succ_self _) rest rfl)
        rw [Bool.eq_false_iff]
        exact fun hpn => hp ⟨n, hn, hpn⟩

end Apart

/-! ### Cuts -/

/-- A cut at `marker` in front of which as many blocks are closed as are opened or were open. -/
structure LevelCut (opening close marker : Text) (depth : Nat) (t before after : Text) : Prop where
  eq_append : t = before ++ marker ++ after
  level : depth + Text.begins opening before (marker ++ after) =
    Text.begins close before (marker ++ after)

/-- Nothing is found unless there is such a cut, and then the first one is. -/
def FindsFirst (isCut : Text → Text → Prop) : Option (Text × Text) → Prop
  | none => ∀ before after, ¬ isCut before after
  | some found => isCut found.1 found.2 ∧
      ∀ before after, isCut before after → found.1.length ≤ before.length

theorem FindsFirst.prepend {inside isCut : Text → Text → Prop} {found : Option (Text × Text)}
    {s : Text} (h : FindsFirst inside found)
    (hs : ∀ before after, isCut before after ↔ ∃ inner, before = s ++ inner ∧ inside inner after) :
    FindsFirst isCut (found.map (prepend s)) := by
  cases found with
  | none =>
    intro before after hc
    obtain ⟨inner, -, hi⟩ := (hs before after).mp hc
    exact h inner after hi
  | some found =>
    refine ⟨(hs _ _).mpr ⟨found.1, rfl, h.1⟩, fun before after hc => ?_⟩
    obtain ⟨inner, rfl, hi⟩ := (hs before after).mp hc
    have hle := h.2 inner after hi
    simp only [Balance.prepend, List.length_append]
    omega

section Steps

variable {markers : List Text} (h : Apart markers) {opening close marker n : Text}
  (ho : opening ∈ markers) (hc : close ∈ markers) (hm : marker ∈ markers) (hn : n ∈ markers)
  {depth inside : Nat} {rest before after : Text}

include h ho hc hm

theorem levelCut_marker (hn : n ∈ markers)
    (hd : depth + (if opening = n then 1 else 0) = inside + (if close = n then 1 else 0))
    (hne : n = marker → depth ≠ 0) :
    LevelCut opening close marker depth (n ++ rest) before after ↔
      ∃ inner, before = n ++ inner ∧ LevelCut opening close marker inside rest inner after := by
  constructor
  · rintro ⟨ht, hl⟩
    rcases h.cut_behind hn hm ht with ⟨rfl, rfl⟩ | ⟨inner, rfl, hr⟩
    · simp only [Text.begins] at hl
      exact absurd hl (hne rfl)
    · refine ⟨inner, rfl, hr, ?_⟩
      rw [Text.begins_append, Text.begins_append, h.begins_marker hn ho,
        h.begins_marker hn hc] at hl
      omega
  · rintro ⟨inner, rfl, rfl, hl⟩
    refine ⟨by simp only [List.append_assoc], ?_⟩
    rw [Text.begins_append, Text.begins_append, h.begins_marker hn ho, h.begins_marker hn hc]
    omega

omit h in
theorem levelCut_char {c : Char} (hno : ∀ n ∈ markers, n.isPrefixOf (c :: rest) = false) :
    LevelCut opening close marker depth (c :: rest) before after ↔
      ∃ inner, before = [c] ++ inner ∧ LevelCut opening close marker depth rest inner after := by
  have hskip (m inner : Text) (hmem : m ∈ markers) (hr : rest = inner ++ marker ++ after) :
      Text.begins m (c :: inner) (marker ++ after) = Text.begins m inner (marker ++ after) := by
    have hp := hno m hmem
    rw [hr, List.append_assoc] at hp
    rw [Text.begins, hp]
    simp
  constructor
  · rintro ⟨ht, hl⟩
    cases before with
    | nil =>
      have hp := hno marker hm
      rw [ht, List.nil_append, List.isPrefixOf_iff_prefix.mpr (List.prefix_append _ _)] at hp
      cases hp
    | cons d inner =>
      obtain ⟨rfl, hr⟩ := List.cons.inj ht
      rw [hskip opening inner ho hr, hskip close inner hc hr] at hl
      exact ⟨inner, rfl, hr, hl⟩
  · rintro ⟨inner, rfl, hr, hl⟩
    refine ⟨by rw [hr]; rfl, ?_⟩
    rw [List.singleton_append, hskip opening inner ho hr, hskip close inner hc hr]
    exact hl

end Steps

/-! ### What the search for a closing marker finds -/

theorem mem_pair (opening close : Text) :
    opening ∈ [opening, close] ∧ close ∈ [opening, close] := by
  simp

section Closing

variable {opening close : Text} (h : Apart [opening, close])

include h

theorem Apart.opening_ne_close : opening ≠ close := by
  intro he
  have hn := h.nodup
  rw [he] at hn
  simp at hn

private theorem opensHere_eq (t : Text) : opensHere opening close t = opening.isPrefixOf t := by
  obtain ⟨ho, hc⟩ := mem_pair opening close
  cases hp : opening.isPrefixOf t with
  | false => rw [opensHere, hp, Bool.false_and]
  | true =>
    rw [opensHere, hp, Bool.true_and]
    cases hb : Text.breakOn? close t with
    | none => rfl
    | some found =>
      obtain ⟨behind, rfl⟩ := List.isPrefixOf_iff_prefix.mp hp
      rcases h.cut_behind ho hc (Text.eq_append_of_breakOn? hb) with ⟨-, he⟩ | ⟨inner, hi, -⟩
      · exact absurd he.symm h.opening_ne_close
      · simp [hi]

theorem closingVerdict_opening (depth : Nat) (rest : Text) :
    closingVerdict opening close depth (opening ++ rest) =
      .stepOver opening.length (depth + 1) := by
  obtain ⟨ho, hc⟩ := mem_pair opening close
  have hp : opening.isPrefixOf (opening ++ rest) = true :=
    List.isPrefixOf_iff_prefix.mpr (List.prefix_append _ _)
  simp only [closingVerdict, h.not_both ho hc h.opening_ne_close.symm, opensHere_eq h, hp,
    Bool.false_eq_true, if_false, if_true]

theorem closingVerdict_char {t : Text} (hno : ∀ n ∈ [opening, close], n.isPrefixOf t = false)
    (depth : Nat) : closingVerdict opening close depth t = .stepOver 1 depth := by
  obtain ⟨ho, hc⟩ := mem_pair opening close
  simp only [closingVerdict, hno close hc, opensHere_eq h, hno opening ho, Bool.false_eq_true,
    if_false]

omit h in
theorem closingVerdict_close (opening close : Text) (depth : Nat) (rest : Text) :
    closingVerdict opening close depth (close ++ rest) =
      match depth with
      | 0 => .found close.length
      | depth + 1 => .stepOver close.length depth := by
  have hp : close.isPrefixOf (close ++ rest) = true :=
    List.isPrefixOf_iff_prefix.mpr (List.prefix_append _ _)
  cases depth with
  | zero => rw [closingVerdict, if_pos hp]
  | succ depth => rw [closingVerdict, if_pos hp]

theorem closing_opening (depth : Nat) (rest : Text) :
    closing opening close 0 depth (opening ++ rest) =
      (closing opening close 0 (depth + 1) rest).map (prepend opening) := by
  have hne := h.ne_nil opening (mem_pair opening close).1
  rw [closing_eq_walk, closing_eq_walk,
    walk_stepOver hne (closingVerdict_opening h depth rest)]

theorem closing_close_zero (rest : Text) :
    closing opening close 0 0 (close ++ rest) = some ([], rest) := by
  have hne := h.ne_nil close (mem_pair opening close).2
  rw [closing_eq_walk, walk_found hne (closingVerdict_close opening close 0 rest)]

theorem closing_close_succ (depth : Nat) (rest : Text) :
    closing opening close 0 (depth + 1) (close ++ rest) =
      (closing opening close 0 depth rest).map (prepend close) := by
  have hne := h.ne_nil close (mem_pair opening close).2
  rw [closing_eq_walk, closing_eq_walk,
    walk_stepOver hne (closingVerdict_close opening close (depth + 1) rest)]

theorem closing_char {c : Char} {rest : Text}
    (hno : ∀ n ∈ [opening, close], n.isPrefixOf (c :: rest) = false) (depth : Nat) :
    closing opening close 0 depth (c :: rest) =
      (closing opening close 0 depth rest).map (prepend [c]) := by
  rw [closing_eq_walk, closing_eq_walk, ← List.singleton_append,
    walk_stepOver (List.cons_ne_nil c []) (closingVerdict_char h hno depth)]

/-- The search finds the first closing marker that balances the open blocks. -/
theorem closing_findsFirst (depth : Nat) (t : Text) :
    FindsFirst (LevelCut opening close close depth t) (closing opening close 0 depth t) := by
  obtain ⟨ho, hc⟩ := mem_pair opening close
  have hne := h.opening_ne_close
  induction t using h.induction generalizing depth with
  | nil =>
    rintro before after ⟨ht, -⟩
    exact h.ne_nil close hc (by simp_all)
  | marker n hn rest ih =>
    obtain rfl | rfl : n = opening ∨ n = close := by simpa using hn
    · rw [closing_opening h]
      exact (ih (depth + 1)).prepend fun before after =>
        levelCut_marker h ho hc hc ho (by simp [hne.symm]) fun he => absurd he hne
    · cases depth with
      | zero =>
        rw [closing_close_zero h]
        exact ⟨⟨rfl, rfl⟩, fun _ _ _ => Nat.zero_le _⟩
      | succ depth =>
        rw [closing_close_succ h]
        exact (ih depth).prepend fun before after =>
          levelCut_marker h ho hc hc hc (by simp [hne]) fun _ => Nat.succ_ne_zero depth
  | char c rest hno ih =>
    rw [closing_char h hno]
    exact (ih depth).prepend fun before after => levelCut_char ho hc hc hno

end Closing

/-! ### Offsets -/

/-- The marker stands at the offset, and from `position` up to it opening and closing markers start
equally often. -/
structure LevelAt (t opening close marker : Text) (position offset : Nat) : Prop where
  position_le : position ≤ offset
  startsAt : Text.startsAt marker t offset = true
  occurrences_eq : Text.occurrences opening t position offset =
    Text.occurrences close t position offset

/-- The span of the marker at the first such offset. -/
structure FirstLevel (t opening close marker : Text) (position : Nat) (span : Span) : Prop where
  levelAt : LevelAt t opening close marker position span.start
  stop_eq : span.stop = span.start + Text.bytes marker
  start_le : ∀ offset, LevelAt t opening close marker position offset → span.start ≤ offset

section Offsets

variable {opening close marker : Text} (front rest : Text)

private theorem levelAt_iff {offset : Nat} :
    LevelAt (front ++ rest) opening close marker (Text.bytes front) offset ↔
      ∃ before after, LevelCut opening close marker 0 rest before after ∧
        Text.bytes (front ++ before) = offset := by
  constructor
  · rintro ⟨hle, hs, he⟩
    obtain ⟨upTo, after, ht, rfl⟩ := Text.startsAt_iff.mp hs
    rw [List.append_assoc] at ht
    obtain ⟨before, rfl⟩ := Text.prefix_of_bytes_le (List.prefix_append front rest)
      (ht ▸ List.prefix_append upTo (marker ++ after)) hle
    have hr : rest = before ++ (marker ++ after) := by
      rw [List.append_assoc] at ht
      exact List.append_cancel_left ht
    rw [ht, Text.occurrences_eq_begins, Text.occurrences_eq_begins] at he
    exact ⟨before, after, ⟨by rw [hr, List.append_assoc], by rw [Nat.zero_add, he]⟩, rfl⟩
  · rintro ⟨before, after, ⟨rfl, hl⟩, rfl⟩
    have ht : front ++ (before ++ marker ++ after) = front ++ before ++ (marker ++ after) := by
      simp only [List.append_assoc]
    refine ⟨?_, Text.startsAt_iff.mpr ⟨front ++ before, after, ?_, rfl⟩, ?_⟩
    · rw [Text.bytes_append]
      omega
    · simp only [List.append_assoc]
    · rw [ht, Text.occurrences_eq_begins, Text.occurrences_eq_begins, ← hl, Nat.zero_add]

variable {rest} {found : Option (Text × Text)}
  (hf : FindsFirst (LevelCut opening close marker 0 rest) found)

include hf

theorem FindsFirst.firstLevel_iff (span : Span) :
    found.map (spanFrom (Text.bytes front) marker) = some span ↔
      FirstLevel (front ++ rest) opening close marker (Text.bytes front) span := by
  have hfirst {b a : Text} (hfound : found = some (b, a)) :
      FirstLevel (front ++ rest) opening close marker (Text.bytes front)
        (spanFrom (Text.bytes front) marker (b, a)) := by
    rw [hfound] at hf
    obtain ⟨hcut, hmin⟩ := hf
    refine ⟨(levelAt_iff front rest).mpr ⟨b, a, hcut, Text.bytes_append front b⟩, rfl, ?_⟩
    intro offset hl
    obtain ⟨before, after, hc, rfl⟩ := (levelAt_iff front rest).mp hl
    have hb : b <+: rest := ⟨marker ++ a, by rw [hcut.eq_append, List.append_assoc]⟩
    have hbefore : before <+: rest := ⟨marker ++ after, by rw [hc.eq_append, List.append_assoc]⟩
    obtain ⟨more, rfl⟩ := List.prefix_of_prefix_length_le hb hbefore (hmin before after hc)
    simp only [spanFrom, Text.bytes_append]
    omega
  constructor
  · intro h
    obtain ⟨⟨b, a⟩, hfound, rfl⟩ := Option.map_eq_some_iff.mp h
    exact hfirst hfound
  · intro h
    cases hfound : found with
    | none =>
      obtain ⟨before, after, hc, -⟩ := (levelAt_iff front rest).mp h.levelAt
      rw [hfound] at hf
      exact absurd hc (hf before after)
    | some cut =>
      have hcut := hfirst hfound
      have hs : (spanFrom (Text.bytes front) marker cut).start = span.start :=
        Nat.le_antisymm (hcut.start_le _ h.levelAt) (h.start_le _ hcut.levelAt)
      obtain ⟨start, stop⟩ := span
      have he : stop = start + Text.bytes marker := h.stop_eq
      simp only [Option.map_some, spanFrom, Option.some.injEq, Span.mk.injEq, he] at hs ⊢
      exact ⟨hs, by rw [hs]⟩

theorem FindsFirst.eq_none_iff :
    found = none ↔
      ∀ offset, ¬ LevelAt (front ++ rest) opening close marker (Text.bytes front) offset := by
  constructor
  · rintro rfl offset hl
    obtain ⟨before, after, hc, -⟩ := (levelAt_iff front rest).mp hl
    exact hf before after hc
  · intro h
    cases found with
    | none => rfl
    | some cut => exact absurd ((levelAt_iff front rest).mpr ⟨cut.1, cut.2, hf.1, rfl⟩) (h _)

end Offsets

/-! ### Markers of the standard delimiters -/

theorem apart_of_head {head : Char} {tails : List Text} (hnodup : tails.Nodup)
    (hhead : ∀ s ∈ tails, head ∉ s) (hp : ∀ s ∈ tails, ∀ r ∈ tails, s ≠ r → ¬ s <+: r) :
    Apart (tails.map (head :: ·)) where
  nodup := List.Pairwise.map _ (fun _ _ hne he => hne (List.cons.inj he).2) hnodup
  ne_nil m hm := by
    obtain ⟨s, -, rfl⟩ := List.mem_map.mp hm
    exact List.cons_ne_nil head s
  not_infix m hm n hn hne := by
    obtain ⟨s, hs, rfl⟩ := List.mem_map.mp hm
    obtain ⟨r, hr, rfl⟩ := List.mem_map.mp hn
    intro hin
    rcases List.infix_cons_iff.mp hin with hpre | hin
    · exact hp s hs r hr (fun he => hne (congrArg _ he)) (List.cons_prefix_cons.mp hpre).2
    · exact hhead r hr (hin.subset List.mem_cons_self)
  not_overlap m hm n hn back hback hne hproper hpre := by
    obtain ⟨s, hs, rfl⟩ := List.mem_map.mp hm
    obtain ⟨r, -, rfl⟩ := List.mem_map.mp hn
    obtain ⟨c, behind, rfl⟩ := List.exists_cons_of_ne_nil hne
    obtain ⟨rfl, -⟩ := List.cons_prefix_cons.mp hpre
    rcases List.suffix_cons_iff.mp hback with he | hback
    · exact hproper he
    · exact hhead s hs (hback.subset List.mem_cons_self)

theorem apart_standard {name : Text} (hspace : ' ' ∉ name) (hbrace : '\x7b' ∉ name) :
    Apart [Delimiters.standard.openMarker name, Delimiters.standard.closeMarker name] := by
  have hend (c : Char) (hc : c ∉ name) (he : c ∉ ("end-" : Text)) :
      c ∉ ("end-" ++ name : Text) := by
    simp only [List.mem_append, not_or]
    exact ⟨he, hc⟩
  have hblanks := Spelling.brace_notMem_blanks hbrace
  have hends := Spelling.brace_notMem_spanTail
    (Spelling.brace_notMem_blanks (hend '\x7b' hbrace (by decide)))
  have hle : (" " ++ name ++ " " : Text).length ≤
      (" " ++ ("end-" ++ name) ++ " " : Text).length := by
    simp only [List.length_append]
    omega
  have hnot : ¬ ('%' :: (" " ++ name ++ " ") : Text) <+:
      Spelling.spanTail (" " ++ ("end-" ++ name) ++ " ") := by
    intro hp
    have hin : (" " ++ name ++ " " : Text) <+: " " ++ ("end-" ++ name) ++ " " :=
      List.prefix_of_prefix_length_le (List.cons_prefix_cons.mp hp).2 (List.prefix_append _ _) hle
    have hself : Spelling.begins (" " ++ ("end-" ++ name) ++ " ") ("end-" ++ name) = true :=
      List.isPrefixOf_iff_prefix.mpr (List.prefix_refl _)
    exact Spelling.ne_end name (Spelling.begins_unique hspace (hend ' ' hspace (by decide))
      (List.isPrefixOf_iff_prefix.mpr hin) hself)
  have hnot' : ¬ Spelling.spanTail (" " ++ ("end-" ++ name) ++ " ") <+:
      ('%' :: (" " ++ name ++ " ") : Text) := by
    intro hp
    have hl := hp.length_le
    rw [Spelling.spanTail_length, List.length_cons] at hl
    omega
  have hmarkers : [Delimiters.standard.openMarker name, Delimiters.standard.closeMarker name] =
      [('%' :: (" " ++ name ++ " ") : Text), Spelling.spanTail (" " ++ ("end-" ++ name) ++ " ")].map
        ('\x7b' :: ·) := by
    rw [Spelling.openMarker_eq_cons, Spelling.closeMarker_standard, Spelling.tag_eq_span,
      Spelling.span_eq_cons]
    rfl
  rw [hmarkers]
  refine apart_of_head ?_ ?_ ?_
  · rw [List.nodup_cons, List.mem_singleton]
    exact ⟨fun he => hnot (he ▸ List.prefix_refl _), List.pairwise_singleton _ _⟩
  · intro s hs
    obtain rfl | rfl : s = _ ∨ s = _ := by simpa using hs
    · rw [List.mem_cons, not_or]
      exact ⟨by decide, hblanks⟩
    · exact hends
  · intro s hs r hr hne
    obtain rfl | rfl : s = _ ∨ s = _ := by simpa using hs
    · obtain rfl | rfl : r = _ ∨ r = _ := by simpa using hr
      · exact absurd rfl hne
      · exact hnot
    · obtain rfl | rfl : r = _ ∨ r = _ := by simpa using hr
      · exact hnot'
      · exact absurd rfl hne

/-- The search for a closing marker finds the one at the first offset up to which as many blocks are
closed as are opened, whatever the markers are as long as they meet nowhere. The loop over offsets
stays in range and finds the same. -/
theorem findClosing?_balances :
    (∀ (t opening close : Text) (position : Nat), Apart [opening, close] →
      Text.IsBoundary t position →
        findClosingInBytes t opening close position = some (findClosing? t opening close position) ∧
        (∀ span, findClosing? t opening close position = some span ↔
          FirstLevel t opening close close position span) ∧
        (findClosing? t opening close position = none ↔
          ∀ offset, ¬ LevelAt t opening close close position offset)) ∧
    ∀ name : Text, (∀ c ∈ name, Text.isBlank c = false ∧ c ≠ '\x7b') →
      Apart [Delimiters.standard.openMarker name, Delimiters.standard.closeMarker name] := by
  refine ⟨fun t opening close position h hp => ?_, fun name hname => apart_standard ?_ ?_⟩
  · obtain ⟨front, ⟨rest, rfl⟩, rfl⟩ := hp
    obtain ⟨ho, hc⟩ := mem_pair opening close
    have hopen := h.ne_nil opening ho
    have hclose := h.ne_nil close hc
    have hfirst := closing_findsFirst h 0 rest
    refine ⟨findClosingInBytes_eq _ _ _ _, ?_⟩
    rw [findClosing?, if_neg (not_or.mpr ⟨hopen, hclose⟩), Text.dropBytes?_append, Option.bind_some]
    exact ⟨hfirst.firstLevel_iff front, by rw [Option.map_eq_none_iff, hfirst.eq_none_iff front]⟩
  · exact fun hm => absurd (hname ' ' hm).1 (by decide)
  · exact fun hm => (hname '\x7b' hm).2 rfl

/-- The closing marker of a block inside is passed over. -/
theorem findClosing?_balances_nested :
    let t : Text :=
      "\x7b% each a in X %\x7d\x7b% each b in Y %\x7dé\x7b% end-each %\x7d\x7b% end-each %\x7d!"
    let opening := Delimiters.standard.openMarker "each"
    let close := Delimiters.standard.closeMarker "each"
    (∀ c ∈ ("each" : Text), Text.isBlank c = false ∧ c ≠ '\x7b') ∧ Apart [opening, close] ∧
      Text.IsBoundary t 17 ∧ findClosing? t opening close 17 = some ⟨50, 64⟩ ∧
      FirstLevel t opening close close 17 ⟨50, 64⟩ := by
  intro t opening close
  have hall : (("each" : Text).all fun c => !Text.isBlank c && c != '\x7b') = true := by decide
  have hname : ∀ c ∈ ("each" : Text), Text.isBlank c = false ∧ c ≠ '\x7b' := fun c hc => by
    simpa using List.all_eq_true.mp hall c hc
  have hapart := findClosing?_balances.2 "each" hname
  have hp : Text.IsBoundary t 17 := ⟨t.take 17, List.take_prefix 17 t, by decide⟩
  have hfound : findClosing? t opening close 17 = some ⟨50, 64⟩ := by decide
  exact ⟨hname, hapart, hp, hfound,
    ((findClosing?_balances.1 t opening close 17 hapart hp).2.1 ⟨50, 64⟩).mp hfound⟩

end Stencil.Balance
