import Stencil.Proofs.Balanced
import Stencil.Tag.Control
/-!
# The parts of a branch

The body of a branch ends at the closing marker that balances it, so inside the body every closing
marker closes a block. The search for an `else` then counts what the search for the end counted, and
the `else` it splits the body at is the first one inside no other branch.
-/
namespace Stencil.Balance

variable {opening close marker t passed rest s : Text} {depth inside : Nat}

private theorem Apart.of_subset {markers others : List Text} (h : Apart markers) (hn : others.Nodup)
    (hs : ∀ m ∈ others, m ∈ markers) : Apart others where
  nodup := hn
  ne_nil m hm := h.ne_nil m (hs m hm)
  not_infix m hm n hn := h.not_infix m (hs m hm) n (hs n hn)
  not_overlap m hm n hn := h.not_overlap m (hs m hm) n (hs n hn)

private theorem map_prepend_eq_some {found : Option (Text × Text)} {body after : Text} :
    found.map (prepend s) = some (body, after) ↔
      ∃ inner, body = s ++ inner ∧ found = some (inner, after) := by
  constructor
  · intro h
    obtain ⟨cut, hcut, he⟩ := Option.map_eq_some_iff.mp h
    cases he
    exact ⟨cut.1, rfl, hcut⟩
  · rintro ⟨inner, rfl, rfl⟩
    rfl

/-! ### Bodies -/

/-- Every closing marker closes a block: however many more blocks were open in front of the text, up
to none of its closing markers are as many closed as were open. -/
def ClosesOpen (opening close : Text) (depth : Nat) (t : Text) : Prop :=
  ∀ more before after, ¬ LevelCut opening close close (depth + more) t before after

section Bodies

variable {markers : List Text} (h : Apart markers) (ho : opening ∈ markers) (hc : close ∈ markers)

include h ho hc

private theorem closesOpen_marker {n : Text} (hn : n ∈ markers)
    (hd : depth + (if opening = n then 1 else 0) = inside + (if close = n then 1 else 0))
    (hne : n = close → depth ≠ 0) :
    ClosesOpen opening close depth (n ++ rest) ↔ ClosesOpen opening close inside rest := by
  have hdm (more : Nat) : depth + more + (if opening = n then 1 else 0) =
      inside + more + (if close = n then 1 else 0) := by omega
  have hnem (more : Nat) (he : n = close) : depth + more ≠ 0 := by
    have := hne he
    omega
  constructor
  · intro hall more before after hcut
    exact hall more (n ++ before) after
      ((levelCut_marker h ho hc hc hn (hdm more) (hnem more)).mpr ⟨before, rfl, hcut⟩)
  · intro hall more before after hcut
    obtain ⟨inner, -, hin⟩ := (levelCut_marker h ho hc hc hn (hdm more) (hnem more)).mp hcut
    exact hall more inner after hin

omit h in
private theorem closesOpen_char {c : Char} (hno : ∀ n ∈ markers, n.isPrefixOf (c :: rest) = false) :
    ClosesOpen opening close depth (c :: rest) ↔ ClosesOpen opening close depth rest := by
  constructor
  · intro hall more before after hcut
    exact hall more ([c] ++ before) after ((levelCut_char ho hc hc hno).mpr ⟨before, rfl, hcut⟩)
  · intro hall more before after hcut
    obtain ⟨inner, -, hin⟩ := (levelCut_char ho hc hc hno).mp hcut
    exact hall more inner after hin

end Bodies

private theorem ClosesOpen.ne_zero (h : ClosesOpen opening close depth (close ++ rest)) :
    depth ≠ 0 := by
  rintro rfl
  exact h 0 [] rest ⟨rfl, rfl⟩

private theorem closesOpen_of_closing (h : Apart [opening, close]) {body after : Text}
    (hf : closing opening close 0 depth t = some (body, after)) :
    ClosesOpen opening close depth body := by
  obtain ⟨ho, hc⟩ := mem_pair opening close
  have hne := h.opening_ne_close
  induction t using h.induction generalizing depth body with
  | nil => cases hf
  | marker n hn rest ih =>
    obtain rfl | rfl : n = opening ∨ n = close := by simpa using hn
    · rw [closing_opening h] at hf
      obtain ⟨inner, rfl, hin⟩ := map_prepend_eq_some.mp hf
      exact (closesOpen_marker h ho hc ho (by simp [hne.symm]) fun he => absurd he hne).mpr (ih hin)
    · cases depth with
      | zero =>
        rw [closing_close_zero h] at hf
        cases hf
        rintro more before after ⟨ht, -⟩
        exact h.ne_nil n hc (by simp_all)
      | succ depth =>
        rw [closing_close_succ h] at hf
        obtain ⟨inner, rfl, hin⟩ := map_prepend_eq_some.mp hf
        exact (closesOpen_marker h ho hc hc (by simp [hne]) fun _ => Nat.succ_ne_zero depth).mpr
          (ih hin)
  | char c rest hno ih =>
    rw [closing_char h hno] at hf
    obtain ⟨inner, rfl, hin⟩ := map_prepend_eq_some.mp hf
    refine (closesOpen_char ho hc fun n hn => ?_).mpr (ih hin)
    rw [Bool.eq_false_iff]
    intro hp
    have hlong := Text.isPrefixOf_append hp (close ++ after)
    have hr : [c] ++ inner ++ (close ++ after) = c :: rest := by
      rw [eq_append_of_closing hin]
      simp
    have hno' := hno n hn
    rw [← hr] at hno'
    exact absurd (hno'.symm.trans hlong) Bool.false_ne_true

/-! ### The search for a marker outside every block -/

section TopLevel

variable (h : Apart [opening, close, marker])

omit h in
private theorem mem_markers (opening close marker : Text) :
    opening ∈ [opening, close, marker] ∧ close ∈ [opening, close, marker] ∧
      marker ∈ [opening, close, marker] := by
  simp

include h

private theorem markers_ne : opening ≠ close ∧ opening ≠ marker ∧ close ≠ marker := by
  have hn := h.nodup
  simp only [List.nodup_cons, List.mem_cons, List.not_mem_nil, or_false, not_or] at hn
  exact ⟨hn.1.1, hn.1.2, hn.2.1⟩

private theorem topLevel_opening (depth : Nat) (rest : Text) :
    topLevel opening close marker 0 depth (opening ++ rest) =
      (topLevel opening close marker 0 (depth + 1) rest).map (prepend opening) := by
  have hne := h.ne_nil opening (mem_markers opening close marker).1
  have hp : opening.isPrefixOf (opening ++ rest) = true :=
    List.isPrefixOf_iff_prefix.mpr (List.prefix_append _ _)
  rw [topLevel_eq_walk, topLevel_eq_walk,
    walk_stepOver (b := depth + 1) hne (by rw [topLevelVerdict, if_pos ⟨hne, hp⟩])]

private theorem topLevel_close (depth : Nat) (rest : Text) :
    topLevel opening close marker 0 depth (close ++ rest) =
      (topLevel opening close marker 0 (depth - 1) rest).map (prepend close) := by
  obtain ⟨ho, hc, -⟩ := mem_markers opening close marker
  have hne := h.ne_nil close hc
  have hp : close.isPrefixOf (close ++ rest) = true :=
    List.isPrefixOf_iff_prefix.mpr (List.prefix_append _ _)
  have hv : topLevelVerdict opening close marker depth (close ++ rest) =
      .stepOver close.length (depth - 1) := by
    simp [topLevelVerdict, h.not_both hc ho (markers_ne h).1, hne, hp]
  rw [topLevel_eq_walk, topLevel_eq_walk, walk_stepOver hne hv]

private theorem topLevel_marker (depth : Nat) (rest : Text) :
    topLevel opening close marker 0 depth (marker ++ rest) =
      if depth = 0 then some ([], rest)
      else (topLevel opening close marker 0 depth rest).map (prepend marker) := by
  obtain ⟨ho, hc, hm⟩ := mem_markers opening close marker
  obtain ⟨-, hom, hcm⟩ := markers_ne h
  have hne := h.ne_nil marker hm
  have hp : marker.isPrefixOf (marker ++ rest) = true :=
    List.isPrefixOf_iff_prefix.mpr (List.prefix_append _ _)
  have hv : topLevelVerdict opening close marker depth (marker ++ rest) =
      if depth = 0 then .found marker.length else .stepOver marker.length depth := by
    simp [topLevelVerdict, h.not_both hm ho hom, h.not_both hm hc hcm, hne, hp]
  rw [topLevel_eq_walk, topLevel_eq_walk]
  split
  · next hd => rw [walk_found hne (hv.trans (if_pos hd))]
  · next hd => rw [walk_stepOver hne (hv.trans (if_neg hd))]

omit h in
private theorem topLevel_char {c : Char} {rest : Text}
    (hno : ∀ n ∈ [opening, close, marker], n.isPrefixOf (c :: rest) = false) (depth : Nat) :
    topLevel opening close marker 0 depth (c :: rest) =
      (topLevel opening close marker 0 depth rest).map (prepend [c]) := by
  obtain ⟨ho, hc, hm⟩ := mem_markers opening close marker
  have hv : topLevelVerdict opening close marker depth ([c] ++ rest) =
      .stepOver [c].length depth := by
    simp [topLevelVerdict, hno opening ho, hno close hc, hno marker hm]
  rw [topLevel_eq_walk, topLevel_eq_walk, ← List.singleton_append,
    walk_stepOver (List.cons_ne_nil c []) hv]

/-- In a text in which every closing marker closes a block, the search finds the first marker in
front of which as many blocks are closed as were open. -/
theorem topLevel_findsFirst (hcl : ClosesOpen opening close depth t) :
    FindsFirst (LevelCut opening close marker depth t)
      (topLevel opening close marker 0 depth t) := by
  obtain ⟨ho, hc, hm⟩ := mem_markers opening close marker
  obtain ⟨hoc, hom, hcm⟩ := markers_ne h
  induction t using h.induction generalizing depth with
  | nil =>
    rintro before after ⟨ht, -⟩
    exact h.ne_nil marker hm (by simp_all)
  | marker n hn rest ih =>
    obtain rfl | rfl | rfl : n = opening ∨ n = close ∨ n = marker := by simpa using hn
    · have hd : depth + (if n = n then 1 else 0) = depth + 1 + (if close = n then 1 else 0) := by
        simp [hoc.symm]
      have hin := (closesOpen_marker h ho hc ho hd fun he => absurd he hoc).mp hcl
      rw [topLevel_opening h]
      exact (ih hin).prepend fun before after =>
        levelCut_marker h ho hc hm ho hd fun he => absurd he hom
    · obtain ⟨inside, rfl⟩ := Nat.exists_eq_add_one_of_ne_zero hcl.ne_zero
      have hd : inside + 1 + (if opening = n then 1 else 0) =
          inside + (if n = n then 1 else 0) := by
        simp [hoc]
      have hin := (closesOpen_marker h ho hc hc hd fun _ => Nat.succ_ne_zero inside).mp hcl
      rw [topLevel_close h]
      exact (ih hin).prepend fun before after =>
        levelCut_marker h ho hc hm hc hd fun he => absurd he hcm
    · have hd : depth + (if opening = n then 1 else 0) = depth + (if close = n then 1 else 0) := by
        simp [hom, hcm]
      have hin := (closesOpen_marker h ho hc hm hd fun he => absurd he.symm hcm).mp hcl
      rw [topLevel_marker h]
      split
      · next hz =>
        subst hz
        exact ⟨⟨rfl, rfl⟩, fun _ _ _ => Nat.zero_le _⟩
      · next hz =>
        exact (ih hin).prepend fun before after => levelCut_marker h ho hc hm hm hd fun _ => hz
  | char c rest hno ih =>
    rw [topLevel_char hno]
    exact (ih ((closesOpen_char ho hc hno).mp hcl)).prepend fun before after =>
      levelCut_char ho hc hm hno

/-! ### Where a search stands -/

omit h in
private theorem topLevelVerdict_cases (hs : s ≠ [])
    (hv : topLevelVerdict opening close marker depth (s ++ rest) = .stepOver s.length inside) :
    s = opening ∧ inside = depth + 1 ∨ s = close ∧ inside = depth - 1 ∨
      (s = marker ∧ inside = depth ∧ depth ≠ 0) ∨
      ∃ c, s = [c] ∧ inside = depth ∧
        ∀ n ∈ [opening, close, marker], n ≠ [] → n.isPrefixOf (c :: rest) = false := by
  have heq {n : Text} (hp : n.isPrefixOf (s ++ rest) = true) (hl : n.length = s.length) : s = n :=
    ((List.prefix_of_prefix_length_le (List.isPrefixOf_iff_prefix.mp hp)
      (List.prefix_append s rest) (Nat.le_of_eq hl)).eq_of_length hl).symm
  unfold topLevelVerdict at hv
  split at hv
  · next ho =>
    obtain ⟨hl, hi⟩ := Verdict.stepOver.inj hv
    exact .inl ⟨heq ho.2 hl, hi.symm⟩
  next ho =>
  split at hv
  · next hc =>
    obtain ⟨hl, hi⟩ := Verdict.stepOver.inj hv
    exact .inr (.inl ⟨heq hc.2 hl, hi.symm⟩)
  next hc =>
  split at hv
  · next hm =>
    split at hv
    · cases hv
    · next hd =>
      obtain ⟨hl, hi⟩ := Verdict.stepOver.inj hv
      exact .inr (.inr (.inl ⟨heq hm.2 hl, hi.symm, hd⟩))
  next hm =>
  obtain ⟨hl, hi⟩ := Verdict.stepOver.inj hv
  obtain ⟨c, rfl⟩ := List.length_eq_one_iff.mp hl.symm
  refine .inr (.inr (.inr ⟨c, rfl, hi.symm, fun n hn hne => ?_⟩))
  rw [Bool.eq_false_iff]
  intro hp
  obtain rfl | rfl | rfl : n = opening ∨ n = close ∨ n = marker := by simpa using hn
  · exact ho ⟨hne, hp⟩
  · exact hc ⟨hne, hp⟩
  · exact hm ⟨hne, hp⟩

end TopLevel

/-- From the start of the text the walk gets past a front of it, with so many blocks open. -/
inductive Arrives (verdict : Nat → Text → Verdict) (t : Text) :
    (passed rest : Text) → (depth : Nat) → Prop
  | start : Arrives verdict t [] t 0
  | step {passed s rest : Text} {depth inside : Nat} :
    Arrives verdict t passed (s ++ rest) depth → s ≠ [] →
    verdict depth (s ++ rest) = .stepOver s.length inside →
    Arrives verdict t (passed ++ s) rest inside

namespace Arrives

variable {verdict : Nat → Text → Verdict}

private theorem walk_eq (h : Arrives verdict t passed rest depth) :
    walk verdict 0 0 t = (walk verdict 0 depth rest).map (prepend passed) := by
  induction h with
  | start => exact crosses_nil verdict 0 t
  | step _ hs hv ih => rw [ih, walk_stepOver hs hv, map_prepend_append]

private theorem chars (h : Arrives verdict t passed (s ++ rest) depth)
    (hv : ∀ back, back ≠ [] → back <:+ s → verdict depth (back ++ rest) = .stepOver 1 depth) :
    Arrives verdict t (passed ++ s) rest depth := by
  induction s generalizing passed with
  | nil => rwa [List.append_nil]
  | cons c s ih =>
    have hstep : Arrives verdict t (passed ++ [c]) (s ++ rest) depth :=
      .step h (List.cons_ne_nil c []) (hv (c :: s) (List.cons_ne_nil c s) (List.suffix_refl _))
    have hrest := ih hstep fun back hb hback => hv back hb (hback.trans (List.suffix_cons c s))
    rwa [List.append_assoc] at hrest

end Arrives

section Agreement

variable (h : Apart [opening, close, marker])

include h

private theorem topLevel_step (hs : s ≠ []) (hcl : ClosesOpen opening close depth (s ++ rest))
    (hv : topLevelVerdict opening close marker depth (s ++ rest) = .stepOver s.length inside) :
    inside + Text.begins close s rest = depth + Text.begins opening s rest ∧
      ClosesOpen opening close inside rest ∧
      ∀ {whole after : Text},
        Arrives (closingVerdict opening close) whole passed (s ++ (rest ++ (close ++ after)))
          depth →
        Arrives (closingVerdict opening close) whole (passed ++ s) (rest ++ (close ++ after))
          inside := by
  obtain ⟨ho, hc, hm⟩ := mem_markers opening close marker
  obtain ⟨hoc, hom, hcm⟩ := markers_ne h
  have hpair : Apart [opening, close] := h.of_subset (by simp [hoc]) (by simp)
  have hothers (n : Text) (hn : n ∈ [opening, close]) :
      n ∈ [opening, close, marker] ∧ n ≠ marker := by
    obtain rfl | rfl : n = opening ∨ n = close := by simpa using hn
    · exact ⟨ho, hom⟩
    · exact ⟨hc, hcm⟩
  rcases topLevelVerdict_cases hs hv with
    ⟨rfl, rfl⟩ | ⟨rfl, rfl⟩ | ⟨rfl, rfl, hd⟩ | ⟨c, rfl, rfl, hno⟩
  · refine ⟨?_, ?_, fun ha => .step ha hs (closingVerdict_opening hpair depth _)⟩
    · simp [h.begins_marker ho hc, h.begins_marker ho ho, hoc.symm]
    · exact (closesOpen_marker h ho hc ho (by simp [hoc.symm]) fun he => absurd he hoc).mp hcl
  · obtain ⟨inside, rfl⟩ := Nat.exists_eq_add_one_of_ne_zero hcl.ne_zero
    refine ⟨?_, ?_, fun ha => .step ha hs (closingVerdict_close opening s (inside + 1) _)⟩
    · simp [h.begins_marker hc hc, h.begins_marker hc ho, hoc]
    · exact (closesOpen_marker h ho hc hc (by simp [hoc]) fun _ => Nat.succ_ne_zero inside).mp hcl
  · refine ⟨?_, ?_, fun ha => ha.chars fun back hb hback => ?_⟩
    · simp [h.begins_marker hm hc, h.begins_marker hm ho, hom, hcm]
    · exact (closesOpen_marker h ho hc hm (by simp [hom, hcm]) fun he => absurd he.symm hcm).mp hcl
    · refine closingVerdict_char hpair (fun n hn => ?_) inside
      obtain ⟨hmem, hne⟩ := hothers n hn
      by_cases he : back = s
      · rw [he]
        exact h.not_both hm hmem hne _
      · exact h.not_within hm hmem hback hb he _
  · have hno' (n : Text) (hn : n ∈ [opening, close, marker]) : n.isPrefixOf (c :: rest) = false :=
      hno n hn (h.ne_nil n hn)
    refine ⟨?_, (closesOpen_char ho hc hno').mp hcl, fun ha => .step ha hs ?_⟩
    · simp [Text.begins, hno' close hc, hno' opening ho]
    · refine closingVerdict_char hpair (fun n hn => ?_) inside
      obtain ⟨hmem, -⟩ := hothers n hn
      rw [List.singleton_append, ← List.cons_append,
        h.isPrefixOf_before hc hmem (List.cons_ne_nil c rest)]
      exact hno' n hmem

private theorem Arrives.counted (hcl : ClosesOpen opening close 0 t)
    (ha : Arrives (topLevelVerdict opening close marker) t passed rest depth) (after : Text) :
    t = passed ++ rest ∧
      depth + Text.begins close passed rest = Text.begins opening passed rest ∧
      ClosesOpen opening close depth rest ∧
      Arrives (closingVerdict opening close) (t ++ (close ++ after)) passed
        (rest ++ (close ++ after)) depth := by
  induction ha with
  | start => exact ⟨rfl, rfl, hcl, .start⟩
  | step ha hs hv ih =>
    obtain ⟨rfl, hcount, hopen, harr⟩ := ih
    obtain ⟨hcount', hopen', hstep⟩ := topLevel_step h hs hopen hv
    refine ⟨(List.append_assoc _ _ _).symm, ?_, hopen', hstep ?_⟩
    · rw [Text.begins_append, Text.begins_append]
      omega
    · simpa only [List.append_assoc] using harr

end Agreement
end Stencil.Balance

namespace Stencil.Branch

open Balance

private theorem apart_markers :
    Apart [Delimiters.standard.openMarker "if", Delimiters.standard.closeMarker "if",
      Delimiters.standard.bareMarker "else"] := by
  have hmarkers : [Delimiters.standard.openMarker "if", Delimiters.standard.closeMarker "if",
      Delimiters.standard.bareMarker "else"] =
        [("% if " : Text), "% end-if %\x7d", "% else %\x7d"].map ('\x7b' :: ·) := by decide
  rw [hmarkers]
  exact apart_of_head (by decide) (by decide) (by decide)

private theorem exists_closing_of_block? {call : Call} {delimiters : Delimiters} {block : Block}
    (hb : call.block? delimiters = some block) :
    ∃ after, closing (delimiters.openMarker call.name) (delimiters.closeMarker call.name) 0 0
      call.following = some (block.body, after) := by
  obtain ⟨⟨body, after⟩, hclosing, rfl⟩ := Option.map_eq_some_iff.mp hb
  exact ⟨after, hclosing⟩

/-- A branch renders the part that its condition asks for, if there is one. -/
theorem run_of_split {scene : Scene} {call : Call} {draft : Draft} {block : Block} {first : Text}
    {second : Option Text} {truth : Bool} (hb : call.block? scene.delimiters = some block)
    (hs : splitAtElse scene.delimiters call.name block.body = (first, second))
    (he : Condition.evaluate draft.context call.arguments = .ok truth) :
    run scene call draft =
      (if truth then scene.render first draft
        else second.elim draft fun second => scene.render second draft, block.next) := by
  simp only [run, TagAction.ofBlock, Call.block, hb, hs, he]
  cases truth with
  | true => rfl
  | false => cases second <;> rfl

/-- The body of a branch is divided at its own `else`, the first one in front of which as many
blocks are closed as were opened. At every place that the search for it passes, it counts the blocks
that are open there, as the search for the end of the branch does. One of the two parts is rendered,
and a body that is not divided is rendered as a whole where its condition holds. -/
theorem run_divided (call : Call) (block : Block) (hname : call.name = "if")
    (hb : call.block? Delimiters.standard = some block) :
    let opening := Delimiters.standard.openMarker "if"
    let close := Delimiters.standard.closeMarker "if"
    let other := Delimiters.standard.bareMarker "else"
    let found := findTopLevel? block.body opening close other
    findTopLevelInBytes block.body opening close other = some found ∧
    (∀ span, found = some span ↔ FirstLevel block.body opening close other 0 span) ∧
    (found = none ↔ ∀ offset, ¬ LevelAt block.body opening close other 0 offset) ∧
    (∀ passed rest depth,
      Arrives (topLevelVerdict opening close other) block.body passed rest depth →
        topLevel opening close other 0 0 block.body =
            (topLevel opening close other 0 depth rest).map (prepend passed) ∧
          depth + Text.occurrences close block.body 0 (Text.bytes passed) =
            Text.occurrences opening block.body 0 (Text.bytes passed) ∧
          (close.isPrefixOf rest = true → 0 < depth) ∧
          ∃ behind, Arrives (closingVerdict opening close) call.following passed behind depth ∧
            closing opening close 0 0 call.following =
              (closing opening close 0 depth behind).map (prepend passed)) ∧
    ∀ (scene : Scene) (draft : Draft) (truth : Bool), scene.delimiters = Delimiters.standard →
      Condition.evaluate draft.context call.arguments = .ok truth →
        (∀ span, found = some span → ∃ first second,
          block.body = first ++ other ++ second ∧ Text.bytes first = span.start ∧
            run scene call draft =
              (scene.render (if truth then first else second) draft, block.next)) ∧
        (found = none → run scene call draft =
          (if truth then scene.render block.body draft else draft, block.next)) := by
  intro opening close other found
  have h : Apart [opening, close, other] := apart_markers
  have hpair : Apart [opening, close] := h.of_subset (by decide) (by simp)
  obtain ⟨after, hclosing⟩ := exists_closing_of_block? hb
  rw [hname] at hclosing
  have hfollowing : call.following = block.body ++ (close ++ after) := by
    rw [eq_append_of_closing hclosing, List.append_assoc]
  have hcl : ClosesOpen opening close 0 block.body := closesOpen_of_closing hpair hclosing
  have hfirst := topLevel_findsFirst h hcl
  refine ⟨findTopLevelInBytes_eq _ _ _ _, hfirst.firstLevel_iff [], ?_,
    fun passed rest depth ha => ?_,
    fun scene draft truth hd he => ⟨fun span hs => ?_, fun hn => ?_⟩⟩
  · exact Option.map_eq_none_iff.trans (hfirst.eq_none_iff [])
  · obtain ⟨ht, hcount, hopen, harr⟩ := ha.counted h hcl after
    rw [← hfollowing] at harr
    refine ⟨?_, ?_, fun hp => ?_, rest ++ (close ++ after), harr, ?_⟩
    · rw [topLevel_eq_walk, topLevel_eq_walk]
      exact ha.walk_eq
    · rw [ht, Text.occurrences_front, Text.occurrences_front]
      exact hcount
    · obtain ⟨behind, rfl⟩ := List.isPrefixOf_iff_prefix.mp hp
      exact Nat.pos_of_ne_zero hopen.ne_zero
    · rw [closing_eq_walk, closing_eq_walk]
      exact harr.walk_eq
  · obtain ⟨⟨first, second⟩, htop, rfl⟩ := Option.map_eq_some_iff.mp hs
    have hsplit : splitAtElse scene.delimiters call.name block.body = (first, some second) := by
      rw [splitAtElse, hd, hname, htop]
    refine ⟨first, second, eq_append_of_topLevel htop, (Nat.zero_add _).symm, ?_⟩
    rw [run_of_split (by rw [hd, hb]) hsplit he]
    cases truth <;> rfl
  · have htop := Option.map_eq_none_iff.mp hn
    have hsplit : splitAtElse scene.delimiters call.name block.body = (block.body, none) := by
      rw [splitAtElse, hd, hname, htop]
    rw [run_of_split (by rw [hd, hb]) hsplit he]
    rfl

/-- The `else` of a branch inside is passed over. -/
theorem run_divided_nested :
    let call : Call := {
      name := "if"
      arguments := ".a"
      start := 0
      stop := 11
      following := "\x7b% if .b %\x7dé\x7b% else %\x7dy\x7b% end-if %\x7d\x7b% else %\x7dz" ++
        "\x7b% end-if %\x7d!" }
    let block : Block := {
      body := "\x7b% if .b %\x7dé\x7b% else %\x7dy\x7b% end-if %\x7d\x7b% else %\x7dz"
      next := 70 }
    let opening := Delimiters.standard.openMarker "if"
    let close := Delimiters.standard.closeMarker "if"
    let other := Delimiters.standard.bareMarker "else"
    call.name = "if" ∧ call.block? Delimiters.standard = some block ∧
      findTopLevel? block.body opening close other = some ⟨36, 46⟩ ∧
      FirstLevel block.body opening close other 0 ⟨36, 46⟩ := by
  intro call block opening close other
  have hclosing : closing opening close 0 0 call.following =
      some (block.body, ("!" : Text)) := by decide
  have hnext : call.stop + Text.bytes block.body + Text.bytes close = 70 := by decide
  have hb : call.block? Delimiters.standard = some block := by
    rw [Call.block?, hclosing]
    exact congrArg (fun next => some (Block.mk block.body next)) hnext
  have hfound : findTopLevel? block.body opening close other = some ⟨36, 46⟩ := by decide
  exact ⟨rfl, hb, hfound, ((run_divided call block rfl hb).2.1 ⟨36, 46⟩).mp hfound⟩

end Stencil.Branch
