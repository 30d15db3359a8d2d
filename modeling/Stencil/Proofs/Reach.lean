import Stencil.Proofs.Scan
import Stencil.Proofs.Search
/-!
# How far a tag reaches

A tag takes a stretch of the text behind it, and scanning resumes where the stretch ends. Neither
the place of the tag nor what comes after the stretch makes a difference to what the tag does. A
body that runs to the end of the text leaves nothing after it.
-/
namespace Stencil

/-- The tag takes `taken` and leaves `rest`, here and wherever else `taken` follows it, if `rest` is
cut short or not. -/
def TagAction.Takes (action : TagAction) (scene : Scene) (call : Call) (draft : Draft)
    (taken rest : Text) : Prop :=
  call.following = taken ++ rest ∧ ∀ start stop kept cut, rest = kept ++ cut →
    action scene { call with start, stop, following := taken ++ kept } draft =
      ((action scene call draft).1, stop + Text.bytes taken)

/-- Every call takes a stretch of the text behind it. -/
def TagAction.Reaches (action : TagAction) : Prop :=
  ∀ scene call draft, ∃ taken rest, action.Takes scene call draft taken rest

namespace Call

variable {call : Call} {delimiters : Delimiters}

private theorem block?_some {block : Block} (h : call.block? delimiters = some block) :
    ∃ taken rest, call.following = taken ++ rest ∧ ∀ start stop kept,
      block? { call with start, stop, following := taken ++ kept } delimiters =
        some ⟨block.body, stop + Text.bytes taken⟩ := by
  obtain ⟨⟨body, rest⟩, hc, he⟩ := Option.map_eq_some_iff.mp h
  refine ⟨body ++ delimiters.closeMarker call.name, rest, Balance.eq_append_of_closing hc,
    fun start stop kept => ?_⟩
  have hk := Balance.closing_replace (delimiters.closeMarker_ne_nil call.name) hc kept
  subst he
  simp only [block?, hk, Option.map_some, Text.bytes_append, Nat.add_assoc]

private theorem block?_none {kept cut : Text} (hf : call.following = kept ++ cut)
    (h : call.block? delimiters = none) (start stop : Nat) :
    block? { call with start, stop, following := kept } delimiters = none := by
  rw [block?, Option.map_eq_none_iff, hf] at h
  rw [block?, Option.map_eq_none_iff]
  exact Balance.closing_eq_none_of_append (delimiters.closeMarker_ne_nil call.name) h

end Call

namespace TagAction

private theorem leaf_reaches {act : Scene → Call → Draft → Draft}
    (h : ∀ scene call start stop following,
      act scene { call with start, stop, following } = act scene call) : (leaf act).Reaches := by
  intro scene call draft
  refine ⟨[], call.following, rfl, fun start stop kept cut _ => ?_⟩
  rw [leaf, leaf, h]
  rfl

private theorem ofBlock_reaches {act : Scene → Call → Text → Draft → Draft}
    (h : ∀ scene call start stop following,
      act scene { call with start, stop, following } = act scene call) : (ofBlock act).Reaches := by
  intro scene call draft
  cases hb : call.block? scene.delimiters with
  | some block =>
    obtain ⟨taken, rest, hf, hk⟩ := Call.block?_some hb
    refine ⟨taken, rest, hf, fun start stop kept cut _ => ?_⟩
    simp only [ofBlock, Call.block, hb, hk]
    rw [h]
  | none =>
    refine ⟨[], call.following, rfl, fun start stop kept cut hc => ?_⟩
    have hk := Call.block?_none hc hb start stop
    simp only [ofBlock, Call.block, hb, List.nil_append, hk]
    rfl

private theorem ofBlockOrRest_reaches {act : Scene → Call → Text → Draft → Draft}
    (h : ∀ scene call start stop following,
      act scene { call with start, stop, following } = act scene call) :
    (ofBlockOrRest act).Reaches := by
  intro scene call draft
  cases hb : call.block? scene.delimiters with
  | some block =>
    obtain ⟨taken, rest, hf, hk⟩ := Call.block?_some hb
    refine ⟨taken, rest, hf, fun start stop kept cut _ => ?_⟩
    simp only [ofBlockOrRest, Call.blockOrRest, hb, hk, Option.getD_some]
    rw [h]
  | none =>
    -- Nothing comes after the body, so there is nothing to cut.
    refine ⟨call.following, [], by simp, fun start stop kept cut hc => ?_⟩
    obtain ⟨rfl, -⟩ := List.append_eq_nil_iff.mp hc.symm
    have hk := Call.block?_none (List.append_nil _).symm hb start stop
    simp only [ofBlockOrRest, Call.blockOrRest, hb, List.append_nil, hk, Option.getD_none]
    rw [h]
    rfl

end TagAction

/-- Every built-in tag takes a stretch of the text behind it. -/
theorem BuiltIn.run_reaches (tag : BuiltIn) : tag.run.Reaches := by
  cases tag with
  | branch =>
    change Branch.run.Reaches
    exact TagAction.ofBlock_reaches fun _ _ _ _ _ => rfl
  | loop =>
    change Loop.run.Reaches
    exact TagAction.ofBlock_reaches fun _ _ _ _ _ => rfl
  | comment =>
    change TagAction.skip.Reaches
    exact TagAction.ofBlock_reaches fun _ _ _ _ _ => rfl
  | slot | define =>
    change Slot.store.Reaches
    exact TagAction.ofBlock_reaches fun _ _ _ _ _ => rfl
  | block =>
    change Slot.fill.Reaches
    exact TagAction.ofBlock_reaches fun _ _ _ _ _ => rfl
  | css | js =>
    change (InlineAsset.run _).Reaches
    exact TagAction.ofBlock_reaches fun _ _ _ _ _ => rfl
  | layout =>
    change Layout.run.Reaches
    exact TagAction.ofBlockOrRest_reaches fun _ _ _ _ _ => rfl
  | extend =>
    change Inheritance.run.Reaches
    exact TagAction.ofBlockOrRest_reaches fun _ _ _ _ _ => rfl
  | strayElse | assign | partialFile | passed | importFile | metaElement | linkElement | title
  | rootHead | rootCss | rootJs => exact TagAction.leaf_reaches fun _ _ _ _ _ => rfl

theorem Engine.runTag_reaches (settings : Settings) (scene : Scene) (tag : TagSpan)
    (following : Text) (draft : Draft) :
    ∃ taken rest, following = taken ++ rest ∧ ∀ start stop kept cut, rest = kept ++ cut →
      (ofSettings settings).runTag scene ⟨tag.contents, start, stop⟩ (taken ++ kept) draft =
        (((ofSettings settings).runTag scene tag following draft).1, stop + Text.bytes taken) := by
  cases he : tag.isExpression with
  | true =>
    refine ⟨[], following, rfl, fun start stop kept cut _ => ?_⟩
    have hmoved : (TagSpan.mk tag.contents start stop).isExpression = true := he
    rw [runTag_expression _ _ _ _ hmoved, runTag_expression _ _ _ _ he]
    rfl
  | false =>
    have hmoved (start stop : Nat) : (TagSpan.mk tag.contents start stop).isExpression = false := he
    cases hn : BuiltIn.named? tag.nameAndArguments.1 with
    | none =>
      refine ⟨[], following, rfl, fun start stop kept cut _ => ?_⟩
      rw [runTag_ofSettings _ _ _ _ (hmoved start stop), runTag_ofSettings _ _ _ _ he]
      simp only [TagSpan.nameAndArguments] at hn ⊢
      simp only [hn]
      rfl
    | some builtIn =>
      obtain ⟨taken, rest, hf, ht⟩ := builtIn.run_reaches scene (tag.call following) draft
      refine ⟨taken, rest, hf, fun start stop kept cut hk => ?_⟩
      rw [runTag_ofSettings _ _ _ _ (hmoved start stop), runTag_ofSettings _ _ _ _ he]
      simp only [TagSpan.nameAndArguments] at hn ⊢
      simp only [hn]
      exact ht start stop kept cut hk

end Stencil
