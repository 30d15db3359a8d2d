import Stencil.Proofs.ContextLaw
import Stencil.Proofs.Receiver
/-!
# The frame of a render

Whatever a text does while it is rendered, and whatever goes wrong in it, the context behind it
differs from the one in front of it in few ways: passed content may be used up, blocks, assets and
head elements may be added, scopes and page data may be written to. With a loop under way the page
data stay as they are.
-/
namespace Stencil

/-- What a render leaves as it was. -/
structure Context.Framed (before after : Context) : Prop where
  depth : after.depth = before.depth
  props : after.props = before.props
  active : after.active = before.active
  template : after.template = before.template
  site : after.site = before.site
  request : after.request = before.request
  scopes : after.scopes.length = before.scopes.length
  passed : after.passed = before.passed ∨ after.passed = none
  blocks : ∀ name content, before.blocks.get? name = some content →
    after.blocks.get? name = some content
  assets : before.assets.entries <+: after.assets.entries
  head : before.head.elements <+: after.head.elements
  data : before.scopes ≠ [] → after.data = before.data

namespace Context.Framed

variable {a b c : Context}

private theorem scopes_ne_nil (h : a.Framed b) (hs : a.scopes ≠ []) : b.scopes ≠ [] := by
  have hb := List.length_pos_iff.mpr hs
  rw [← h.scopes] at hb
  exact List.length_pos_iff.mp hb

private theorem refl (c : Context) : c.Framed c :=
  ⟨rfl, rfl, rfl, rfl, rfl, rfl, rfl, .inl rfl, fun _ _ h => h, List.prefix_refl _,
    List.prefix_refl _, fun _ => rfl⟩

private theorem trans (h : a.Framed b) (h' : b.Framed c) : a.Framed c where
  depth := h'.depth.trans h.depth
  props := h'.props.trans h.props
  active := h'.active.trans h.active
  template := h'.template.trans h.template
  site := h'.site.trans h.site
  request := h'.request.trans h.request
  scopes := h'.scopes.trans h.scopes
  passed := by
    rcases h'.passed with hp | hp
    · rw [hp]; exact h.passed
    · exact .inr hp
  blocks := fun name content hb => h'.blocks name content (h.blocks name content hb)
  assets := h.assets.trans h'.assets
  head := h.head.trans h'.head
  data := fun hs => (h'.data (h.scopes_ne_nil hs)).trans (h.data hs)

private theorem assign {path : Text} {value : Value} (h : a.assign? path value = some b) :
    a.Framed b := by
  obtain ⟨first, rest, target, fields, hr, rfl⟩ := receives_of_assign? h
  cases hr with
  | bound | innermost => exact { refl a with scopes := List.length_set }
  | page hs => exact { refl a with data := fun hne => absurd hs hne }

private theorem storeBlock (c : Context) (name content : Text) :
    c.Framed (c.storeBlock name content) := by
  simp only [Context.storeBlock]
  split
  · exact refl c
  · next hn =>
    refine { refl c with blocks := fun other stored hb => ?_ }
    have hne : other ≠ name := by
      intro he
      rw [he] at hb
      simp [Table.has, hb] at hn
    exact (Table.get?_set_of_ne hne _ _).trans hb

private theorem register {asset : Asset} {dependencies : List Text} {added : Bool}
    {assets : AssetRegistry} (h : c.assets.add asset dependencies = .ok (added, assets)) :
    c.Framed { c with assets } := by
  refine { refl c with assets := ?_ }
  simp only [AssetRegistry.add] at h
  split at h
  · cases h
  · split at h
    · cases h; exact List.prefix_refl _
    · cases h; exact List.prefix_append _ _

private theorem addElement (c : Context) (element : HeadElement) :
    c.Framed (HeadTag.addElement c element) := by
  refine { refl c with head := ?_ }
  simp only [HeadTag.addElement, HeadRegistry.add]
  split
  · exact List.prefix_refl _
  · exact List.prefix_append _ _

private theorem inScope (scope : Fields) (h : (a.pushScope scope).Framed b) :
    a.Framed b.popScope := by
  have hl : b.scopes.tail.length = a.scopes.length := by
    rw [List.length_tail, h.scopes]
    rfl
  exact ⟨h.depth, h.props, h.active, h.template, h.site, h.request, hl, h.passed, h.blocks,
    h.assets, h.head, fun _ => h.data (List.cons_ne_nil _ _)⟩

private theorem inTemplate (path : Path) (h : (a.enter path).Framed b) : a.Framed (b.leave a) := by
  have ha : b.active.tail = a.active := by
    rw [h.active]
    rfl
  exact ⟨h.depth, h.props, ha, rfl, h.site, h.request, h.scopes, h.passed, h.blocks, h.assets,
    h.head, h.data⟩

private theorem deeper (h : a.deeper.Framed b) : a.Framed b.shallower := by
  have hd : b.depth - 1 = a.depth := by
    rw [h.depth]
    rfl
  exact ⟨hd, h.props, h.active, h.template, h.site, h.request, h.scopes, h.passed, h.blocks,
    h.assets, h.head, h.data⟩

theorem law : ContextLaw Framed where
  depth_eq := Framed.depth
  refl := refl
  trans := trans
  assign := assign
  place c := { refl c with passed := .inr rfl }
  storeBlock := storeBlock
  register := register
  addElement := addElement
  inScope := inScope
  withProps _ h := ⟨h.depth, rfl, h.active, h.template, h.site, h.request, h.scopes, h.passed,
    h.blocks, h.assets, h.head, h.data⟩
  withPassed _ h := ⟨h.depth, h.props, h.active, h.template, h.site, h.request, h.scopes, .inl rfl,
    h.blocks, h.assets, h.head, h.data⟩
  inTemplate := inTemplate
  deeper := deeper

end Context.Framed

/-- The context behind a render differs from the one in front of it only as its frame allows. -/
theorem Engine.render_framed (settings : Settings) (files : Files) (text : Text) (draft : Draft) :
    draft.context.Framed ((Engine.ofSettings settings).render files text draft).context :=
  Context.Framed.law.render settings files text draft

end Stencil
