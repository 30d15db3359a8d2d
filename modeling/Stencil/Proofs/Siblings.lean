import Stencil.Proofs.Chain
/-!
# Siblings

Two templates in one text may each extend a layout of their own. What the first one stores is still
there for the second one, so a slot of the first also fills a block of the second layout, in front
of a slot of that name in the second template itself.
-/
namespace Stencil

open Balance Spelling

def extendTag : BodyTag := ⟨.extend, by decide⟩

/-- A template with an end. -/
def Derived.closed (derived : Derived) : Text :=
  opening "extends" derived.parent.text ++ derived.sheet.written slotTag ++ tag "end-extends"

/-- A template is written as its layout with what is stored and what it says itself. -/
def Derived.resolve (derived : Derived) (base : Sheet) (draft : Draft) : Draft :=
  (draft.write (base.filled
    (fun name => (draft.context.blocks.get? name).or (derived.sheet.region? name))
    (derived.relayed (draft.context.passed.getD [])))).mapContext fun context =>
      { context.storeBlocks derived.sheet.regions with
        passed := derived.rest.unplaced context.passed }

namespace Engine

variable (settings : Settings) (files : Files)

/-- The layout that a template extends is there to be entered, and is this sheet. -/
structure Extends (context : Context) (derived : Derived) (base : Sheet) : Prop where
  loads : ∃ name path, derived.parentName? = some name ∧
    Template.load settings.config files context.site .layout name =
      .ok (path, base.written blockTag) ∧ context.isActive path = false

variable {settings files}

private theorem scan_closed (levels : Nat) {derived : Derived} {base : Sheet} {draft : Draft}
    (h : Extends settings files draft.context derived base) (hblocks : draft.context.PlainBlocks)
    (position : Nat) (rest : Text) :
    (ofStandard settings).scan ((ofStandard settings).sceneWithin files (levels + 2))
        (scanner position (derived.closed ++ rest)) draft =
      (ofStandard settings).scan ((ofStandard settings).sceneWithin files (levels + 2))
        (scanner (position + Text.bytes derived.closed) rest) (derived.resolve base draft) := by
  obtain ⟨name, path, hname, hload, hactive⟩ := h.loads
  let scene := (ofStandard settings).sceneWithin files (levels + 2)
  let body := derived.sheet.written slotTag
  have hb : Encloses extendTag.builtIn.name body :=
    encloses_of_crosses (derived.sheet.crosses_extends slotTag)
  let call := extendTag.call derived.parent.text body
  have hbody : (call.blockOrRest .standard).body = body := by
    rw [Call.blockOrRest, extendTag.block?_call derived.parent.text hb]
    rfl
  have hrun := run_derived settings files levels derived hbody hname hload hactive hblocks
  have hlayout : (derived.above path draft.context).PlainBlocks := hblocks.storeBlocks derived.sheet
  rw [renderWithin_sheet settings files levels base hlayout] at hrun
  have hresolve : (Inheritance.run scene call draft).1 = derived.resolve base draft := by
    have hleave := derived.leave_storeBlocks_above path draft.context []
    have hheld : (fun name => (derived.above path draft.context).blocks.get? name) =
        fun name => (draft.context.blocks.get? name).or (derived.sheet.region? name) :=
      funext (derived.get?_above path draft.context)
    rw [List.append_nil] at hleave
    refine hrun.trans ?_
    simp only [Draft.mapContext, Derived.resolve] at hheld ⊢
    rw [hheld]
    exact congrArg (fun context : Context => { draft.write _ with context := { context with
      passed := derived.rest.unplaced draft.context.passed } }) hleave
  rw [← hresolve]
  exact effects_block settings scene rfl extendTag derived.parent hb position rest draft

private theorem Extends.resolve {derived other : Derived} {base layout : Sheet} {draft : Draft}
    (h : Extends settings files draft.context derived base) :
    Extends settings files (other.resolve layout draft).context derived base := by
  obtain ⟨name, path, hname, hload, hactive⟩ := h.loads
  refine ⟨name, path, hname, ?_, ?_⟩
  · rw [Derived.resolve, Draft.mapContext, Context.storeBlocks_eq]
    exact hload
  · rw [Derived.resolve, Draft.mapContext, Context.storeBlocks_eq]
    exact hactive

/-- Siblings are resolved one after the other, and the second one finds the slots of the first in
front of its own. -/
theorem render_siblings {first second : Derived} {base other : Sheet} {draft : Draft}
    (hfirst : Extends settings files draft.context first base)
    (hsecond : Extends settings files draft.context second other)
    (hblocks : draft.context.blocks = [])
    (hdepth : draft.context.depth + 3 ≤ settings.config.maxDepth) :
    (ofStandard settings).render files (first.closed ++ second.closed) draft =
      (draft.write (
        base.filled first.sheet.region? (first.relayed (draft.context.passed.getD [])) ++
        other.filled (fun name => (first.sheet.region? name).or (second.sheet.region? name))
          (second.relayed ((first.rest.unplaced draft.context.passed).getD [])))).mapContext
            fun context =>
              { context.storeBlocks (first.sheet.regions ++ second.sheet.regions) with
                passed := second.rest.unplaced (first.rest.unplaced context.passed) } := by
  let inside := draft.mapContext (·.deeper)
  have hbelow : inside.context.PlainBlocks := by
    intro name t ht
    have hg : Table.get? name draft.context.blocks = some t := ht
    rw [hblocks] at hg
    cases hg
  have hbetween : (first.resolve base inside).context.PlainBlocks := hbelow.storeBlocks first.sheet
  have hfirst : Extends settings files inside.context first base := ⟨hfirst.loads⟩
  have hsecond : Extends settings files (first.resolve base inside).context second other :=
    Extends.resolve ⟨hsecond.loads⟩
  obtain ⟨levels, hlevels⟩ : ∃ levels, settings.config.maxDepth - draft.context.depth =
      levels + 3 := ⟨settings.config.maxDepth - draft.context.depth - 3, by omega⟩
  let scene := (ofStandard settings).sceneWithin files (levels + 2)
  have hscan : (ofStandard settings).scan scene (scanner 0 (first.closed ++ second.closed)) inside =
      second.resolve other (first.resolve base inside) := by
    have hlast := scan_closed levels hsecond hbetween (0 + Text.bytes first.closed) []
    rw [List.append_nil] at hlast
    rw [scan_closed levels hfirst hbelow, hlast]
    exact scan_of_none _ _ _ (Scanner.next?_of_nil rfl)
  have hrender : (ofStandard settings).render files (first.closed ++ second.closed) draft =
      (second.resolve other (first.resolve base inside)).mapContext (·.shallower) := by
    refine (congrArg (fun n => (ofStandard settings).renderWithin files n _ draft) hlevels).trans ?_
    exact congrArg (Draft.mapContext · (·.shallower)) hscan
  have hstored (name : Text) : (first.resolve base inside).context.blocks.get? name =
      first.sheet.region? name := by
    have hg := inside.context.get?_storeBlocks first.sheet.regions name
    have hnone : inside.context.blocks = [] := hblocks
    rw [hnone, Table.get?, Option.none_or] at hg
    exact hg
  have hown : (fun name => (inside.context.blocks.get? name).or (first.sheet.region? name)) =
      first.sheet.region? := by
    have hnone : inside.context.blocks = [] := hblocks
    funext name
    rw [hnone, Table.get?, Option.none_or]
  rw [hrender, Derived.resolve]
  simp only [hstored]
  have hcontext := draft.context.shallower_storeBlocks (first.sheet.regions ++ second.sheet.regions)
  rw [Context.storeBlocks_append] at hcontext
  simp only [Derived.resolve, hown, Draft.mapContext, Draft.write, Context.storeBlocks_passed]
  rw [List.append_assoc, ← hcontext]
  rfl

/-- The block of the second layout shows the slot of the first template, whether the second one has
no slot of that name or one of its own. -/
theorem render_siblings_stored :
    let x : RegionName := ⟨⟨"x ", by decide, by decide⟩, by decide, by decide⟩
    let first : Derived := ⟨⟨"p ", by decide, by decide⟩, [.region x ⟨"A", by decide⟩]⟩
    let second : Derived := ⟨⟨"q ", by decide, by decide⟩, [.region x ⟨"B", by decide⟩]⟩
    let bare : Derived := ⟨⟨"q ", by decide, by decide⟩, []⟩
    let base : Sheet := [.region x ⟨"P", by decide⟩]
    let other : Sheet := [.region x ⟨"D", by decide⟩]
    let output := outputWith [("p", base.written blockTag), ("q", other.written blockTag)] []
    output (first.closed ++ second.closed) = "AA" ∧ output (first.closed ++ bare.closed) = "AA" := by
  intro x first second bare base other output
  let settings := standard.toSettings
  let files := layoutFiles [("p", base.written blockTag), ("q", other.written blockTag)]
  let start : Draft := { context := { site := "." } }
  have hfirst : Extends settings files start.context first base :=
    ⟨"p", "./layouts/p.hstm", by decide, by rfl, by decide⟩
  have hsecond : Extends settings files start.context second other :=
    ⟨"q", "./layouts/q.hstm", by decide, by rfl, by decide⟩
  have hbare : Extends settings files start.context bare other :=
    ⟨"q", "./layouts/q.hstm", by decide, by rfl, by decide⟩
  constructor
  · exact congrArg Draft.output (render_siblings hfirst hsecond rfl (by decide))
  · exact congrArg Draft.output (render_siblings hfirst hbare rfl (by decide))

/-- Siblings do not write what each of them writes alone. -/
theorem siblings_not_independent :
    let layouts : List (Text × Text) :=
      [("p", tag "block x" ++ "P" ++ tag "end-block"), ("q", tag "block x" ++ "D" ++ tag "end-block")]
    let slot (content : Text) : Text := tag "slot x" ++ content ++ tag "end-slot"
    let first : Text := tag "extends p" ++ slot "A" ++ tag "end-extends"
    let second : Text := tag "extends q" ++ slot "B" ++ tag "end-extends"
    outputWith layouts [] first = "A" ∧ outputWith layouts [] second = "B" ∧
      outputWith layouts [] (first ++ second) = "AA" := by
  decide +kernel

end Engine
end Stencil
