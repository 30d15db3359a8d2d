import Stencil.Proofs.Program
/-!
# Rendering only adds

What a draft holds when a render begins is never read and never changed. The render writes and notes
the same on any draft of the same context, behind what is there.
-/
namespace Stencil

/-- The draft with the text and the problems of another one in front. -/
def Draft.behind (before draft : Draft) : Draft :=
  { draft with output := before.output ++ draft.output
               problems := before.problems ++ draft.problems }

/-- A draft of this context with nothing on it. -/
def Context.blank (context : Context) : Draft := { context }

/-- The change leaves what stands in front as it is and does not look at it. -/
def Draft.OnlyAdds (change : Draft → Draft) : Prop :=
  ∀ before draft : Draft, change (before.behind draft) = before.behind (change draft)

def TagAction.OnlyAdds (action : TagAction) : Prop :=
  ∀ scene call, (∀ text, Draft.OnlyAdds (scene.render text)) → ∀ before draft : Draft,
    action scene call (before.behind draft) =
      (before.behind (action scene call draft).1, (action scene call draft).2)

namespace Draft

@[simp] theorem behind_context (before draft : Draft) :
    (before.behind draft).context = draft.context := rfl

theorem behind_blank (draft : Draft) : draft.behind draft.context.blank = draft := by
  simp [behind, Context.blank]

private theorem write_behind (before draft : Draft) (text : Text) :
    (before.behind draft).write text = before.behind (draft.write text) := by
  simp [behind, write]

private theorem report_behind (before draft : Draft) (problem : Problem) :
    (before.behind draft).report problem = before.behind (draft.report problem) := by
  simp [behind, report]

private theorem mapContext_behind (before draft : Draft) (change : Context → Context) :
    (before.behind draft).mapContext change = before.behind (draft.mapContext change) := rfl

private theorem writeOrReport_behind (before draft : Draft) (result : Except Problem Text) :
    (before.behind draft).writeOrReport result = before.behind (draft.writeOrReport result) := by
  cases result with
  | ok text => exact write_behind before draft text
  | error problem => exact report_behind before draft problem

private theorem foldl_behind {α : Type} {change : Draft → α → Draft}
    (h : ∀ item, OnlyAdds (change · item)) (items : List α) (before draft : Draft) :
    items.foldl change (before.behind draft) = before.behind (items.foldl change draft) := by
  induction items generalizing draft with
  | nil => rfl
  | cons item items ih =>
    have hi : change (before.behind draft) item = before.behind (change draft item) :=
      h item before draft
    rw [List.foldl_cons, hi, ih, List.foldl_cons]

variable {rendering : Draft → Draft}

private theorem capture_behind (h : OnlyAdds rendering) (before draft : Draft) :
    (before.behind draft).capture rendering =
      ((draft.capture rendering).1, before.behind (draft.capture rendering).2) := by
  have hr := h { before with output := [] } { draft with output := [] }
  simp only [capture]
  change ((rendering _).output, { rendering _ with output := before.output ++ draft.output }) = _
  have he : { before.behind draft with output := [] } =
      { before with output := [] }.behind { draft with output := [] } := rfl
  rw [he, hr]
  rfl

private theorem inTemplate_behind (h : OnlyAdds rendering) (refusesCycles : Bool) (path : Path)
    (before draft : Draft) :
    (before.behind draft).inTemplate refusesCycles path rendering =
      (draft.inTemplate refusesCycles path rendering).map before.behind := by
  have hr := h before { draft with context := draft.context.enter path }
  have he : { before.behind draft with context := draft.context.enter path } =
      before.behind { draft with context := draft.context.enter path } := rfl
  simp only [inTemplate, Context.inTemplate, behind_context, he, hr]
  cases refusesCycles && draft.context.isActive path <;> rfl

end Draft

namespace TagAction

private theorem leaf_onlyAdds {act : Scene → Call → Draft → Draft}
    (h : ∀ scene call, (∀ text, Draft.OnlyAdds (scene.render text)) →
      Draft.OnlyAdds (act scene call)) : (leaf act).OnlyAdds := by
  intro scene call hs before draft
  rw [leaf, leaf, h scene call hs]

private theorem ofBlock_onlyAdds {act : Scene → Call → Text → Draft → Draft}
    (h : ∀ scene call body, (∀ text, Draft.OnlyAdds (scene.render text)) →
      Draft.OnlyAdds (act scene call body)) : (ofBlock act).OnlyAdds := by
  intro scene call hs before draft
  simp only [ofBlock]
  split
  · rw [h scene call _ hs]
  · rw [Draft.report_behind]

private theorem ofBlockOrRest_onlyAdds {act : Scene → Call → Text → Draft → Draft}
    (h : ∀ scene call body, (∀ text, Draft.OnlyAdds (scene.render text)) →
      Draft.OnlyAdds (act scene call body)) : (ofBlockOrRest act).OnlyAdds := by
  intro scene call hs before draft
  simp only [ofBlockOrRest]
  rw [h scene call _ hs]

end TagAction

open Draft TagAction

private theorem iterate_onlyAdds {scene : Scene} (hs : ∀ text, OnlyAdds (scene.render text))
    (name body : Text) (item : Value) : OnlyAdds (Loop.iterate scene name body · item) := by
  intro before draft
  simp only [Loop.iterate]
  rw [mapContext_behind, hs, mapContext_behind]

private theorem arguments_behind (call : Call) (tokens : List Text) (before draft : Draft) :
    Inclusion.arguments call tokens (before.behind draft) =
      ((Inclusion.arguments call tokens draft).1,
        before.behind (Inclusion.arguments call tokens draft).2) := by
  simp only [Inclusion.arguments]
  generalize ([] : Fields) = fields
  induction tokens generalizing fields draft with
  | nil => rfl
  | cons token tokens ih =>
    simp only [List.foldl_cons, behind_context]
    cases Inclusion.argument draft.context call token with
    | ok found => exact ih _ _
    | error problem =>
      dsimp only
      rw [report_behind]
      exact ih _ _

private theorem renderFile_onlyAdds {scene : Scene} (hs : ∀ text, OnlyAdds (scene.render text))
    (path : Path) (content : Text) (props : Fields) :
    OnlyAdds (Inclusion.renderFile scene path content props) := by
  intro before draft
  simp only [Inclusion.renderFile]
  rw [mapContext_behind, inTemplate_behind (hs content)]
  cases Draft.inTemplate _ scene.refusesCycles path (scene.render content) with
  | ok rendered => rfl
  | error problem =>
    simp only [Except.map]
    rw [report_behind]
    rfl

private theorem wrap_onlyAdds {scene : Scene} (hs : ∀ text, OnlyAdds (scene.render text))
    (name inner : Text) : OnlyAdds (Layout.wrap scene name inner) := by
  intro before draft
  simp only [Layout.wrap, behind_context]
  cases Template.load scene.config scene.files draft.context.site .layout name with
  | error problem =>
    dsimp only
    rw [write_behind, report_behind]
  | ok found =>
    obtain ⟨path, layout⟩ := found
    simp only [Layout.enter]
    rw [mapContext_behind, inTemplate_behind (hs layout)]
    cases Draft.inTemplate _ scene.refusesCycles path (scene.render layout) with
    | ok rendered => rfl
    | error problem =>
      simp only [Except.map]
      rw [write_behind, report_behind]
      rfl

private theorem takePiece_onlyAdds (delimiters : Delimiters) (piece : Slot.Piece) :
    OnlyAdds (Slot.takePiece delimiters · piece) := by
  intro before draft
  cases piece with
  | kept text => rfl
  | filled written content => rfl
  | dropped written => exact report_behind before draft _

private theorem collect_behind (delimiters : Delimiters) (body : Text) (before draft : Draft) :
    Slot.collect delimiters body (before.behind draft) =
      ((Slot.collect delimiters body draft).1,
        before.behind (Slot.collect delimiters body draft).2) := by
  simp only [Slot.collect]
  rw [foldl_behind (takePiece_onlyAdds delimiters)]

private theorem register_onlyAdds (kind : AssetKind) (call : Call) (rendered : Text) :
    OnlyAdds (InlineAsset.register kind call rendered) := by
  intro before draft
  simp only [InlineAsset.register, behind_context]
  split
  · rfl
  · split
    · rfl
    · exact report_behind before draft _

private theorem bind_behind {α : Type} (before : Draft) (found : Except Problem α)
    {f g : α → Except Problem Draft} (h : ∀ a, f a = (g a).map before.behind) :
    (found >>= f) = (found >>= g).map before.behind := by
  cases found with
  | error problem => rfl
  | ok a => exact h a

private theorem imported_behind (files : Files) (call : Call) (before draft : Draft) :
    Import.imported files call (before.behind draft) =
      (Import.imported files call draft).map before.behind := by
  simp only [Import.imported, behind_context]
  split
  · rfl
  · refine bind_behind before _ fun wanted => ?_
    split
    · rfl
    · refine bind_behind before _ fun found => ?_
      cases found with
      | text content => exact congrArg Except.ok (write_behind before draft content)
      | asset asset =>
        exact bind_behind before _ fun asset => bind_behind before _ fun context => rfl

/-! ### One law for each action -/

private theorem Branch.run_onlyAdds : Branch.run.OnlyAdds := by
  apply ofBlock_onlyAdds
  intro scene call body hs before draft
  simp only [behind_context]
  split
  · exact hs _ before draft
  · split
    · exact hs _ before draft
    · rfl
  · exact report_behind before draft _

private theorem Branch.strayElse_onlyAdds : Branch.strayElse.OnlyAdds :=
  leaf_onlyAdds fun _ _ _ before draft => report_behind before draft _

private theorem Loop.run_onlyAdds : Loop.run.OnlyAdds := by
  apply ofBlock_onlyAdds
  intro scene call body hs before draft
  simp only [behind_context]
  split
  · exact foldl_behind (iterate_onlyAdds hs _ _) _ before draft
  · exact report_behind before draft _

private theorem Assignment.run_onlyAdds : Assignment.run.OnlyAdds := by
  apply leaf_onlyAdds
  intro scene call hs before draft
  simp only [behind_context]
  split
  · rfl
  · exact report_behind before draft _

private theorem TagAction.skip_onlyAdds : skip.OnlyAdds :=
  ofBlock_onlyAdds fun _ _ _ _ _ _ => rfl

private theorem Inclusion.run_onlyAdds : Inclusion.run.OnlyAdds := by
  apply leaf_onlyAdds
  intro scene call hs before draft
  split
  · exact report_behind before draft _
  · next name rest _ =>
    simp only [arguments_behind, behind_context]
    generalize Inclusion.arguments call rest draft = read
    split
    · exact renderFile_onlyAdds hs _ _ _ before read.2
    · exact report_behind before read.2 _

private theorem Layout.run_onlyAdds : Layout.run.OnlyAdds := by
  apply ofBlockOrRest_onlyAdds
  intro scene call body hs before draft
  dsimp only
  split
  · rw [report_behind, hs]
  · rw [behind_context]
    split
    · exact hs body before draft
    · rw [capture_behind (hs body)]
      exact wrap_onlyAdds hs _ _ before _

private theorem Layout.place_onlyAdds : Layout.place.OnlyAdds := by
  apply leaf_onlyAdds
  intro scene call hs before draft
  dsimp only
  rw [behind_context, write_behind, mapContext_behind]

private theorem Inheritance.run_onlyAdds : Inheritance.run.OnlyAdds := by
  apply ofBlockOrRest_onlyAdds
  intro scene call body hs before draft
  split
  · exact report_behind before draft _
  · simp only [collect_behind]
    rw [capture_behind (hs _)]
    exact wrap_onlyAdds hs _ _ before _

private theorem Slot.store_onlyAdds : Slot.store.OnlyAdds := by
  apply ofBlock_onlyAdds
  intro scene call body hs before draft
  split
  · rfl
  · exact report_behind before draft _

private theorem Slot.fill_onlyAdds : Slot.fill.OnlyAdds := by
  apply ofBlock_onlyAdds
  intro scene call body hs before draft
  split
  · exact hs _ before draft
  · exact report_behind before draft _

private theorem Import.run_onlyAdds : Import.run.OnlyAdds := by
  apply leaf_onlyAdds
  intro scene call hs before draft
  dsimp only
  rw [imported_behind]
  cases Import.imported scene.files call draft with
  | ok imported => rfl
  | error problem => exact report_behind before draft problem

private theorem InlineAsset.run_onlyAdds (kind : AssetKind) : (InlineAsset.run kind).OnlyAdds := by
  apply ofBlock_onlyAdds
  intro scene call body hs before draft
  simp only [capture_behind (hs body)]
  exact register_onlyAdds _ _ _ before _

private theorem HeadTag.element_onlyAdds (element : Text) : (HeadTag.element element).OnlyAdds := by
  apply leaf_onlyAdds
  intro scene call hs before draft
  split
  · exact report_behind before draft _
  · simp only [behind_context]
    split
    · rfl
    · exact report_behind before draft _

private theorem HeadTag.title_onlyAdds : HeadTag.title.OnlyAdds := by
  apply leaf_onlyAdds
  intro scene call hs before draft
  simp only [behind_context]
  split
  · exact report_behind before draft _
  · split
    · rfl
    · exact report_behind before draft _

private theorem Emission.head_onlyAdds : Emission.head.OnlyAdds :=
  leaf_onlyAdds fun _ _ _ before draft => write_behind before draft _

private theorem Emission.assets_onlyAdds (kind : AssetKind) : (Emission.assets kind).OnlyAdds :=
  leaf_onlyAdds fun _ _ _ before draft => write_behind before draft _

/-- Every built-in tag only adds to the draft if the renders it asks for do. -/
theorem BuiltIn.run_onlyAdds (tag : BuiltIn) : tag.run.OnlyAdds := by
  cases tag with
  | branch => exact Branch.run_onlyAdds
  | strayElse => exact Branch.strayElse_onlyAdds
  | loop => exact Loop.run_onlyAdds
  | assign => exact Assignment.run_onlyAdds
  | comment => exact TagAction.skip_onlyAdds
  | partialFile => exact Inclusion.run_onlyAdds
  | layout => exact Layout.run_onlyAdds
  | passed => exact Layout.place_onlyAdds
  | extend => exact Inheritance.run_onlyAdds
  | slot | define => exact Slot.store_onlyAdds
  | block => exact Slot.fill_onlyAdds
  | importFile => exact Import.run_onlyAdds
  | css => exact InlineAsset.run_onlyAdds .css
  | js => exact InlineAsset.run_onlyAdds .js
  | metaElement => exact HeadTag.element_onlyAdds _
  | linkElement => exact HeadTag.element_onlyAdds _
  | title => exact HeadTag.title_onlyAdds
  | rootHead => exact Emission.head_onlyAdds
  | rootCss => exact Emission.assets_onlyAdds .css
  | rootJs => exact Emission.assets_onlyAdds .js

namespace Engine

variable (settings : Settings)

private theorem runTag_behind {scene : Scene} (hs : ∀ text, OnlyAdds (scene.render text))
    (tag : TagSpan) (following : Text) (before draft : Draft) :
    let turned := (ofSettings settings).runTag scene tag following draft
    (ofSettings settings).runTag scene tag following (before.behind draft) =
      (before.behind turned.1, turned.2) := by
  intro turned
  cases he : tag.isExpression with
  | true =>
    simp only [turned, runTag_expression _ _ _ _ he, behind_context]
    rw [writeOrReport_behind]
  | false =>
    simp only [turned, runTag_ofSettings _ _ _ _ he]
    cases BuiltIn.named? tag.nameAndArguments.1 with
    | none =>
      dsimp only
      rw [report_behind]
    | some builtIn => exact builtIn.run_onlyAdds scene _ hs before draft

theorem scan_behind {scene : Scene} (hs : ∀ text, OnlyAdds (scene.render text))
    (scanner : Scanner) (before draft : Draft) :
    (ofSettings settings).scan scene scanner (before.behind draft) =
      before.behind ((ofSettings settings).scan scene scanner draft) := by
  induction scanner, draft using Engine.scan.induct (ofSettings settings) scene with
  | case1 scanner draft h =>
    rw [scan_of_none _ _ _ h, scan_of_none _ _ _ h]
  | case2 scanner draft position after h =>
    rw [scan_of_unclosed _ _ _ h, scan_of_unclosed _ _ _ h, report_behind]
  | case3 scanner draft text rest h ih =>
    rw [scan_of_text _ _ _ h, scan_of_text _ _ _ h, write_behind, ih]
  | case4 scanner draft tag rest h draft' next hr ih =>
    have ht := runTag_behind settings hs tag rest.rest before draft
    rw [scan_of_tag _ _ _ h, scan_of_tag _ _ _ h, ht, hr, ih]

theorem renderWithin_onlyAdds (files : Files) (levels : Nat) (text : Text) :
    OnlyAdds ((ofSettings settings).renderWithin files levels text) := by
  induction levels generalizing text with
  | zero =>
    intro before draft
    exact report_behind before draft _
  | succ levels ih =>
    intro before draft
    rw [renderWithin_succ, renderWithin_succ, mapContext_behind, scan_behind settings ih,
      mapContext_behind]

/-- A render onto a draft writes and notes behind what is there what it writes and notes on its own,
and so does one whose text is kept out of the output. -/
theorem render_onto (files : Files) (text : Text) (draft : Draft) :
    let alone := (ofSettings settings).render files text draft.context.blank
    (ofSettings settings).render files text draft =
      { context := alone.context, output := draft.output ++ alone.output
        problems := draft.problems ++ alone.problems } ∧
    draft.capture ((ofSettings settings).render files text) =
      (alone.output, { context := alone.context, output := draft.output
                       problems := draft.problems ++ alone.problems }) := by
  intro alone
  have honto (before : Draft) (hc : before.context = draft.context) :
      (ofSettings settings).render files text before = before.behind alone := by
    have hb := renderWithin_onlyAdds settings files
      ((ofSettings settings).config.maxDepth - draft.context.depth) text before before.context.blank
    rw [Draft.behind_blank, hc] at hb
    rw [render, hc, hb]
    rfl
  refine ⟨honto draft rfl, ?_⟩
  simp only [Draft.capture, honto { draft with output := [] } rfl, Draft.behind, List.nil_append]

end Engine
end Stencil
