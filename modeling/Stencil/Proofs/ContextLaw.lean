import Stencil.Proofs.Program
/-!
# Laws of the context

All that built-in tags do to a context is a handful of changes, some of them undone again behind a
render. A relation between contexts that respects each of these changes holds between the contexts
in front of and behind every render.
-/
namespace Stencil

theorem exists_of_bind_eq_ok {ε α β : Type} {x : Except ε α} {f : α → Except ε β} {r : β}
    (h : (x >>= f) = .ok r) : ∃ a, x = .ok a ∧ f a = .ok r := by
  cases x with
  | error e => cases h
  | ok a => exact ⟨a, rfl, h⟩

/-! ### What is done to the registry -/

theorem AssetTag.add_of_register {context context' : Context} {asset : Asset}
    {dependencies : List Text} (h : register context asset dependencies = .ok context') :
    ∃ added assets, context.assets.add asset dependencies = .ok (added, assets) ∧
      context' = { context with assets } := by
  unfold register at h
  split at h
  · next hadd =>
    cases h
    exact ⟨_, _, hadd, rfl⟩
  · cases h

/-- An import writes text, maybe none, or registers the asset that it finds. -/
theorem Import.imported_cases {files : Files} {call : Call} {draft draft' : Draft}
    (h : imported files call draft = .ok draft') :
    (∃ text, draft' = draft.write text) ∨ ∃ path found asset context,
      let options := Options.ofTokens call.tokens
      (options.positional.orElse fun _ => options.get? "path") = some path ∧
        find files call options draft.context path = .ok (.asset found) ∧
        AssetTag.withOptions call options found = .ok asset ∧
        AssetTag.register draft.context asset (options.get? "after").toList = .ok context ∧
        draft' = { draft with context } := by
  unfold imported at h
  dsimp only at h
  split at h
  · cases h
  · next path hpath =>
    obtain ⟨wanted, -, h⟩ := exists_of_bind_eq_ok h
    split at h
    · cases h
      exact .inl ⟨[], (Draft.write_nil draft).symm⟩
    · obtain ⟨found, hfound, h⟩ := exists_of_bind_eq_ok h
      cases found with
      | text content =>
        cases h
        exact .inl ⟨content, rfl⟩
      | asset asset =>
        obtain ⟨given, hgiven, h⟩ := exists_of_bind_eq_ok h
        obtain ⟨context, hr, h⟩ := exists_of_bind_eq_ok h
        cases h
        exact .inr ⟨path, asset, given, context, hpath, hfound, hgiven, hr, rfl⟩

/-! ### Laws -/

/-- The relation keeps the depth and respects every change that a built-in tag makes. -/
structure ContextLaw (law : Context → Context → Prop) : Prop where
  depth_eq {a b : Context} : law a b → b.depth = a.depth
  refl (c : Context) : law c c
  trans {a b c : Context} : law a b → law b c → law a c
  assign {c c' : Context} {path : Text} {value : Value} : c.assign? path value = some c' → law c c'
  place (c : Context) : law c { c with passed := none }
  storeBlock (c : Context) (name content : Text) : law c (c.storeBlock name content)
  register {c : Context} {asset : Asset} {dependencies : List Text} {added : Bool}
    {assets : AssetRegistry} :
    c.assets.add asset dependencies = .ok (added, assets) → law c { c with assets }
  addElement (c : Context) (element : HeadElement) : law c (HeadTag.addElement c element)
  inScope {c c' : Context} (scope : Fields) : law (c.pushScope scope) c' → law c c'.popScope
  withProps {c c' : Context} (props : Fields) :
    law { c with props } c' → law c { c' with props := c.props }
  withPassed {c c' : Context} (passed : Option Text) :
    law { c with passed } c' → law c { c' with passed := c.passed }
  inTemplate {c c' : Context} (path : Path) : law (c.enter path) c' → law c (c'.leave c)
  deeper {c c' : Context} : law c.deeper c' → law c c'.shallower

/-- From the context `before` on, the program respects the law if the renders it asks for do, and
it asks for them at the depth it was started at. -/
inductive Program.Keeps (law : Context → Context → Prop) (before : Context) : Program → Prop
  | done {draft : Draft} : law before draft.context → Keeps law before (.done draft)
  | render {text : Text} {draft : Draft} {next : Draft → Program} :
    draft.context.depth = before.depth →
    (∀ answer, law draft.context answer.context → Keeps law before (next answer)) →
    Keeps law before (.render text draft next)

namespace Program.Keeps

variable {law : Context → Context → Prop}

theorem run {program : Program} {before : Context} (h : program.Keeps law before)
    {answer : Text → Draft → Draft}
    (ha : ∀ text draft, law draft.context (answer text draft).context) :
    law before (program.run answer).context := by
  induction h with
  | done h => exact h
  | render _ _ ih => exact ih _ (ha _ _)

private theorem last (hl : ContextLaw law) (text : Text) {before : Context} {draft : Draft}
    (h : law before draft.context) (hd : draft.context.depth = before.depth) :
    (Program.render text draft .done).Keeps law before :=
  .render hd fun _ ha => .done (hl.trans h ha)

end Program.Keeps

namespace ContextLaw

variable {law : Context → Context → Prop} (hl : ContextLaw law)
variable (settings : Settings) (files : Files) (call : Call)

theorem arguments_context (tokens : List Text) (draft : Draft) :
    (Inclusion.arguments call tokens draft).2.context = draft.context := by
  simp only [Inclusion.arguments]
  generalize ([] : Fields) = fields
  induction tokens generalizing fields draft with
  | nil => rfl
  | cons token tokens ih =>
    simp only [List.foldl_cons]
    split
    · exact ih _ _
    · exact ih _ _

private theorem still {action : TagAction} (draft : Draft)
    (h : ∀ scene, law draft.context (action scene call draft).1.context) :
    (TagProgram.still action settings files call draft).1.Keeps law draft.context := .done (h _)

include hl

/-! ### Tags that ask for no render -/

private theorem assignment (filters : Table Filter) {c c' : Context}
    (h : Assignment.assigned filters call c = .ok c') : law c c' := by
  simp only [Assignment.assigned] at h
  split at h
  · simp at h
  · split at h
    · obtain ⟨_, hthrow, -⟩ := exists_of_bind_eq_ok h
      cases hthrow
    · obtain ⟨value, -, h⟩ := exists_of_bind_eq_ok h
      split at h
      · next ha => cases h; exact hl.assign ha
      · cases h

private theorem registration {c c' : Context} {asset : Asset} {dependencies : List Text}
    (h : AssetTag.register c asset dependencies = .ok c') : law c c' := by
  obtain ⟨added, assets, hadd, rfl⟩ := AssetTag.add_of_register h
  exact hl.register hadd

private theorem imported {draft draft' : Draft}
    (h : Import.imported files call draft = .ok draft') : law draft.context draft'.context := by
  rcases Import.imported_cases h with ⟨text, rfl⟩ | ⟨_, _, _, context, -, -, -, hr, rfl⟩
  · exact hl.refl _
  · exact hl.registration hr

theorem inlineAsset (kind : AssetKind) (rendered : Text) (draft : Draft) :
    law draft.context (InlineAsset.register kind call rendered draft).context := by
  simp only [InlineAsset.register]
  split
  · exact hl.refl _
  · split
    · next h =>
      obtain ⟨asset, -, hr⟩ := exists_of_bind_eq_ok h
      exact hl.registration hr
    · exact hl.refl _

theorem collecting (delimiters : Delimiters) (body : Text) (draft : Draft) :
    law draft.context (Slot.collect delimiters body draft).2.context := by
  simp only [Slot.collect]
  generalize Slot.pieces delimiters body = pieces
  induction pieces generalizing draft with
  | nil => exact hl.refl _
  | cons piece pieces ih =>
    refine hl.trans ?_ (ih _)
    cases piece with
    | kept text => exact hl.refl _
    | filled written content => exact hl.storeBlock _ _ _
    | dropped written => exact hl.refl _

private theorem assigning (draft : Draft) :
    (TagProgram.still Assignment.run settings files call draft).1.Keeps law draft.context := by
  apply still
  intro scene
  simp only [Assignment.run, TagAction.leaf]
  split
  · next h => exact hl.assignment _ _ h
  · exact hl.refl _

private theorem importing (draft : Draft) :
    (TagProgram.still Import.run settings files call draft).1.Keeps law draft.context := by
  apply still
  intro scene
  simp only [Import.run, TagAction.leaf]
  split
  · next h => exact hl.imported _ _ h
  · exact hl.refl _

private theorem skipping (draft : Draft) :
    (TagProgram.still TagAction.skip settings files call draft).1.Keeps law draft.context := by
  apply still
  intro scene
  simp only [TagAction.skip, TagAction.ofBlock]
  split <;> exact hl.refl _

private theorem storing (draft : Draft) :
    (TagProgram.still Slot.store settings files call draft).1.Keeps law draft.context := by
  apply still
  intro scene
  simp only [Slot.store, TagAction.ofBlock]
  split
  · split
    · exact hl.storeBlock _ _ _
    · exact hl.refl _
  · exact hl.refl _

private theorem headElement (name : Text) (draft : Draft) :
    (TagProgram.still (HeadTag.element name) settings files call draft).1.Keeps law
      draft.context := by
  apply still
  intro scene
  simp only [HeadTag.element, TagAction.leaf]
  split
  · exact hl.refl _
  · split
    · exact hl.addElement _ _
    · exact hl.refl _

private theorem titling (draft : Draft) :
    (TagProgram.still HeadTag.title settings files call draft).1.Keeps law draft.context := by
  apply still
  intro scene
  simp only [HeadTag.title, TagAction.leaf]
  split
  · exact hl.refl _
  · split
    · exact hl.addElement _ _
    · exact hl.refl _

/-! ### Tags that ask for renders -/

private theorem ofBlock {act : Settings → Call → Text → Draft → Program} (draft : Draft)
    (h : ∀ body, (act settings call body draft).Keeps law draft.context) :
    (TagProgram.ofBlock act settings files call draft).1.Keeps law draft.context := by
  simp only [TagProgram.ofBlock]
  split
  · exact h _
  · exact .done (hl.refl _)

private theorem branch (draft : Draft) :
    (TagProgram.branch settings files call draft).1.Keeps law draft.context := by
  apply hl.ofBlock
  intro body
  dsimp only
  split
  · exact .last hl _ (hl.refl _) rfl
  · split
    · exact .last hl _ (hl.refl _) rfl
    · exact .done (hl.refl _)
  · exact .done (hl.refl _)

private theorem iterations (name body : Text) (items : List Value) (before : Context)
    (draft : Draft) (h : law before draft.context) :
    (TagProgram.iterations name body items draft).Keeps law before := by
  induction items generalizing draft with
  | nil => exact .done h
  | cons item items ih =>
    have hd : draft.context.depth = before.depth := hl.depth_eq h
    exact .render hd fun answer ha => ih _ (hl.trans h (hl.inScope _ ha))

private theorem loop (draft : Draft) :
    (TagProgram.loop settings files call draft).1.Keeps law draft.context := by
  apply hl.ofBlock
  intro body
  dsimp only
  split
  · exact hl.iterations _ _ _ _ _ (hl.refl _)
  · exact .done (hl.refl _)

private theorem inclusion (draft : Draft) :
    (TagProgram.inclusion settings files call draft).1.Keeps law draft.context := by
  simp only [TagProgram.inclusion, TagProgram.leaf]
  split
  · exact .done (hl.refl _)
  · next name rest _ =>
    have hc := arguments_context call rest draft
    generalize Inclusion.arguments call rest draft = read at hc
    obtain ⟨props, inside⟩ := read
    dsimp only at hc ⊢
    rw [← hc]
    split
    · exact .done (hl.refl _)
    · simp only [Program.inTemplate]
      split
      · exact .done (hl.refl _)
      · exact .render rfl fun answer ha => .done (hl.withProps _ (hl.inTemplate _ ha))

private theorem wrap (name inner : Text) (before : Context) (draft : Draft)
    (h : law before draft.context) :
    (TagProgram.wrap settings files name inner draft).Keeps law before := by
  simp only [TagProgram.wrap]
  split
  · exact .done h
  · simp only [Program.inTemplate]
    split
    · exact .done h
    · have hd : draft.context.depth = before.depth := hl.depth_eq h
      exact .render hd fun answer ha => .done (hl.trans h (hl.withPassed _ (hl.inTemplate _ ha)))

private theorem layout (draft : Draft) :
    (TagProgram.layout settings files call draft).1.Keeps law draft.context := by
  simp only [TagProgram.layout, TagProgram.ofBlockOrRest]
  split
  · exact .last hl _ (hl.refl _) rfl
  · split
    · exact .last hl _ (hl.refl _) rfl
    · exact .render rfl fun answer ha => hl.wrap _ _ _ _ _ _ ha

private theorem extend (draft : Draft) :
    (TagProgram.extend settings files call draft).1.Keeps law draft.context := by
  simp only [TagProgram.extend, TagProgram.ofBlockOrRest]
  split
  · exact .done (hl.refl _)
  · have hc := hl.collecting settings.delimiters (call.blockOrRest settings.delimiters).body draft
    exact .render (hl.depth_eq hc) fun answer ha => hl.wrap _ _ _ _ _ _ (hl.trans hc ha)

private theorem fill (draft : Draft) :
    (TagProgram.fill settings files call draft).1.Keeps law draft.context := by
  apply hl.ofBlock
  intro body
  split
  · exact .last hl _ (hl.refl _) rfl
  · exact .done (hl.refl _)

private theorem inlineAssets (kind : AssetKind) (draft : Draft) :
    (TagProgram.inlineAsset kind settings files call draft).1.Keeps law draft.context := by
  refine hl.ofBlock _ _ _ _ fun body => .render rfl fun answer ha => .done (hl.trans ha ?_)
  exact hl.inlineAsset call kind answer.output { answer with output := draft.output }

/-- The program of a built-in tag respects the law. -/
theorem program_keeps (tag : BuiltIn) (draft : Draft) :
    (tag.program settings files call draft).1.Keeps law draft.context := by
  cases tag with
  | branch => exact hl.branch settings files call draft
  | loop => exact hl.loop settings files call draft
  | partialFile => exact hl.inclusion settings files call draft
  | layout => exact hl.layout settings files call draft
  | extend => exact hl.extend settings files call draft
  | block => exact hl.fill settings files call draft
  | css => exact hl.inlineAssets settings files call .css draft
  | js => exact hl.inlineAssets settings files call .js draft
  | assign => exact hl.assigning settings files call draft
  | importFile => exact hl.importing settings files call draft
  | comment => exact hl.skipping settings files call draft
  | slot | define => exact hl.storing settings files call draft
  | metaElement | linkElement => exact hl.headElement settings files call _ draft
  | title => exact hl.titling settings files call draft
  | passed => exact .done (hl.place _)
  | strayElse | rootHead | rootCss | rootJs => exact .done (hl.refl _)

/-! ### Renders -/

theorem runTag {scene : Scene}
    (hs : ∀ text draft, law draft.context (scene.render text draft).context)
    (tag : TagSpan) (following : Text) (draft : Draft) :
    law draft.context
      ((Engine.ofSettings settings).runTag scene tag following draft).1.context := by
  cases he : tag.isExpression with
  | true =>
    rw [Engine.runTag_expression _ _ _ _ he, Draft.writeOrReport_context]
    exact hl.refl _
  | false =>
    rw [Engine.runTag_ofSettings _ _ _ _ he]
    split
    · exact hl.refl _
    · rw [BuiltIn.run_eq_program]
      exact (hl.program_keeps _ _ _ _ _).run hs

theorem scan {scene : Scene}
    (hs : ∀ text draft, law draft.context (scene.render text draft).context)
    (scanner : Scanner) (draft : Draft) :
    law draft.context ((Engine.ofSettings settings).scan scene scanner draft).context := by
  induction scanner, draft using Engine.scan.induct (Engine.ofSettings settings) scene with
  | case1 scanner draft h =>
    rw [Engine.scan_of_none _ _ _ h]
    exact hl.refl _
  | case2 scanner draft position after h =>
    rw [Engine.scan_of_unclosed _ _ _ h]
    exact hl.refl _
  | case3 scanner draft text rest h ih =>
    rw [Engine.scan_of_text _ _ _ h]
    exact ih
  | case4 scanner draft tag rest h draft' next hr ih =>
    rw [Engine.scan_of_tag _ _ _ h, hr]
    have ht := hl.runTag settings hs tag rest.rest draft
    rw [hr] at ht
    exact hl.trans ht ih

theorem renderWithin (levels : Nat) (text : Text) (draft : Draft) :
    law draft.context
      ((Engine.ofSettings settings).renderWithin files levels text draft).context := by
  induction levels generalizing text draft with
  | zero => exact hl.refl _
  | succ levels ih => exact hl.deeper (hl.scan settings ih _ (draft.mapContext (·.deeper)))

theorem sceneWithin (levels : Nat) (text : Text) (draft : Draft) :
    law draft.context
      (((Engine.ofSettings settings).sceneWithin files levels).render text draft).context :=
  hl.renderWithin settings files levels text draft

/-- A law of the context holds between the contexts in front of and behind a render. -/
theorem render (text : Text) (draft : Draft) :
    law draft.context ((Engine.ofSettings settings).render files text draft).context :=
  hl.renderWithin settings files _ text draft

end ContextLaw
end Stencil
