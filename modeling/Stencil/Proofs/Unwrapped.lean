import Stencil.Proofs.Stack
/-!
# Content that no layout takes

Content is rendered before its layout is looked for. If there is no such layout, or it cannot be
read or is being rendered already, the content is written where the layout would stand and one more
problem is noted. A layout too deep to be rendered loses no content either, since the content was
to be rendered at the same depth.
-/
namespace Stencil

/-! ### Depth -/

/-- The action leaves the depth as it was among renders that do. -/
def TagAction.KeepsDepth (action : TagAction) : Prop :=
  ∀ (scene : Scene) (call : Call) (draft : Draft),
    (∀ text draft, (scene.render text draft).context.depth = draft.context.depth) →
      (action scene call draft).1.context.depth = draft.context.depth

/-- No tag of the engine's own writes to the depth, which counts renders. -/
def Engine.OwnTagsKeepDepth (engine : Engine) : Prop :=
  ∀ name action, engine.tags.get? name = some (.custom action) → action.KeepsDepth

private theorem BuiltIn.run_keepsDepth (tag : BuiltIn) : tag.run.KeepsDepth := by
  intro scene call draft hs
  rw [run_eq_program]
  exact (Machine.sameDepth_law.program_keeps _ _ _ _ _).run hs

namespace Engine

variable {engine : Engine} {scene : Scene}

private theorem ownTagsKeepDepth_ofSettings (settings : Settings) :
    (ofSettings settings).OwnTagsKeepDepth := by
  intro name action h
  obtain ⟨tag, he⟩ := BuiltIn.exists_of_mem_builtIns (Table.mem_of_get? h)
  cases he

private theorem OwnTagsKeepDepth.action (h : engine.OwnTagsKeepDepth) (steps : Nat) {name : Text}
    {tag : Tag} (hget : engine.tags.get? name = some tag) :
    (tag.action engine.tags steps).KeepsDepth := by
  induction steps generalizing name tag with
  | zero =>
    cases tag with
    | builtIn tag => exact tag.run_keepsDepth
    | custom action => exact h name action hget
    | renamed other => exact fun _ _ _ _ => rfl
  | succ steps ih =>
    cases tag with
    | builtIn tag => exact tag.run_keepsDepth
    | custom action => exact h name action hget
    | renamed other =>
      rw [Tag.action]
      split
      · next hother => exact ih hother
      · exact fun _ _ _ _ => rfl

private theorem OwnTagsKeepDepth.runTag (h : engine.OwnTagsKeepDepth)
    (hs : ∀ text draft, (scene.render text draft).context.depth = draft.context.depth)
    (tag : TagSpan) (following : Text) (draft : Draft) :
    (engine.runTag scene tag following draft).1.context.depth = draft.context.depth := by
  cases he : tag.isExpression with
  | true => rw [runTag_expression _ _ _ _ he, Draft.writeOrReport_context]
  | false =>
    simp only [Engine.runTag, he, action?]
    cases hget : engine.tags.get? tag.nameAndArguments.1 with
    | none => rfl
    | some found => exact h.action engine.tags.length hget scene _ draft hs

private theorem OwnTagsKeepDepth.scan (h : engine.OwnTagsKeepDepth)
    (hs : ∀ text draft, (scene.render text draft).context.depth = draft.context.depth)
    (scanner : Scanner) (draft : Draft) :
    (engine.scan scene scanner draft).context.depth = draft.context.depth := by
  induction scanner, draft using Engine.scan.induct engine scene with
  | case1 scanner draft hn => rw [scan_of_none _ _ _ hn]
  | case2 scanner draft position after hn =>
    rw [scan_of_unclosed _ _ _ hn]
    rfl
  | case3 scanner draft text rest hn ih =>
    rw [scan_of_text _ _ _ hn]
    exact ih
  | case4 scanner draft tag rest hn draft' next hr ih =>
    rw [scan_of_tag _ _ _ hn, hr]
    have ht := h.runTag hs tag rest.rest draft
    rw [hr] at ht
    exact ih.trans ht

private theorem OwnTagsKeepDepth.renderWithin (h : engine.OwnTagsKeepDepth) (files : Files)
    (levels : Nat) (text : Text) (draft : Draft) :
    (engine.renderWithin files levels text draft).context.depth = draft.context.depth := by
  induction levels generalizing text draft with
  | zero => rfl
  | succ levels ih =>
    have hscan : (engine.scan (engine.sceneWithin files levels) (.ofText engine.delimiters text)
        (draft.mapContext (·.deeper))).context.depth = draft.context.depth + 1 := h.scan ih _ _
    rw [renderWithin_succ]
    exact congrArg (· - 1) hscan

private theorem OwnTagsKeepDepth.sceneWithin (h : engine.OwnTagsKeepDepth) (files : Files)
    (levels : Nat) (text : Text) (draft : Draft) :
    ((engine.sceneWithin files levels).render text draft).context.depth = draft.context.depth :=
  h.renderWithin files levels text draft

private theorem sceneWithin_refuses (engine : Engine) (files : Files) {depth : Nat}
    (hd : engine.config.maxDepth ≤ depth) (text : Text) (draft : Draft) :
    (engine.sceneWithin files (engine.config.maxDepth - depth)).render text draft =
      draft.report (.depthExceeded engine.config.maxDepth draft.context.templateLabel) := by
  rw [Nat.sub_eq_zero_of_le hd]
  rfl

end Engine

namespace Layout

variable {scene : Scene} {call : Call} {draft start : Draft} {name text : Text} {tag : BuiltIn}
  {problem : Problem}

/-! ### Layouts that are not entered -/

/-- The layout cannot be entered: there is no file of its name, the file cannot be read, or it is
being rendered with the arguments in force. -/
inductive Barred (scene : Scene) (name : Text) (context : Context) : Problem → Prop
  | absent :
    (∀ path ∈ Template.candidates scene.config context.site .layout name,
      scene.files.isFile path = false) →
    Barred scene name context (.templateNotFound .layout (Template.nameOf name)
      (Template.candidates scene.config context.site .layout name))
  | unreadable {path : Path} {cause : ReadError} :
    Template.locate scene.config scene.files context.site .layout name = .ok path →
    scene.files.read path = .error cause → Barred scene name context (.unreadable path cause)
  | held {path : Path} {layout : Text} :
    Template.load scene.config scene.files context.site .layout name = .ok (path, layout) →
    context.Holds path → Barred scene name context (context.cycleAt path)

private theorem wrap_of_loaded {path : Path} {layout : Text}
    (h : Template.load scene.config scene.files draft.context.site .layout name =
      .ok (path, layout)) (inner : Text) :
    wrap scene name inner draft = enter scene path layout inner draft := by
  simp only [wrap, h]

private theorem wrap_of_barred (hc : scene.refusesCycles = true)
    (h : Barred scene name draft.context problem) (inner : Text) :
    wrap scene name inner draft = (draft.write inner).report problem := by
  cases h with
  | absent hfile =>
    have hnone : (Template.candidates scene.config draft.context.site .layout name).find?
        scene.files.isFile = none :=
      List.find?_eq_none.mpr fun path hp => by simp [hfile path hp]
    simp only [wrap, Template.load, Template.locate, hnone]
    rfl
  | @unreadable path cause hlocate hread =>
    have hunread : Template.read scene.files path = .error (.unreadable path cause) := by
      simp only [Template.read, hread]
    have hload : Template.load scene.config scene.files draft.context.site .layout name =
        .error (.unreadable path cause) := by
      rw [Template.load, hlocate]
      change (Template.read scene.files path).bind _ = _
      rw [hunread]
      rfl
    simp only [wrap, hload]
  | held hload hheld => rw [wrap_of_loaded hload, enter_of_holds hc hheld]

private theorem wrap_of_refused {path : Path} {layout : Text} {limit : Nat}
    (hc : scene.refusesCycles = true)
    (hload : Template.load scene.config scene.files draft.context.site .layout name =
      .ok (path, layout))
    (hn : ¬ draft.context.Holds path)
    (hr : ∀ draft, scene.render layout draft =
      draft.report (.depthExceeded limit draft.context.templateLabel)) (inner : Text) :
    wrap scene name inner draft = draft.report (.depthExceeded limit path) := by
  have hn' : ¬ (draft.mapContext fun context => { context with passed := some inner }).context.Holds
      path := hn
  rw [wrap_of_loaded hload]
  simp only [enter, hc, Draft.inTemplate_of_not_holds hn', hr]
  rfl

private theorem Barred.congr {a b : Context} (hsite : b.site = a.site)
    (hactive : b.active = a.active) (hprops : b.props = a.props) (h : Barred scene name a problem) :
    Barred scene name b problem := by
  cases h with
  | absent hfile =>
    rw [← hsite] at hfile ⊢
    exact .absent hfile
  | unreadable hlocate hread =>
    rw [← hsite] at hlocate
    exact .unreadable hlocate hread
  | @held path layout hload hheld =>
    have hcycle : a.cycleAt path = b.cycleAt path := by rw [Context.cycleAt, ← hactive]; rfl
    rw [← hsite] at hload
    rw [hcycle]
    exact .held hload (by rwa [Context.Holds, hactive, hprops])

/-! ### Tags with content for a layout -/

/-- The tag renders the text from `start` on, which has no output yet, and puts what it comes to
into the layout of that name. -/
inductive Wraps (scene : Scene) (call : Call) (draft : Draft) :
    BuiltIn → (name text : Text) → (start : Draft) → Prop
  | layout {name : Text} : call.firstName? = some name →
    draft.context.bypassesLayouts scene.config.bypassHeader = false →
    Wraps scene call draft .layout name (call.blockOrRest scene.delimiters).body
      { draft with output := [] }
  | extend {name rest : Text} {collected : Draft} : call.firstName? = some name →
    Slot.collect scene.delimiters (call.blockOrRest scene.delimiters).body draft =
      (rest, collected) →
    Wraps scene call draft .extend name (Text.trim rest) { collected with output := [] }

private theorem Wraps.output_eq_nil (h : Wraps scene call draft tag name text start) :
    start.output = [] := by
  cases h <;> rfl

private theorem collect_output (delimiters : Delimiters) (body : Text) (draft : Draft) :
    (Slot.collect delimiters body draft).2.output = draft.output := by
  simp only [Slot.collect]
  generalize Slot.pieces delimiters body = pieces
  induction pieces generalizing draft with
  | nil => rfl
  | cons piece pieces ih =>
    rw [List.foldl_cons, ih]
    cases piece <;> rfl

private theorem Wraps.run_eq (h : Wraps scene call draft tag name text start) :
    let inner := scene.render text start
    tag.run scene call draft =
      (wrap scene name inner.output { inner with output := draft.output },
        (call.blockOrRest scene.delimiters).next) := by
  cases h with
  | layout hname hbypass =>
    simp only [BuiltIn.run, run, TagAction.ofBlockOrRest, hname, hbypass, Draft.capture]
    rfl
  | @extend _ rest collected hname hcollect =>
    have houtput : collected.output = draft.output := by
      rw [← collect_output scene.delimiters (call.blockOrRest scene.delimiters).body draft,
        hcollect]
    simp only [BuiltIn.run, Inheritance.run, TagAction.ofBlockOrRest, hname, hcollect,
      Draft.capture, ← houtput]

private theorem Wraps.framed {settings : Settings} {files : Files} {levels : Nat}
    (hs : scene = (Engine.ofSettings settings).sceneWithin files levels)
    (h : Wraps scene call draft tag name text start) :
    draft.context.Framed (scene.render text start).context := by
  have hrender := Context.Framed.law.sceneWithin settings files levels text start
  rw [← hs] at hrender
  cases h with
  | layout => exact hrender
  | extend _ hcollect =>
    have hframed := Context.Framed.law.collecting scene.delimiters
      (call.blockOrRest scene.delimiters).body draft
    rw [hcollect] at hframed
    exact Context.Framed.law.trans hframed hrender

private theorem Wraps.start_depth (h : Wraps scene call draft tag name text start) :
    start.context.depth = draft.context.depth := by
  cases h with
  | layout => rfl
  | extend _ hcollect =>
    have hdepth := Machine.sameDepth_law.collecting scene.delimiters
      (call.blockOrRest scene.delimiters).body draft
    rw [hcollect] at hdepth
    exact hdepth

/-- Content whose layout cannot be entered is written alone, with what its rendering did to the
context and one problem more. With built-in tags a layout can be entered behind its content if it
could in front of it. A layout beyond the depth limit has no content, which was beyond it too. -/
theorem run_unwrapped (hc : scene.refusesCycles = true)
    (h : Wraps scene call draft tag name text start) :
    let inner := scene.render text start
    let next := (call.blockOrRest scene.delimiters).next
    (∀ problem, Barred scene name inner.context problem →
      tag.run scene call draft =
        ({ inner with
            output := draft.output ++ inner.output
            problems := inner.problems ++ [problem] }, next)) ∧
    (∀ settings files levels, scene = (Engine.ofSettings settings).sceneWithin files levels →
      ∀ problem, Barred scene name inner.context problem ↔
        Barred scene name draft.context problem) ∧
    ∀ (engine : Engine) (files : Files), engine.OwnTagsKeepDepth →
      scene = engine.sceneWithin files (engine.config.maxDepth - draft.context.depth) →
      ∀ path layout,
        Template.load scene.config scene.files inner.context.site .layout name =
          .ok (path, layout) →
        ¬ inner.context.Holds path → engine.config.maxDepth ≤ inner.context.depth →
          inner = start.report
            (.depthExceeded engine.config.maxDepth start.context.templateLabel) ∧
          inner.output = [] ∧
          tag.run scene call draft =
            ({ inner with
                output := draft.output
                problems := inner.problems ++ [.depthExceeded engine.config.maxDepth path] },
              next) := by
  intro inner next
  refine ⟨fun problem hb => ?_, fun settings files levels hs problem => ?_, ?_⟩
  · have hb' : Barred scene name { inner with output := draft.output }.context problem := hb
    rw [h.run_eq, wrap_of_barred hc hb']
    rfl
  · have hf := h.framed hs
    exact ⟨.congr hf.site.symm hf.active.symm hf.props.symm, .congr hf.site hf.active hf.props⟩
  · intro engine files hown hs path layout hload hheld hdepth
    have hkept : inner.context.depth = draft.context.depth := by
      have hrender := hown.sceneWithin files (engine.config.maxDepth - draft.context.depth) text
        start
      rw [← hs, h.start_depth] at hrender
      exact hrender
    have hrefuses : ∀ text draft, scene.render text draft =
        draft.report (.depthExceeded engine.config.maxDepth draft.context.templateLabel) := by
      rw [hs]
      exact engine.sceneWithin_refuses files (hkept ▸ hdepth)
    have hinner : inner = start.report _ := hrefuses text start
    have hwrap : wrap scene name inner.output { inner with output := draft.output } =
        { inner with output := draft.output }.report
          (.depthExceeded engine.config.maxDepth path) := by
      refine wrap_of_refused hc ?_ ?_ (hrefuses layout) inner.output
      · exact hload
      · exact hheld
    exact ⟨hinner, (congrArg Draft.output hinner).trans h.output_eq_nil,
      h.run_eq.trans (congrArg (·, next) hwrap)⟩

/-- A layout that contains itself, and one that is met at the depth limit. -/
theorem run_unwrapped_recursive :
    let path : Path := "./layouts/a.hstm"
    let engine := Engine.standard
    let files : Files := .ofKnown [(path, .ok "[\x7b% passed %\x7d]")]
    let call : Call := {
      name := "layout"
      arguments := "a"
      start := 0
      stop := 14
      following := "é\x7b% end-layout %\x7d!" }
    let scene := engine.sceneWithin files 63
    let inside : Draft := {
      context := { site := ".", active := [(path, [])], depth := 1 }
      output := ">" }
    let inner := scene.render "é" { inside with output := [] }
    let deepest : Draft := { context := { site := ".", depth := 64 }, output := ">" }
    Layout.run scene call inside =
        ({ inner with
            output := ">" ++ inner.output
            problems := inner.problems ++ [.cycle path [path, path]] }, 32) ∧
      Layout.run (engine.sceneWithin files 0) call deepest =
        ({ deepest with
            problems := [.depthExceeded 64 "<inline template>", .depthExceeded 64 path] }, 32) := by
  intro path engine files call scene inside inner deepest
  have hname : call.firstName? = some ("a" : Text) := by decide
  have hbody : (call.blockOrRest Delimiters.standard).body = ("é" : Text) := by decide
  have hnext : (call.blockOrRest Delimiters.standard).next = 32 := by decide
  have hload (context : Context) (hs : context.site = ".") :
      Template.load engine.config files context.site .layout "a" =
        .ok (path, ("[\x7b% passed %\x7d]" : Text)) := by
    rw [hs]
    rfl
  constructor
  · have hwraps : Wraps scene call inside .layout "a" "é" { inside with output := [] } :=
      hbody ▸ .layout hname rfl
    have hheld : inside.context.Holds path := ⟨(path, []), List.mem_singleton.mpr rfl, rfl, rfl⟩
    obtain ⟨hbarred, hsame, -⟩ := run_unwrapped rfl hwraps
    have hb := (hsame engine.toSettings files 63 rfl _).mpr (.held (hload inside.context rfl) hheld)
    rw [← hnext]
    exact hbarred _ hb
  · have hwraps : Wraps (engine.sceneWithin files 0) call deepest .layout "a" "é"
        { deepest with output := [] } := hbody ▸ .layout hname rfl
    obtain ⟨-, -, hdeep⟩ := run_unwrapped rfl hwraps
    obtain ⟨hinner, -, hrun⟩ := hdeep engine files
      (Engine.ownTagsKeepDepth_ofSettings engine.toSettings) rfl path _
      (hload _ rfl) (Context.not_holds_of_no_active rfl path) (Nat.le_refl 64)
    rw [← hnext]
    exact hrun

end Layout
end Stencil
