import Stencil.Proofs.Sheet
/-!
# Chains of templates

A template may extend a layout that extends the next one, and so on. Each of them stores its slots
in front of those of the layouts above it and passes the rest of itself on, so a block at the end of
the chain shows what the nearest template says about it.
-/
namespace Stencil

open Balance Spelling Engine

/-! ### Stored slots -/

namespace Context

theorem storeBlocks_eq (context : Context) (slots : List (Text × Text)) :
    context.storeBlocks slots = { context with blocks := (context.storeBlocks slots).blocks } := by
  induction slots generalizing context with
  | nil => rfl
  | cons slot slots ih =>
    rw [storeBlocks, List.foldl_cons]
    refine (ih (context.storeBlock slot.1 slot.2)).trans ?_
    rw [storeBlock]
    split <;> rfl

private theorem blocks_storeBlocks {context other : Context} (h : context.blocks = other.blocks)
    (slots : List (Text × Text)) :
    (context.storeBlocks slots).blocks = (other.storeBlocks slots).blocks := by
  induction slots generalizing context other with
  | nil => exact h
  | cons slot slots ih =>
    refine ih ?_
    simp only [storeBlock, h]
    split
    · exact h
    · rfl

theorem storeBlocks_append (context : Context) (slots slots' : List (Text × Text)) :
    context.storeBlocks (slots ++ slots') = (context.storeBlocks slots).storeBlocks slots' :=
  List.foldl_append

theorem storeBlocks_passed (context : Context) (passed : Option Text)
    (slots : List (Text × Text)) :
    Context.storeBlocks { context with passed } slots =
      { context.storeBlocks slots with passed } := by
  have hsame : Context.blocks { context with passed } = context.blocks := rfl
  rw [storeBlocks_eq, storeBlocks_eq context, blocks_storeBlocks hsame]

theorem shallower_storeBlocks (context : Context) (slots : List (Text × Text)) :
    (context.deeper.storeBlocks slots).shallower = context.storeBlocks slots := by
  have hsame : context.deeper.blocks = context.blocks := rfl
  rw [storeBlocks_eq, storeBlocks_eq context, blocks_storeBlocks hsame]
  rfl

theorem get?_storeBlocks (context : Context) (slots : List (Text × Text)) (name : Text) :
    (context.storeBlocks slots).blocks.get? name =
      (context.blocks.get? name).or (Table.get? name slots) := by
  induction slots generalizing context with
  | nil => simp [storeBlocks, Table.get?]
  | cons slot slots ih =>
    obtain ⟨key, content⟩ := slot
    rw [storeBlocks, List.foldl_cons]
    refine (ih (context.storeBlock key content)).trans ?_
    rw [storeBlock, Table.has, Table.get?]
    by_cases he : key = name
    · subst he
      cases hg : Table.get? key context.blocks with
      | none => simp [Table.get?_set_self]
      | some stored => simp [hg]
    · have hset := Table.get?_set_of_ne (Ne.symm he) content context.blocks
      rw [if_neg he]
      split
      · rfl
      · rw [hset]

end Context

theorem Context.PlainBlocks.storeBlocks {context : Context} (h : context.PlainBlocks)
    (sheet : Sheet) : (context.storeBlocks sheet.regions).PlainBlocks := by
  intro name t ht
  rw [Context.get?_storeBlocks, Option.or_eq_some_iff] at ht
  rcases ht with ht | ⟨-, ht⟩
  · exact h name t ht
  · obtain ⟨part, -, hp⟩ := List.mem_filterMap.mp (Table.mem_of_get? ht)
    cases part with
    | text t => cases hp
    | passed => cases hp
    | region name content =>
      cases hp
      exact content.no_brace

/-! ### One template that extends another -/

/-- A template that extends a layout, with what it says about the name of the layout. -/
structure Derived where
  parent : Inside
  sheet : Sheet

theorem Sheet.crosses_extends (sheet : Sheet) (tag : BodyTag) :
    Crosses (closingWalk "extends") (sheet.written tag) 0 0 := by
  have hcross := Passage.crosses_closing .extend (by decide) (sheet.commentsCrossed tag _ _ 0)
  rw [Sheet.written_passage] at hcross
  exact hcross

namespace Derived

def written (derived : Derived) : Text :=
  opening "extends" derived.parent.text ++ derived.sheet.written slotTag

/-- The name of the layout that is extended. -/
def parentName? (derived : Derived) : Option Text :=
  Call.firstName? ⟨"extends", Text.trim derived.parent.text, 0, 0, []⟩

/-- The part of a template that is rendered and passed on. -/
def rest (derived : Derived) : Sheet := derived.sheet.remainder.trimmed

/-- What a template passes on, given what is passed to it. -/
def relayed (derived : Derived) (passed : Text) : Text :=
  derived.rest.filled (fun _ => none) passed

/-- The context in which the layout of a template is rendered. -/
def above (derived : Derived) (path : Path) (context : Context) : Context :=
  Context.enter
    { context.storeBlocks derived.sheet.regions with
      passed := some (derived.relayed (context.passed.getD [])) } path

private theorem filled_rest (derived : Derived) (held : Text → Option Text) (passed : Text) :
    derived.rest.filled held passed = derived.relayed passed := by
  refine Sheet.filled_of_no_region ?_ _ _ _
  rw [rest, Sheet.regions_trimmed, Sheet.regions_remainder]

theorem leave_storeBlocks_above (derived : Derived) (path : Path) (context : Context)
    (slots : List (Text × Text)) :
    ((derived.above path context).storeBlocks slots).leave context =
      { context.storeBlocks (derived.sheet.regions ++ slots) with
        passed := some (derived.relayed (context.passed.getD [])) } := by
  have hblocks : ((derived.above path context).storeBlocks slots).blocks =
      (context.storeBlocks (derived.sheet.regions ++ slots)).blocks := by
    have hfront : (derived.above path context).blocks =
        (context.storeBlocks derived.sheet.regions).blocks := rfl
    rw [Context.storeBlocks_append]
    exact Context.blocks_storeBlocks hfront slots
  rw [Context.storeBlocks_eq, Context.storeBlocks_eq context, hblocks, above, Context.enter,
    Context.storeBlocks_eq context derived.sheet.regions]
  rfl

private theorem above_site (derived : Derived) (path : Path) (context : Context) :
    (derived.above path context).site = context.site := by
  rw [above, Context.storeBlocks_eq]
  rfl

private theorem isActive_above (derived : Derived) {path other : Path} {context : Context}
    (hdistinct : Path.same path other = false) (hactive : context.isActive other = false) :
    (derived.above path context).isActive other = false := by
  rw [above, Context.storeBlocks_eq]
  simp only [Context.enter, Context.isActive, List.any_cons, hdistinct, Bool.false_and,
    Bool.false_or] at hactive ⊢
  exact hactive

/-- A block finds what is stored below the template, then its own slot, then those above. -/
theorem get?_above (derived : Derived) (path : Path) (context : Context) (name : Text) :
    (derived.above path context).blocks.get? name =
      (context.blocks.get? name).or (derived.sheet.region? name) :=
  Context.get?_storeBlocks context derived.sheet.regions name

end Derived

namespace Engine

variable (settings : Settings) (files : Files)

theorem renderWithin_sheet (levels : Nat) (sheet : Sheet) {draft : Draft}
    (hblocks : draft.context.PlainBlocks) :
    (ofStandard settings).renderWithin files (levels + 2) (sheet.written blockTag) draft =
      (draft.write (sheet.filled draft.context.blocks.get?
        (draft.context.passed.getD []))).mapContext
          fun context => { context with passed := sheet.unplaced context.passed } := by
  have hplain (t : Text) (ht : '\x7b' ∉ t) (draft : Draft) :
      (ofStandard settings).renderWithin files (levels + 1) t draft = draft.write t :=
    (effects_plain ht).renderWithin draft
  have hsheet :=
    effects_sheet settings ((ofStandard settings).sceneWithin files (levels + 1)) rfl sheet
  have hdeeper : (draft.mapContext (·.deeper)).context.PlainBlocks := hblocks
  rw [hsheet.renderWithin, foldl_run hplain sheet hdeeper]
  rfl

private theorem enter_of_not_active (scene : Scene) {path : Path} (layout inner : Text)
    {draft : Draft} (h : draft.context.isActive path = false) :
    Layout.enter scene path layout inner draft =
      (scene.render layout (draft.mapContext fun context =>
        Context.enter { context with passed := some inner } path)).mapContext fun after =>
          { after.leave draft.context with passed := draft.context.passed } := by
  have hactive : Context.isActive { draft.context with passed := some inner } path = false := h
  simp only [Layout.enter, Draft.inTemplate, Context.inTemplate, Draft.mapContext, hactive,
    Bool.and_false, Bool.false_eq_true, if_false, Except.map]
  rfl

private theorem capture_rest (levels : Nat) (derived : Derived) {draft : Draft}
    (hblocks : draft.context.PlainBlocks) :
    draft.capture ((ofStandard settings).renderWithin files (levels + 2)
        (derived.rest.written blockTag)) =
      (derived.relayed (draft.context.passed.getD []), draft.mapContext fun context =>
        { context with passed := derived.rest.unplaced context.passed }) := by
  have hplain : Context.PlainBlocks { draft with output := [] }.context := hblocks
  have hrender := renderWithin_sheet settings files levels derived.rest hplain
  rw [derived.filled_rest] at hrender
  rw [Draft.capture, hrender]
  simp [Draft.mapContext, Draft.write]

theorem run_derived (levels : Nat) (derived : Derived) {call : Call} {draft : Draft}
    {name : Text} {path : Path} {layout : Text}
    (hbody : (call.blockOrRest .standard).body = derived.sheet.written slotTag)
    (hname : call.firstName? = some name)
    (hload : Template.load settings.config files draft.context.site .layout name =
      .ok (path, layout))
    (hactive : draft.context.isActive path = false) (hblocks : draft.context.PlainBlocks) :
    (Inheritance.run ((ofStandard settings).sceneWithin files (levels + 2)) call draft).1 =
      ((ofStandard settings).renderWithin files (levels + 2) layout
        (draft.mapContext (derived.above path))).mapContext fun after =>
          { after.leave draft.context with
            passed := derived.rest.unplaced draft.context.passed } := by
  let scene := (ofStandard settings).sceneWithin files (levels + 2)
  let stored := draft.mapContext (·.storeBlocks derived.sheet.regions)
  let placed := stored.mapContext fun context =>
    { context with passed := derived.rest.unplaced draft.context.passed }
  obtain ⟨blocks, hstore⟩ : ∃ blocks, draft.context.storeBlocks derived.sheet.regions =
      { draft.context with blocks } := ⟨_, draft.context.storeBlocks_eq _⟩
  have hcapture : stored.capture (scene.render (derived.rest.written blockTag)) =
      (derived.relayed (draft.context.passed.getD []), placed) := by
    have hpassed : stored.context.passed = draft.context.passed := by
      simp only [stored, Draft.mapContext]
      rw [hstore]
    refine (capture_rest settings files levels derived
      (hblocks.storeBlocks derived.sheet)).trans ?_
    rw [hpassed]
    simp only [placed, Draft.mapContext, hpassed]
  have hrest : Text.trim (derived.sheet.remainder.written blockTag) =
      derived.rest.written blockTag :=
    (Sheet.written_trimmed blockTag derived.sheet.remainder).symm
  have hdelimiters : scene.delimiters = .standard := rfl
  have hrun : (Inheritance.run scene call draft).1 =
      Layout.wrap scene name (derived.relayed (draft.context.passed.getD [])) placed := by
    simp only [Inheritance.run, TagAction.ofBlockOrRest, hdelimiters, hbody, hname,
      derived.sheet.collect_written blockTag draft, hrest]
    rw [hcapture]
  have hsite : placed.context.site = draft.context.site := by
    simp only [placed, stored, Draft.mapContext]
    rw [hstore]
  have hidle : placed.context.isActive path = false := by
    simp only [placed, stored, Draft.mapContext]
    rw [hstore]
    exact hactive
  have hwrap : Layout.wrap scene name (derived.relayed (draft.context.passed.getD [])) placed =
      Layout.enter scene path layout (derived.relayed (draft.context.passed.getD [])) placed := by
    have hscene : Template.load scene.config scene.files draft.context.site .layout name =
        .ok (path, layout) := hload
    simp only [Layout.wrap, hsite, hscene]
  rw [hrun, hwrap, enter_of_not_active scene layout _ hidle]
  simp only [placed, stored, Draft.mapContext, Derived.above, hstore]
  rfl

end Engine

/-! ### Chains -/

/-- The template a chain starts with. Behind the last one that extends another comes the layout. -/
def chainText (base : Sheet) : List Derived → Text
  | [] => base.written blockTag
  | derived :: _ => derived.written

/-- Every template of a chain names the layout file that the rest of the chain starts with. -/
inductive Linked (config : Config) (files : Files) (site : Path) (base : Sheet) :
    List Derived → List Path → Prop
  | last : Linked config files site base [] []
  | next {derived : Derived} {chain : List Derived} {path : Path} {paths : List Path} {name : Text}
      (named : derived.parentName? = some name)
      (found : Template.load config files site .layout name = .ok (path, chainText base chain))
      (above : Linked config files site base chain paths) :
      Linked config files site base (derived :: chain) (path :: paths)

/-- What the nearest template of a chain that has this slot says in it. -/
def nearest? (chain : List Derived) (name : Text) : Option Text :=
  chain.findSome? fun derived => derived.sheet.region? name

private theorem nearest?_cons (derived : Derived) (chain : List Derived) (name : Text) :
    nearest? (derived :: chain) name = (derived.sheet.region? name).or (nearest? chain name) := by
  rw [nearest?, nearest?, List.findSome?_cons]
  cases derived.sheet.region? name <;> rfl

/-- What is passed to the end of a chain: each template places what comes from below. -/
def relayedAlong (chain : List Derived) (passed : Text) : Text :=
  chain.foldl (fun passed derived => derived.relayed passed) passed

/-- The first template of a chain, less its slots. -/
def firstSheet (base : Sheet) : List Derived → Sheet
  | [] => base
  | derived :: _ => derived.rest

namespace Engine

variable (settings : Settings) (files : Files)

private theorem renderWithin_derived (levels : Nat) (derived : Derived) {draft : Draft}
    {name : Text} {path : Path} {layout : Text} (hname : derived.parentName? = some name)
    (hload : Template.load settings.config files draft.context.site .layout name =
      .ok (path, layout))
    (hactive : draft.context.isActive path = false) (hblocks : draft.context.PlainBlocks) :
    (ofStandard settings).renderWithin files (levels + 3) derived.written draft =
      ((ofStandard settings).renderWithin files (levels + 2) layout
        (draft.mapContext fun context => derived.above path context.deeper)).mapContext fun after =>
          { (after.leave draft.context).shallower with
            passed := derived.rest.unplaced draft.context.passed } := by
  let scene := (ofStandard settings).sceneWithin files (levels + 2)
  let inside := draft.mapContext (·.deeper)
  let body := derived.sheet.written slotTag
  -- The template is not closed, so all that follows its tag is its body.
  have hopen := closing_of_crosses (derived.sheet.crosses_extends slotTag)
  let call : Call := ⟨"extends", Text.trim derived.parent.text, 0, 0, body⟩
  have hscan : (ofStandard settings).scan scene (.ofText .standard derived.written) inside =
      (Inheritance.run scene call inside).1 :=
    scan_child settings scene rfl derived.parent hopen 0 inside
  have hbody : (call.blockOrRest .standard).body = body :=
    congrArg Block.body (blockOrRest_child _ hopen 0 0)
  have hrun := run_derived settings files levels derived hbody hname
    (show Template.load settings.config files inside.context.site .layout name = _ from hload)
    (show inside.context.isActive path = false from hactive)
    (show inside.context.PlainBlocks from hblocks)
  rw [renderWithin_succ]
  refine (congrArg (Draft.mapContext · (·.shallower)) (hscan.trans hrun)).trans ?_
  rfl

/-- The layout at the end of a chain is rendered with what the templates below it say. -/
theorem renderWithin_chain {site : Path} {base : Sheet} {chain : List Derived} {paths : List Path}
    (h : Linked settings.config files site base chain paths)
    (hdistinct : paths.Pairwise fun path other => Path.same path other = false) (levels : Nat)
    {draft : Draft} (hsite : draft.context.site = site)
    (hactive : ∀ path ∈ paths, draft.context.isActive path = false)
    (hblocks : draft.context.PlainBlocks) :
    (ofStandard settings).renderWithin files (levels + chain.length + 2) (chainText base chain)
        draft =
      (draft.write (base.filled
        (fun name => (draft.context.blocks.get? name).or (nearest? chain name))
        (relayedAlong chain (draft.context.passed.getD [])))).mapContext fun context =>
          { context.storeBlocks (chain.flatMap fun derived => derived.sheet.regions) with
            passed := (firstSheet base chain).unplaced context.passed } := by
  induction h generalizing draft with
  | last =>
    have hbase := renderWithin_sheet settings files levels base hblocks
    simp only [nearest?, List.findSome?_nil, Option.or_none]
    exact hbase
  | @next derived chain path paths name hnamed hfound habove ih =>
    obtain ⟨hfirst, hdistinct⟩ := List.pairwise_cons.mp hdistinct
    subst hsite
    let inside := draft.context.deeper
    let slots := chain.flatMap fun derived => derived.sheet.regions
    -- The layout is not entered again: no later one of the chain is the same file.
    have hlater : ∀ other ∈ paths, (derived.above path inside).isActive other = false :=
      fun other ho => derived.isActive_above (hfirst other ho)
        (hactive other (List.mem_cons_of_mem _ ho))
    have hbelow : inside.PlainBlocks := hblocks
    have hplain : (derived.above path inside).PlainBlocks := hbelow.storeBlocks derived.sheet
    have hsame : (derived.above path inside).site = draft.context.site :=
      derived.above_site path inside
    have hall : (ofStandard settings).renderWithin files (levels + chain.length + 2)
        (chainText base chain)
        (draft.mapContext fun context => derived.above path context.deeper) = _ :=
      ih hdistinct hsame hlater hplain
    have hheld : (fun name => ((derived.above path inside).blocks.get? name).or
        (nearest? chain name)) =
          fun name => (draft.context.blocks.get? name).or (nearest? (derived :: chain) name) := by
      funext name
      rw [derived.get?_above, Option.or_assoc, nearest?_cons]
      rfl
    have hcontext : Context.shallower
        (((derived.above path inside).storeBlocks slots).leave draft.context) =
        { draft.context.storeBlocks (derived.sheet.regions ++ slots) with
          passed := some (derived.relayed (draft.context.passed.getD [])) } := by
      have hleave := derived.leave_storeBlocks_above path inside slots
      rw [← Context.shallower_storeBlocks draft.context]
      exact congrArg Context.shallower hleave
    have hlevels : levels + (derived :: chain).length + 2 = levels + chain.length + 3 := by
      rw [List.length_cons]
      omega
    rw [hlevels]
    refine (renderWithin_derived settings files (levels + chain.length) derived hnamed hfound
      (hactive path List.mem_cons_self) hblocks).trans ?_
    rw [hall]
    simp only [Draft.mapContext] at hheld ⊢
    rw [hheld]
    exact congrArg (fun context : Context =>
      { draft.write _ with context := { context with
        passed := derived.rest.unplaced draft.context.passed } }) hcontext

/-- Inheritance resolves to the most derived template. -/
theorem render_chain {base : Sheet} {chain : List Derived} {paths : List Path} {draft : Draft}
    (h : Linked settings.config files draft.context.site base chain paths)
    (hdistinct : paths.Pairwise fun path other => Path.same path other = false)
    (hactive : ∀ path ∈ paths, draft.context.isActive path = false)
    (hblocks : draft.context.blocks = []) (hpassed : draft.context.passed = none)
    (hdepth : draft.context.depth + chain.length + 2 ≤ settings.config.maxDepth) :
    (ofStandard settings).render files (chainText base chain) draft =
      (draft.write (base.filled (nearest? chain) (relayedAlong chain []))).mapContext
        (·.storeBlocks (chain.flatMap fun derived => derived.sheet.regions)) := by
  have hplain : draft.context.PlainBlocks := by
    intro name t ht
    rw [hblocks] at ht
    cases ht
  obtain ⟨levels, hlevels⟩ : ∃ levels, settings.config.maxDepth - draft.context.depth =
      levels + chain.length + 2 :=
    ⟨settings.config.maxDepth - draft.context.depth - chain.length - 2, by omega⟩
  have hrender := renderWithin_chain settings files h hdistinct levels rfl hactive hplain
  rw [hpassed, hblocks] at hrender
  refine (congrArg (fun n => (ofStandard settings).renderWithin files n _ draft) hlevels).trans ?_
  rw [hrender]
  simp only [Table.get?, Option.none_or, Option.getD_none, Draft.mapContext, Draft.write, hpassed,
    Sheet.unplaced_none]
  rw [Context.storeBlocks_eq, hpassed]

/-- The slot of the page comes before that of the layout in the middle, and the second place of
either layout stays empty. -/
theorem render_chain_three :
    let x : RegionName := ⟨⟨"x ", by decide, by decide⟩, by decide, by decide⟩
    let y : RegionName := ⟨⟨"y ", by decide, by decide⟩, by decide, by decide⟩
    let page : Derived := ⟨⟨"mid ", by decide, by decide⟩,
      [.text ⟨" a ", by decide⟩, .region x ⟨"X0", by decide⟩]⟩
    let middle : Derived := ⟨⟨"base ", by decide, by decide⟩,
      [.region x ⟨"X1", by decide⟩, .passed, .text ⟨"b", by decide⟩, .passed,
        .region y ⟨"Y1", by decide⟩]⟩
    let base : Sheet :=
      [.passed, .region x ⟨"X2", by decide⟩, .region y ⟨"Y2", by decide⟩, .passed]
    outputWith [("mid", middle.written), ("base", base.written blockTag)] [] page.written =
      "abX0Y1" := by
  intro x y page middle base
  let settings := standard.toSettings
  let files := layoutFiles [("mid", middle.written), ("base", base.written blockTag)]
  let start : Draft := { context := { site := "." } }
  have hmiddle : Linked settings.config files start.context.site base [middle]
      ["./layouts/base.hstm"] :=
    .next (by decide : middle.parentName? = some "base") (by rfl) .last
  have hpage : Linked settings.config files start.context.site base [page, middle]
      ["./layouts/mid.hstm", "./layouts/base.hstm"] :=
    .next (by decide : page.parentName? = some "mid") (by rfl) hmiddle
  have hrender : (ofStandard settings).render files page.written start = _ :=
    render_chain settings files hpage (by decide) (by decide) rfl rfl (by decide)
  exact congrArg Draft.output hrender

end Engine
end Stencil
