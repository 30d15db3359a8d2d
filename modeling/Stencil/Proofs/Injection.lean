import Stencil.Proofs.ContextLaw
import Stencil.Proofs.Pieces
import Stencil.Proofs.Placing
/-!
# Values are not read as templates

Two renders of one text, with page values that differ in their texts only. If neither the text nor a
template of the site does more than place content, both renders write the same pieces in the same
order, literal texts and values of variables, and note the same problems. So no value is ever read
as a part of a template, however often it is passed on.
-/
namespace Stencil

/-! ### Contexts and drafts of both renders -/

section

variable (settings : Settings) (files : Files) (data other : Fields)

/-- The contexts differ in their page values, and in passed content that was made from these. -/
structure Context.Twins (a b : Context) : Prop where
  values : a.data = data
  eq : b = { a with data := other, passed := b.passed }
  props : a.props = []
  scopes : a.scopes = []
  passed : Option.Rel (Mirrored data other) a.passed b.passed
  places : a.OnlyPlaces settings files

structure Draft.Twins (a b : Draft) : Prop where
  context : a.context.Twins settings files data other b.context
  output : Mirrored data other a.output b.output
  problems : a.problems = b.problems

/-- The step leads from twin drafts to twin drafts. -/
def Mirrors (step : Draft → Draft) : Prop :=
  ∀ ⦃a b : Draft⦄, a.Twins settings files data other b →
    (step a).Twins settings files data other (step b)

end

private theorem Context.lookup?_of_bare {context : Context} (hp : context.props = [])
    (hs : context.scopes = []) (path : Text) :
    context.lookup? path = Fields.at? context.data (segments path) := by
  simp only [lookup?, binding?, hp, hs]
  cases segments path with
  | nil => rfl
  | cons first rest => rfl

private theorem Expression.evaluate_of_single {expression path : Text}
    (h : Arguments.splitAt '|' expression = [path]) (filters : Table Filter) (context : Context) :
    evaluate filters context expression = value context path := by
  simp only [evaluate, value, h]
  cases value? context path with
  | none => rfl
  | some value => rfl

namespace Context.Twins

variable {settings : Settings} {files : Files} {data other : Fields} {a b : Context}

private theorem reads {α : Type} (h : a.Twins settings files data other b) (read : Context → α)
    (hr : ∀ (c : Context) data passed, read { c with data, passed } = read c) :
    read b = read a := by
  rw [h.eq]
  exact hr _ _ _

private theorem change (h : a.Twins settings files data other b) {f : Context → Context}
    (hf : ∀ (c : Context) data passed, f { c with data, passed } = { f c with data, passed })
    (hprops : (f a).props = []) (hscopes : (f a).scopes = [])
    (hplaces : (f a).OnlyPlaces settings files) :
    (f a).Twins settings files data other (f b) := by
  have ha : f a = { f a with data := a.data, passed := a.passed } := hf a a.data a.passed
  have hb : f b = { f a with data := other, passed := b.passed } :=
    (congrArg f h.eq).trans (hf a other b.passed)
  have hpassed : (f b).passed = b.passed := by rw [hb]
  have hvalues : (f a).data = a.data := by rw [ha]
  have hkept : (f a).passed = a.passed := by rw [ha]
  refine ⟨hvalues.trans h.values, ?_, hprops, hscopes, ?_, hplaces⟩
  · rw [hpassed]
    exact hb
  · rw [hpassed, hkept]
    exact h.passed

private theorem keep (h : a.Twins settings files data other b) {f : Context → Context}
    (hf : ∀ (c : Context) data passed, f { c with data, passed } = { f c with data, passed })
    (hprops : (f a).props = a.props) (hscopes : (f a).scopes = a.scopes)
    (hsite : (f a).site = a.site) (hblocks : (f a).blocks = a.blocks) :
    (f a).Twins settings files data other (f b) := by
  refine h.change hf (hprops.trans h.props) (hscopes.trans h.scopes) ⟨fun ht => ?_, fun hb => ?_⟩
  · exact h.places.templates (hsite ▸ ht)
  · exact h.places.blocks (hblocks ▸ hb)

private theorem lookup? (h : a.Twins settings files data other b)
    (hd : Value.MembersAlike data other) (path : Text) :
    Option.Rel (fun v w => Mirrored data other (Value.toText v) (Value.toText w))
      (a.lookup? path) (b.lookup? path) := by
  have hprops : b.props = [] := (h.reads Context.props fun _ _ _ => rfl).trans h.props
  have hscopes : b.scopes = [] := (h.reads Context.scopes fun _ _ _ => rfl).trans h.scopes
  have hvalues : b.data = other := congrArg Context.data h.eq
  rw [lookup?_of_bare h.props h.scopes, lookup?_of_bare hprops hscopes, h.values, hvalues]
  have hrel := Fields.at?_alike hd (segments path)
  cases hv : Fields.at? data (segments path) with
  | none =>
    rw [hv] at hrel
    cases hw : Fields.at? other (segments path) with
    | none => exact .none
    | some w => rw [hw] at hrel; cases hrel
  | some v =>
    rw [hv] at hrel
    cases hw : Fields.at? other (segments path) with
    | none => rw [hw] at hrel; cases hrel
    | some w => exact .some (.value hv hw)

private theorem value? (h : a.Twins settings files data other b)
    (hd : Value.MembersAlike data other) (token : Text) :
    Option.Rel (fun v w => Mirrored data other (Value.toText v) (Value.toText w))
      (Expression.value? a token) (Expression.value? b token) := by
  simp only [Expression.value?, Expression.operand?]
  split
  · exact h.lookup? hd _
  · cases Expression.literal? (Text.trim token) with
    | none => exact h.lookup? hd _
    | some v => exact .some (.literal _)

private theorem pass (h : a.Twins settings files data other b) {passed passed' : Option Text}
    (hp : Option.Rel (Mirrored data other) passed passed') :
    { a with passed }.Twins settings files data other { b with passed := passed' } where
  values := h.values
  eq := by rw [h.eq]
  props := h.props
  scopes := h.scopes
  passed := hp
  places := ⟨h.places.templates, h.places.blocks⟩

private theorem clearProps (h : a.Twins settings files data other b) :
    { a with props := [] }.Twins settings files data other { b with props := [] } :=
  h.change (f := fun context => { context with props := [] }) (fun _ _ _ => rfl) rfl h.scopes
    ⟨h.places.templates, h.places.blocks⟩

private theorem restoreProps {a' b' : Context} (h : a'.Twins settings files data other b')
    (hab : a.Twins settings files data other b) :
    { a' with props := a.props }.Twins settings files data other
      { b' with props := b.props } := by
  have hprops : b.props = [] := (hab.reads Context.props fun _ _ _ => rfl).trans hab.props
  rw [hprops, hab.props]
  exact h.clearProps

private theorem leave {a' b' : Context} (h : a'.Twins settings files data other b')
    (hab : a.Twins settings files data other b) :
    (a'.leave a).Twins settings files data other (b'.leave b) := by
  have ht : b.template = a.template := hab.reads Context.template fun _ _ _ => rfl
  have hl : b'.leave b = b'.leave a := by rw [Context.leave, Context.leave, ht]
  rw [hl]
  exact h.keep (f := (·.leave a)) (fun _ _ _ => rfl) rfl rfl rfl rfl

private theorem storeBlock (h : a.Twins settings files data other b) (name : Text) {content : Text}
    (hc : settings.delimiters.Places content) :
    (a.storeBlock name content).Twins settings files data other (b.storeBlock name content) := by
  have hstore (c : Context) : ∃ blocks, c.storeBlock name content = { c with blocks } := by
    simp only [Context.storeBlock]
    split
    · exact ⟨c.blocks, rfl⟩
    · exact ⟨_, rfl⟩
  obtain ⟨blocks, hblocks⟩ := hstore a
  refine h.change (f := (·.storeBlock name content)) (fun c values passed => ?_) ?_ ?_
    (h.places.storeBlock name hc)
  · simp only [Context.storeBlock]
    split
    · rfl
    · rfl
  · rw [hblocks]
    exact h.props
  · rw [hblocks]
    exact h.scopes

end Context.Twins

namespace Draft.Twins

variable {settings : Settings} {files : Files} {data other : Fields} {a b : Draft}

private theorem write (h : a.Twins settings files data other b) {s t : Text}
    (hw : Mirrored data other s t) : (a.write s).Twins settings files data other (b.write t) :=
  ⟨h.context, h.output.append hw, h.problems⟩

private theorem report (h : a.Twins settings files data other b) (problem : Problem) :
    (a.report problem).Twins settings files data other (b.report problem) :=
  ⟨h.context, h.output, congrArg (· ++ [problem]) h.problems⟩

private theorem mapContext (h : a.Twins settings files data other b) {f g : Context → Context}
    (hc : (f a.context).Twins settings files data other (g b.context)) :
    (a.mapContext f).Twins settings files data other (b.mapContext g) :=
  ⟨hc, h.output, h.problems⟩

private theorem expression (h : a.Twins settings files data other b)
    (hd : Value.MembersAlike data other) {contents path : Text}
    (hs : Arguments.splitAt '|' contents = [path]) (filters : Table Filter) :
    (a.writeOrReport ((Expression.evaluate filters a.context contents).map Value.toText)).Twins
      settings files data other
      (b.writeOrReport ((Expression.evaluate filters b.context contents).map Value.toText)) := by
  have hv := h.context.value? hd path
  simp only [Expression.evaluate_of_single hs, Expression.value]
  generalize Expression.value? a.context path = found at hv ⊢
  generalize Expression.value? b.context path = found' at hv ⊢
  cases hv with
  | none => exact h.report _
  | some hm => exact h.write hm

private theorem capture (h : a.Twins settings files data other b) {rendering : Draft → Draft}
    (hr : Mirrors settings files data other rendering) :
    Mirrored data other (a.capture rendering).1 (b.capture rendering).1 ∧
      (a.capture rendering).2.Twins settings files data other (b.capture rendering).2 := by
  have hempty : { a with output := [] }.Twins settings files data other { b with output := [] } :=
    ⟨h.context, .nil, h.problems⟩
  have hrendered := hr hempty
  exact ⟨hrendered.output, hrendered.context, h.output, hrendered.problems⟩

private theorem inTemplate (h : a.Twins settings files data other b) (refusesCycles : Bool)
    (path : Path) {rendering : Draft → Draft} (hr : Mirrors settings files data other rendering) :
    (∃ problem, a.inTemplate refusesCycles path rendering = .error problem ∧
        b.inTemplate refusesCycles path rendering = .error problem) ∨
      ∃ a' b' : Draft, a.inTemplate refusesCycles path rendering = .ok a' ∧
        b.inTemplate refusesCycles path rendering = .ok b' ∧
        a'.Twins settings files data other b' := by
  have hactive : b.context.isActive path = a.context.isActive path :=
    h.context.reads (·.isActive path) fun _ _ _ => rfl
  have hcycle : b.context.cycleAt path = a.context.cycleAt path :=
    h.context.reads (·.cycleAt path) fun _ _ _ => rfl
  have henter := h.context.keep (f := (·.enter path)) (fun _ _ _ => rfl) rfl rfl rfl rfl
  have hrendered := hr (h.mapContext (f := (·.enter path)) (g := (·.enter path)) henter)
  simp only [Draft.inTemplate, Context.inTemplate, hactive, hcycle]
  split
  · exact .inl ⟨_, rfl, rfl⟩
  · have hleave := hrendered.context.leave h.context
    exact .inr ⟨_, _, rfl, rfl, hleave, hrendered.output, hrendered.problems⟩

end Draft.Twins

/-! ### Tags -/

section

variable {settings : Settings} {files : Files} {data other : Fields}
variable {render : Text → Draft → Draft}
variable (hr : ∀ {text : Text}, settings.delimiters.Places text →
  Mirrors settings files data other (render text))

/-- The tag makes twin drafts of twin drafts, and scanning resumes at one place. -/
def TagAction.MirrorsUpTo (settings : Settings) (files : Files) (data other : Fields)
    (action : TagAction) (scene : Scene) (call : Call) (next : Nat) : Prop :=
  ∀ ⦃a b : Draft⦄, a.Twins settings files data other b →
    ∃ a' b' : Draft, action scene call a = (a', next) ∧ action scene call b = (b', next) ∧
      a'.Twins settings files data other b'

private theorem place_mirrors (scene : Scene) (call : Call) :
    Layout.place.MirrorsUpTo settings files data other scene call call.stop := by
  intro a b h
  have hp : Mirrored data other (a.context.passed.getD []) (b.context.passed.getD []) := by
    have hpassed := h.context.passed
    generalize a.context.passed = passed at hpassed ⊢
    generalize b.context.passed = passed' at hpassed ⊢
    cases hpassed with
    | none => exact .nil
    | some hm => exact hm
  exact ⟨_, _, rfl, rfl, (h.write hp).mapContext (h.context.pass .none)⟩

private theorem store_mirrors {scene : Scene} {call : Call} {block : Block}
    (hb : call.block? scene.delimiters = some block)
    (hp : settings.delimiters.Places block.body) :
    Slot.store.MirrorsUpTo settings files data other scene call block.next := by
  intro a b h
  simp only [Slot.store, TagAction.ofBlock, Call.block, hb]
  cases call.firstName? with
  | none => exact ⟨_, _, rfl, rfl, h.report _⟩
  | some name =>
    have hstored := h.context.storeBlock name hp
    exact ⟨_, _, rfl, rfl, hstored, h.output, h.problems⟩

private theorem unclosed_mirrors {scene : Scene} {call : Call}
    (hb : call.block? scene.delimiters = none) {action : TagAction}
    {act : Scene → Call → Text → Draft → Draft} (ha : action = TagAction.ofBlock act) :
    action.MirrorsUpTo settings files data other scene call call.stop := by
  intro a b h
  subst ha
  simp only [TagAction.ofBlock, Call.block, hb]
  exact ⟨_, _, rfl, rfl, h.report _⟩

private theorem collect_mirrors {delimiters : Delimiters} {body : Text}
    (hp : ∀ content ∈ Slot.contents (Slot.pieces delimiters body),
      settings.delimiters.Places content) :
    Mirrors settings files data other fun draft => (Slot.collect delimiters body draft).2 := by
  intro a b h
  simp only [Slot.collect]
  generalize Slot.pieces delimiters body = pieces at hp
  induction pieces generalizing a b with
  | nil => exact h
  | cons piece pieces ih =>
    have hrest : ∀ content ∈ Slot.contents pieces, settings.delimiters.Places content :=
      fun content hm => hp content ((List.sublist_cons_self piece pieces).filterMap _ |>.subset hm)
    refine ih ?_ hrest
    cases piece with
    | kept text => exact h
    | filled written content =>
      have hstored := h.context.storeBlock (Arguments.unquote (Text.trim written))
        (hp content (Slot.mem_contents List.mem_cons_self))
      exact ⟨hstored, h.output, h.problems⟩
    | dropped written => exact h.report _

include hr

private theorem fill_mirrors {call : Call} {block : Block}
    (hb : call.block? settings.delimiters = some block)
    (hp : settings.delimiters.Places block.body) :
    Slot.fill.MirrorsUpTo settings files data other { settings with files, render } call
      block.next := by
  intro a b h
  simp only [Slot.fill, TagAction.ofBlock, Call.block, hb]
  cases call.firstName? with
  | none => exact ⟨_, _, rfl, rfl, h.report _⟩
  | some name =>
    have hblocks : b.context.blocks = a.context.blocks :=
      h.context.reads Context.blocks fun _ _ _ => rfl
    refine ⟨_, _, rfl, rfl, ?_⟩
    dsimp only
    rw [hblocks]
    cases hs : a.context.blocks.get? name with
    | none => exact hr hp h
    | some content => exact hr (h.context.places.blocks hs) h

private theorem renderFile_mirrors (path : Path) {content : Text}
    (hp : settings.delimiters.Places content) :
    Mirrors settings files data other
      (Inclusion.renderFile { settings with files, render } path content []) := by
  intro a b h
  have hinside : (a.mapContext fun context => { context with props := [] }).Twins settings files
      data other (b.mapContext fun context => { context with props := [] }) :=
    ⟨h.context.clearProps, h.output, h.problems⟩
  simp only [Inclusion.renderFile]
  rcases hinside.inTemplate settings.refusesCycles path (hr hp) with
    ⟨problem, ha, hb⟩ | ⟨a', b', ha, hb, hrendered⟩
  · rw [ha, hb]
    have hreported := hinside.report problem
    exact ⟨hreported.context.restoreProps h.context, hreported.output, hreported.problems⟩
  · rw [ha, hb]
    exact ⟨hrendered.context.restoreProps h.context, hrendered.output, hrendered.problems⟩

private theorem enter_mirrors (path : Path) {layout : Text}
    (hp : settings.delimiters.Places layout) {a b : Draft}
    (h : a.Twins settings files data other b) {s t : Text} (hm : Mirrored data other s t) :
    (Layout.enter { settings with files, render } path layout s a).Twins settings files data other
      (Layout.enter { settings with files, render } path layout t b) := by
  have hinside : (a.mapContext fun context => { context with passed := some s }).Twins settings
      files data other (b.mapContext fun context => { context with passed := some t }) :=
    ⟨h.context.pass (.some hm), h.output, h.problems⟩
  simp only [Layout.enter]
  rcases hinside.inTemplate settings.refusesCycles path (hr hp) with
    ⟨problem, ha, hb⟩ | ⟨a', b', ha, hb, hrendered⟩
  · rw [ha, hb]
    have hreported := (hinside.write hm).report problem
    exact ⟨hreported.context.pass h.context.passed, hreported.output, hreported.problems⟩
  · rw [ha, hb]
    exact ⟨hrendered.context.pass h.context.passed, hrendered.output, hrendered.problems⟩

private theorem inclusion_mirrors {call : Call} (ht : call.tokens.length ≤ 1) :
    Inclusion.run.MirrorsUpTo settings files data other { settings with files, render } call
      call.stop := by
  intro a b h
  have hsite : b.context.site = a.context.site := h.context.reads Context.site fun _ _ _ => rfl
  simp only [Inclusion.run, TagAction.leaf]
  cases hcall : call.tokens with
  | nil => exact ⟨_, _, rfl, rfl, h.report _⟩
  | cons name rest =>
    rw [hcall, List.length_cons] at ht
    obtain rfl : rest = [] := List.length_eq_zero_iff.mp (by omega)
    refine ⟨_, _, rfl, rfl, ?_⟩
    simp only [Inclusion.arguments, List.foldl_nil, hsite]
    split
    · next path content hl => exact renderFile_mirrors hr path (h.context.places.templates hl) h
    · exact h.report _

private theorem wrap_mirrors (name : Text) {a b : Draft} (h : a.Twins settings files data other b)
    {s t : Text} (hm : Mirrored data other s t) :
    (Layout.wrap { settings with files, render } name s a).Twins settings files data other
      (Layout.wrap { settings with files, render } name t b) := by
  have hsite : b.context.site = a.context.site := h.context.reads Context.site fun _ _ _ => rfl
  simp only [Layout.wrap, hsite]
  split
  · next path content hl =>
    exact enter_mirrors hr path (h.context.places.templates hl) h hm
  · exact (h.write hm).report _

private theorem layout_mirrors {call : Call}
    (hp : settings.delimiters.Places (call.blockOrRest settings.delimiters).body) :
    Layout.run.MirrorsUpTo settings files data other { settings with files, render } call
      (call.blockOrRest settings.delimiters).next := by
  intro a b h
  refine ⟨_, _, rfl, rfl, ?_⟩
  have hbypass (header : Text) :
      b.context.bypassesLayouts header = a.context.bypassesLayouts header :=
    h.context.reads (·.bypassesLayouts header) fun _ _ _ => rfl
  simp only [hbypass]
  split
  · exact hr hp (h.report _)
  · split
    · exact hr hp h
    · obtain ⟨hm, hc⟩ := h.capture (hr hp)
      exact wrap_mirrors hr _ hc hm

private theorem extend_mirrors {call : Call}
    (hp : ∀ part ∈ Text.trim (Slot.keptText (Slot.pieces settings.delimiters
          (call.blockOrRest settings.delimiters).body)) ::
        Slot.contents (Slot.pieces settings.delimiters
          (call.blockOrRest settings.delimiters).body),
      settings.delimiters.Places part) :
    Inheritance.run.MirrorsUpTo settings files data other { settings with files, render } call
      (call.blockOrRest settings.delimiters).next := by
  intro a b h
  obtain ⟨hkept, hcontents⟩ := List.forall_mem_cons.mp hp
  refine ⟨_, _, rfl, rfl, ?_⟩
  dsimp only
  split
  · exact h.report _
  · have hcollected := collect_mirrors hcontents h
    obtain ⟨hm, hc⟩ := hcollected.capture (hr hkept)
    exact wrap_mirrors hr _ hc hm

/-- A tag that only places content does so in both renders, whatever the page values are. -/
theorem BuiltIn.run_mirrors {tag : BuiltIn} {call : Call} {parts : List Text} {next : Nat}
    (ht : tag.parts? settings.delimiters call = some (parts, next))
    (hp : ∀ part ∈ parts, settings.delimiters.Places part) :
    tag.run.MirrorsUpTo settings files data other { settings with files, render } call next := by
  cases tag with
  | passed =>
    cases ht
    exact place_mirrors _ call
  | partialFile =>
    simp only [parts?] at ht
    split at ht
    · next hl => cases ht; exact inclusion_mirrors hr hl
    · cases ht
  | layout =>
    cases ht
    exact layout_mirrors hr (hp _ List.mem_cons_self)
  | extend =>
    cases ht
    exact extend_mirrors hr hp
  | slot | define =>
    simp only [parts?] at ht
    split at ht
    · next found hb => cases ht; exact store_mirrors hb (hp _ List.mem_cons_self)
    · next hb => cases ht; exact unclosed_mirrors hb (by rw [run, Slot.store])
  | block =>
    simp only [parts?] at ht
    split at ht
    · next found hb => cases ht; exact fill_mirrors hr hb (hp _ List.mem_cons_self)
    · next hb => cases ht; exact unclosed_mirrors hb (by rw [run, Slot.fill])
  | branch | strayElse | loop | assign | comment | importFile | css | js | metaElement | linkElement
  | title | rootHead | rootCss | rootJs => cases ht

/-! ### Renders -/

namespace Engine

/-- What only places content is scanned in both renders to twin drafts. -/
theorem scan_mirrors (hd : Value.MembersAlike data other) {scanner : Scanner}
    (hs : Scanner.Places settings.delimiters scanner) :
    Mirrors settings files data other
      ((ofSettings settings).scan { settings with files, render } scanner) := by
  intro a b h
  induction hs generalizing a b with
  | ended hn =>
    rw [scan_of_none _ _ _ hn, scan_of_none _ _ _ hn]
    exact h
  | unclosed hn =>
    rw [scan_of_unclosed _ _ _ hn, scan_of_unclosed _ _ _ hn]
    exact h.report _
  | text hn _ ih =>
    rw [scan_of_text _ _ _ hn, scan_of_text _ _ _ hn]
    exact ih (h.write (.literal _))
  | expression hn he hs _ ih =>
    rw [scan_of_tag _ _ _ hn, scan_of_tag _ _ _ hn, runTag_expression _ _ _ _ he,
      runTag_expression _ _ _ _ he]
    exact ih (h.expression hd hs _)
  | unknown hn he hu _ ih =>
    rw [scan_of_tag _ _ _ hn, scan_of_tag _ _ _ hn, runTag_ofSettings _ _ _ _ he,
      runTag_ofSettings _ _ _ _ he, hu]
    exact ih (h.report _)
  | tag hn he hb ht hp _ _ ih =>
    rw [scan_of_tag _ _ _ hn, scan_of_tag _ _ _ hn, runTag_ofSettings _ _ _ _ he,
      runTag_ofSettings _ _ _ _ he, hb]
    obtain ⟨a', b', ha, hb, hab⟩ := BuiltIn.run_mirrors hr ht hp h
    dsimp only
    rw [ha, hb]
    exact ih hab

omit hr in
private theorem renderWithin_mirrors (hd : Value.MembersAlike data other) (levels : Nat)
    {text : Text} (hp : settings.delimiters.Places text) :
    Mirrors settings files data other ((ofSettings settings).renderWithin files levels text) := by
  induction levels generalizing text with
  | zero =>
    intro a b h
    have hlabel : b.context.templateLabel = a.context.templateLabel :=
      h.context.reads Context.templateLabel fun _ _ _ => rfl
    simp only [renderWithin, hlabel]
    exact h.report _
  | succ levels ih =>
    intro a b h
    have hdeeper := h.context.keep (f := Context.deeper) (fun _ _ _ => rfl) rfl rfl rfl rfl
    have hscanned := scan_mirrors (fun ht => ih ht) hd hp
      (⟨hdeeper, h.output, h.problems⟩ : (a.mapContext (·.deeper)).Twins settings files data other
        (b.mapContext (·.deeper)))
    have hshallower :=
      hscanned.context.keep (f := Context.shallower) (fun _ _ _ => rfl) rfl rfl rfl rfl
    exact ⟨hshallower, hscanned.output, hscanned.problems⟩

end Engine

end

namespace Engine

/-- Two renders with page values that differ in their texts only note the same problems and write
the same pieces, literal texts and values, if all templates do nothing but place content. -/
theorem render_mirrored (settings : Settings) (files : Files) {text : Text} {draft : Draft}
    {other : Fields} (hp : draft.context.props = []) (hs : draft.context.scopes = [])
    (hd : Value.MembersAlike draft.context.data other)
    (hsite : draft.context.OnlyPlaces settings files) (ht : settings.delimiters.Places text) :
    let rendered (data : Fields) : Draft := (ofSettings settings).render files text
      (draft.mapContext fun context => { context with data })
    (rendered draft.context.data).problems = (rendered other).problems ∧
      ∃ pieces, Fills draft.context.data pieces (rendered draft.context.data).output ∧
        Fills other pieces (rendered other).output := by
  intro rendered
  have hpassed : Option.Rel (Mirrored draft.context.data other) draft.context.passed
      draft.context.passed := by
    cases draft.context.passed with
    | none => exact .none
    | some passed => exact .some (.literal passed)
  have hstart : draft.Twins settings files draft.context.data other
      (draft.mapContext fun context => { context with data := other }) :=
    ⟨⟨rfl, rfl, hp, hs, hpassed, hsite⟩, .literal _, rfl⟩
  have hrendered := renderWithin_mirrors hd (settings.config.maxDepth - draft.context.depth) ht
    hstart
  exact ⟨hrendered.problems, hrendered.output⟩

private theorem mem_of_read_ofKnown {known : Table (Except ReadError Text)} {path : Path}
    {content : Text} (h : Template.read (.ofKnown known) path = .ok content) :
    (path, .ok content) ∈ known := by
  simp only [Template.read, Files.ofKnown] at h
  cases hg : known.get? path with
  | none => rw [hg] at h; cases h
  | some found =>
    rw [hg] at h
    cases found with
    | error cause => cases h
    | ok read => cases h; exact Table.mem_of_get? hg

/-- A value that reads like a tag is relayed by a layout and stays a value. -/
theorem render_mirrored_markup :
    let layout : Text := "\x7b% block a %\x7d\x7b% end-block %\x7d[\x7b% passed %\x7d]"
    let text : Text :=
      "\x7b% extends l %\x7d\x7b% slot a %\x7d<\x7b% .x %\x7d>\x7b% end-slot %\x7d\x7b% .x %\x7d"
    let files : Files := .ofKnown [("./layouts/l.hstm", .ok layout)]
    let data : Fields := [("x", .text "\x7b% passed %\x7d")]
    let other : Fields := [("x", .text "y")]
    let draft : Draft := { context := { site := ".", data } }
    let rendered (data : Fields) : Draft := (ofSettings standard.toSettings).render files text
      (draft.mapContext fun context => { context with data })
    (draft.context.props = [] ∧ draft.context.scopes = [] ∧ Value.MembersAlike data other ∧
      draft.context.OnlyPlaces standard.toSettings files ∧ Delimiters.standard.Places text) ∧
      (rendered data).problems = (rendered other).problems ∧
      ∃ pieces, Fills data pieces (rendered data).output ∧
        Fills other pieces (rendered other).output := by
  intro layout text files data other draft rendered
  have hlayout : Delimiters.standard.Places layout :=
    Scanner.places_of_check (show Scanner.checkPlaces _ 8 _ = true by decide +kernel)
  have htext : Delimiters.standard.Places text :=
    Scanner.places_of_check (show Scanner.checkPlaces _ 8 _ = true by decide +kernel)
  have hsite : draft.context.OnlyPlaces standard.toSettings files := by
    refine ⟨fun {role name content path} hl => ?_, fun hb => nomatch hb⟩
    obtain ⟨found, -, hl⟩ := exists_of_bind_eq_ok hl
    obtain ⟨read, hr, hl⟩ := exists_of_bind_eq_ok hl
    cases hl
    have he := List.mem_singleton.mp (mem_of_read_ofKnown hr)
    cases he
    exact hlayout
  have hd : Value.MembersAlike data other := ⟨rfl, trivial, trivial⟩
  exact ⟨⟨rfl, rfl, hd, hsite, htext⟩, render_mirrored _ files rfl rfl hd hsite htext⟩

private theorem sublist_of_fills {data other : Fields} {pieces : List Piece} {s t : Text}
    (he : ∀ path v, Fields.at? other (Context.segments path) = some v → v.toText = [])
    (hs : Fills data pieces s) (ht : Fills other pieces t) : t.Sublist s := by
  induction hs generalizing t with
  | nil =>
    cases ht
    exact List.Sublist.refl _
  | literal u _ ih =>
    cases ht with
    | literal _ ht => exact (List.Sublist.refl u).append (ih ht)
  | value _ _ ih =>
    cases ht with
    | value hv ht =>
      rw [he _ _ hv]
      exact (List.nil_sublist _).append (ih ht)

/-- Where a slot is taken out of a child, the texts around it meet, and together they may make up a
tag that decides. What is already held for a block may decide as well. -/
theorem glued_tag_decides :
    let layout : Text := "\x7b% passed %\x7d"
    let page : Text := "\x7b% extends l %\x7d\x7b\x7b% slot a %\x7d\x7b% end-slot %\x7d" ++
      "% .x | default \"d\" %\x7d"
    let filled : Text := "\x7b% block a %\x7d\x7b% end-block %\x7d"
    let files : Files := .ofKnown [("./layouts/l.hstm", .ok layout)]
    let data : Fields := [("x", .text "v")]
    let other : Fields := [("x", .text "")]
    let tags (text : Text) : List Text := Scanner.tagsWritten 8 (.ofText .standard text)
    let child (data : Fields) : Draft :=
      (ofSettings standard.toSettings).render files page { context := { site := ".", data } }
    let override (data : Fields) : Draft := (ofSettings standard.toSettings).render files filled
      { context := { site := ".", data, blocks := [("a", "\x7b% .x | default \"d\" %\x7d")] } }
    (tags page = (["extends l", "slot a", "end-slot"] : List Text) ∧
      tags layout = (["passed"] : List Text) ∧
      tags filled = (["block a", "end-block"] : List Text) ∧ Value.MembersAlike data other) ∧
      ((child data).problems = [] ∧ (child other).problems = [] ∧
        ¬ ∃ pieces, Fills data pieces (child data).output ∧
          Fills other pieces (child other).output) ∧
      (override data).problems = [] ∧ (override other).problems = [] ∧
        ¬ ∃ pieces, Fills data pieces (override data).output ∧
          Fills other pieces (override other).output := by
  intro layout page filled files data other tags child override
  have hempty (path : Text) (v : Value) (hv : Fields.at? other (Context.segments path) = some v) :
      v.toText = [] := by
    cases hs : Context.segments path with
    | nil =>
      rw [hs] at hv
      cases hv
    | cons first rest =>
      simp only [hs, Fields.at?, other, Table.get?] at hv
      split at hv
      · cases rest with
        | nil =>
          cases hv
          rfl
        | cons => cases hv
      · cases hv
  -- All that is written without a value is written with one as well.
  have hnone : ¬ ∃ pieces, Fills data pieces "v" ∧ Fills other pieces "d" := by
    rintro ⟨pieces, hs, ht⟩
    have hsub := sublist_of_fills hempty hs ht
    exact absurd hsub (by decide)
  obtain ⟨hpage, hlayout, hfilled⟩ : tags page = (["extends l", "slot a", "end-slot"] : List Text) ∧
      tags layout = (["passed"] : List Text) ∧
      tags filled = (["block a", "end-block"] : List Text) := by decide +kernel
  obtain ⟨hv, hd, hchild⟩ : (child data).output = "v" ∧ (child other).output = "d" ∧
      (child data).problems = [] ∧ (child other).problems = [] := by decide +kernel
  obtain ⟨hv', hd', hoverride⟩ : (override data).output = "v" ∧ (override other).output = "d" ∧
      (override data).problems = [] ∧ (override other).problems = [] := by decide +kernel
  rw [hv, hd, hv', hd']
  exact ⟨⟨hpage, hlayout, hfilled, rfl, trivial, trivial⟩, ⟨hchild.1, hchild.2, hnone⟩,
    hoverride.1, hoverride.2, hnone⟩

end Engine
end Stencil
