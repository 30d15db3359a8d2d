import Stencil.Page
import Stencil.Proofs.Machine
/-!
# The stack of templates

While files are rendered inside one another, the context lists them with the arguments each of them
was entered with. No file stands in that list twice with the same arguments, and its innermost entry
tells which template is current and which arguments are in force. A file that stands in it with the
arguments in force is refused, and nothing is rendered then.
-/
namespace Stencil

/-! ### Sameness -/

private theorem Number.same_comm (m n : Number) : m.same n = n.same m := by
  cases m <;> cases n <;> simp [Number.same, Bool.beq_comm]

namespace Value

mutual

private theorem same_comm (v w : Value) : v.same w = w.same v :=
  match v, w with
  | .null, w => by cases w <;> rfl
  | .bool a, w => by cases w <;> simp [same, Bool.beq_comm]
  | .number m, w => by cases w <;> simp [same, Number.same_comm m]
  | .text s, w => by cases w <;> simp [same, Bool.beq_comm]
  | .array vs, .array ws => by simp only [same, sameItems_comm vs ws]
  | .object as, .object bs => by simp only [same, sameMembers_comm as bs]
  | .array _, .null | .array _, .bool _ | .array _, .number _ | .array _, .text _ => rfl
  | .array _, .object _ => rfl
  | .object _, .null | .object _, .bool _ | .object _, .number _ | .object _, .text _ => rfl
  | .object _, .array _ => rfl

private theorem sameItems_comm (vs ws : List Value) : sameItems vs ws = sameItems ws vs :=
  match vs, ws with
  | [], [] => rfl
  | [], _ :: _ | _ :: _, [] => rfl
  | v :: vs, w :: ws => by simp only [sameItems, same_comm v w, sameItems_comm vs ws]

private theorem sameMembers_comm (as bs : List (Text × Value)) :
    sameMembers as bs = sameMembers bs as :=
  match as, bs with
  | [], [] => rfl
  | [], _ :: _ | _ :: _, [] => rfl
  | (k, v) :: as, (l, w) :: bs => by
    simp only [sameMembers, same_comm v w, sameMembers_comm as bs, Bool.beq_comm (a := k)]

end

end Value

/-- Both entries name one file by its components, with equal arguments. -/
def SameEntry (a b : Path × Fields) : Prop :=
  Path.same a.1 b.1 = true ∧ Value.sameMembers a.2 b.2 = true

private theorem SameEntry.symm {a b : Path × Fields} (h : SameEntry a b) : SameEntry b a := by
  obtain ⟨hp, hv⟩ := h
  refine ⟨?_, by rw [Value.sameMembers_comm]; exact hv⟩
  simp only [Path.same, beq_iff_eq] at hp ⊢
  exact hp.symm

/-! ### Stacks -/

namespace Context

/-- The file is being rendered with the arguments in force. -/
def Holds (context : Context) (path : Path) : Prop :=
  ∃ entry ∈ context.active, SameEntry entry (path, context.props)

theorem isActive_iff (context : Context) (path : Path) :
    context.isActive path = true ↔ context.Holds path := by
  simp [isActive, Holds, SameEntry]

theorem not_holds_of_no_active {context : Context} (h : context.active = []) (path : Path) :
    ¬ context.Holds path := by
  rintro ⟨entry, hm, -⟩
  rw [h] at hm
  cases hm

/-- The state of the stack in a render that has begun in the context `initial`. -/
structure Stacked (context initial : Context) : Prop where
  distinct : context.active.Pairwise fun inner outer => ¬ SameEntry inner outer
  outside : context.active = [] →
    context.template = initial.template ∧ context.props = initial.props
  inside : ∀ entry outer, context.active = entry :: outer →
    context.template = some entry.1 ∧ context.props = entry.2

/-- Both contexts stand inside the same files, with the same arguments in force. -/
structure Alongside (a b : Context) : Prop where
  active : b.active = a.active
  template : b.template = a.template
  props : b.props = a.props

private theorem Alongside.trans {a b c : Context} (h : a.Alongside b) (h' : b.Alongside c) :
    a.Alongside c :=
  ⟨h'.active.trans h.active, h'.template.trans h.template, h'.props.trans h.props⟩

private theorem Framed.alongside {a b : Context} (h : a.Framed b) : a.Alongside b :=
  ⟨h.active, h.template, h.props⟩

private theorem alongside_self (c : Context) : c.Alongside c := ⟨rfl, rfl, rfl⟩

private theorem Alongside.leave {a b : Context} {path : Path} (h : (a.enter path).Alongside b) :
    a.Alongside (b.leave a) where
  active := by
    simp only [Context.leave, h.active]
    rfl
  template := rfl
  props := h.props

namespace Stacked

variable {initial : Context}

private theorem start {context : Context} (h : context.active = []) : context.Stacked context where
  distinct := by rw [h]; exact .nil
  outside _ := ⟨rfl, rfl⟩
  inside _ _ he := by rw [h] at he; cases he

private theorem alongside {a b : Context} (ha : a.Stacked initial) (h : a.Alongside b) :
    b.Stacked initial where
  distinct := by rw [h.active]; exact ha.distinct
  outside hb := by
    rw [h.template, h.props]
    exact ha.outside (h.active ▸ hb)
  inside entry outer hb := by
    rw [h.template, h.props]
    exact ha.inside entry outer (h.active ▸ hb)

private theorem enter {context : Context} {path : Path} (h : ¬ context.Holds path)
    (hd : context.active.Pairwise fun inner outer => ¬ SameEntry inner outer) :
    (context.enter path).Stacked initial where
  distinct := List.pairwise_cons.mpr ⟨fun entry hm hs => h ⟨entry, hm, hs.symm⟩, hd⟩
  outside ha := by cases ha
  inside entry outer ha := by cases ha; exact ⟨rfl, rfl⟩

end Stacked
end Context

/-! ### What a tag asks for -/

/-- From the context `before` on, the program asks for renders on sound stacks only, and it ends
where it began if the renders do. -/
inductive Program.Visits (initial before : Context) : Program → Prop
  | done {draft : Draft} : before.Alongside draft.context → Visits initial before (.done draft)
  | render {text : Text} {draft : Draft} {next : Draft → Program} :
    draft.context.Stacked initial →
    (∀ answer : Draft, draft.context.Alongside answer.context →
      Visits initial before (next answer)) →
    Visits initial before (.render text draft next)

namespace Program.Visits

variable {initial before : Context}

private theorem last (text : Text) {draft : Draft} (hs : before.Stacked initial)
    (h : before.Alongside draft.context) :
    (Program.render text draft .done).Visits initial before :=
  .render (hs.alongside h) fun _ ha => .done (h.trans ha)

private theorem of_done {program : Program} {draft : Draft}
    (hk : program.Keeps Context.Framed before) (hp : program = .done draft) :
    program.Visits initial before := by
  subst hp
  cases hk with
  | done h => exact .done h.alongside

private theorem inTemplate {path : Path} {content : Text} {draft : Draft}
    {refused : Problem → Program} {next : Draft → Program} (hs : before.Stacked initial)
    (ha : draft.context.active = before.active)
    (hrefused : ∀ problem, (refused problem).Visits initial before)
    (hnext : ∀ rendered : Draft, draft.context.Alongside rendered.context →
      (next rendered).Visits initial before) :
    (Program.inTemplate true path content draft refused next).Visits initial before := by
  simp only [Program.inTemplate, Bool.true_and]
  split
  · exact hrefused _
  · next hn =>
    rw [Context.isActive_iff] at hn
    refine .render (Context.Stacked.enter hn (by rw [ha]; exact hs.distinct)) fun answer h => ?_
    exact hnext _ h.leave

end Program.Visits

namespace BuiltIn

variable {initial : Context} {settings : Settings} (files : Files) (call : Call)
variable {draft : Draft}

private theorem ofBlock_visits {act : Settings → Call → Text → Draft → Program}
    (h : ∀ body, (act settings call body draft).Visits initial draft.context) :
    (TagProgram.ofBlock act settings files call draft).1.Visits initial draft.context := by
  simp only [TagProgram.ofBlock]
  split
  · exact h _
  · exact .done (Context.alongside_self _)

private theorem branch_visits (hs : draft.context.Stacked initial) :
    (TagProgram.branch settings files call draft).1.Visits initial draft.context := by
  refine ofBlock_visits files call fun body => ?_
  dsimp only
  split
  · exact .last _ hs (Context.alongside_self _)
  · split
    · exact .last _ hs (Context.alongside_self _)
    · exact .done (Context.alongside_self _)
  · exact .done (Context.alongside_self _)

private theorem iterations_visits {before : Context} (hs : before.Stacked initial)
    (name body : Text) (items : List Value) {draft : Draft}
    (h : before.Alongside draft.context) :
    (TagProgram.iterations name body items draft).Visits initial before := by
  induction items generalizing draft with
  | nil => exact .done h
  | cons item items ih =>
    have hb : before.Alongside (draft.context.pushScope [(name, item)]) :=
      ⟨h.active, h.template, h.props⟩
    refine .render (hs.alongside hb) fun answer ha => ih ?_
    have hbehind := hb.trans ha
    exact ⟨hbehind.active, hbehind.template, hbehind.props⟩

private theorem loop_visits (hs : draft.context.Stacked initial) :
    (TagProgram.loop settings files call draft).1.Visits initial draft.context := by
  refine ofBlock_visits files call fun body => ?_
  dsimp only
  split
  · exact iterations_visits hs _ _ _ (Context.alongside_self _)
  · exact .done (Context.alongside_self _)

private theorem fill_visits (hs : draft.context.Stacked initial) :
    (TagProgram.fill settings files call draft).1.Visits initial draft.context := by
  refine ofBlock_visits files call fun body => ?_
  split
  · exact .last _ hs (Context.alongside_self _)
  · exact .done (Context.alongside_self _)

private theorem inlineAsset_visits (kind : AssetKind) (hs : draft.context.Stacked initial) :
    (TagProgram.inlineAsset kind settings files call draft).1.Visits initial draft.context := by
  refine ofBlock_visits files call fun body => ?_
  refine .render hs fun answer ha => .done (ha.trans ?_)
  exact (Context.Framed.law.inlineAsset call kind answer.output
    { answer with output := draft.output }).alongside

private theorem inclusion_visits (hc : settings.refusesCycles = true)
    (hs : draft.context.Stacked initial) :
    (TagProgram.inclusion settings files call draft).1.Visits initial draft.context := by
  simp only [TagProgram.inclusion, TagProgram.leaf, hc]
  split
  · exact .done (Context.alongside_self _)
  · next name rest _ =>
    have hread := ContextLaw.arguments_context call rest draft
    generalize Inclusion.arguments call rest draft = read at hread
    obtain ⟨props, inside⟩ := read
    dsimp only at hread ⊢
    rw [← hread] at hs ⊢
    split
    · exact .done (Context.alongside_self _)
    · refine .inTemplate hs rfl (fun problem => .done ?_) fun rendered h => .done ?_
      · exact ⟨rfl, rfl, rfl⟩
      · exact ⟨h.active, h.template, rfl⟩

private theorem wrap_visits (hc : settings.refusesCycles = true) {before : Context}
    (hs : before.Stacked initial) (name inner : Text) {draft : Draft}
    (h : before.Alongside draft.context) :
    (TagProgram.wrap settings files name inner draft).Visits initial before := by
  simp only [TagProgram.wrap, hc]
  split
  · exact .done h
  · refine .inTemplate hs h.active (fun problem => .done ?_) fun rendered hr => .done ?_
    · exact ⟨h.active, h.template, h.props⟩
    · have hbehind := h.trans ⟨hr.active, hr.template, hr.props⟩
      exact ⟨hbehind.active, hbehind.template, hbehind.props⟩

private theorem layout_visits (hc : settings.refusesCycles = true)
    (hs : draft.context.Stacked initial) :
    (TagProgram.layout settings files call draft).1.Visits initial draft.context := by
  simp only [TagProgram.layout, TagProgram.ofBlockOrRest]
  split
  · exact .last _ hs (Context.alongside_self _)
  · split
    · exact .last _ hs (Context.alongside_self _)
    · exact .render hs fun answer ha => wrap_visits files hc hs _ _ ha

private theorem extend_visits (hc : settings.refusesCycles = true)
    (hs : draft.context.Stacked initial) :
    (TagProgram.extend settings files call draft).1.Visits initial draft.context := by
  simp only [TagProgram.extend, TagProgram.ofBlockOrRest]
  split
  · exact .done (Context.alongside_self _)
  · have hcollected := (Context.Framed.law.collecting settings.delimiters
      (call.blockOrRest settings.delimiters).body draft).alongside
    refine .render (hs.alongside hcollected) fun answer ha => ?_
    exact wrap_visits files hc hs _ _ (hcollected.trans ha)

/-- Whatever a built-in tag asks for is rendered on a sound stack if the tag stands on one. -/
theorem program_visits (hc : settings.refusesCycles = true) (tag : BuiltIn)
    (hs : draft.context.Stacked initial) :
    (tag.program settings files call draft).1.Visits initial draft.context := by
  have hk := Context.Framed.law.program_keeps settings files call tag draft
  cases tag with
  | branch => exact branch_visits files call hs
  | loop => exact loop_visits files call hs
  | partialFile => exact inclusion_visits files call hc hs
  | layout => exact layout_visits files call hc hs
  | extend => exact extend_visits files call hc hs
  | block => exact fill_visits files call hs
  | css | js => exact inlineAsset_visits files call _ hs
  | strayElse | assign | comment | passed | slot | define | importFile | metaElement | linkElement
  | title | rootHead | rootCss | rootJs => exact .of_done hk rfl

end BuiltIn

/-! ### Stacks during a run -/

namespace Machine

/-- Each waiting tag goes on with the stack it was invoked on. -/
def Await (initial : Context) : Context → List Pending → Prop
  | _, [] => True
  | context, pending :: outer => ∃ before : Context, before.Stacked initial ∧
      (∀ answer : Draft, context.Alongside answer.context →
        (pending.next answer).Visits initial before) ∧
      Await initial before outer

private theorem Await.alongside {initial a b : Context} {waiting : List Pending}
    (h : Await initial a waiting) (hab : a.Alongside b) : Await initial b waiting := by
  cases waiting with
  | nil => trivial
  | cons pending outer =>
    obtain ⟨before, hs, hn, ho⟩ := h
    exact ⟨before, hs, fun answer ha => hn answer (hab.trans ha), ho⟩

/-- The context stands on a sound stack, and so did all that wait. -/
structure Stands (initial context : Context) (waiting : List Pending) : Prop where
  stacked : context.Stacked initial
  await : Await initial context waiting

private theorem Stands.alongside {initial a b : Context} {waiting : List Pending}
    (h : Stands initial a waiting) (hab : a.Alongside b) : Stands initial b waiting :=
  ⟨h.stacked.alongside hab, h.await.alongside hab⟩

/-- Every stack of the state is sound. -/
def OnStack (initial : Context) : Machine → Prop
  | asked _ draft waiting => Stands initial draft.context waiting
  | scanning _ draft waiting => Stands initial draft.context waiting
  | invoking _ _ draft _ waiting => Stands initial draft.context waiting
  | acting program _ _ waiting =>
    ∃ before : Context, Stands initial before waiting ∧ program.Visits initial before
  | answered draft waiting => Stands initial draft.context waiting

variable {settings : Settings} {files : Files} {initial : Context}

private theorem readToken_onStack {scanner : Scanner} {draft : Draft} {waiting : List Pending}
    (h : Stands initial draft.context waiting) :
    (readToken settings scanner draft waiting).OnStack initial := by
  simp only [readToken]
  split
  · exact h.alongside ⟨rfl, rfl, rfl⟩
  · exact h.alongside ⟨rfl, rfl, rfl⟩
  · exact h
  · split
    · refine h.alongside ?_
      rw [Draft.writeOrReport_context]
      exact Context.alongside_self _
    · split
      · exact h
      · exact h

private theorem Step.onStack (hc : settings.refusesCycles = true) {before after : Machine}
    (hs : Step settings files before after) (h : before.OnStack initial) :
    after.OnStack initial := by
  cases before with
  | asked text draft waiting =>
    simp only [Step, step?, Option.some.injEq] at hs
    subst hs
    split
    · exact h
    · exact h.alongside ⟨rfl, rfl, rfl⟩
  | scanning scanner draft waiting =>
    cases hs
    exact readToken_onStack h
  | invoking tag call draft scanner waiting =>
    cases hs
    exact ⟨_, h, tag.program_visits files call hc h.stacked⟩
  | acting program scanner resume waiting =>
    obtain ⟨around, ha, hv⟩ := h
    cases hv with
    | done hd =>
      cases hs
      exact ha.alongside hd
    | render hd hn =>
      cases hs
      exact ⟨hd, around, ha.stacked, hn, ha.await⟩
  | answered draft waiting =>
    cases waiting with
    | nil => cases hs
    | cons pending outer =>
      cases hs
      obtain ⟨around, ha, hn, ho⟩ := h.await
      exact ⟨around, ⟨ha, ho⟩, hn draft (Context.alongside_self _)⟩

private theorem Steps.onStack (hc : settings.refusesCycles = true) {before after : Machine}
    (hs : Steps settings files before after) (h : before.OnStack initial) :
    after.OnStack initial := by
  induction hs with
  | refl => exact h
  | tail _ hstep ih => exact hstep.onStack hc ih

end Machine

/-! ### Entries and refusals -/

section

variable {path : Path}

private theorem Context.inTemplate_of_holds {α : Type} {context : Context} (h : context.Holds path)
    (run : Context → α × Context) :
    context.inTemplate true path run = .error (context.cycleAt path) := by
  rw [inTemplate, (context.isActive_iff path).mpr h]
  rfl

private theorem Context.inTemplate_of_not_holds {α : Type} {context : Context}
    (h : ¬ context.Holds path) (run : Context → α × Context) :
    context.inTemplate true path run =
      .ok ((run (context.enter path)).1, (run (context.enter path)).2.leave context) := by
  have hn : context.isActive path = false := by
    rw [← Bool.not_eq_true, context.isActive_iff path]
    exact h
  rw [inTemplate, hn]
  rfl

private theorem Draft.inTemplate_of_holds {draft : Draft} (h : draft.context.Holds path)
    (rendering : Draft → Draft) :
    draft.inTemplate true path rendering = .error (draft.context.cycleAt path) := by
  rw [inTemplate, Context.inTemplate_of_holds h]
  rfl

theorem Draft.inTemplate_of_not_holds {draft : Draft} (h : ¬ draft.context.Holds path)
    (rendering : Draft → Draft) :
    draft.inTemplate true path rendering =
      .ok ((rendering (draft.mapContext (·.enter path))).mapContext (·.leave draft.context)) := by
  rw [inTemplate, Context.inTemplate_of_not_holds h]
  rfl

private theorem Inclusion.renderFile_of_holds {scene : Scene} (hc : scene.refusesCycles = true)
    {props : Fields} {draft : Draft} (h : { draft.context with props }.Holds path)
    (content : Text) :
    renderFile scene path content props draft =
      draft.report ({ draft.context with props }.cycleAt path) := by
  have hd : (draft.mapContext fun context => { context with props }).context.Holds path := h
  simp only [renderFile, hc, Draft.inTemplate_of_holds hd]
  rfl

theorem Layout.enter_of_holds {scene : Scene} (hc : scene.refusesCycles = true)
    {draft : Draft} (h : draft.context.Holds path) (content inner : Text) :
    enter scene path content inner draft =
      (draft.write inner).report (draft.context.cycleAt path) := by
  have hd : (draft.mapContext fun context => { context with passed := some inner }).context.Holds
      path := h
  simp only [enter, hc, Draft.inTemplate_of_holds hd]
  rfl

private theorem Page.renderFile_of_holds {engine : Engine} (hc : engine.refusesCycles = true)
    (files : Files) {draft : Draft} (h : draft.context.Holds path) (content : Text) :
    renderFile engine files path content draft =
      { draft with output := [] }.report (draft.context.cycleAt path) := by
  have hd : { draft with output := [] }.context.Holds path := h
  simp only [renderFile, hc, Draft.inTemplate_of_holds hd]

private theorem Page.renderFile_of_no_active {settings : Settings}
    (hc : settings.refusesCycles = true) (files : Files) {draft : Draft}
    (ha : draft.context.active = []) (content : Text) :
    let rendered := (Engine.ofSettings settings).render files content
      ({ draft with output := [] }.mapContext (·.enter path))
    renderFile (Engine.ofSettings settings) files path content draft =
        rendered.mapContext (·.leave draft.context) ∧
      draft.context.Alongside (rendered.context.leave draft.context) := by
  intro rendered
  have hn : ¬ { draft with output := [] }.context.Holds path :=
    Context.not_holds_of_no_active ha path
  have hc' : (Engine.ofSettings settings).refusesCycles = true := hc
  have hframed := Engine.render_framed settings files content
    ({ draft with output := [] }.mapContext (·.enter path))
  refine ⟨?_, hframed.alongside.leave⟩
  simp only [renderFile, hc', Draft.inTemplate_of_not_holds hn]
  rfl

end

/-- Files are entered unless the stack holds them with the arguments in force. Then nothing is
rendered, and each of the three places that enter files leaves the context as it was. -/
structure Settings.EntersUnlessHeld (settings : Settings) (files : Files) : Prop where
  refused (context : Context) (path : Path) : context.Holds path →
    ∀ (α : Type) (run : Context → α × Context),
      context.inTemplate settings.refusesCycles path run = .error (context.cycleAt path)
  entered (context : Context) (path : Path) : ¬ context.Holds path →
    ∀ (α : Type) (run : Context → α × Context),
      context.inTemplate settings.refusesCycles path run =
        .ok ((run (context.enter path)).1, (run (context.enter path)).2.leave context)
  inclusion (levels : Nat) (path : Path) (content : Text) (props : Fields) (draft : Draft) :
    { draft.context with props }.Holds path →
      Inclusion.renderFile ((Engine.ofSettings settings).sceneWithin files levels) path content
        props draft = draft.report ({ draft.context with props }.cycleAt path)
  layout (levels : Nat) (path : Path) (content inner : Text) (draft : Draft) :
    draft.context.Holds path →
      Layout.enter ((Engine.ofSettings settings).sceneWithin files levels) path content inner
        draft = (draft.write inner).report (draft.context.cycleAt path)
  page (path : Path) (content : Text) (draft : Draft) : draft.context.Holds path →
    Page.renderFile (Engine.ofSettings settings) files path content draft =
      { draft with output := [] }.report (draft.context.cycleAt path)

private theorem Settings.entersUnlessHeld {settings : Settings} (hc : settings.refusesCycles = true)
    (files : Files) : settings.EntersUnlessHeld files where
  refused _ _ h _ run := hc ▸ Context.inTemplate_of_holds h run
  entered _ _ h _ run := hc ▸ Context.inTemplate_of_not_holds h run
  inclusion _ _ content _ _ h := Inclusion.renderFile_of_holds hc h content
  layout _ _ content inner _ h := Layout.enter_of_holds hc h content inner
  page _ content _ h := Page.renderFile_of_holds hc files h content

namespace Engine

/-- Rendering keeps the stack of templates sound at every tag it invokes, whether it begins with a
text or, as for a page and its root layout, with a file that is entered first. -/
theorem render_stacked (settings : Settings) (files : Files)
    (hc : settings.refusesCycles = true) (initial : Context) (ha : initial.active = []) :
    (∀ (text : Text) (start : Draft),
      start.context = initial ∨ (∃ path, start.context = initial.enter path) →
      ∀ tag call invoked scanner waiting,
        Machine.Steps settings files (.asked text start [])
          (.invoking tag call invoked scanner waiting) → invoked.context.Stacked initial) ∧
    (∀ (draft : Draft), draft.context = initial → ∀ (path : Path) (content : Text),
      let rendered := (ofSettings settings).render files content
        ({ draft with output := [] }.mapContext (·.enter path))
      Page.renderFile (ofSettings settings) files path content draft =
          rendered.mapContext (·.leave initial) ∧
        initial.Alongside (rendered.context.leave initial)) ∧
    settings.EntersUnlessHeld files := by
  have hn (path : Path) : ¬ initial.Holds path := by
    rintro ⟨entry, hm, -⟩
    rw [ha] at hm
    cases hm
  refine ⟨fun text start hstart tag call invoked scanner waiting hs => ?_,
    fun draft hd path content => ?_, Settings.entersUnlessHeld hc files⟩
  · have hstacked : start.context.Stacked initial := by
      rcases hstart with h | ⟨path, h⟩
      · rw [h]; exact .start ha
      · rw [h]; exact .enter (hn path) (by rw [ha]; exact .nil)
    have hbegin : (Machine.asked text start []).OnStack initial := ⟨hstacked, trivial⟩
    exact (Machine.Steps.onStack hc hs hbegin).stacked
  · subst hd
    exact Page.renderFile_of_no_active hc files ha content

/-- A file that includes itself is entered once with each argument. -/
theorem render_stacked_recursive :
    let path : Path := "./partials/a.hstm"
    let content : Text := "\x7b% partial a n=1 %\x7d"
    let files : Files := .ofKnown [(path, .ok content)]
    let initial : Context := { site := "." }
    let props : Fields := [("n", .int 1)]
    let inside : Context :=
      { initial with props, template := some path, active := [(path, props)], depth := 2 }
    standard.refusesCycles = true ∧ initial.active = [] ∧
      (∃ call scanner waiting,
        Machine.Steps standard.toSettings files (.asked content { context := initial } [])
          (.invoking .partialFile call { context := inside } scanner waiting)) ∧
      inside.Stacked initial ∧ inside.Holds path ∧
      Inclusion.renderFile ((ofSettings standard.toSettings).sceneWithin files 1) path content props
        { context := inside } = { context := inside, problems := [.cycle path [path, path]] } := by
  intro path content files initial props inside
  have hsteps : ∃ call scanner waiting,
      Machine.Steps standard.toSettings files (.asked content { context := initial } [])
        (.invoking .partialFile call { context := inside } scanner waiting) :=
    ⟨_, _, _, .head rfl (.head rfl (.head rfl (.head rfl (.head rfl (.single rfl)))))⟩
  obtain ⟨hstacked, -, henters⟩ := render_stacked standard.toSettings files rfl initial rfl
  have hholds : inside.Holds path := ⟨(path, props), List.mem_singleton.mpr rfl, rfl, rfl⟩
  refine ⟨rfl, rfl, hsteps, ?_, hholds, henters.inclusion 1 path content props _ hholds⟩
  obtain ⟨call, scanner, waiting, hs⟩ := hsteps
  exact hstacked content _ (.inl rfl) _ _ _ _ _ hs

end Engine
end Stencil
