import Stencil.Proofs.Noting
/-!
# What steers a render

Which texts are rendered on the way, and in which order, depends on the values, the blocks, the site
and the request. What has been written and noted, the content passed, the assets, the head and the
place in the nesting make no difference, as long as no entry is refused. Two renders of one text
that begin alike in what steers them end alike, unless one of them is nested too deeply.
-/
namespace Stencil

namespace Context

/-- What steers a render in the context. -/
def steering (context : Context) : Context :=
  { context with passed := none, template := none, active := [], depth := 0, assets := {}
                 head := {} }

/-- Renders in the two contexts are steered alike. -/
def SteersAs (a b : Context) : Prop := b.steering = a.steering

namespace SteersAs

variable {a b c : Context}

theorem refl (c : Context) : c.SteersAs c := rfl

private theorem symm (h : a.SteersAs b) : b.SteersAs a := Eq.symm h

theorem trans (h : a.SteersAs b) (h' : b.SteersAs c) : a.SteersAs c := Eq.trans h' h

private theorem reads {α : Type} (h : a.SteersAs b) (read : Context → α)
    (hr : ∀ c : Context, read c.steering = read c) : read b = read a := by
  rw [← hr a, ← hr b, show b.steering = a.steering from h]

private theorem change (h : a.SteersAs b) (f : Context → Context)
    (hf : ∀ c : Context, (f c.steering).steering = (f c).steering) : (f a).SteersAs (f b) := by
  rw [SteersAs, ← hf a, ← hf b, show b.steering = a.steering from h]

private theorem storeBlock (h : a.SteersAs b) (name content : Text) :
    (a.storeBlock name content).SteersAs (b.storeBlock name content) := by
  refine h.change (·.storeBlock name content) fun c => ?_
  cases hb : c.blocks.has name with
  | true => simp only [Context.storeBlock, steering, hb, if_true]
  | false => simp only [Context.storeBlock, steering, hb, Bool.false_eq_true, if_false]

private theorem assign? (h : a.SteersAs b) (path : Text) (value : Value) :
    (b.assign? path value).map steering = (a.assign? path value).map steering := by
  refine h.reads (fun c => (c.assign? path value).map steering) fun c => ?_
  simp only [Context.assign?]
  split
  · rfl
  · dsimp only [steering]
    split <;> rfl

end SteersAs

/-- The contexts have the same values and the same content for named blocks. -/
structure SameValues (a b : Context) : Prop where
  data : b.data = a.data
  props : b.props = a.props
  scopes : b.scopes = a.scopes
  blocks : b.blocks = a.blocks

theorem SameValues.steersAs {a b : Context} (h : a.SameValues b) (hs : b.site = a.site)
    (hr : b.request = a.request) : a.SteersAs b := by
  simp only [SteersAs, steering, hs, hr, h.data, h.props, h.scopes, h.blocks]

end Context

/-- The programs ask for the same texts in contexts that are steered alike, as long as they are
answered so, and end so. -/
inductive Program.Parallel : Program → Program → Prop
  | done {first second : Draft} : first.context.SteersAs second.context →
    Parallel (.done first) (.done second)
  | render {text : Text} {first second : Draft} {next next' : Draft → Program} :
    first.context.SteersAs second.context →
    (∀ answer answer' : Draft, answer.context.SteersAs answer'.context →
      Parallel (next answer) (next' answer')) →
    Parallel (.render text first next) (.render text second next')

/-- The programs run in parallel, and scanning resumes at the same place behind them. -/
def Program.ParallelAt (first second : Program × Nat) : Prop :=
  first.1.Parallel second.1 ∧ second.2 = first.2

namespace Program.Parallel

private theorem last (text : Text) {first second : Draft}
    (h : first.context.SteersAs second.context) :
    (Program.render text first .done).Parallel (.render text second .done) :=
  .render h fun _ _ ha => .done ha

private theorem inTemplate {path : Path} {content : Text} {first second : Draft}
    {refused refused' : Problem → Program} {next next' : Draft → Program}
    (h : first.context.SteersAs second.context)
    (hn : ∀ answer answer' : Draft, answer.context.SteersAs answer'.context →
      (next answer).Parallel (next' answer')) :
    (Program.inTemplate false path content first refused next).Parallel
      (Program.inTemplate false path content second refused' next') :=
  .render h fun _ _ ha => hn _ _ ha

end Program.Parallel

namespace BuiltIn

variable {settings : Settings} (files : Files) (call : Call) {first second : Draft}

private theorem ofBlock_parallel {act : Settings → Call → Text → Draft → Program}
    (h : first.context.SteersAs second.context)
    (ha : ∀ body, (act settings call body first).Parallel (act settings call body second)) :
    Program.ParallelAt (TagProgram.ofBlock act settings files call first)
      (TagProgram.ofBlock act settings files call second) := by
  simp only [TagProgram.ofBlock]
  split
  · exact ⟨ha _, rfl⟩
  · exact ⟨.done h, rfl⟩

private theorem branch_parallel (h : first.context.SteersAs second.context) :
    Program.ParallelAt (TagProgram.branch settings files call first)
      (TagProgram.branch settings files call second) := by
  refine ofBlock_parallel files call h fun body => ?_
  have hcondition : Condition.evaluate second.context call.arguments =
      Condition.evaluate first.context call.arguments :=
    h.reads (Condition.evaluate · call.arguments) fun _ => rfl
  dsimp only
  rw [hcondition]
  split
  · exact .last _ h
  · split
    · exact .last _ h
    · exact .done h
  · exact .done h

private theorem iterations_parallel (name body : Text) (items : List Value) {first second : Draft}
    (h : first.context.SteersAs second.context) :
    (TagProgram.iterations name body items first).Parallel
      (TagProgram.iterations name body items second) := by
  induction items generalizing first second with
  | nil => exact .done h
  | cons item items ih =>
    refine .render (h.change (·.pushScope [(name, item)]) fun _ => rfl) fun answer answer' ha => ?_
    exact ih (ha.change (·.popScope) fun _ => rfl)

private theorem loop_parallel (h : first.context.SteersAs second.context) :
    Program.ParallelAt (TagProgram.loop settings files call first)
      (TagProgram.loop settings files call second) := by
  refine ofBlock_parallel files call h fun body => ?_
  have hitems (path : Text) : Loop.items second.context path = Loop.items first.context path :=
    h.reads (Loop.items · path) fun _ => rfl
  simp only [hitems]
  split
  · exact iterations_parallel _ _ _ h
  · exact .done h

private theorem arguments_eq (tokens : List Text) (h : first.context.SteersAs second.context) :
    (Inclusion.arguments call tokens second).1 = (Inclusion.arguments call tokens first).1 := by
  simp only [Inclusion.arguments]
  generalize ([] : Fields) = fields
  induction tokens generalizing fields first second with
  | nil => rfl
  | cons token tokens ih =>
    have hargument : Inclusion.argument second.context call token =
        Inclusion.argument first.context call token :=
      h.reads (Inclusion.argument · call token) fun _ => rfl
    simp only [List.foldl_cons, hargument]
    split
    · exact ih h _
    · apply ih
      exact h

private theorem inclusion_parallel (hc : settings.refusesCycles = false)
    (h : first.context.SteersAs second.context) :
    Program.ParallelAt (TagProgram.inclusion settings files call first)
      (TagProgram.inclusion settings files call second) := by
  simp only [TagProgram.inclusion, TagProgram.leaf, hc]
  refine ⟨?_, rfl⟩
  dsimp only
  split
  · exact .done h
  · next name rest _ =>
    have hprops := arguments_eq call rest h
    have hfirst := ContextLaw.arguments_context call rest first
    have hsecond := ContextLaw.arguments_context call rest second
    generalize Inclusion.arguments call rest first = read at hprops hfirst
    generalize Inclusion.arguments call rest second = read' at hprops hsecond
    obtain ⟨props, inside⟩ := read
    obtain ⟨props', inside'⟩ := read'
    dsimp only at hprops hfirst hsecond ⊢
    subst hprops
    rw [← hfirst, ← hsecond] at h
    have hsite : inside'.context.site = inside.context.site := h.reads _ fun _ => rfl
    have hrestored : inside'.context.props = inside.context.props := h.reads _ fun _ => rfl
    rw [hsite]
    split
    · exact .done h
    · refine .inTemplate (h.change (fun c => { c with props := props' }) fun _ => rfl)
        fun answer answer' ha => .done ?_
      dsimp only [Draft.mapContext]
      rw [hrestored]
      exact ha.change (fun c => { c with props := inside.context.props }) fun _ => rfl

private theorem wrap_parallel (hc : settings.refusesCycles = false) (name inner inner' : Text)
    {first second : Draft} (h : first.context.SteersAs second.context) :
    (TagProgram.wrap settings files name inner first).Parallel
      (TagProgram.wrap settings files name inner' second) := by
  have hsite : second.context.site = first.context.site := h.reads _ fun _ => rfl
  simp only [TagProgram.wrap, hc, hsite]
  split
  · exact .done h
  · exact .inTemplate h fun answer answer' ha => .done ha

private theorem layout_parallel (hc : settings.refusesCycles = false)
    (h : first.context.SteersAs second.context) :
    Program.ParallelAt (TagProgram.layout settings files call first)
      (TagProgram.layout settings files call second) := by
  have hbypass : second.context.bypassesLayouts settings.config.bypassHeader =
      first.context.bypassesLayouts settings.config.bypassHeader :=
    h.reads (·.bypassesLayouts settings.config.bypassHeader) fun _ => rfl
  simp only [TagProgram.layout, TagProgram.ofBlockOrRest, hbypass]
  refine ⟨?_, rfl⟩
  dsimp only
  split
  · exact .last _ h
  · split
    · exact .last _ h
    · exact .render h fun answer answer' ha => wrap_parallel files hc _ _ _ ha

private theorem collect_parallel (delimiters : Delimiters) (body : Text)
    (h : first.context.SteersAs second.context) :
    (Slot.collect delimiters body first).2.context.SteersAs
      (Slot.collect delimiters body second).2.context := by
  simp only [Slot.collect]
  generalize Slot.pieces delimiters body = pieces
  induction pieces generalizing first second with
  | nil => exact h
  | cons piece pieces ih =>
    apply ih
    cases piece with
    | kept text => exact h
    | filled written content => exact h.storeBlock _ _
    | dropped written => exact h

private theorem extend_parallel (hc : settings.refusesCycles = false)
    (h : first.context.SteersAs second.context) :
    Program.ParallelAt (TagProgram.extend settings files call first)
      (TagProgram.extend settings files call second) := by
  simp only [TagProgram.extend, TagProgram.ofBlockOrRest]
  refine ⟨?_, rfl⟩
  dsimp only
  split
  · exact .done h
  · exact .render (collect_parallel _ _ h) fun answer answer' ha => wrap_parallel files hc _ _ _ ha

private theorem fill_parallel (h : first.context.SteersAs second.context) :
    Program.ParallelAt (TagProgram.fill settings files call first)
      (TagProgram.fill settings files call second) := by
  refine ofBlock_parallel files call h fun body => ?_
  have hblocks : second.context.blocks = first.context.blocks := h.reads _ fun _ => rfl
  rw [hblocks]
  split
  · exact .last _ h
  · exact .done h

private theorem register_steersAs (kind : AssetKind) (rendered : Text) (draft : Draft) :
    draft.context.SteersAs (InlineAsset.register kind call rendered draft).context := by
  simp only [InlineAsset.register]
  split
  · exact .refl _
  · split
    · next hr =>
      obtain ⟨asset, -, hr⟩ := exists_of_bind_eq_ok hr
      obtain ⟨_, assets, -, rfl⟩ := AssetTag.add_of_register hr
      exact .refl _
    · exact .refl _

private theorem inlineAsset_parallel (kind : AssetKind)
    (h : first.context.SteersAs second.context) :
    Program.ParallelAt (TagProgram.inlineAsset kind settings files call first)
      (TagProgram.inlineAsset kind settings files call second) := by
  refine ofBlock_parallel files call h fun body => .render h fun answer answer' ha => .done ?_
  have hfirst := register_steersAs call kind answer.output { answer with output := first.output }
  have hsecond := register_steersAs call kind answer'.output
    { answer' with output := second.output }
  exact hfirst.symm.trans (Context.SteersAs.trans ha hsecond)

/-! ### Tags that ask for no render -/

private theorem still_parallel {action : TagAction} (h : first.context.SteersAs second.context)
    (hidle : ∀ scene (draft : Draft), draft.context.SteersAs (action scene call draft).1.context)
    (hnext : ∀ scene, (action scene call second).2 = (action scene call first).2) :
    Program.ParallelAt (TagProgram.still action settings files call first)
      (TagProgram.still action settings files call second) :=
  ⟨.done ((hidle _ first).symm.trans (h.trans (hidle _ second))), hnext _⟩

private theorem assigned_steering (filters : Table Filter)
    (h : first.context.SteersAs second.context) :
    (Assignment.assigned filters call second.context).map Context.steering =
      (Assignment.assigned filters call first.context).map Context.steering := by
  have hvalue (expression : Text) : Expression.evaluate filters second.context expression =
      Expression.evaluate filters first.context expression :=
    h.reads (Expression.evaluate filters · expression) fun _ => rfl
  simp only [Assignment.assigned, hvalue]
  split
  · rfl
  · next name expression _ =>
    cases Text.isBlankText expression with
    | true => rfl
    | false =>
      cases Expression.evaluate filters first.context (Text.trim expression) with
      | error problem => rfl
      | ok value =>
        have hassign := h.assign? name value
        dsimp only [Bind.bind, Except.bind]
        cases hf : first.context.assign? name value with
        | none =>
          cases hs : second.context.assign? name value with
          | none => rfl
          | some context' =>
            rw [hf, hs] at hassign
            cases hassign
        | some context =>
          cases hs : second.context.assign? name value with
          | none =>
            rw [hf, hs] at hassign
            cases hassign
          | some context' =>
            rw [hf, hs] at hassign
            exact congrArg Except.ok (Option.some.inj hassign)

private theorem assign_parallel (h : first.context.SteersAs second.context) :
    Program.ParallelAt (TagProgram.still Assignment.run settings files call first)
      (TagProgram.still Assignment.run settings files call second) := by
  have hassigned := assigned_steering call settings.filters h
  refine ⟨.done ?_, rfl⟩
  dsimp only [Assignment.run]
  cases ha : Assignment.assigned settings.filters call first.context with
  | ok context =>
    cases hb : Assignment.assigned settings.filters call second.context with
    | ok context' =>
      rw [ha, hb] at hassigned
      exact Except.ok.inj hassigned
    | error problem =>
      rw [ha, hb] at hassigned
      cases hassigned
  | error problem =>
    cases hb : Assignment.assigned settings.filters call second.context with
    | ok context' =>
      rw [ha, hb] at hassigned
      cases hassigned
    | error problem' => exact h

private theorem store_parallel (h : first.context.SteersAs second.context) :
    Program.ParallelAt (TagProgram.still Slot.store settings files call first)
      (TagProgram.still Slot.store settings files call second) := by
  simp only [TagProgram.still, Slot.store, TagAction.ofBlock]
  split
  · refine ⟨.done ?_, rfl⟩
    dsimp only
    split
    · exact h.storeBlock _ _
    · exact h
  · exact ⟨.done h, rfl⟩

private theorem skip_parallel (h : first.context.SteersAs second.context) :
    Program.ParallelAt (TagProgram.still TagAction.skip settings files call first)
      (TagProgram.still TagAction.skip settings files call second) := by
  simp only [TagProgram.still, TagAction.skip, TagAction.ofBlock]
  split
  · exact ⟨.done h, rfl⟩
  · exact ⟨.done h, rfl⟩

private theorem import_steersAs (scene : Scene) (draft : Draft) :
    draft.context.SteersAs (Import.run scene call draft).1.context := by
  simp only [Import.run, TagAction.leaf]
  split
  · next hi =>
    rcases Import.imported_cases hi with ⟨text, rfl⟩ | ⟨_, _, _, context, -, -, -, hr, rfl⟩
    · exact .refl _
    · obtain ⟨_, assets, -, rfl⟩ := AssetTag.add_of_register hr
      exact .refl _
  · exact .refl _

private theorem element_steersAs (name : Text) (scene : Scene) (draft : Draft) :
    draft.context.SteersAs (HeadTag.element name scene call draft).1.context := by
  simp only [HeadTag.element, TagAction.leaf]
  split
  · exact .refl _
  · split
    · exact .refl _
    · exact .refl _

private theorem title_steersAs (scene : Scene) (draft : Draft) :
    draft.context.SteersAs (HeadTag.title scene call draft).1.context := by
  simp only [HeadTag.title, TagAction.leaf]
  split
  · exact .refl _
  · split
    · exact .refl _
    · exact .refl _

/-- Where no entry is refused, a built-in tag runs in parallel in contexts that are steered
alike. -/
theorem program_parallel (hc : settings.refusesCycles = false) (tag : BuiltIn)
    (h : first.context.SteersAs second.context) :
    Program.ParallelAt (tag.program settings files call first)
      (tag.program settings files call second) := by
  cases tag with
  | branch => exact branch_parallel files call h
  | loop => exact loop_parallel files call h
  | partialFile => exact inclusion_parallel files call hc h
  | layout => exact layout_parallel files call hc h
  | extend => exact extend_parallel files call hc h
  | block => exact fill_parallel files call h
  | css => exact inlineAsset_parallel files call .css h
  | js => exact inlineAsset_parallel files call .js h
  | assign => exact assign_parallel files call h
  | comment => exact skip_parallel files call h
  | slot | define => exact store_parallel files call h
  | importFile => exact still_parallel files call h (import_steersAs call) fun _ => rfl
  | metaElement | linkElement =>
    exact still_parallel files call h (element_steersAs call _) fun _ => rfl
  | title => exact still_parallel files call h (title_steersAs call) fun _ => rfl
  | strayElse | passed | rootHead | rootCss | rootJs => exact ⟨.done h, rfl⟩

end BuiltIn
end Stencil
