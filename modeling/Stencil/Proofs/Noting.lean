import Stencil.Proofs.Append
import Stencil.Proofs.Frame
/-!
# What tags note

A built-in tag notes what is wrong with its own call. That renders are nested too deeply is noted by
the render that is refused, and that a file stands inside of itself by the entry that is refused, so
where no entry is refused no tag notes anything about nesting. What a tag asks for stands beside the
tag, or inside a file that it enters.
-/
namespace Stencil

/-- The problem is a file inside of itself. -/
def Problem.isCycle : Problem → Bool
  | .cycle .. => true
  | _ => false

/-- The problem is that renders are nested too deeply, or a file inside of itself. -/
def Problem.isNesting : Problem → Bool
  | .depthExceeded .. => true
  | problem => problem.isCycle

/-- A failure has nothing to do with nesting. -/
def FailsLocally {α : Type} (result : Except Problem α) : Prop :=
  ∀ problem, result = .error problem → problem.isNesting = false

namespace FailsLocally

variable {α β : Type}

private theorem ok (a : α) : FailsLocally (.ok a) := fun _ h => nomatch h

private theorem error {problem : Problem} (h : problem.isNesting = false) :
    FailsLocally (.error problem : Except Problem α) := by
  rintro _ ⟨⟩
  exact h

private theorem bind {x : Except Problem α} {f : α → Except Problem β} (hx : FailsLocally x)
    (hf : ∀ a, FailsLocally (f a)) : FailsLocally (x >>= f) := by
  cases x with
  | ok a => exact hf a
  | error problem =>
    rintro _ ⟨⟩
    exact hx problem rfl

private theorem map {x : Except Problem α} (f : α → β) (hx : FailsLocally x) :
    FailsLocally (x.map f) := by
  cases x with
  | ok a => exact ok _
  | error problem =>
    rintro _ ⟨⟩
    exact hx problem rfl

private theorem foldlM {f : β → α → Except Problem β} (hf : ∀ b a, FailsLocally (f b a))
    (items : List α) (b : β) : FailsLocally (items.foldlM f b) := by
  induction items generalizing b with
  | nil => exact ok b
  | cons item items ih =>
    rw [List.foldlM_cons]
    exact (hf b item).bind ih

end FailsLocally

/-! ### What can fail in a call -/

section Failures

variable (context : Context) (files : Files) (filters : Table Filter) (call : Call)

private theorem Expression.value_failsLocally (token : Text) :
    FailsLocally (value context token) := by
  unfold value
  split
  · exact .ok _
  · exact .error rfl

private theorem Expression.applyStage_failsLocally (value : Value) (stage : Text) :
    FailsLocally (applyStage filters value stage) := by
  unfold applyStage
  split
  · exact .error rfl
  · split
    · exact .error rfl
    · split
      · exact .ok _
      · exact .error rfl

private theorem Expression.evaluate_failsLocally (expression : Text) :
    FailsLocally (evaluate filters context expression) := by
  unfold evaluate
  split
  · exact value_failsLocally context _
  · refine .bind (.foldlM (applyStage_failsLocally filters) _ _) fun result => ?_
    split
    · exact .bind (.error rfl) fun _ => .ok _
    · exact .ok _

private theorem Condition.evaluate_failsLocally (condition : Text) :
    FailsLocally (evaluate context condition) := by
  unfold evaluate
  split
  · exact .error rfl
  · exact .ok _
  · split
    · exact .error rfl
    · dsimp only
      split
      · exact .ok _
      · exact .error rfl
  · exact .error rfl

private theorem Loop.head_failsLocally : FailsLocally (head call) := by
  unfold head
  split
  · split
    · exact .error rfl
    · dsimp only
      split
      · exact .error rfl
      · exact .ok _
  · exact .error rfl

private theorem Loop.items_failsLocally (path : Text) : FailsLocally (items context path) := by
  unfold items
  refine .bind (Expression.value_failsLocally context path) fun value => ?_
  split
  · exact .ok _
  · exact .error rfl

private theorem Inclusion.argument_failsLocally (token : Text) :
    FailsLocally (argument context call token) := by
  unfold argument
  split
  · split
    · exact .error rfl
    · exact .map _ (Expression.value_failsLocally context _)
  · exact .error rfl

private theorem Template.read_failsLocally (path : Path) : FailsLocally (read files path) := by
  unfold read
  split
  · exact .ok _
  · exact .error rfl

private theorem Template.load_failsLocally (config : Config) (site : Path) (role : TemplateRole)
    (written : Text) : FailsLocally (load config files site role written) := by
  have hlocate : FailsLocally (locate config files site role written) := by
    unfold locate
    dsimp only
    split
    · exact .ok _
    · exact .error rfl
  exact hlocate.bind fun path => (read_failsLocally files path).bind fun content => .ok _

private theorem Assignment.assigned_failsLocally :
    FailsLocally (assigned filters call context) := by
  unfold assigned
  split
  · exact .error rfl
  · dsimp only
    split
    · exact .error rfl
    · refine (Expression.evaluate_failsLocally context filters _).bind fun value => ?_
      split
      · exact .ok _
      · exact .error rfl

private theorem AssetTag.withOptions_failsLocally (options : Options) (asset : Asset) :
    FailsLocally (withOptions call options asset) := by
  have hpriority : FailsLocally (readPriority call options asset) := by
    unfold readPriority
    split
    · exact .ok _
    · split
      · exact .ok _
      · exact .error rfl
  exact hpriority.bind fun given => .ok _

private theorem AssetTag.register_failsLocally (asset : Asset) (dependencies : List Text) :
    FailsLocally (register context asset dependencies) := by
  unfold register
  split
  · exact .ok _
  · exact .error rfl

private theorem Import.find_failsLocally (options : Options) (path : Path) :
    FailsLocally (find files call options context path) := by
  unfold find
  split
  · split
    · exact .ok _
    · exact .error rfl
  · refine .bind (Template.read_failsLocally files _) fun content => ?_
    split
    · exact .ok _
    · exact .ok _

private theorem Import.imported_failsLocally (draft : Draft) :
    FailsLocally (imported files call draft) := by
  have hwanted (options : Options) : FailsLocally (isWanted options draft.context) := by
    unfold isWanted
    split
    · exact Condition.evaluate_failsLocally _ _
    · exact .ok _
  unfold imported
  dsimp only
  split
  · exact .error rfl
  · refine .bind (hwanted _) fun wanted => ?_
    split
    · exact .ok _
    · refine .bind (find_failsLocally _ _ _ _ _) fun found => ?_
      split
      · exact .ok _
      · refine .bind (AssetTag.withOptions_failsLocally _ _ _) fun asset => ?_
        exact .bind (AssetTag.register_failsLocally _ _ _) fun context => .ok _

private theorem HeadTag.addToken_failsLocally (element : HeadElement) (token : Text) :
    FailsLocally (addToken context element token) := by
  unfold addToken
  split
  · refine .map _ ?_
    unfold valueText
    split
    · exact .map _ (Expression.value_failsLocally context _)
    · exact .ok _
  · exact .ok _

private theorem HeadTag.titleText_failsLocally (written : Text) :
    FailsLocally (titleText filters context written) := by
  unfold titleText
  split
  · exact .map _ (Expression.evaluate_failsLocally context filters _)
  · exact .ok _

private theorem Call.block_failsLocally (delimiters : Delimiters) :
    FailsLocally (call.block delimiters) := by
  unfold block
  split
  · exact .ok _
  · exact .error rfl

end Failures

/-! ### Drafts -/

/-- The second draft has the problems of the first one, and behind them only such problems. -/
def Draft.Notes (allowed : Problem → Bool) (before after : Draft) : Prop :=
  ∃ noted, after.problems = before.problems ++ noted ∧ ∀ problem ∈ noted, allowed problem = true

/-- Problems that a tag notes by itself. -/
def Problem.isLocal (problem : Problem) : Bool := !problem.isNesting

/-- Problems that are noted where no entry is refused. -/
def Problem.isUnguarded (problem : Problem) : Bool := !problem.isCycle

namespace Draft.Notes

variable {allowed : Problem → Bool} {before draft after : Draft}

theorem of_eq (h : draft.problems = before.problems) : before.Notes allowed draft :=
  ⟨[], by rw [h, List.append_nil], fun _ hm => nomatch hm⟩

theorem refl (draft : Draft) : draft.Notes allowed draft := of_eq rfl

private theorem report {problem : Problem} (h : allowed problem = true) :
    draft.Notes allowed (draft.report problem) :=
  ⟨[problem], rfl, fun _ hm => List.mem_singleton.mp hm ▸ h⟩

theorem trans (h : before.Notes allowed draft) (h' : draft.Notes allowed after) :
    before.Notes allowed after := by
  obtain ⟨first, hf, hfirst⟩ := h
  obtain ⟨second, hs, hsecond⟩ := h'
  refine ⟨first ++ second, by rw [hs, hf, List.append_assoc], fun problem hm => ?_⟩
  rcases List.mem_append.mp hm with hm | hm
  · exact hfirst problem hm
  · exact hsecond problem hm

theorem mono {others : Problem → Bool} (h : before.Notes allowed draft)
    (ha : ∀ problem, allowed problem = true → others problem = true) :
    before.Notes others draft := by
  obtain ⟨noted, hn, hall⟩ := h
  exact ⟨noted, hn, fun problem hm => ha problem (hall problem hm)⟩

theorem mem (h : before.Notes allowed draft) {problem : Problem} (hm : problem ∈ before.problems) :
    problem ∈ draft.problems := by
  obtain ⟨noted, hn, -⟩ := h
  rw [hn]
  exact List.mem_append_left _ hm

private theorem failure {α : Type} {result : Except Problem α} {problem : Problem}
    (h : FailsLocally result) (hr : result = .error problem) :
    draft.Notes Problem.isLocal (draft.report problem) :=
  report (by simp [Problem.isLocal, h problem hr])

private theorem writeOrReport {result : Except Problem Text} (h : FailsLocally result) :
    draft.Notes Problem.isLocal (draft.writeOrReport result) := by
  cases result with
  | ok text => exact of_eq rfl
  | error problem => exact failure h rfl

end Draft.Notes

/-! ### Where a render is asked for -/

namespace Context

/-- Both contexts belong to one page and stand inside the same files. -/
structure Beside (a b : Context) : Prop where
  site : b.site = a.site
  request : b.request = a.request
  active : b.active = a.active

private theorem Beside.refl (c : Context) : c.Beside c := ⟨rfl, rfl, rfl⟩

theorem Beside.trans {a b c : Context} (h : a.Beside b) (h' : b.Beside c) : a.Beside c :=
  ⟨h'.site.trans h.site, h'.request.trans h.request, h'.active.trans h.active⟩

theorem Framed.beside {a b : Context} (h : a.Framed b) : a.Beside b :=
  ⟨h.site, h.request, h.active⟩

/-- The text stands beside the origin, or it is the content of a file that is entered from there. -/
def Opens (files : Files) (origin : Context) (text : Text) (asked : Context) : Prop :=
  origin.Beside asked ∨ ∃ path outside, origin.Beside outside ∧ asked = outside.enter path ∧
    files.read path = .ok text

end Context

/-- From the draft on, the program notes local problems only, and what it asks for is opened from
the origin. -/
inductive Program.Nests (files : Files) (origin : Context) : Draft → Program → Prop
  | done {before draft : Draft} : before.Notes Problem.isLocal draft →
    Nests files origin before (.done draft)
  | render {before draft : Draft} {text : Text} {next : Draft → Program} :
    before.Notes Problem.isLocal draft → origin.Opens files text draft.context →
    (∀ answer : Draft, draft.context.Beside answer.context →
      Nests files origin answer (next answer)) →
    Nests files origin before (.render text draft next)

namespace Program.Nests

variable {files : Files} {origin : Context} {before draft : Draft}

private theorem last (text : Text) (h : before.Notes Problem.isLocal draft)
    (ho : origin.Beside draft.context) :
    (Program.render text draft .done).Nests files origin before :=
  .render h (.inl ho) fun answer _ => .done (.refl answer)

private theorem of_problems_eq {program : Program} {other : Draft}
    (h : program.Nests files origin before)
    (he : before.problems = other.problems) : program.Nests files origin other := by
  cases h with
  | done hn => exact .done ((Draft.Notes.of_eq he).trans hn)
  | render hn ho hnext => exact .render ((Draft.Notes.of_eq he).trans hn) ho hnext

private theorem inTemplate {path : Path} {content : Text} {refused : Problem → Program}
    {next : Draft → Program} (h : before.Notes Problem.isLocal draft)
    (ho : origin.Beside draft.context) (hread : files.read path = .ok content)
    (hn : ∀ answer, (next answer).Nests files origin answer) :
    (Program.inTemplate false path content draft refused next).Nests files origin before :=
  .render h (.inr ⟨path, draft.context, ho, rfl, hread⟩) fun answer _ =>
    (hn (answer.mapContext (·.leave draft.context))).of_problems_eq rfl

end Program.Nests

theorem Template.read_of_load {config : Config} {files : Files} {site path : Path}
    {role : TemplateRole} {written content : Text}
    (h : load config files site role written = .ok (path, content)) :
    files.read path = .ok content := by
  obtain ⟨located, -, h⟩ := exists_of_bind_eq_ok h
  obtain ⟨found, hr, h⟩ := exists_of_bind_eq_ok h
  cases h
  unfold read at hr
  split at hr
  · next hread =>
    cases hr
    exact hread
  · cases hr

namespace BuiltIn

variable {settings : Settings} (files : Files) (call : Call)

private theorem ofBlock_nests {act : Settings → Call → Text → Draft → Program} (draft : Draft)
    (h : ∀ body, (act settings call body draft).Nests files draft.context draft) :
    (TagProgram.ofBlock act settings files call draft).1.Nests files draft.context draft := by
  simp only [TagProgram.ofBlock]
  split
  · exact h _
  · next hb => exact .done (.failure (call.block_failsLocally _) hb)

private theorem branch_nests (draft : Draft) :
    (TagProgram.branch settings files call draft).1.Nests files draft.context draft := by
  refine ofBlock_nests files call draft fun body => ?_
  dsimp only
  split
  · exact .last _ (.refl _) (.refl _)
  · split
    · exact .last _ (.refl _) (.refl _)
    · exact .done (.refl _)
  · next hc => exact .done (.failure (Condition.evaluate_failsLocally _ _) hc)

private theorem iterations_nests {origin : Context} (name body : Text) (items : List Value)
    (draft : Draft) (ho : origin.Beside draft.context) :
    (TagProgram.iterations name body items draft).Nests files origin draft := by
  induction items generalizing draft with
  | nil => exact .done (.refl _)
  | cons item items ih =>
    have hinside : origin.Beside (draft.context.pushScope [(name, item)]) :=
      ⟨ho.site, ho.request, ho.active⟩
    refine .render (.of_eq rfl) (.inl hinside) fun answer ha => ?_
    have hbehind := hinside.trans ha
    have hrest := ih (answer.mapContext (·.popScope))
      ⟨hbehind.site, hbehind.request, hbehind.active⟩
    exact hrest.of_problems_eq rfl

private theorem loop_nests (draft : Draft) :
    (TagProgram.loop settings files call draft).1.Nests files draft.context draft := by
  refine ofBlock_nests files call draft fun body => ?_
  dsimp only
  split
  · exact iterations_nests files _ _ _ draft (.refl _)
  · next hl =>
    refine .done (.failure ?_ hl)
    exact (Loop.head_failsLocally call).bind fun head =>
      (Loop.items_failsLocally draft.context head.2).bind fun items => .ok _

private theorem arguments_notes (tokens : List Text) (draft : Draft) :
    draft.Notes Problem.isLocal (Inclusion.arguments call tokens draft).2 := by
  simp only [Inclusion.arguments]
  generalize ([] : Fields) = fields
  induction tokens generalizing fields draft with
  | nil => exact .refl draft
  | cons token tokens ih =>
    simp only [List.foldl_cons]
    split
    · exact ih _ _
    · next hf =>
      exact (Draft.Notes.failure (Inclusion.argument_failsLocally _ _ _) hf).trans (ih _ _)

private theorem inclusion_nests (hc : settings.refusesCycles = false) (draft : Draft) :
    (TagProgram.inclusion settings files call draft).1.Nests files draft.context draft := by
  simp only [TagProgram.inclusion, TagProgram.leaf, hc]
  split
  · exact .done (.report rfl)
  · next name rest _ =>
    have hcontext := ContextLaw.arguments_context call rest draft
    have hnotes := arguments_notes call rest draft
    generalize Inclusion.arguments call rest draft = read at hcontext hnotes
    obtain ⟨props, inside⟩ := read
    dsimp only at hcontext hnotes ⊢
    rw [← hcontext]
    split
    · next hl => exact .done (hnotes.trans (.failure (Template.load_failsLocally _ _ _ _ _) hl))
    · next hl =>
      exact .inTemplate hnotes ⟨rfl, rfl, rfl⟩ (Template.read_of_load hl) fun _ => .done (.refl _)

private theorem wrap_nests (hc : settings.refusesCycles = false) {origin : Context}
    (name inner : Text) {before draft : Draft} (h : before.Notes Problem.isLocal draft)
    (ho : origin.Beside draft.context) :
    (TagProgram.wrap settings files name inner draft).Nests files origin before := by
  simp only [TagProgram.wrap, hc]
  split
  · next hl =>
    exact .done ((h.trans (.of_eq rfl)).trans
      (.failure (Template.load_failsLocally _ _ _ _ _) hl))
  · next hl =>
    exact .inTemplate h ⟨ho.site, ho.request, ho.active⟩ (Template.read_of_load hl)
      fun _ => .done (.refl _)

private theorem layout_nests (hc : settings.refusesCycles = false) (draft : Draft) :
    (TagProgram.layout settings files call draft).1.Nests files draft.context draft := by
  simp only [TagProgram.layout, TagProgram.ofBlockOrRest]
  split
  · exact .last _ (.report rfl) (.refl _)
  · split
    · exact .last _ (.refl _) (.refl _)
    · exact .render (.of_eq rfl) (.inl (.refl _)) fun answer ha =>
        wrap_nests files hc _ _ (.of_eq rfl) ha

private theorem collect_notes (delimiters : Delimiters) (body : Text) (draft : Draft) :
    draft.Notes Problem.isLocal (Slot.collect delimiters body draft).2 := by
  simp only [Slot.collect]
  generalize Slot.pieces delimiters body = pieces
  induction pieces generalizing draft with
  | nil => exact .refl draft
  | cons piece pieces ih =>
    refine Draft.Notes.trans ?_ (ih _)
    cases piece with
    | kept text => exact .refl _
    | filled written content => exact .of_eq rfl
    | dropped written => exact .report rfl

private theorem extend_nests (hc : settings.refusesCycles = false) (draft : Draft) :
    (TagProgram.extend settings files call draft).1.Nests files draft.context draft := by
  simp only [TagProgram.extend, TagProgram.ofBlockOrRest]
  split
  · exact .done (.report rfl)
  · have hnotes := collect_notes settings.delimiters
      (call.blockOrRest settings.delimiters).body draft
    have hframed := Context.Framed.law.collecting settings.delimiters
      (call.blockOrRest settings.delimiters).body draft
    refine .render (hnotes.trans (.of_eq rfl)) (.inl hframed.beside) fun answer ha => ?_
    exact wrap_nests files hc _ _ (.of_eq rfl) (hframed.beside.trans ha)

private theorem fill_nests (draft : Draft) :
    (TagProgram.fill settings files call draft).1.Nests files draft.context draft := by
  refine ofBlock_nests files call draft fun body => ?_
  split
  · exact .last _ (.refl _) (.refl _)
  · exact .done (.report rfl)

private theorem register_notes (kind : AssetKind) (rendered : Text) (draft : Draft) :
    draft.Notes Problem.isLocal (InlineAsset.register kind call rendered draft) := by
  simp only [InlineAsset.register]
  split
  · exact .refl _
  · have hfails : FailsLocally (do
        let asset ← AssetTag.withOptions call (Options.ofFlags call.tokens)
          { kind, source := .inline (InlineAsset.withoutWrapper kind rendered) }
        AssetTag.register draft.context asset []) :=
      (AssetTag.withOptions_failsLocally call _ _).bind fun asset =>
        AssetTag.register_failsLocally _ _ _
    split
    · exact .of_eq rfl
    · next hr => exact .failure hfails hr

private theorem inlineAsset_nests (kind : AssetKind) (draft : Draft) :
    (TagProgram.inlineAsset kind settings files call draft).1.Nests files draft.context draft := by
  refine ofBlock_nests files call draft fun body => ?_
  refine .render (.of_eq rfl) (.inl (.refl _)) fun answer _ => .done ?_
  have hbehind : answer.Notes Problem.isLocal { answer with output := draft.output } := .of_eq rfl
  exact hbehind.trans (register_notes call kind answer.output _)

/-! ### Tags that ask for no render -/

private theorem still_nests {action : TagAction} {draft : Draft}
    (h : ∀ scene, draft.Notes Problem.isLocal (action scene call draft).1) :
    (TagProgram.still action settings files call draft).1.Nests files draft.context draft :=
  .done (h _)

private theorem assign_nests (draft : Draft) :
    (TagProgram.still Assignment.run settings files call draft).1.Nests files draft.context
      draft := by
  apply still_nests
  intro scene
  simp only [Assignment.run, TagAction.leaf]
  split
  · exact .of_eq rfl
  · next ha => exact .failure (Assignment.assigned_failsLocally _ _ _) ha

private theorem import_nests (draft : Draft) :
    (TagProgram.still Import.run settings files call draft).1.Nests files draft.context draft := by
  apply still_nests
  intro scene
  simp only [Import.run, TagAction.leaf]
  split
  · next hi =>
    rcases Import.imported_cases hi with ⟨text, rfl⟩ | ⟨_, _, _, context, -, -, -, -, rfl⟩
    · exact .of_eq rfl
    · exact .of_eq rfl
  · next hi => exact .failure (Import.imported_failsLocally _ _ _) hi

private theorem skip_nests (draft : Draft) :
    (TagProgram.still TagAction.skip settings files call draft).1.Nests files draft.context
      draft := by
  apply still_nests
  intro scene
  simp only [TagAction.skip, TagAction.ofBlock]
  split
  · exact .refl _
  · next hb => exact .failure (call.block_failsLocally _) hb

private theorem store_nests (draft : Draft) :
    (TagProgram.still Slot.store settings files call draft).1.Nests files draft.context draft := by
  apply still_nests
  intro scene
  simp only [Slot.store, TagAction.ofBlock]
  split
  · split
    · exact .of_eq rfl
    · exact .report rfl
  · next hb => exact .failure (call.block_failsLocally _) hb

private theorem element_nests (settings : Settings) (name : Text) (draft : Draft) :
    (TagProgram.still (HeadTag.element name) settings files call draft).1.Nests files
      draft.context draft := by
  apply still_nests
  intro scene
  simp only [HeadTag.element, TagAction.leaf]
  split
  · exact .report rfl
  · split
    · exact .of_eq rfl
    · next he => exact .failure (.foldlM (HeadTag.addToken_failsLocally _) _ _) he

private theorem title_nests (draft : Draft) :
    (TagProgram.still HeadTag.title settings files call draft).1.Nests files draft.context
      draft := by
  apply still_nests
  intro scene
  simp only [HeadTag.title, TagAction.leaf]
  split
  · exact .report rfl
  · split
    · exact .of_eq rfl
    · next ht => exact .failure (HeadTag.titleText_failsLocally _ _ _) ht

/-- Where no entry is refused, the program of a built-in tag notes local problems only and asks for
nothing but what it opens. -/
theorem program_nests (hc : settings.refusesCycles = false) (tag : BuiltIn) (draft : Draft) :
    (tag.program settings files call draft).1.Nests files draft.context draft := by
  cases tag with
  | branch => exact branch_nests files call draft
  | loop => exact loop_nests files call draft
  | partialFile => exact inclusion_nests files call hc draft
  | layout => exact layout_nests files call hc draft
  | extend => exact extend_nests files call hc draft
  | block => exact fill_nests files call draft
  | css => exact inlineAsset_nests files call .css draft
  | js => exact inlineAsset_nests files call .js draft
  | assign => exact assign_nests files call draft
  | importFile => exact import_nests files call draft
  | comment => exact skip_nests files call draft
  | slot | define => exact store_nests files call draft
  | metaElement | linkElement => exact element_nests files call settings _ draft
  | title => exact title_nests files call draft
  | strayElse => exact .done (.report rfl)
  | passed | rootHead | rootCss | rootJs => exact .done (.of_eq rfl)

end BuiltIn

/-! ### Renders -/

/-- Answers that note only such problems, and end where they were asked for. -/
def Program.AnswersWith (allowed : Problem → Bool) (answer : Text → Draft → Draft) : Prop :=
  ∀ (text : Text) (draft : Draft), draft.Notes allowed (answer text draft) ∧
    draft.context.Beside (answer text draft).context

/-- Answers that note what is noted where no entry is refused. -/
abbrev Program.Answers (answer : Text → Draft → Draft) : Prop :=
  AnswersWith Problem.isUnguarded answer

theorem Problem.isUnguarded_of_isLocal (problem : Problem) (h : problem.isLocal = true) :
    problem.isUnguarded = true := by
  cases problem <;> first | rfl | cases h

theorem Program.Nests.run_notes {allowed : Problem → Bool}
    (hl : ∀ problem : Problem, problem.isLocal = true → allowed problem = true) {files : Files}
    {origin : Context} {before : Draft} {program : Program} (h : program.Nests files origin before)
    {answer : Text → Draft → Draft} (ha : Program.AnswersWith allowed answer) :
    before.Notes allowed (program.run answer) := by
  induction h with
  | done hn => exact hn.mono hl
  | render hn _ _ ih =>
    obtain ⟨hanswer, hbeside⟩ := ha _ _
    exact (hn.mono hl).trans (hanswer.trans (ih _ hbeside))

namespace Engine

variable {settings : Settings} (hc : settings.refusesCycles = false)

include hc

theorem runTag_notes {scene : Scene} (hs : scene.toSettings = settings)
    (ha : Program.Answers scene.render) (tag : TagSpan) (following : Text) (draft : Draft) :
    draft.Notes Problem.isUnguarded
      ((ofSettings settings).runTag scene tag following draft).1 := by
  cases he : tag.isExpression with
  | true =>
    have hfails := (Expression.evaluate_failsLocally draft.context settings.filters
      tag.contents).map Value.toText
    rw [runTag_expression _ _ _ _ he]
    exact (Draft.Notes.writeOrReport hfails).mono Problem.isUnguarded_of_isLocal
  | false =>
    rw [runTag_ofSettings _ _ _ _ he]
    split
    · exact .report rfl
    · rw [BuiltIn.run_eq_program, hs]
      exact (BuiltIn.program_nests _ _ hc _ _).run_notes Problem.isUnguarded_of_isLocal ha

theorem scan_notes {scene : Scene} (hs : scene.toSettings = settings)
    (ha : Program.Answers scene.render) (scanner : Scanner) (draft : Draft) :
    draft.Notes Problem.isUnguarded ((ofSettings settings).scan scene scanner draft) := by
  induction scanner, draft using Engine.scan.induct (ofSettings settings) scene with
  | case1 scanner draft h =>
    rw [scan_of_none _ _ _ h]
    exact .refl draft
  | case2 scanner draft position after h =>
    rw [scan_of_unclosed _ _ _ h]
    exact .report rfl
  | case3 scanner draft text rest h ih =>
    rw [scan_of_text _ _ _ h]
    exact Draft.Notes.trans (.of_eq rfl) ih
  | case4 scanner draft tag rest h draft' next hr ih =>
    have ht := runTag_notes hc hs ha tag rest.rest draft
    rw [scan_of_tag _ _ _ h]
    rw [hr] at ht ⊢
    exact ht.trans ih

theorem renderWithin_notes (files : Files) (levels : Nat) :
    Program.Answers ((ofSettings settings).renderWithin files levels) := by
  induction levels with
  | zero => exact fun text draft => ⟨.report rfl, .refl _⟩
  | succ levels ih =>
    intro text draft
    refine ⟨?_, (Context.Framed.law.renderWithin settings files _ text draft).beside⟩
    have hfront : draft.Notes Problem.isUnguarded (draft.mapContext (·.deeper)) := .of_eq rfl
    rw [renderWithin_succ]
    exact (hfront.trans (scan_notes hc rfl ih _ _)).trans (.of_eq rfl)

end Engine
end Stencil
