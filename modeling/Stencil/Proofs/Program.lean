import Stencil.Proofs.Scan
/-!
# Programs

A tag seen from outside: what it does up to the first text it wants rendered, and how it goes on
with the answer. Every built-in tag has such a program, which asks for the same renders as the tag
and ends with the same draft.
-/
namespace Stencil

inductive Program where
  | done (draft : Draft)
  /-- Asks for a render and goes on with the draft it ends with. -/
  | render (text : Text) (draft : Draft) (next : Draft → Program)

namespace Program

/-- The draft a program ends with if its requests are answered by `answer`. -/
def run (answer : Text → Draft → Draft) : Program → Draft
  | done draft => draft
  | render text draft next => (next (answer text draft)).run answer

/-- Asks for what a text writes, kept out of the output. -/
def capture (text : Text) (draft : Draft) (next : Text → Draft → Program) : Program :=
  render text { draft with output := [] } fun rendered =>
    next rendered.output { rendered with output := draft.output }

/-- Asks for the content of a template inside of it, unless that is refused. -/
def inTemplate (refusesCycles : Bool) (path : Path) (content : Text) (draft : Draft)
    (refused : Problem → Program) (next : Draft → Program) : Program :=
  if refusesCycles && draft.context.isActive path then refused (draft.context.cycleAt path)
  else render content (draft.mapContext (·.enter path)) fun rendered =>
    next (rendered.mapContext (·.leave draft.context))

private theorem run_capture (answer : Text → Draft → Draft) (text : Text) (draft : Draft)
    (next : Text → Draft → Program) :
    (capture text draft next).run answer =
      (next (draft.capture (answer text)).1 (draft.capture (answer text)).2).run answer := rfl

private theorem run_inTemplate (answer : Text → Draft → Draft) (refusesCycles : Bool) (path : Path)
    (content : Text) (draft : Draft) (refused : Problem → Program) (next : Draft → Program) :
    (inTemplate refusesCycles path content draft refused next).run answer =
      match draft.inTemplate refusesCycles path (answer content) with
      | .ok rendered => (next rendered).run answer
      | .error problem => (refused problem).run answer := by
  simp only [inTemplate, Draft.inTemplate, Context.inTemplate]
  split <;> rfl

end Program

/-- A tag as a program, with the position where scanning resumes. -/
abbrev TagProgram := Settings → Files → Call → Draft → Program × Nat

namespace TagProgram

/-- A tag that asks for no render. -/
def still (action : TagAction) : TagProgram := fun settings files call draft =>
  let (draft, next) := action { settings with files, render := fun _ draft => draft } call draft
  (.done draft, next)

def leaf (act : Settings → Files → Call → Draft → Program) : TagProgram :=
  fun settings files call draft => (act settings files call draft, call.stop)

def ofBlock (act : Settings → Call → Text → Draft → Program) : TagProgram :=
  fun settings _ call draft =>
    match call.block settings.delimiters with
    | .ok block => (act settings call block.body draft, block.next)
    | .error problem => (.done (draft.report problem), call.stop)

def ofBlockOrRest (act : Settings → Files → Call → Text → Draft → Program) : TagProgram :=
  fun settings files call draft =>
    let block := call.blockOrRest settings.delimiters
    (act settings files call block.body draft, block.next)

def branch : TagProgram := ofBlock fun settings call body draft =>
  let (first, second) := Branch.splitAtElse settings.delimiters call.name body
  match Condition.evaluate draft.context call.arguments with
  | .ok true => .render first draft .done
  | .ok false => match second with
    | some second => .render second draft .done
    | none => .done draft
  | .error problem => .done (draft.report problem)

/-- One request for each item, in a scope of its own. -/
def iterations (name body : Text) : List Value → Draft → Program
  | [], draft => .done draft
  | item :: items, draft =>
    .render body (draft.mapContext (·.pushScope [(name, item)])) fun rendered =>
      iterations name body items (rendered.mapContext (·.popScope))

def loop : TagProgram := ofBlock fun _ call body draft =>
  match (do let (name, path) ← Loop.head call; pure (name, ← Loop.items draft.context path)) with
  | .ok (name, items) => iterations name body items draft
  | .error problem => .done (draft.report problem)

def inclusion : TagProgram := leaf fun settings files call draft =>
  match call.tokens with
  | [] => .done (draft.report (call.misuse (.missing .partialName)))
  | name :: rest =>
    let (props, draft) := Inclusion.arguments call rest draft
    match Template.load settings.config files draft.context.site .inclusion name with
    | .error problem => .done (draft.report problem)
    | .ok (path, content) =>
      let inside := draft.mapContext fun context => { context with props }
      let restored (rendered : Draft) : Draft := rendered.mapContext fun context =>
        { context with props := draft.context.props }
      .inTemplate settings.refusesCycles path content inside
        (fun problem => .done (restored (inside.report problem)))
        (fun rendered => .done (restored rendered))

/-- Puts content into the named layout, or writes it alone. -/
def wrap (settings : Settings) (files : Files) (name inner : Text) (draft : Draft) : Program :=
  match Template.load settings.config files draft.context.site .layout name with
  | .error problem => .done ((draft.write inner).report problem)
  | .ok (path, layout) =>
    let inside := draft.mapContext fun context => { context with passed := some inner }
    let restored (rendered : Draft) : Draft := rendered.mapContext fun context =>
      { context with passed := draft.context.passed }
    .inTemplate settings.refusesCycles path layout inside
      (fun problem => .done (restored ((inside.write inner).report problem)))
      (fun rendered => .done (restored rendered))

def layout : TagProgram := ofBlockOrRest fun settings files call body draft =>
  match call.firstName? with
  | none => .render body (draft.report (call.misuse (.missing .layoutName))) .done
  | some name =>
    if draft.context.bypassesLayouts settings.config.bypassHeader then .render body draft .done
    else .capture body draft (wrap settings files name)

def extend : TagProgram := ofBlockOrRest fun settings files call body draft =>
  match call.firstName? with
  | none => .done (draft.report (call.misuse (.missing .parentName)))
  | some name =>
    let (rest, draft) := Slot.collect settings.delimiters body draft
    .capture (Text.trim rest) draft (wrap settings files name)

def fill : TagProgram := ofBlock fun _ call body draft =>
  match call.firstName? with
  | some name => .render ((draft.context.blocks.get? name).getD body) draft .done
  | none => .done (draft.report (call.misuse (.missing .blockName)))

def inlineAsset (kind : AssetKind) : TagProgram := ofBlock fun _ call body draft =>
  .capture body draft fun rendered draft => .done (InlineAsset.register kind call rendered draft)

end TagProgram

namespace BuiltIn

def program : BuiltIn → TagProgram
  | branch => TagProgram.branch
  | loop => TagProgram.loop
  | partialFile => TagProgram.inclusion
  | layout => TagProgram.layout
  | extend => TagProgram.extend
  | block => TagProgram.fill
  | css => TagProgram.inlineAsset .css
  | js => TagProgram.inlineAsset .js
  | tag => TagProgram.still tag.run


variable (scene : Scene) (call : Call) (draft : Draft)

private theorem iterations_run (answer : Text → Draft → Draft) (name body : Text)
    (items : List Value) (draft : Draft) :
    (TagProgram.iterations name body items draft).run answer =
      items.foldl (fun draft item =>
        (answer body (draft.mapContext (·.pushScope [(name, item)]))).mapContext (·.popScope))
        draft := by
  induction items generalizing draft with
  | nil => rfl
  | cons item items ih => exact ih _

private theorem wrap_run (name inner : Text) :
    (TagProgram.wrap scene.toSettings scene.files name inner draft).run scene.render =
      Layout.wrap scene name inner draft := by
  simp only [TagProgram.wrap, Layout.wrap]
  cases Template.load scene.config scene.files draft.context.site .layout name with
  | error problem => rfl
  | ok found =>
    simp only [Program.run_inTemplate, Layout.enter]
    cases Draft.inTemplate _ scene.refusesCycles found.1 (scene.render found.2) with
    | ok rendered => rfl
    | error problem => rfl

private theorem inclusion_run :
    Inclusion.run scene call draft =
      ((TagProgram.inclusion scene.toSettings scene.files call draft).1.run scene.render,
        (TagProgram.inclusion scene.toSettings scene.files call draft).2) := by
  simp only [Inclusion.run, TagAction.leaf, TagProgram.inclusion, TagProgram.leaf, Prod.mk.injEq,
    and_true]
  cases call.tokens with
  | nil => rfl
  | cons name rest =>
    dsimp only
    generalize Inclusion.arguments call rest draft = read
    cases Template.load scene.config scene.files read.2.context.site .inclusion name with
    | error problem => rfl
    | ok found =>
      simp only [Program.run_inTemplate, Inclusion.renderFile]
      cases Draft.inTemplate _ scene.refusesCycles found.1 (scene.render found.2) with
      | ok rendered => rfl
      | error problem => rfl

private theorem branch_run :
    Branch.run scene call draft =
      ((TagProgram.branch scene.toSettings scene.files call draft).1.run scene.render,
        (TagProgram.branch scene.toSettings scene.files call draft).2) := by
  simp only [Branch.run, TagAction.ofBlock, TagProgram.branch, TagProgram.ofBlock]
  cases call.block scene.delimiters with
  | error problem => rfl
  | ok block =>
    dsimp only
    cases Condition.evaluate draft.context call.arguments with
    | error problem => rfl
    | ok holds =>
      cases holds with
      | true => rfl
      | false =>
        dsimp only
        cases (Branch.splitAtElse scene.delimiters call.name block.body).2 <;> rfl

private theorem loop_run :
    Loop.run scene call draft =
      ((TagProgram.loop scene.toSettings scene.files call draft).1.run scene.render,
        (TagProgram.loop scene.toSettings scene.files call draft).2) := by
  simp only [Loop.run, TagAction.ofBlock, TagProgram.loop, TagProgram.ofBlock]
  cases call.block scene.delimiters with
  | error problem => rfl
  | ok block =>
    dsimp only
    cases (do
      let (name, path) ← Loop.head call
      pure (name, ← Loop.items draft.context path) : Except Problem (Text × List Value)) with
    | error problem => rfl
    | ok found =>
      exact Prod.ext (iterations_run scene.render found.1 block.body found.2 draft).symm rfl

private theorem layout_run :
    Layout.run scene call draft =
      ((TagProgram.layout scene.toSettings scene.files call draft).1.run scene.render,
        (TagProgram.layout scene.toSettings scene.files call draft).2) := by
  simp only [Layout.run, TagAction.ofBlockOrRest, TagProgram.layout, TagProgram.ofBlockOrRest]
  cases call.firstName? with
  | none => rfl
  | some name =>
    dsimp only
    split
    · rfl
    · simp only [Program.run_capture, wrap_run]

private theorem extend_run :
    Inheritance.run scene call draft =
      ((TagProgram.extend scene.toSettings scene.files call draft).1.run scene.render,
        (TagProgram.extend scene.toSettings scene.files call draft).2) := by
  simp only [Inheritance.run, TagAction.ofBlockOrRest, TagProgram.extend,
    TagProgram.ofBlockOrRest]
  cases call.firstName? with
  | none => rfl
  | some name => simp only [Program.run_capture, wrap_run]

private theorem fill_run :
    Slot.fill scene call draft =
      ((TagProgram.fill scene.toSettings scene.files call draft).1.run scene.render,
        (TagProgram.fill scene.toSettings scene.files call draft).2) := by
  simp only [Slot.fill, TagAction.ofBlock, TagProgram.fill, TagProgram.ofBlock]
  cases call.block scene.delimiters with
  | error problem => rfl
  | ok block => cases call.firstName? <;> rfl

private theorem inlineAsset_run (kind : AssetKind) :
    InlineAsset.run kind scene call draft =
      ((TagProgram.inlineAsset kind scene.toSettings scene.files call draft).1.run scene.render,
        (TagProgram.inlineAsset kind scene.toSettings scene.files call draft).2) := by
  simp only [InlineAsset.run, TagAction.ofBlock, TagProgram.inlineAsset, TagProgram.ofBlock]
  cases call.block scene.delimiters <;> rfl

/-- A built-in tag does what its program does. -/
theorem run_eq_program (tag : BuiltIn) :
    tag.run scene call draft =
      ((tag.program scene.toSettings scene.files call draft).1.run scene.render,
        (tag.program scene.toSettings scene.files call draft).2) := by
  cases tag with
  | branch => exact branch_run scene call draft
  | loop => exact loop_run scene call draft
  | partialFile => exact inclusion_run scene call draft
  | layout => exact layout_run scene call draft
  | extend => exact extend_run scene call draft
  | block => exact fill_run scene call draft
  | css => exact inlineAsset_run scene call draft .css
  | js => exact inlineAsset_run scene call draft .js
  | strayElse | assign | comment | passed | slot | define | importFile | metaElement | linkElement
  | title | rootHead | rootCss | rootJs => rfl

end BuiltIn
end Stencil
