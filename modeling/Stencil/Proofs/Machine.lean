import Stencil.Proofs.Frame
import Mathlib.Logic.Relation
/-!
# Rendering as a machine

Renders inside one another, taken apart into single steps: a token is read, a tag is invoked, a tag
asks for a render, a render is answered. Tags that wait for an answer stand in a list, the innermost
first. Every run of the machine ends, it ends with what rendering gives, and a run that starts
outside of all renders never invokes a tag outside of the depths that the configuration allows.
-/
namespace Stencil

/-- A tag that waits for a render it asked for, and where the scan around it goes on. -/
structure Pending where
  next : Draft → Program
  scanner : Scanner
  resume : Nat

inductive Machine where
  | asked (text : Text) (draft : Draft) (waiting : List Pending)
  | scanning (scanner : Scanner) (draft : Draft) (waiting : List Pending)
  | invoking (tag : BuiltIn) (call : Call) (draft : Draft) (scanner : Scanner)
    (waiting : List Pending)
  | acting (program : Program) (scanner : Scanner) (resume : Nat) (waiting : List Pending)
  | answered (draft : Draft) (waiting : List Pending)

namespace Machine

variable (settings : Settings) (files : Files)

def readToken (scanner : Scanner) (draft : Draft) (waiting : List Pending) : Machine :=
  match scanner.next? with
  | none => answered (draft.mapContext (·.shallower)) waiting
  | some (.unclosed position, _) =>
    let draft := draft.report (.unclosedDelimiter position settings.delimiters.stop)
    answered (draft.mapContext (·.shallower)) waiting
  | some (.text text, rest) => scanning rest (draft.write text) waiting
  | some (.tag tag, rest) =>
    if tag.isExpression then
      scanning (rest.seek tag.stop)
        (draft.writeOrReport ((Expression.evaluate settings.filters draft.context tag.contents).map
          Value.toText)) waiting
    else match BuiltIn.named? tag.nameAndArguments.1 with
      | none =>
        scanning (rest.seek tag.stop) (draft.report (.unknownTag tag.nameAndArguments.1)) waiting
      | some builtIn => invoking builtIn (tag.call rest.rest) draft rest waiting

/-- The next state. Only an answer that nobody waits for is the last. -/
def step? : Machine → Option Machine
  | asked text draft waiting =>
    let limit := settings.config.maxDepth
    some (if limit ≤ draft.context.depth then
      answered (draft.report (.depthExceeded limit draft.context.templateLabel)) waiting
    else scanning (.ofText settings.delimiters text) (draft.mapContext (·.deeper)) waiting)
  | scanning scanner draft waiting => some (readToken settings scanner draft waiting)
  | invoking tag call draft scanner waiting =>
    let (program, resume) := tag.program settings files call draft
    some (acting program scanner resume waiting)
  | acting (.done draft) scanner resume waiting =>
    some (scanning (scanner.seek resume) draft waiting)
  | acting (.render text draft next) scanner resume waiting =>
    some (asked text draft (⟨next, scanner, resume⟩ :: waiting))
  | answered draft (pending :: waiting) =>
    some (acting (pending.next draft) pending.scanner pending.resume waiting)
  | answered _ [] => none

abbrev Step (before after : Machine) : Prop := before.step? settings files = some after

abbrev Steps : Machine → Machine → Prop := Relation.ReflTransGen (Step settings files)

/-- Every run from the state ends. -/
def Terminates (state : Machine) : Prop :=
  Acc (fun after before => Step settings files before after) state

variable {settings files}

private theorem Steps.terminates {state last : Machine} (h : Steps settings files state last)
    (hl : last.step? settings files = none) : Terminates settings files state := by
  induction h using Relation.ReflTransGen.head_induction_on with
  | refl =>
    refine .intro _ fun after ha => ?_
    simp only [Step, hl] at ha
    cases ha
  | head hs _ ih =>
    refine .intro _ fun after ha => ?_
    simp only [Step] at hs ha
    rw [hs] at ha
    cases ha
    exact ih

/-! ### A run ends with the render -/

abbrev SameDepth (before after : Context) : Prop := after.depth = before.depth

theorem sameDepth_law : ContextLaw SameDepth where
  depth_eq h := h
  refl _ := rfl
  trans h h' := h'.trans h
  assign h := (Context.Framed.law.assign h).depth
  place _ := rfl
  storeBlock c name content := (Context.Framed.law.storeBlock c name content).depth
  register _ := rfl
  addElement _ _ := rfl
  inScope _ h := h
  withProps _ h := h
  withPassed _ h := h
  inTemplate _ h := h
  deeper h := by
    simp only [SameDepth, Context.deeper, Context.shallower] at h ⊢
    rw [h]
    rfl

section Run

variable {levels depth : Nat}
variable (hr : ∀ (text : Text) (draft : Draft) (waiting : List Pending),
  draft.context.depth = depth →
    Steps settings files (asked text draft waiting)
      (answered ((Engine.ofSettings settings).renderWithin files levels text draft) waiting))

include hr

private theorem acting_steps {program : Program} {before : Context}
    (hp : program.Keeps SameDepth before) (hd : before.depth = depth) (scanner : Scanner)
    (resume : Nat) (waiting : List Pending) :
    Steps settings files (acting program scanner resume waiting)
      (scanning (scanner.seek resume)
        (program.run ((Engine.ofSettings settings).renderWithin files levels)) waiting) := by
  induction hp with
  | done _ => exact .single rfl
  | @render text draft next hs hk ih =>
    refine .head rfl ((hr text draft _ (hs.trans hd)).trans (.head rfl ?_))
    exact ih _ (sameDepth_law.renderWithin settings files levels text draft)

private theorem turn_steps {scanner rest : Scanner} {tag : TagSpan}
    (h : scanner.next? = some (.tag tag, rest)) (draft : Draft) (hd : draft.context.depth = depth)
    (waiting : List Pending) :
    let turned := (Engine.ofSettings settings).runTag
      ((Engine.ofSettings settings).sceneWithin files levels) tag rest.rest draft
    Steps settings files (scanning scanner draft waiting)
      (scanning (rest.seek turned.2) turned.1 waiting) := by
  have hstep : Step settings files (scanning scanner draft waiting)
      (readToken settings scanner draft waiting) := rfl
  simp only [readToken, h] at hstep
  cases he : tag.isExpression with
  | true =>
    rw [if_pos he] at hstep
    rw [Engine.runTag_expression _ _ _ _ he]
    exact .single hstep
  | false =>
    rw [if_neg (by simp [he])] at hstep
    rw [Engine.runTag_ofSettings _ _ _ _ he]
    cases hn : BuiltIn.named? tag.nameAndArguments.1 with
    | none =>
      rw [hn] at hstep
      exact .single hstep
    | some builtIn =>
      rw [hn] at hstep
      dsimp only
      rw [BuiltIn.run_eq_program]
      refine .head hstep (.head rfl ?_)
      exact acting_steps hr (sameDepth_law.program_keeps _ _ _ _ _) hd _ _ _

private theorem scanning_steps (scanner : Scanner) (draft : Draft)
    (hd : draft.context.depth = depth) (waiting : List Pending) :
    Steps settings files (scanning scanner draft waiting)
      (answered (((Engine.ofSettings settings).scan
        ((Engine.ofSettings settings).sceneWithin files levels) scanner draft).mapContext
          (·.shallower)) waiting) := by
  induction scanner, draft using Engine.scan.induct (Engine.ofSettings settings)
    ((Engine.ofSettings settings).sceneWithin files levels) with
  | case1 scanner draft h =>
    rw [Engine.scan_of_none _ _ _ h]
    exact .single (by simp only [Step, step?, readToken, h])
  | case2 scanner draft position after h =>
    rw [Engine.scan_of_unclosed _ _ _ h]
    exact .single (by simp only [Step, step?, readToken, h]; rfl)
  | case3 scanner draft text rest h ih =>
    rw [Engine.scan_of_text _ _ _ h]
    exact .head (by simp only [Step, step?, readToken, h]) (ih hd)
  | case4 scanner draft tag rest h draft' next hrun ih =>
    rw [Engine.scan_of_tag _ _ _ h, hrun]
    have hturn := turn_steps hr h draft hd waiting
    have hsame := sameDepth_law.runTag settings (sameDepth_law.sceneWithin settings files levels)
      tag rest.rest draft
    rw [hrun] at hturn hsame
    exact hturn.trans (ih (hsame.trans hd))

end Run

/-- Asking for a render ends with the answer that rendering gives. -/
theorem asked_steps (levels : Nat) (text : Text) (draft : Draft) (waiting : List Pending)
    (hl : levels = settings.config.maxDepth - draft.context.depth) :
    Steps settings files (asked text draft waiting)
      (answered ((Engine.ofSettings settings).renderWithin files levels text draft) waiting) := by
  induction levels generalizing text draft waiting with
  | zero =>
    refine .single ?_
    simp only [Step, step?]
    rw [if_pos (by omega)]
    rfl
  | succ levels ih =>
    have hstep : Step settings files (asked text draft waiting)
        (scanning (.ofText settings.delimiters text) (draft.mapContext (·.deeper)) waiting) := by
      simp only [Step, step?]
      rw [if_neg (by omega)]
    rw [Engine.renderWithin_succ]
    refine .head hstep (scanning_steps (fun inner asked waiting hd => ?_) _ _ rfl _)
    have hdepth : (draft.mapContext (·.deeper)).context.depth = draft.context.depth + 1 := rfl
    exact ih inner asked waiting (by omega)

/-! ### Depths during a run -/

/-- Each waiting tag goes on at the depth it was invoked at. -/
def Waits : List Pending → Prop
  | [] => True
  | pending :: outer =>
    (∃ before : Context, before.depth = outer.length + 1 ∧ ∀ answer : Draft,
      answer.context.depth = before.depth → (pending.next answer).Keeps SameDepth before) ∧
      Waits outer

/-- The depth counts the renders under way, which are at most `limit`. -/
def Within (limit : Nat) : Machine → Prop
  | asked _ draft waiting =>
    draft.context.depth = waiting.length ∧ waiting.length ≤ limit ∧ Waits waiting
  | scanning _ draft waiting =>
    draft.context.depth = waiting.length + 1 ∧ waiting.length + 1 ≤ limit ∧ Waits waiting
  | invoking _ _ draft _ waiting =>
    draft.context.depth = waiting.length + 1 ∧ waiting.length + 1 ≤ limit ∧ Waits waiting
  | acting program _ _ waiting =>
    (∃ before : Context, before.depth = waiting.length + 1 ∧ program.Keeps SameDepth before) ∧
      waiting.length + 1 ≤ limit ∧ Waits waiting
  | answered draft waiting =>
    draft.context.depth = waiting.length ∧ waiting.length ≤ limit ∧ Waits waiting

private theorem readToken_within {scanner : Scanner} {draft : Draft} {waiting : List Pending}
    {limit : Nat} (h : (scanning scanner draft waiting).Within limit) :
    (readToken settings scanner draft waiting).Within limit := by
  obtain ⟨hd, hw, hp⟩ := h
  have hend (draft : Draft) (hd : draft.context.depth = waiting.length + 1) :
      (answered (draft.mapContext (·.shallower)) waiting).Within limit := by
    refine ⟨?_, by omega, hp⟩
    simp [Draft.mapContext, Context.shallower, hd]
  simp only [readToken]
  split
  · exact hend draft hd
  · exact hend _ hd
  · exact ⟨hd, hw, hp⟩
  · split
    · exact ⟨by rw [Draft.writeOrReport_context]; exact hd, hw, hp⟩
    · split
      · exact ⟨hd, hw, hp⟩
      · exact ⟨hd, hw, hp⟩

private theorem Step.within {before after : Machine} (hs : Step settings files before after)
    (h : before.Within settings.config.maxDepth) : after.Within settings.config.maxDepth := by
  cases before with
  | asked text draft waiting =>
    obtain ⟨hd, hw, hp⟩ := h
    simp only [Step, step?, Option.some.injEq] at hs
    subst hs
    split
    · exact ⟨hd, hw, hp⟩
    · next hn => exact ⟨by simp [Draft.mapContext, Context.deeper, hd], by omega, hp⟩
  | scanning scanner draft waiting =>
    cases hs
    exact readToken_within h
  | invoking tag call draft scanner waiting =>
    cases hs
    obtain ⟨hd, hw, hp⟩ := h
    exact ⟨⟨_, hd, sameDepth_law.program_keeps _ _ _ _ _⟩, hw, hp⟩
  | acting program scanner resume waiting =>
    obtain ⟨⟨before, hb, hk⟩, hw, hp⟩ := h
    cases hk with
    | done hd =>
      cases hs
      exact ⟨hd.trans hb, hw, hp⟩
    | render hd hk =>
      cases hs
      refine ⟨hd.trans hb, hw, ⟨before, hb, fun answer ha => hk answer ?_⟩, hp⟩
      exact ha.trans hd.symm
  | answered draft waiting =>
    cases waiting with
    | nil => cases hs
    | cons pending outer =>
      cases hs
      obtain ⟨hd, hw, ⟨before, hb, hk⟩, hp⟩ := h
      exact ⟨⟨before, hb, hk draft (hd.trans hb.symm)⟩, hw, hp⟩

private theorem Steps.within {before after : Machine} (hs : Steps settings files before after)
    (h : before.Within settings.config.maxDepth) : after.Within settings.config.maxDepth := by
  induction hs with
  | refl => exact h
  | tail _ hstep ih => exact hstep.within ih

end Machine

namespace Engine

private theorem render_of_maxDepth_le (engine : Engine) (files : Files) (text : Text)
    (draft : Draft) (h : engine.config.maxDepth ≤ draft.context.depth) :
    engine.render files text draft =
      draft.report (.depthExceeded engine.config.maxDepth draft.context.templateLabel) := by
  rw [render, Nat.sub_eq_zero_of_le h]
  rfl

/-- Rendering always ends. From outside of all renders it invokes tags only at depths from one to
the limit, and at the limit it does nothing but note one problem. -/
theorem render_terminates (settings : Settings) (files : Files) (text : Text) (draft : Draft) :
    let rendered := (ofSettings settings).render files text draft
    let start := Machine.asked text draft []
    let limit := settings.config.maxDepth
    (start.Terminates settings files ∧
      Machine.Steps settings files start (.answered rendered [])) ∧
    (draft.context.depth = 0 → ∀ tag call invoked scanner waiting,
      Machine.Steps settings files start (.invoking tag call invoked scanner waiting) →
        1 ≤ invoked.context.depth ∧ invoked.context.depth ≤ limit) ∧
    (limit ≤ draft.context.depth →
      rendered.problems =
        draft.problems ++ [.depthExceeded limit draft.context.templateLabel] ∧
      rendered.output = draft.output ∧ rendered.context = draft.context) := by
  intro rendered start limit
  have hsteps : Machine.Steps settings files start (.answered rendered []) :=
    Machine.asked_steps _ text draft [] rfl
  refine ⟨⟨hsteps.terminates rfl, hsteps⟩, ?_, ?_⟩
  · intro hz tag call invoked scanner waiting hi
    have hstart : start.Within limit := ⟨hz, Nat.zero_le _, trivial⟩
    obtain ⟨hd, hw, -⟩ := Machine.Steps.within hi hstart
    omega
  · intro hlimit
    have hr : rendered = draft.report (.depthExceeded limit draft.context.templateLabel) :=
      render_of_maxDepth_le (ofSettings settings) files text draft hlimit
    rw [hr]
    exact ⟨rfl, rfl, rfl⟩

end Engine
end Stencil
