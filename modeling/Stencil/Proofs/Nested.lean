import Stencil.Proofs.Noting
import Stencil.Proofs.Sequence
/-!
# Renders inside renders

While a text is rendered its tags ask for further renders, and those for others. What has been noted
when a render is asked for was noted around it before, and what the render notes is noted around it.
A render that stands inside a file was asked for inside of it, or the file was so from the start.
-/
namespace Stencil

/-- What the program asks for if it is answered so, in order. -/
def Program.asks (answer : Text → Draft → Draft) : Program → List (Text × Draft)
  | done _ => []
  | render text draft next => (text, draft) :: (next (answer text draft)).asks answer

/-- A text to render on a draft, with so many levels left. -/
structure Rendering where
  levels : Nat
  text : Text
  draft : Draft

namespace Rendering

variable (settings : Settings) (files : Files)

def result (rendering : Rendering) : Draft :=
  (Engine.ofSettings settings).renderWithin files rendering.levels rendering.text rendering.draft

/-- The scan comes from this state to a tag that asks for the render. -/
def AskedFrom (state : Scanner × Draft) (inner : Rendering) : Prop :=
  ∃ scanner draft rest tag builtIn,
    (Engine.ofSettings settings).Turns
      ((Engine.ofSettings settings).sceneWithin files inner.levels) state (scanner, draft) ∧
    scanner.next? = some (.tag tag, rest) ∧ tag.isExpression = false ∧
    BuiltIn.named? tag.nameAndArguments.1 = some builtIn ∧
    (inner.text, inner.draft) ∈ (builtIn.program settings files (tag.call rest.rest) draft).1.asks
      ((Engine.ofSettings settings).renderWithin files inner.levels)

/-- In the first render a tag asks for the second one. -/
def Asks (outer inner : Rendering) : Prop :=
  outer.levels = inner.levels + 1 ∧ AskedFrom settings files
    (.ofText settings.delimiters outer.text, outer.draft.mapContext (·.deeper)) inner

/-- The second render is the first one or a render inside of it. -/
abbrev Surrounds : Rendering → Rendering → Prop := Relation.ReflTransGen (Asks settings files)

/-- The second render is one inside of the first one. -/
abbrev Contains : Rendering → Rendering → Prop := Relation.TransGen (Asks settings files)

end Rendering

/-! ### On the way to a tag -/

namespace Engine

variable {settings : Settings} {scene : Scene}

private theorem scan_of_turn {state state' : Scanner × Draft}
    (h : (ofSettings settings).turn? scene state = some state') :
    (ofSettings settings).scan scene state.1 state.2 =
      (ofSettings settings).scan scene state'.1 state'.2 := by
  simp only [turn?] at h
  split at h
  · cases h
  · cases h
  · next hn =>
    cases h
    exact scan_of_text _ _ _ hn
  · next hn =>
    cases h
    exact scan_of_tag _ _ _ hn

theorem scan_of_turns {state state' : Scanner × Draft}
    (h : (ofSettings settings).Turns scene state state') :
    (ofSettings settings).scan scene state.1 state.2 =
      (ofSettings settings).scan scene state'.1 state'.2 := by
  induction h with
  | refl => rfl
  | tail _ hturn ih => exact ih.trans (scan_of_turn hturn)

variable (hc : settings.refusesCycles = false) (hscene : scene.toSettings = settings)
variable (ha : Program.Answers scene.render)

include hc hscene ha

theorem turn_notes {state state' : Scanner × Draft}
    (h : (ofSettings settings).turn? scene state = some state') :
    state.2.Notes Problem.isUnguarded state'.2 := by
  simp only [turn?] at h
  split at h
  · cases h
  · cases h
  · cases h
    exact .of_eq rfl
  · cases h
    exact runTag_notes hc hscene ha _ _ _

private theorem turns_notes {state state' : Scanner × Draft}
    (h : (ofSettings settings).Turns scene state state') :
    state.2.Notes Problem.isUnguarded state'.2 := by
  induction h with
  | refl => exact .refl _
  | tail _ hturn ih => exact ih.trans (turn_notes hc hscene ha hturn)

end Engine

private theorem ContextLaw.turns {law : Context → Context → Prop} (hl : ContextLaw law)
    {settings : Settings} {scene : Scene}
    (hs : ∀ text draft, law draft.context (scene.render text draft).context)
    {state state' : Scanner × Draft} (h : (Engine.ofSettings settings).Turns scene state state') :
    law state.2.context state'.2.context := by
  induction h with
  | refl => exact hl.refl _
  | tail _ hturn ih =>
    refine hl.trans ih ?_
    simp only [Engine.turn?] at hturn
    split at hturn
    · cases hturn
    · cases hturn
    · cases hturn
      exact hl.refl _
    · cases hturn
      exact hl.runTag _ hs _ _ _

/-! ### From a render to those around it -/

namespace Program.Nests

variable {files : Files} {origin : Context} {program : Program} {before : Draft}
variable (h : program.Nests files origin before) {answer : Text → Draft → Draft}
variable (ha : Program.Answers answer) {text : Text} {draft : Draft}
variable (hm : (text, draft) ∈ program.asks answer)

include h ha hm

theorem asks_notes : before.Notes Problem.isUnguarded draft ∧
    (answer text draft).Notes Problem.isUnguarded (program.run answer) := by
  induction h with
  | done _ => cases hm
  | @render before asked asking next hn _ hnext ih =>
    have hfront := hn.mono Problem.isUnguarded_of_isLocal
    obtain ⟨hanswer, hbeside⟩ := ha asking asked
    rcases List.mem_cons.mp hm with he | hm
    · cases he
      exact ⟨hfront, (hnext _ hbeside).run_notes Problem.isUnguarded_of_isLocal ha⟩
    · obtain ⟨hb, hr⟩ := ih _ hbeside hm
      exact ⟨hfront.trans (hanswer.trans hb), hr⟩

private theorem asks_opens : origin.Opens files text draft.context := by
  induction h with
  | done _ => cases hm
  | render _ ho _ ih =>
    rcases List.mem_cons.mp hm with he | hm
    · cases he
      exact ho
    · exact ih _ (ha _ _).2 hm

end Program.Nests

namespace Rendering

variable {settings : Settings} {files : Files} {outer inner : Rendering}

theorem Contains.levels_lt (h : outer.Contains settings files inner) :
    inner.levels < outer.levels := by
  induction h with
  | single hasks => exact hasks.1 ▸ Nat.lt_succ_self _
  | tail _ hasks ih => exact Nat.lt_trans (hasks.1 ▸ Nat.lt_succ_self _) ih

theorem result_succ {levels : Nat} (hl : outer.levels = levels + 1) :
    outer.result settings files =
      ((Engine.ofSettings settings).scan ((Engine.ofSettings settings).sceneWithin files levels)
        (.ofText settings.delimiters outer.text)
        (outer.draft.mapContext (·.deeper))).mapContext (·.shallower) := by
  rw [result, hl]
  rfl

theorem result_notes (hc : settings.refusesCycles = false) {levels : Nat}
    (hl : outer.levels = levels + 1) {scanner rest : Scanner} {draft : Draft} {tag : TagSpan}
    {builtIn : BuiltIn} (hturns : (Engine.ofSettings settings).Turns
      ((Engine.ofSettings settings).sceneWithin files levels)
      (.ofText settings.delimiters outer.text, outer.draft.mapContext (·.deeper)) (scanner, draft))
    (hn : scanner.next? = some (.tag tag, rest)) (he : tag.isExpression = false)
    (hnamed : BuiltIn.named? tag.nameAndArguments.1 = some builtIn) :
    ((builtIn.program settings files (tag.call rest.rest) draft).1.run
      ((Engine.ofSettings settings).renderWithin files levels)).Notes Problem.isUnguarded
        (outer.result settings files) := by
  have ha := Engine.renderWithin_notes hc files levels
  have hscan := (Engine.scan_of_turns hturns).trans (Engine.scan_of_tag _ _ _ hn)
  dsimp only at hscan
  rw [Engine.runTag_ofSettings _ _ _ _ he, hnamed] at hscan
  dsimp only at hscan
  rw [BuiltIn.run_eq_program] at hscan
  rw [result_succ hl, hscan]
  exact (Engine.scan_notes hc rfl ha _ _).trans (.of_eq rfl)

variable (hc : settings.refusesCycles = false)

include hc

theorem Asks.notes (h : outer.Asks settings files inner) :
    outer.draft.Notes Problem.isUnguarded inner.draft ∧
      (inner.result settings files).Notes Problem.isUnguarded (outer.result settings files) := by
  obtain ⟨hl, scanner, draft, rest, tag, builtIn, hturns, hn, he, hnamed, hm⟩ := h
  have ha := Engine.renderWithin_notes hc files inner.levels
  have hfront := Engine.turns_notes hc rfl ha hturns
  have hnests := BuiltIn.program_nests files (tag.call rest.rest) hc builtIn draft
  obtain ⟨hasked, hanswered⟩ := hnests.asks_notes ha hm
  have hbehind := result_notes hc hl hturns hn he hnamed
  have hfrom : outer.draft.Notes Problem.isUnguarded (outer.draft.mapContext (·.deeper)) :=
    .of_eq rfl
  exact ⟨hfrom.trans (hfront.trans hasked), hanswered.trans hbehind⟩

theorem Surrounds.notes (h : outer.Surrounds settings files inner) :
    outer.draft.Notes Problem.isUnguarded inner.draft ∧
      (inner.result settings files).Notes Problem.isUnguarded (outer.result settings files) := by
  induction h with
  | refl => exact ⟨.refl _, .refl _⟩
  | tail _ hasks ih =>
    obtain ⟨hb, hr⟩ := Asks.notes hc hasks
    exact ⟨ih.1.trans hb, hr.trans ih.2⟩

private theorem Asks.opens (h : outer.Asks settings files inner) :
    outer.draft.context.Opens files inner.text inner.draft.context := by
  obtain ⟨hl, scanner, draft, rest, tag, builtIn, hturns, hn, he, hnamed, hm⟩ := h
  have hframed := Context.Framed.law.turns
    (Context.Framed.law.sceneWithin settings files inner.levels) hturns
  have hbeside : outer.draft.context.Beside draft.context :=
    ⟨hframed.site, hframed.request, hframed.active⟩
  have hnests := BuiltIn.program_nests files (tag.call rest.rest) hc builtIn draft
  have hopens := hnests.asks_opens (Engine.renderWithin_notes hc files inner.levels) hm
  rcases hopens with hb | ⟨path, outside, hb, ho⟩
  · exact .inl (hbeside.trans hb)
  · exact .inr ⟨path, outside, hbeside.trans hb, ho⟩

theorem Surrounds.page (h : outer.Surrounds settings files inner) :
    inner.draft.context.site = outer.draft.context.site ∧
      inner.draft.context.request = outer.draft.context.request := by
  induction h with
  | refl => exact ⟨rfl, rfl⟩
  | tail _ hasks ih =>
    rcases Asks.opens hc hasks with hb | ⟨path, outside, hb, ho, -⟩
    · exact ⟨hb.site.trans ih.1, hb.request.trans ih.2⟩
    · rw [ho]
      exact ⟨hb.site.trans ih.1, hb.request.trans ih.2⟩

end Rendering

/-! ### Files that are entered -/

namespace Rendering

variable {settings : Settings} {files : Files} {start inner again : Rendering}

/-- The render begins inside a file entered with these arguments. -/
def Enters (files : Files) (entry : Path × Fields) (entered : Rendering) : Prop :=
  ∃ outside : Context, entered.draft.context = outside.enter entry.1 ∧ outside.props = entry.2 ∧
    files.read entry.1 = .ok entered.text

private theorem Surrounds.entered (hc : settings.refusesCycles = false)
    (h : start.Surrounds settings files inner) {entry : Path × Fields}
    (hm : entry ∈ inner.draft.context.active) :
    entry ∈ start.draft.context.active ∨ ∃ entered : Rendering,
      start.Surrounds settings files entered ∧ entered.Surrounds settings files inner ∧
        entered.Enters files entry := by
  induction h with
  | refl => exact .inl hm
  | @tail outer inner hsurrounds hasks ih =>
    have houter (hm : entry ∈ outer.draft.context.active) :
        entry ∈ start.draft.context.active ∨ ∃ entered : Rendering,
          start.Surrounds settings files entered ∧ entered.Surrounds settings files inner ∧
            entered.Enters files entry := by
      refine (ih hm).imp_right ?_
      rintro ⟨entered, hs, hi, he⟩
      exact ⟨entered, hs, hi.tail hasks, he⟩
    rcases Asks.opens hc hasks with hb | ⟨path, outside, hb, ho, hread⟩
    · rw [hb.active] at hm
      exact houter hm
    · rw [ho] at hm
      rcases List.mem_cons.mp hm with rfl | hm
      · exact .inr ⟨inner, hsurrounds.tail hasks, .refl, outside, ho, rfl, hread⟩
      · rw [hb.active] at hm
        exact houter hm

theorem Contains.entered (hc : settings.refusesCycles = false)
    (h : start.Contains settings files again) {outside : Context} {path : Path}
    (ho : again.draft.context = outside.enter path) {entry : Path × Fields}
    (hm : entry ∈ outside.active) :
    entry ∈ start.draft.context.active ∨ ∃ entered : Rendering,
      start.Surrounds settings files entered ∧ entered.Contains settings files again ∧
        entered.Enters files entry := by
  obtain ⟨outer, hsurrounds, hasks⟩ := Relation.TransGen.tail'_iff.mp h
  have hactive : again.draft.context.active = (path, outside.props) :: outside.active := by
    rw [ho]
    rfl
  have houter : entry ∈ outer.draft.context.active := by
    rcases Asks.opens hc hasks with hb | ⟨other, behind, hb, ho', -⟩
    · rw [← hb.active, hactive]
      exact List.mem_cons_of_mem _ hm
    · rw [ho'] at hactive
      rw [← hb.active, (List.cons.inj hactive).2]
      exact hm
  refine (Surrounds.entered hc hsurrounds houter).imp_right ?_
  rintro ⟨entered, hs, hi, he⟩
  exact ⟨entered, hs, .tail' hi hasks, he⟩

end Rendering
end Stencil
