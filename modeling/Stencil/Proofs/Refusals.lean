import Stencil.Proofs.Runaway
import Stencil.Proofs.Stack
/-!
# Refused entries

An engine that refuses to enter a file that is being rendered with the same arguments does what its
twin without the guard does, up to the first entry that it refuses. There the twin enters the file
again. If nothing that steers its render has changed since the file was entered, the twin exceeds
every limit of the depth; where a value was assigned in between, its render may end well.
-/
namespace Stencil

/-! ### Programs up to a refusal -/

/-- The first program is the second one, up to an entry that the first one refuses. -/
inductive Program.UntilRefused (files : Files) : Program → Program → Prop
  | done (draft : Draft) : UntilRefused files (.done draft) (.done draft)
  | render {text : Text} {draft : Draft} {next next' : Draft → Program} :
    (∀ answer, UntilRefused files (next answer) (next' answer)) →
    UntilRefused files (.render text draft next) (.render text draft next')
  | refused {path : Path} {content : Text} {draft stopped : Draft} {next : Draft → Program} :
    draft.context.Holds path → files.read path = .ok content →
    stopped.problems = draft.problems ++ [draft.context.cycleAt path] →
    UntilRefused files (.done stopped) (.render content (draft.mapContext (·.enter path)) next)

namespace Program.UntilRefused

variable {files : Files}

private theorem refl (program : Program) : program.UntilRefused files program := by
  induction program with
  | done draft => exact .done draft
  | render text draft next ih => exact .render ih

private theorem inTemplate {path : Path} {content : Text} {draft : Draft} {stop : Problem → Draft}
    {next : Draft → Program} (hread : files.read path = .ok content)
    (hstop : ∀ problem, (stop problem).problems = draft.problems ++ [problem]) :
    (Program.inTemplate true path content draft (fun problem => .done (stop problem))
      next).UntilRefused files
        (Program.inTemplate false path content draft (fun problem => .done (stop problem))
          next) := by
  simp only [Program.inTemplate, Bool.true_and, Bool.false_and, Bool.false_eq_true, if_false]
  split
  · next ha => exact .refused ((Context.isActive_iff _ _).mp ha) hread (hstop _)
  · exact refl _

end Program.UntilRefused

/-- The settings but for the guard. -/
def Settings.twin (settings : Settings) : Settings := settings.unguarded settings.config.maxDepth

namespace Settings

variable (settings : Settings)

@[simp] theorem twin_config : settings.twin.config = settings.config := rfl

@[simp] theorem twin_delimiters : settings.twin.delimiters = settings.delimiters := rfl

@[simp] theorem twin_refusesCycles : settings.twin.refusesCycles = false := rfl

end Settings

namespace BuiltIn

variable {settings : Settings} (hc : settings.refusesCycles = true) (files : Files) (call : Call)

include hc

private theorem wrap_untilRefused (name inner : Text) (draft : Draft) :
    (TagProgram.wrap settings files name inner draft).UntilRefused files
      (TagProgram.wrap settings.twin files name inner draft) := by
  simp only [TagProgram.wrap, hc, Settings.twin_config, Settings.twin_refusesCycles]
  split
  · exact .refl _
  · next hl => exact .inTemplate (Template.read_of_load hl) fun problem => rfl

private theorem inclusion_untilRefused (draft : Draft) :
    (TagProgram.inclusion settings files call draft).1.UntilRefused files
      (TagProgram.inclusion settings.twin files call draft).1 := by
  simp only [TagProgram.inclusion, TagProgram.leaf, hc, Settings.twin_config,
    Settings.twin_refusesCycles]
  split
  · exact .refl _
  · generalize Inclusion.arguments call _ draft = read
    split
    · exact .refl _
    · next hl => exact .inTemplate (Template.read_of_load hl) fun problem => rfl

private theorem layout_untilRefused (draft : Draft) :
    (TagProgram.layout settings files call draft).1.UntilRefused files
      (TagProgram.layout settings.twin files call draft).1 := by
  simp only [TagProgram.layout, TagProgram.ofBlockOrRest, Settings.twin_delimiters]
  rw [Settings.twin_config]
  split
  · exact .refl _
  · split
    · exact .refl _
    · exact .render fun answer => wrap_untilRefused hc files _ _ _

private theorem extend_untilRefused (draft : Draft) :
    (TagProgram.extend settings files call draft).1.UntilRefused files
      (TagProgram.extend settings.twin files call draft).1 := by
  simp only [TagProgram.extend, TagProgram.ofBlockOrRest, Settings.twin_delimiters]
  split
  · exact .refl _
  · exact .render fun answer => wrap_untilRefused hc files _ _ _

/-- A built-in tag does what it does without the guard, up to an entry that is refused. -/
theorem program_untilRefused (tag : BuiltIn) (draft : Draft) :
    (tag.program settings files call draft).1.UntilRefused files
      (tag.program settings.twin files call draft).1 := by
  cases tag with
  | partialFile => exact inclusion_untilRefused hc files call draft
  | layout => exact layout_untilRefused hc files call draft
  | extend => exact extend_untilRefused hc files call draft
  | branch | loop | block | css | js | strayElse | assign | comment | passed | slot | define
  | importFile | metaElement | linkElement | title | rootHead | rootCss | rootJs => exact .refl _

omit hc in
private theorem program_twin_next (tag : BuiltIn) (draft : Draft) :
    (tag.program settings.twin files call draft).2 = (tag.program settings files call draft).2 := by
  cases tag <;> rfl

end BuiltIn

/-! ### Renders up to a refusal -/

private theorem Draft.OnlyAdds.notes {change : Draft → Draft} (h : OnlyAdds change)
    (draft : Draft) :
    draft.Notes (fun _ => true) (change draft) := by
  have hbehind := h draft draft.context.blank
  rw [behind_blank] at hbehind
  rw [hbehind]
  exact ⟨(change draft.context.blank).problems, rfl, fun _ _ => rfl⟩

private theorem Engine.renderWithin_answers (settings : Settings) (files : Files) (levels : Nat) :
    Program.AnswersWith (fun _ => true) ((ofSettings settings).renderWithin files levels) :=
  fun text draft => ⟨(renderWithin_onlyAdds settings files levels text).notes draft,
    (Context.Framed.law.renderWithin settings files levels text draft).beside⟩

private theorem Program.UntilRefused.run_notes {files : Files} {program twin : Program}
    (h : program.UntilRefused files twin) {origin : Context} {before : Draft}
    (hn : twin.Nests files origin before) {answer : Text → Draft → Draft}
    (ha : Program.AnswersWith (fun _ => true) answer) :
    before.Notes (fun _ => true) (program.run answer) := by
  induction h generalizing before with
  | done draft =>
    cases hn with
    | done hn => exact hn.mono fun _ _ => rfl
  | render _ ih =>
    cases hn with
    | render hn _ hnext =>
      obtain ⟨hanswer, hbeside⟩ := ha _ _
      exact (hn.mono fun _ _ => rfl).trans (hanswer.trans (ih _ (hnext _ hbeside)))
  | refused _ _ hstop =>
    cases hn with
    | render hn _ _ => exact (hn.mono fun _ _ => rfl).trans ⟨_, hstop, fun _ _ => rfl⟩

namespace Rendering

/-- The render begins inside a file that was being rendered with the same arguments outside. -/
def Reenters (files : Files) (outside : Context) (path : Path) (again : Rendering) : Prop :=
  again.draft.context = outside.enter path ∧ outside.Holds path ∧
    files.read path = .ok again.text

/-- The render begins inside a file that was being rendered with the same arguments outside, and the
problem of entering it is noted in the draft. -/
def Refused (files : Files) (noted : Draft) (again : Rendering) : Prop :=
  ∃ outside path, again.Reenters files outside path ∧ outside.cycleAt path ∈ noted.problems

private theorem Refused.of_notes {files : Files} {noted after : Draft} {again : Rendering}
    (h : again.Refused files noted) {allowed : Problem → Bool} (hn : noted.Notes allowed after) :
    again.Refused files after := by
  obtain ⟨outside, path, hr, hm⟩ := h
  exact ⟨outside, path, hr, hn.mem hm⟩

/-- The scan comes from this state to a tag that asks for a render, in which or with which an entry
is made that is noted to be refused. -/
def StumblesFrom (settings : Settings) (files : Files) (levels : Nat) (state : Scanner × Draft)
    (noted : Draft) : Prop :=
  ∃ inner again : Rendering, inner.levels = levels ∧ AskedFrom settings files state inner ∧
    inner.Surrounds settings files again ∧ again.Refused files noted

variable {settings : Settings} {files : Files} {levels : Nat} {state state' : Scanner × Draft}
variable {noted after : Draft}

private theorem StumblesFrom.of_turn (h : StumblesFrom settings files levels state' noted)
    (ht : (Engine.ofSettings settings).turn?
      ((Engine.ofSettings settings).sceneWithin files levels) state = some state') :
    StumblesFrom settings files levels state noted := by
  obtain ⟨inner, again, rfl, hasked, hs, hr⟩ := h
  obtain ⟨scanner, draft, rest, tag, builtIn, hturns, hn⟩ := hasked
  exact ⟨inner, again, rfl, ⟨scanner, draft, rest, tag, builtIn, hturns.head ht, hn⟩, hs, hr⟩

private theorem StumblesFrom.of_notes (h : StumblesFrom settings files levels state noted)
    {allowed : Problem → Bool} (hn : noted.Notes allowed after) :
    StumblesFrom settings files levels state after := by
  obtain ⟨inner, again, hl, hasked, hs, hr⟩ := h
  exact ⟨inner, again, hl, hasked, hs, hr.of_notes hn⟩

end Rendering

/-- The render ends as its twin does, or an entry in the twin is refused. -/
def Engine.RendersAsTwin (settings : Settings) (files : Files) (levels : Nat) : Prop :=
  ∀ (text : Text) (draft : Draft),
    let rendered := (ofSettings settings).renderWithin files levels text draft
    rendered = (ofSettings settings.twin).renderWithin files levels text draft ∨
      ∃ again : Rendering,
        Rendering.Contains settings.twin files ⟨levels, text, draft⟩ again ∧
          again.Refused files rendered

private theorem Program.UntilRefused.run {settings : Settings} {files : Files} {levels : Nat}
    (hr : Engine.RendersAsTwin settings files levels) {program twin : Program}
    (h : program.UntilRefused files twin) {origin : Context} {before : Draft}
    (hn : twin.Nests files origin before) :
    let answer := (Engine.ofSettings settings).renderWithin files levels
    let answer' := (Engine.ofSettings settings.twin).renderWithin files levels
    program.run answer = twin.run answer' ∨ ∃ inner again : Rendering, inner.levels = levels ∧
      (inner.text, inner.draft) ∈ twin.asks answer' ∧
        inner.Surrounds settings.twin files again ∧ again.Refused files (program.run answer) := by
  intro answer answer'
  have ha := Engine.renderWithin_answers settings files levels
  induction h generalizing before with
  | done draft => exact .inl rfl
  | @render text draft next next' huntil ih =>
    cases hn with
    | render _ _ hnext =>
      have hafter := hnext _ (ha text draft).2
      -- A refusal inside of the first render is found there, else the programs go on together.
      rcases hr text draft with hsame | ⟨again, hcontains, hrefused⟩
      · have hanswer : answer' text draft = answer text draft := hsame.symm
        rw [Program.run, Program.run, Program.asks, hanswer]
        refine (ih (answer text draft) hafter).imp_right ?_
        rintro ⟨inner, again, hl, hm, hs, hrefused⟩
        exact ⟨inner, again, hl, List.mem_cons_of_mem _ hm, hs, hrefused⟩
      · have hnotes := (huntil (answer text draft)).run_notes hafter ha
        exact .inr ⟨⟨levels, text, draft⟩, again, rfl, List.mem_cons_self,
          hcontains.to_reflTransGen, hrefused.of_notes hnotes⟩
  | @refused path content draft stopped next hholds hread hstop =>
    refine .inr ⟨⟨levels, content, draft.mapContext (·.enter path)⟩, _, rfl, List.mem_cons_self,
      .refl, draft.context, path, ⟨rfl, hholds, hread⟩, ?_⟩
    rw [Program.run, hstop]
    exact List.mem_append_right _ (List.mem_singleton.mpr rfl)

namespace Engine

variable {settings : Settings} (hc : settings.refusesCycles = true) {files : Files} {levels : Nat}
variable (hr : RendersAsTwin settings files levels)

include hc hr

private theorem runTag_asTwin {scanner rest : Scanner} {tag : TagSpan} (draft : Draft)
    (hn : scanner.next? = some (.tag tag, rest)) :
    let turned := (ofSettings settings).runTag ((ofSettings settings).sceneWithin files levels) tag
      rest.rest draft
    turned = (ofSettings settings.twin).runTag ((ofSettings settings.twin).sceneWithin files levels)
      tag rest.rest draft ∨
      Rendering.StumblesFrom settings.twin files levels (scanner, draft) turned.1 := by
  intro turned
  cases he : tag.isExpression with
  | true => exact .inl (by simp only [turned, runTag_expression _ _ _ _ he]; rfl)
  | false =>
    simp only [turned, runTag_ofSettings _ _ _ _ he]
    cases hnamed : BuiltIn.named? tag.nameAndArguments.1 with
    | none => exact .inl rfl
    | some builtIn =>
      dsimp only
      rw [BuiltIn.run_eq_program, BuiltIn.run_eq_program]
      have huntil := builtIn.program_untilRefused hc files (tag.call rest.rest) draft
      have hnests := BuiltIn.program_nests files (tag.call rest.rest) settings.twin_refusesCycles
        builtIn draft
      rcases huntil.run hr hnests with hrun | ⟨inner, again, hl, hm, hs, hrefused⟩
      · exact .inl (Prod.ext hrun (builtIn.program_twin_next files (tag.call rest.rest) draft).symm)
      · subst hl
        exact .inr ⟨inner, again, rfl, ⟨scanner, draft, rest, tag, builtIn, .refl, hn, he, hnamed,
          hm⟩, hs, hrefused⟩

private theorem scan_asTwin (scanner : Scanner) (draft : Draft) :
    let scanned := (ofSettings settings).scan ((ofSettings settings).sceneWithin files levels)
      scanner draft
    scanned = (ofSettings settings.twin).scan ((ofSettings settings.twin).sceneWithin files levels)
      scanner draft ∨
      Rendering.StumblesFrom settings.twin files levels (scanner, draft) scanned := by
  induction scanner, draft using Engine.scan.induct (ofSettings settings.twin)
    ((ofSettings settings.twin).sceneWithin files levels) with
  | case1 scanner draft h =>
    rw [scan_of_none _ _ _ h, scan_of_none _ _ _ h]
    exact .inl rfl
  | case2 scanner draft position after h =>
    rw [scan_of_unclosed _ _ _ h, scan_of_unclosed _ _ _ h]
    exact .inl rfl
  | case3 scanner draft text rest h ih =>
    rw [scan_of_text _ _ _ h, scan_of_text _ _ _ h]
    refine ih.imp_right fun hstumbles => hstumbles.of_turn ?_
    simp only [turn?, h]
  | case4 scanner draft tag rest h draft' next ht ih =>
    rw [scan_of_tag _ _ _ h, scan_of_tag _ _ _ h]
    rcases runTag_asTwin hc hr draft h with hsame | hstumbles
    · rw [hsame, ht]
      refine ih.imp_right fun hstumbles => hstumbles.of_turn ?_
      simp only [turn?, h, ht]
    · have hs (text : Text) :
          Draft.OnlyAdds (((ofSettings settings).sceneWithin files levels).render text) :=
        renderWithin_onlyAdds settings files levels text
      exact .inr (hstumbles.of_notes (Draft.OnlyAdds.notes (scan_behind settings hs _) _))

omit hr in
private theorem renderWithin_asTwin (files : Files) (levels : Nat) :
    RendersAsTwin settings files levels := by
  induction levels with
  | zero => exact fun text draft => .inl rfl
  | succ levels ih =>
    intro text draft rendered
    simp only [rendered, renderWithin_succ]
    rcases scan_asTwin hc ih (.ofText settings.delimiters text) (draft.mapContext (·.deeper)) with
      hsame | ⟨inner, again, hl, hasked, hs, hrefused⟩
    · exact .inl (congrArg (·.mapContext (·.shallower)) hsame)
    · have hasks : Rendering.Asks settings.twin files ⟨levels + 1, text, draft⟩ inner :=
        ⟨hl ▸ rfl, hasked⟩
      exact .inr ⟨again, .head' hasks hs, hrefused⟩

end Engine

/-! ### Cycles -/

namespace Engine

/-- A cycle is reported only where the twin of the engine enters a file again that it is in with the
same arguments. What it is in there it was in at the start, or a render around entered it. And if a
render stands inside of one of the same content, with the same values and blocks, and nothing was
nested too deeply before, then the twin exceeds every limit. -/
theorem render_cycle (settings : Settings) (hc : settings.refusesCycles = true) (files : Files)
    (text : Text) (context : Context) :
    let limit := settings.config.maxDepth
    let twin := settings.unguarded limit
    let start : Rendering := ⟨limit - context.depth, text, context.blank⟩
    let rendered := (ofSettings settings).render files text context.blank
    ((∃ path found, .cycle path found ∈ rendered.problems) →
      ∃ again, start.Contains twin files again ∧ again.Refused files rendered) ∧
    (∀ again outside path entry, start.Contains twin files again →
      again.Reenters files outside path → entry ∈ outside.active →
      entry ∈ context.active ∨ ∃ entered : Rendering,
        start.Surrounds twin files entered ∧ entered.Contains twin files again ∧
          entered.Enters files entry) ∧
    (∀ entered again, start.Surrounds twin files entered → entered.Contains twin files again →
      again.text = entered.text → entered.draft.context.SameValues again.draft.context →
      ¬ again.draft.TooDeep limit →
      ∀ limit' : Nat, ((ofSettings (settings.unguarded limit')).render files text
        context.blank).TooDeep limit') := by
  intro limit twin start rendered
  have hguard : twin.refusesCycles = false := rfl
  refine ⟨?_, ?_, ?_⟩
  · rintro ⟨path, found, hm⟩
    rcases renderWithin_asTwin hc files (limit - context.depth) text context.blank with
      hsame | hrefused
    · obtain ⟨⟨noted, hproblems, hall⟩, -⟩ :=
        renderWithin_notes hguard files (limit - context.depth) text context.blank
      have hrendered : rendered.problems = noted := (congrArg Draft.problems hsame).trans hproblems
      rw [hrendered] at hm
      exact nomatch hall _ hm
    · exact hrefused
  · intro again outside path entry hcontains hreenters hm
    exact hcontains.entered hguard hreenters.1 hm
  · intro entered again hsurrounds hcontains ht hvalues hdeep limit'
    obtain ⟨hsite, hrequest⟩ := Rendering.Surrounds.page hguard hcontains.to_reflTransGen
    have hlike : entered.Like again := ⟨ht, hvalues.steersAs hsite hrequest⟩
    let other : Rendering := ⟨limit' - context.depth, text, context.blank⟩
    have hstart : start.Like other := ⟨rfl, .refl _⟩
    exact hsurrounds.tooDeep hcontains hlike hdeep hstart

/-- A file that includes itself is reported, and without the guard it exceeds every limit. -/
theorem render_cycle_recursive :
    let path : Path := "./partials/a.hstm"
    let content : Text := "\x7b% partial a %\x7d"
    let files : Files := .ofKnown [(path, .ok content)]
    let context : Context := { site := "." }
    let settings := standard.toSettings
    let limit := settings.config.maxDepth
    let twin := settings.unguarded limit
    let start : Rendering := ⟨limit, content, context.blank⟩
    let entered : Rendering := ⟨limit - 1, content, (context.deeper.enter path).blank⟩
    let outside := (context.deeper.enter path).deeper
    let again : Rendering := ⟨limit - 2, content, (outside.enter path).blank⟩
    let rendered := (ofSettings settings).render files content context.blank
    .cycle path [path, path] ∈ rendered.problems ∧
      (∃ again, start.Contains twin files again ∧ again.Refused files rendered) ∧
      start.Surrounds twin files entered ∧ entered.Contains twin files again ∧
      again.Reenters files outside path ∧
      (∃ entered : Rendering, start.Surrounds twin files entered ∧
        entered.Contains twin files again ∧ entered.Enters files (path, [])) ∧
      ∀ limit' : Nat, ((ofSettings (settings.unguarded limit')).render files content
        context.blank).TooDeep limit' := by
  intro path content files context settings limit twin start entered outside again rendered
  have hfirst : start.Asks twin files entered :=
    ⟨rfl, _, _, _, _, .partialFile, .refl, rfl, rfl, rfl, List.mem_cons_self⟩
  have hsecond : entered.Asks twin files again :=
    ⟨rfl, _, _, _, _, .partialFile, .refl, rfl, rfl, rfl, List.mem_cons_self⟩
  have hcycle : .cycle path [path, path] ∈ rendered.problems := by decide +kernel
  have hactive : (path, []) ∈ outside.active := List.mem_singleton.mpr rfl
  have hreenters : again.Reenters files outside path := ⟨rfl, ⟨_, hactive, rfl, rfl⟩, rfl⟩
  have hdeep : ¬ again.draft.TooDeep limit := by
    rintro ⟨template, hm⟩
    cases hm
  obtain ⟨hreported, hheld, hrunaway⟩ := render_cycle settings rfl files content context
  refine ⟨hcycle, hreported ⟨_, _, hcycle⟩, .single hfirst, .single hsecond, hreenters, ?_, ?_⟩
  · have houtside := hheld again outside path _ (.tail (.single hfirst) hsecond) hreenters hactive
    exact houtside.resolve_left fun hm => nomatch hm
  · exact hrunaway entered again (.single hfirst) (.single hsecond) rfl ⟨rfl, rfl, rfl, rfl⟩ hdeep

/-- A cycle is reported though the twin of the engine, which enters the file once more, ends well:
what was assigned in between stops it. -/
theorem render_cycle_stopped :
    let path : Path := "./partials/a.hstm"
    let content : Text := "\x7b% if .stop %\x7ddone\x7b% else %\x7d" ++
      "\x7b% assign stop = true %\x7d\x7b% partial a %\x7d\x7b% end-if %\x7d"
    let files : Files := .ofKnown [(path, .ok content)]
    let context : Context := { site := "." }
    let settings := standard.toSettings
    let rendered := (ofSettings settings).render files "\x7b% partial a %\x7d" context.blank
    let ended := (ofSettings (settings.unguarded settings.config.maxDepth)).render files
      "\x7b% partial a %\x7d" context.blank
    settings.refusesCycles = true ∧ rendered.problems = [.cycle path [path, path]] ∧
      ended.output = "done" ∧ ended.problems = [] := by
  decide +kernel

end Engine
end Stencil
