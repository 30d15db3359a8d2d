import Stencil.Proofs.Nested
import Stencil.Proofs.Steering
/-!
# Runaway renders

An engine that refuses no entry may render a file inside of itself. Two of its renders that are
steered alike ask for renders that are steered alike, whatever the limit of the depth is, unless one
of them is nested too deeply. So a render that asks for its like inside of itself asks for it again
and again, and every limit is exceeded.
-/
namespace Stencil

/-! ### Engines without the guard -/

/-- The settings of an engine that refuses no entry, with a limit of its own. -/
def Settings.unguarded (settings : Settings) (limit : Nat) : Settings :=
  { settings with refusesCycles := false, config := { settings.config with maxDepth := limit } }

private theorem BuiltIn.program_unguarded (settings : Settings) (limit limit' : Nat) (files : Files)
    (tag : BuiltIn) :
    tag.program (settings.unguarded limit') files =
      tag.program (settings.unguarded limit) files := by
  cases tag <;> rfl

/-- A render has been nested deeper than this limit. -/
def Draft.TooDeep (limit : Nat) (draft : Draft) : Prop :=
  ∃ template, Problem.depthExceeded limit template ∈ draft.problems

private theorem Draft.TooDeep.of_notes {limit : Nat} {allowed : Problem → Bool}
    {before after : Draft}
    (h : before.TooDeep limit) (hn : before.Notes allowed after) : after.TooDeep limit := by
  obtain ⟨template, hm⟩ := h
  exact ⟨template, hn.mem hm⟩

private theorem Engine.renderWithin_zero_tooDeep (settings : Settings) (files : Files) (text : Text)
    (draft : Draft) :
    ((ofSettings settings).renderWithin files 0 text draft).TooDeep settings.config.maxDepth :=
  ⟨_, List.mem_append_right _ (List.mem_singleton.mpr rfl)⟩

/-- Renders that began alike have ended alike, unless one of them was nested too deeply. -/
def Draft.AlikeWithin (limit limit' : Nat) (first second : Draft) : Prop :=
  first.TooDeep limit ∨ second.TooDeep limit' ∨ first.context.SteersAs second.context

/-! ### Two limits -/

section Limits

variable {limit limit' : Nat}

private theorem Program.Parallel.run {program program' : Program} (h : program.Parallel program')
    {files : Files} {origin origin' : Context} {before before' : Draft}
    (hp : program.Nests files origin before) (hp' : program'.Nests files origin' before')
    {answer answer' : Text → Draft → Draft} (ha : Program.Answers answer)
    (ha' : Program.Answers answer')
    (hs : ∀ (text : Text) (first second : Draft), first.context.SteersAs second.context →
      Draft.AlikeWithin limit limit' (answer text first) (answer' text second)) :
    Draft.AlikeWithin limit limit' (program.run answer) (program'.run answer') := by
  induction h generalizing before before' with
  | done h => exact .inr (.inr h)
  | @render text first second next next' h _ ih =>
    cases hp with
    | render _ _ hn =>
      cases hp' with
      | render _ _ hn' =>
        have hnext := hn _ (ha text first).2
        have hnext' := hn' _ (ha' text second).2
        rcases hs text first second h with hdeep | hdeep | hsame
        · exact .inl (hdeep.of_notes (hnext.run_notes Problem.isUnguarded_of_isLocal ha))
        · exact .inr (.inl (hdeep.of_notes (hnext'.run_notes Problem.isUnguarded_of_isLocal ha')))
        · exact ih _ _ hsame hnext hnext'

namespace Engine

variable {settings : Settings} {scene scene' : Scene}
variable (hscene : scene.toSettings = settings.unguarded limit)
variable (hscene' : scene'.toSettings = settings.unguarded limit')
variable (hfiles : scene'.files = scene.files)
variable (ha : Program.Answers scene.render) (ha' : Program.Answers scene'.render)
variable (hs : ∀ (text : Text) (first second : Draft), first.context.SteersAs second.context →
  Draft.AlikeWithin limit limit' (scene.render text first) (scene'.render text second))

include hscene hscene' hfiles ha ha' hs

private theorem runTag_parallel (tag : TagSpan) (following : Text) {first second : Draft}
    (h : first.context.SteersAs second.context) :
    let turned := (ofSettings (settings.unguarded limit)).runTag scene tag following first
    let turned' := (ofSettings (settings.unguarded limit')).runTag scene' tag following second
    Draft.AlikeWithin limit limit' turned.1 turned'.1 ∧ turned'.2 = turned.2 := by
  intro turned turned'
  cases he : tag.isExpression with
  | true =>
    simp only [turned, turned', runTag_expression _ _ _ _ he]
    refine ⟨.inr (.inr ?_), trivial⟩
    rw [Draft.writeOrReport_context, Draft.writeOrReport_context]
    exact h
  | false =>
    simp only [turned, turned', runTag_ofSettings _ _ _ _ he]
    cases BuiltIn.named? tag.nameAndArguments.1 with
    | none => exact ⟨.inr (.inr h), rfl⟩
    | some builtIn =>
      dsimp only
      rw [BuiltIn.run_eq_program, BuiltIn.run_eq_program, hscene, hscene', hfiles,
        BuiltIn.program_unguarded settings limit limit']
      have hc : (settings.unguarded limit).refusesCycles = false := rfl
      obtain ⟨hparallel, hnext⟩ := builtIn.program_parallel scene.files (tag.call following) hc h
      exact ⟨hparallel.run (BuiltIn.program_nests _ _ rfl _ _) (BuiltIn.program_nests _ _ rfl _ _)
        ha ha' hs, hnext⟩

private theorem scan_parallel (scanner : Scanner) {first second : Draft}
    (h : first.context.SteersAs second.context) :
    Draft.AlikeWithin limit limit'
      ((ofSettings (settings.unguarded limit)).scan scene scanner first)
      ((ofSettings (settings.unguarded limit')).scan scene' scanner second) := by
  induction scanner, first using Engine.scan.induct (ofSettings (settings.unguarded limit)) scene
    generalizing second with
  | case1 scanner first hn =>
    rw [scan_of_none _ _ _ hn, scan_of_none _ _ _ hn]
    exact .inr (.inr h)
  | case2 scanner first position after hn =>
    rw [scan_of_unclosed _ _ _ hn, scan_of_unclosed _ _ _ hn]
    exact .inr (.inr h)
  | case3 scanner first text rest hn ih =>
    rw [scan_of_text _ _ _ hn, scan_of_text _ _ _ hn]
    exact ih h
  | case4 scanner first tag rest hn draft' next hr ih =>
    obtain ⟨hturned, hnext⟩ := runTag_parallel hscene hscene' hfiles ha ha' hs tag rest.rest h
    rw [scan_of_tag _ _ _ hn, scan_of_tag _ _ _ hn, hnext]
    rw [hr] at hturned ⊢
    rcases hturned with hdeep | hdeep | hsame
    · exact .inl (hdeep.of_notes (scan_notes rfl hscene ha _ _))
    · exact .inr (.inl (hdeep.of_notes (scan_notes rfl hscene' ha' _ _)))
    · exact ih hsame

private theorem turn_parallel {state state' : Scanner × Draft} {second : Draft}
    (h : state.2.context.SteersAs second.context)
    (ht : (ofSettings (settings.unguarded limit)).turn? scene state = some state') :
    ∃ turned, (ofSettings (settings.unguarded limit')).turn? scene' (state.1, second) =
      some (state'.1, turned) ∧ Draft.AlikeWithin limit limit' state'.2 turned := by
  simp only [turn?] at ht ⊢
  split at ht
  · cases ht
  · cases ht
  · next hn =>
    cases ht
    exact ⟨_, rfl, .inr (.inr h)⟩
  · next tag rest hn =>
    cases ht
    obtain ⟨hturned, hnext⟩ := runTag_parallel hscene hscene' hfiles ha ha' hs tag rest.rest h
    simp only [hnext]
    exact ⟨_, rfl, hturned⟩

private theorem turns_parallel {state state' : Scanner × Draft} {second : Draft}
    (h : state.2.context.SteersAs second.context)
    (ht : (ofSettings (settings.unguarded limit)).Turns scene state state')
    (hd : ¬ state'.2.TooDeep limit) :
    ((ofSettings (settings.unguarded limit')).scan scene' state.1 second).TooDeep limit' ∨
      ∃ turned, (ofSettings (settings.unguarded limit')).Turns scene' (state.1, second)
        (state'.1, turned) ∧ state'.2.context.SteersAs turned.context := by
  induction ht with
  | refl => exact .inr ⟨second, .refl, h⟩
  | tail _ hturn ih =>
    have hnoted := turn_notes rfl hscene ha hturn
    rcases ih fun hdeep => hd (hdeep.of_notes hnoted) with hdeep | ⟨turned, hturns, hsame⟩
    · exact .inl hdeep
    · obtain ⟨turned', hturn', hlike⟩ := turn_parallel hscene hscene' hfiles ha ha' hs hsame hturn
      have hturns' := hturns.tail hturn'
      rcases hlike with hdeep | hdeep | hlike
      · exact absurd hdeep hd
      · have hscan := scan_of_turns hturns'
        dsimp only at hscan
        rw [hscan]
        exact .inl (hdeep.of_notes (scan_notes rfl hscene' ha' _ _))
      · exact .inr ⟨turned', hturns', hlike⟩

end Engine

/-- Renders that are steered alike end alike under any two limits, unless one is too deep. -/
theorem Engine.renderWithin_parallel (settings : Settings) (files : Files) (levels levels' : Nat)
    (text : Text) {first second : Draft} (h : first.context.SteersAs second.context) :
    Draft.AlikeWithin limit limit'
      ((ofSettings (settings.unguarded limit)).renderWithin files levels text first)
      ((ofSettings (settings.unguarded limit')).renderWithin files levels' text second) := by
  induction levels generalizing levels' text first second with
  | zero => exact .inl (renderWithin_zero_tooDeep _ files text first)
  | succ levels ih =>
    cases levels' with
    | zero => exact .inr (.inl (renderWithin_zero_tooDeep _ files text second))
    | succ levels' =>
      let scene := (ofSettings (settings.unguarded limit)).sceneWithin files levels
      let scene' := (ofSettings (settings.unguarded limit')).sceneWithin files levels'
      have hs (text : Text) (first second : Draft) (h : first.context.SteersAs second.context) :
          Draft.AlikeWithin limit limit' (scene.render text first) (scene'.render text second) :=
        ih levels' text h
      have hfiles : scene'.files = scene.files := rfl
      rw [renderWithin_succ, renderWithin_succ]
      exact scan_parallel rfl rfl hfiles (renderWithin_notes rfl files levels)
        (renderWithin_notes rfl files levels') hs _ h

end Limits

/-! ### Renders that are asked for alike -/

section Asked

variable {limit limit' : Nat}

private theorem Program.Parallel.asks {program program' : Program} (h : program.Parallel program')
    {files : Files} {origin origin' : Context} {before before' : Draft}
    (hp : program.Nests files origin before) (hp' : program'.Nests files origin' before')
    {answer answer' : Text → Draft → Draft} (ha : Program.Answers answer)
    (ha' : Program.Answers answer')
    (hs : ∀ (text : Text) (first second : Draft), first.context.SteersAs second.context →
      Draft.AlikeWithin limit limit' (answer text first) (answer' text second))
    {text : Text} {draft : Draft} (hm : (text, draft) ∈ program.asks answer)
    (hd : ¬ draft.TooDeep limit) :
    (program'.run answer').TooDeep limit' ∨ ∃ draft', (text, draft') ∈ program'.asks answer' ∧
      draft.context.SteersAs draft'.context := by
  induction h generalizing before before' with
  | done _ => cases hm
  | @render asking first second next next' h _ ih =>
    cases hp with
    | render _ _ hn =>
      cases hp' with
      | render _ _ hn' =>
        have hnext := hn _ (ha asking first).2
        have hnext' := hn' _ (ha' asking second).2
        rcases List.mem_cons.mp hm with he | hm
        · cases he
          exact .inr ⟨second, List.mem_cons_self, h⟩
        · rcases hs asking first second h with hdeep | hdeep | hsame
          · exact absurd (hdeep.of_notes (hnext.asks_notes ha hm).1) hd
          · exact .inl (hdeep.of_notes (hnext'.run_notes Problem.isUnguarded_of_isLocal ha'))
          · refine (ih _ _ hsame hnext hnext' hm).imp_right ?_
            rintro ⟨draft', hm', hsame'⟩
            exact ⟨draft', List.mem_cons_of_mem _ hm', hsame'⟩

end Asked

namespace Rendering

variable {limit limit' : Nat} {settings : Settings} {files : Files}
variable {outer outer' inner entered again : Rendering}

/-- The renders are of one text and steered alike. -/
def Like (first second : Rendering) : Prop :=
  second.text = first.text ∧ first.draft.context.SteersAs second.draft.context

private theorem Like.trans {first second third : Rendering} (h : first.Like second)
    (h' : second.Like third) : first.Like third :=
  ⟨h'.1.trans h.1, h.2.trans h'.2⟩

private theorem Asks.simulated (h : outer.Asks (settings.unguarded limit) files inner)
    (hd : ¬ inner.draft.TooDeep limit) (ho : outer.Like outer') :
    (outer'.result (settings.unguarded limit') files).TooDeep limit' ∨
      ∃ inner', outer'.Asks (settings.unguarded limit') files inner' ∧ inner.Like inner' := by
  obtain ⟨hl, scanner, draft, rest, tag, builtIn, hturns, hn, he, hnamed, hm⟩ := h
  obtain ⟨ht, hsteered⟩ := ho
  cases hl' : outer'.levels with
  | zero =>
    rw [result, hl']
    exact .inl (Engine.renderWithin_zero_tooDeep _ files _ _)
  | succ levels =>
    let scene := (Engine.ofSettings (settings.unguarded limit)).sceneWithin files inner.levels
    let scene' := (Engine.ofSettings (settings.unguarded limit')).sceneWithin files levels
    let call := tag.call rest.rest
    have hfiles : scene'.files = scene.files := rfl
    have hc (limit : Nat) : (settings.unguarded limit).refusesCycles = false := rfl
    have ha : Program.Answers scene.render := Engine.renderWithin_notes (hc limit) files _
    have ha' : Program.Answers scene'.render := Engine.renderWithin_notes (hc limit') files _
    have hs (text : Text) (first second : Draft) (h : first.context.SteersAs second.context) :
        Draft.AlikeWithin limit limit' (scene.render text first) (scene'.render text second) :=
      Engine.renderWithin_parallel settings files inner.levels levels text h
    have hnests := BuiltIn.program_nests files call (hc limit) builtIn draft
    have hdraft : ¬ draft.TooDeep limit := fun hdeep =>
      hd (hdeep.of_notes (hnests.asks_notes ha hm).1)
    have hbegin : (outer.draft.mapContext (·.deeper)).context.SteersAs
        (outer'.draft.mapContext (·.deeper)).context := hsteered
    -- Both scans come to the tag alike, and there both programs ask alike.
    rcases Engine.turns_parallel rfl rfl hfiles ha ha' hs hbegin hturns hdraft with
      hdeep | ⟨draft', hturns', hsame⟩
    · rw [result_succ hl', ht]
      exact .inl hdeep
    · have hnests' := BuiltIn.program_nests files call (hc limit') builtIn draft'
      have hparallel := builtIn.program_parallel files call (hc limit) hsame
      have hprogram := BuiltIn.program_unguarded settings limit limit' files builtIn
      rcases hparallel.1.asks hnests (hprogram ▸ hnests') ha ha' hs hm hd with
        hdeep | ⟨asked, hm', hasked⟩
      · have hbehind := result_notes (hc limit') hl' (ht ▸ hturns') hn he hnamed
        exact .inl (Draft.TooDeep.of_notes (hprogram ▸ hdeep) hbehind)
      · exact .inr ⟨⟨levels, inner.text, asked⟩, ⟨hl', scanner, draft', rest, tag, builtIn,
          ht ▸ hturns', hn, he, hnamed, hprogram ▸ hm'⟩, rfl, hasked⟩

private theorem Contains.simulated (h : outer.Contains (settings.unguarded limit) files inner)
    (hd : ¬ inner.draft.TooDeep limit) (ho : outer.Like outer') :
    (outer'.result (settings.unguarded limit') files).TooDeep limit' ∨
      ∃ inner', outer'.Contains (settings.unguarded limit') files inner' ∧ inner.Like inner' := by
  induction h with
  | single hasks =>
    refine (hasks.simulated hd ho).imp_right ?_
    rintro ⟨inner', hasks', hlike⟩
    exact ⟨inner', .single hasks', hlike⟩
  | @tail middle inner _ hasks ih =>
    have hnoted := (Asks.notes rfl hasks).1
    rcases ih fun hdeep => hd (hdeep.of_notes hnoted) with hdeep | ⟨middle', hcontains, hlike⟩
    · exact .inl hdeep
    · rcases hasks.simulated hd hlike with hdeep | ⟨inner', hasks', hlike'⟩
      · exact .inl (hdeep.of_notes (Surrounds.notes rfl hcontains.to_reflTransGen).2)
      · exact .inr ⟨inner', hcontains.tail hasks', hlike'⟩

/-- A render that has its like inside of it exceeds every limit, and so does every other like it. -/
theorem Contains.tooDeep (h : entered.Contains (settings.unguarded limit) files again)
    (he : entered.Like again) (hd : ¬ again.draft.TooDeep limit) {other : Rendering}
    (ho : entered.Like other) :
    (other.result (settings.unguarded limit') files).TooDeep limit' := by
  -- The like inside of a render has fewer levels left, and the render inside of it fewer still.
  induction hl : other.levels using Nat.strongRecOn generalizing other with
  | ind levels ih =>
    rcases h.simulated hd ho with hdeep | ⟨again', hcontains, hlike⟩
    · exact hdeep
    · have hlt := hcontains.levels_lt
      have hdeep := ih again'.levels (hl ▸ hlt) (he.trans hlike) rfl
      exact hdeep.of_notes (Surrounds.notes rfl hcontains.to_reflTransGen).2

theorem Surrounds.tooDeep (hs : outer.Surrounds (settings.unguarded limit) files entered)
    (h : entered.Contains (settings.unguarded limit) files again) (he : entered.Like again)
    (hd : ¬ again.draft.TooDeep limit) (ho : outer.Like outer') :
    (outer'.result (settings.unguarded limit') files).TooDeep limit' := by
  rcases Relation.reflTransGen_iff_eq_or_transGen.mp hs with rfl | hs
  · exact h.tooDeep he hd ho
  · have hnoted := (Surrounds.notes rfl h.to_reflTransGen).1
    rcases Contains.simulated hs (fun hdeep => hd (hdeep.of_notes hnoted)) ho with
      hdeep | ⟨entered', hcontains, hlike⟩
    · exact hdeep
    · have hinside : (entered'.result (settings.unguarded limit') files).TooDeep limit' :=
        h.tooDeep he hd hlike
      exact hinside.of_notes (Surrounds.notes rfl hcontains.to_reflTransGen).2

end Rendering
end Stencil
