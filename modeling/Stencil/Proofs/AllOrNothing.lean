import Stencil.Proofs.Balanced
import Stencil.Proofs.ContextLaw
import Stencil.Proofs.Reading
/-!
# All or nothing

A tag without a body that fails, however late it does, notes one problem and leaves the page as it
was. So does a tag with a body that is not closed, and what was meant to be its body is read next.
-/
namespace Stencil

namespace Draft

/-- What became of a draft: no problem is noted, or one is and all else stays as it was. -/
def AllOrNothing (draft after : Draft) : Prop :=
  after.problems = draft.problems ∨ ∃ problem, after = draft.report problem

variable {draft : Draft}

private theorem allOrNothing_report (problem : Problem) :
    draft.AllOrNothing (draft.report problem) :=
  .inr ⟨problem, rfl⟩

private theorem allOrNothing_mapContext (change : Context → Context) :
    draft.AllOrNothing (draft.mapContext change) :=
  .inl rfl

private theorem AllOrNothing.of_problems_ne {after : Draft} (h : draft.AllOrNothing after)
    (hne : after.problems ≠ draft.problems) : ∃ problem, after = draft.report problem :=
  h.resolve_left hne

end Draft

/-! ### Tags without a body -/

section

variable (scene : Scene) (call : Call) (draft : Draft)

private theorem Assignment.run_allOrNothing :
    draft.AllOrNothing (Assignment.run scene call draft).1 := by
  simp only [Assignment.run, TagAction.leaf]
  split
  · next context _ => exact Draft.allOrNothing_mapContext fun _ => context
  · exact Draft.allOrNothing_report _

private theorem Import.run_allOrNothing : draft.AllOrNothing (Import.run scene call draft).1 := by
  simp only [Import.run, TagAction.leaf]
  split
  · next himported =>
    rcases Import.imported_cases himported with ⟨text, rfl⟩ | ⟨_, _, _, context, -, -, -, -, rfl⟩
    · exact .inl rfl
    · exact Draft.allOrNothing_mapContext fun _ => context
  · exact Draft.allOrNothing_report _

namespace HeadTag

private theorem element_allOrNothing (name : Text) :
    draft.AllOrNothing (element name scene call draft).1 := by
  simp only [element, TagAction.leaf]
  split
  · exact Draft.allOrNothing_report _
  · split
    · exact Draft.allOrNothing_mapContext _
    · exact Draft.allOrNothing_report _

private theorem title_allOrNothing : draft.AllOrNothing (title scene call draft).1 := by
  simp only [title, TagAction.leaf]
  split
  · exact Draft.allOrNothing_report _
  · split
    · exact Draft.allOrNothing_mapContext _
    · exact Draft.allOrNothing_report _

end HeadTag

end

namespace BuiltIn

/-- The tags that read all of their arguments before they change anything. -/
def whole : List BuiltIn := [assign, importFile, metaElement, linkElement, title]

/-- The tags that do nothing without a closing marker. -/
def closed : List BuiltIn := [branch, loop, comment, block, slot, define, css, js]

variable {builtIn : BuiltIn}

private theorem run_allOrNothing (h : builtIn ∈ whole) (scene : Scene) (call : Call)
    (draft : Draft) :
    (builtIn.run scene call draft).2 = call.stop ∧
      draft.AllOrNothing (builtIn.run scene call draft).1 := by
  simp only [whole, List.mem_cons, List.not_mem_nil, or_false] at h
  rcases h with rfl | rfl | rfl | rfl | rfl
  · exact ⟨rfl, Assignment.run_allOrNothing scene call draft⟩
  · exact ⟨rfl, Import.run_allOrNothing scene call draft⟩
  · exact ⟨rfl, HeadTag.element_allOrNothing scene call draft "meta"⟩
  · exact ⟨rfl, HeadTag.element_allOrNothing scene call draft "link"⟩
  · exact ⟨rfl, HeadTag.title_allOrNothing scene call draft⟩

private theorem run_of_not_closed (h : builtIn ∈ closed) {scene : Scene} {call : Call}
    (hb : call.block? scene.delimiters = none) (draft : Draft) :
    builtIn.run scene call draft = (draft.report
      (.unclosedBlock call.name (scene.delimiters.closeMarker call.name)), call.stop) := by
  have hblock : call.block scene.delimiters =
      .error (.unclosedBlock call.name (scene.delimiters.closeMarker call.name)) := by
    rw [Call.block, hb]
  simp only [closed, List.mem_cons, List.not_mem_nil, or_false] at h
  rcases h with rfl | rfl | rfl | rfl | rfl | rfl | rfl | rfl <;>
    simp only [run, Branch.run, Loop.run, TagAction.skip, Slot.fill, Slot.store, InlineAsset.run,
      TagAction.ofBlock, hblock]

end BuiltIn

/-! ### Scanning on -/

namespace Balance

/-- No closing marker in the text closes as many blocks as are opened in front of it. -/
def Unbalanced (delimiters : Delimiters) (name t : Text) : Prop :=
  ∀ before after, ¬ LevelCut (delimiters.openMarker name) (delimiters.closeMarker name)
    (delimiters.closeMarker name) 0 t before after

end Balance

private theorem Call.block?_eq_none_iff {call : Call} {delimiters : Delimiters}
    (h : Balance.Apart [delimiters.openMarker call.name, delimiters.closeMarker call.name]) :
    call.block? delimiters = none ↔ Balance.Unbalanced delimiters call.name call.following := by
  have hfirst := Balance.closing_findsFirst h 0 call.following
  rw [block?, Option.map_eq_none_iff]
  constructor
  · intro hnone
    rw [hnone] at hfirst
    exact hfirst
  · intro hno
    cases hfound : Balance.closing (delimiters.openMarker call.name)
      (delimiters.closeMarker call.name) 0 0 call.following with
    | none => rfl
    | some found =>
      rw [hfound] at hfirst
      exact absurd hfirst.1 (hno found.1 found.2)

private theorem TagSpan.space_notMem_name (tag : TagSpan) : ' ' ∉ tag.nameAndArguments.1 := by
  intro hm
  have hword := List.all_eq_true.mp List.all_takeWhile ' ' hm
  exact absurd hword (by decide)

namespace Engine

open Spelling

variable (engine : Engine) (scene : Scene) {scanner rest : Scanner} {tag : TagSpan}

private theorem runTag_builtIn {builtIn : BuiltIn} (he : tag.isExpression = false)
    (hn : engine.tags.get? tag.nameAndArguments.1 = some (.builtIn builtIn)) (following : Text)
    (draft : Draft) :
    engine.runTag scene tag following draft = builtIn.run scene (tag.call following) draft := by
  have hname : engine.action? tag.nameAndArguments.1 = some builtIn.run := by
    rw [action?, hn, Option.map_some, Tag.action]
  rw [runTag, if_neg (by simp [he])]
  dsimp only
  rw [hname]
  rfl

private theorem scan_of_stop (hnext : scanner.next? = some (.tag tag, rest)) {draft after : Draft}
    (h : engine.runTag scene tag rest.rest draft = (after, tag.stop)) :
    engine.scan scene scanner draft = engine.scan scene rest after := by
  obtain ⟨contents, -, -, hrest, htag, -⟩ := Scanner.next?_eq_tag hnext
  have hstop : tag.stop = rest.position := by
    rw [hrest, htag]
    rfl
  rw [scan_of_tag _ _ _ hnext, h, hstop, Scanner.seek_position]

/-- A tag that needs no body and notes a problem does nothing else, and one that lacks its closing
marker notes that alone. Scanning goes on right behind either of them. -/
theorem scan_all_or_nothing (hnext : scanner.next? = some (.tag tag, rest))
    (he : tag.isExpression = false) {builtIn : BuiltIn}
    (hn : engine.tags.get? tag.nameAndArguments.1 = some (.builtIn builtIn)) (draft : Draft) :
    let name := tag.nameAndArguments.1
    let after := (engine.runTag scene tag rest.rest draft).1
    let unclosed := Problem.unclosedBlock name (scene.delimiters.closeMarker name)
    (builtIn ∈ BuiltIn.whole → after.problems ≠ draft.problems → ∃ problem,
      after = draft.report problem ∧
        engine.scan scene scanner draft = engine.scan scene rest (draft.report problem)) ∧
    (builtIn ∈ BuiltIn.closed → (tag.call rest.rest).block? scene.delimiters = none →
      after = draft.report unclosed ∧
        engine.scan scene scanner draft = engine.scan scene rest (draft.report unclosed)) ∧
    (scene.delimiters = .standard → '\x7b' ∉ name →
      ((tag.call rest.rest).block? scene.delimiters = none ↔
        Balance.Unbalanced scene.delimiters name rest.rest)) := by
  intro name after unclosed
  have hrun := engine.runTag_builtIn scene he hn rest.rest draft
  refine ⟨fun hm hne => ?_, fun hm hb => ?_, fun hs hname => ?_⟩
  · obtain ⟨hstop, hafter⟩ := BuiltIn.run_allOrNothing hm scene (tag.call rest.rest) draft
    rw [← hrun] at hstop hafter
    obtain ⟨problem, hreport⟩ := hafter.of_problems_ne hne
    exact ⟨problem, hreport, engine.scan_of_stop scene hnext (Prod.ext hreport hstop)⟩
  · rw [BuiltIn.run_of_not_closed hm hb] at hrun
    exact ⟨congrArg Prod.fst hrun, engine.scan_of_stop scene hnext hrun⟩
  · apply Call.block?_eq_none_iff
    rw [hs]
    exact Balance.apart_standard tag.space_notMem_name hname

/-- A script whose priority cannot be read is not linked, and a loop that is not closed does not
run. -/
theorem scan_all_or_nothing_late :
    let scene := standard.sceneWithin (.ofKnown []) 0
    let draft : Draft := { context := { site := "." } }
    let late : Text := " import //x.test/a.js priority=high "
    let loop : Text := " each x in .y "
    (∃ problem, standard.scan scene (Spelling.scanner 0 (span late ++ "-")) draft =
      standard.scan scene (Spelling.scanner 40 "-") (draft.report problem)) ∧
    standard.scan scene (Spelling.scanner 0 (span loop ++ "-")) draft =
      standard.scan scene (Spelling.scanner 18 "-")
        (draft.report (.unclosedBlock "each" "\x7b% end-each %\x7d")) := by
  intro scene draft late loop
  constructor
  · let tag : TagSpan := ⟨Text.trim late, 0, 40⟩
    have hnext : (Spelling.scanner 0 (span late ++ "-")).next? =
        some (.tag tag, Spelling.scanner 40 "-") :=
      next?_span (by decide +kernel) 0 "-"
    have hname : tag.nameAndArguments.1 = BuiltIn.importFile.name := by decide +kernel
    have hn : standard.tags.get? tag.nameAndArguments.1 = some (.builtIn .importFile) := by
      rw [hname]
      rfl
    have hne : (standard.runTag scene tag "-" draft).1.problems ≠ draft.problems := by
      decide +kernel
    obtain ⟨problem, -, hscan⟩ :=
      (standard.scan_all_or_nothing scene hnext (by decide +kernel) hn draft).1 (by decide) hne
    exact ⟨problem, hscan⟩
  · let tag : TagSpan := ⟨Text.trim loop, 0, 18⟩
    have hnext : (Spelling.scanner 0 (span loop ++ "-")).next? =
        some (.tag tag, Spelling.scanner 18 "-") :=
      next?_span (by decide +kernel) 0 "-"
    have hname : tag.nameAndArguments.1 = BuiltIn.loop.name := by decide +kernel
    have hn : standard.tags.get? tag.nameAndArguments.1 = some (.builtIn .loop) := by
      rw [hname]
      rfl
    have hb : (tag.call "-").block? scene.delimiters = none := by
      rw [Call.block?, Option.map_eq_none_iff]
      decide +kernel
    have hscan :=
      ((standard.scan_all_or_nothing scene hnext (by decide +kernel) hn draft).2.1 (by decide) hb).2
    rw [hname] at hscan
    exact hscan

end Engine
end Stencil
