import Stencil.Proofs.Slots
import Stencil.Proofs.Trimmed
/-!
# Text that is commented out

Commented-out text may be left out of a template, if the constructs around it do not find their own
markers in it: they search the raw text before any comment is recognised. In a child body it must
neither hold a slot nor keep blanks from being trimmed.
-/
namespace Stencil

open Balance Spelling

namespace Passage

/-- The passage without what is commented out in it. What slots and definitions hold is stored as it
is written, so comments stay in it. -/
def uncommented : Passage → Passage
  | done => done
  | text t rest => text t rest.uncommented
  | leaf tag rest => leaf tag rest.uncommented
  | block tag arguments body rest =>
    block tag arguments
      (if tag.builtIn = .slot ∨ tag.builtIn = .define then body else body.uncommented)
      rest.uncommented
  | choice condition yes no rest =>
    choice condition yes.uncommented no.uncommented rest.uncommented
  | comment _ rest => rest.uncommented
  | child arguments body => child arguments body.uncommented

/-- In a child body no slot begins in what is commented out, and without comments the same blanks
are trimmed from what is passed on. -/
structure CommentsApart (body : Passage) : Prop where
  slots : body.SlotsApart
  blanks : body.withoutSlots.trimmed.uncommented.written =
    Text.trim body.withoutSlots.uncommented.written

/-- Every search for a marker passes over what is commented out. -/
def CommentsInert : Passage → Prop
  | done => True
  | text _ rest | leaf _ rest | comment _ rest => rest.CommentsInert
  | block tag _ body rest =>
    body.CommentsCrossed tag.builtIn.name (closingWalk tag.builtIn.name) 0 ∧
      (tag.builtIn = .branch → body.CommentsCrossed "if" elseWalk 0) ∧
      (tag.builtIn = .extend → body.CommentsApart) ∧ body.CommentsInert ∧ rest.CommentsInert
  | choice _ yes no rest =>
    yes.CommentsCrossed "if" (closingWalk "if") 0 ∧ no.CommentsCrossed "if" (closingWalk "if") 0 ∧
      yes.CommentsCrossed "if" elseWalk 0 ∧
      yes.CommentsInert ∧ no.CommentsInert ∧ rest.CommentsInert
  | child _ body =>
    body.CommentsCrossed "extends" (closingWalk "extends") 0 ∧ body.CommentsApart ∧
      body.CommentsInert

/-! ### Passages without slots, blanks and comments -/

section Reduced

variable {name : Text} {verdict : Nat → Text → Verdict}

private theorem CommentsCrossed.uncommented {p : Passage} {depth : Nat}
    (h : p.CommentsCrossed name verdict depth) :
    p.uncommented.CommentsCrossed name verdict depth := by
  induction p generalizing depth with
  | done => trivial
  | text t rest ih => exact ih h
  | leaf tag rest ih => exact ih h
  | block tag arguments body rest ihb ih =>
    refine ⟨?_, ih h.2⟩
    by_cases hs : tag.builtIn = .slot ∨ tag.builtIn = .define
    · rw [if_pos hs]
      exact h.1
    · rw [if_neg hs]
      exact ihb h.1
  | choice condition yes no rest ihy ihn ih => exact ⟨ihy h.1, ihn h.2.1, ih h.2.2⟩
  | comment commented rest ih => exact ih h.2
  | child arguments body ih => exact ⟨h.1, ih h.2⟩

private theorem CommentsCrossed.withoutSlots {p : Passage} {depth : Nat}
    (h : p.CommentsCrossed name verdict depth) :
    p.withoutSlots.CommentsCrossed name verdict depth := by
  induction p generalizing depth with
  | done => trivial
  | text t rest ih => exact ih h
  | leaf tag rest ih => exact ih h
  | block tag arguments body rest ihb ih =>
    rw [Passage.withoutSlots]
    split
    · exact ih h.2
    · exact ⟨ihb h.1, ih h.2⟩
  | choice condition yes no rest ihy ihn ih => exact ⟨ihy h.1, ihn h.2.1, ih h.2.2⟩
  | comment commented rest ih => exact ⟨h.1, ih h.2⟩
  | child arguments body ih => exact ⟨h.1, ih h.2⟩

private theorem CommentsCrossed.trimStart {p : Passage} {depth : Nat}
    (h : p.CommentsCrossed name verdict depth) :
    p.trimStart.CommentsCrossed name verdict depth := by
  induction p with
  | text t rest ih =>
    rw [Passage.trimStart]
    split
    · exact ih h
    · exact h
  | _ => exact h

end Reduced

private theorem slots_uncommented (p : Passage) : p.uncommented.slots = p.slots := by
  induction p with
  | done => rfl
  | text t rest ih => exact ih
  | leaf tag rest ih => exact ih
  | block tag arguments body rest ihb ih =>
    simp only [uncommented, slots, ih]
    by_cases hs : tag.builtIn = .slot
    · simp only [hs, true_or, if_true]
    · simp only [hs, false_or, if_false]
      split
      · rfl
      · rw [ihb]
  | choice condition yes no rest ihy ihn ih => simp only [uncommented, slots, ihy, ihn, ih]
  | comment commented rest ih => exact ih
  | child arguments body ih => exact ih

private theorem withoutSlots_uncommented (p : Passage) :
    p.uncommented.withoutSlots = p.withoutSlots.uncommented := by
  induction p with
  | done => rfl
  | text t rest ih => exact congrArg (text t) ih
  | leaf tag rest ih => exact congrArg (leaf tag) ih
  | block tag arguments body rest ihb ih =>
    simp only [uncommented, withoutSlots, ih]
    by_cases hs : tag.builtIn = .slot
    · simp only [hs, if_true]
    · simp only [hs, false_or, if_false, uncommented]
      split
      · rfl
      · rw [ihb]
  | choice condition yes no rest ihy ihn ih =>
    simp only [uncommented, withoutSlots, ihy, ihn, ih]
  | comment commented rest ih => exact ih
  | child arguments body ih => exact congrArg (child arguments) ih

private theorem withoutSlots_withoutSlots (p : Passage) :
    p.withoutSlots.withoutSlots = p.withoutSlots := by
  induction p with
  | done => rfl
  | text t rest ih => exact congrArg (text t) ih
  | leaf tag rest ih => exact congrArg (leaf tag) ih
  | block tag arguments body rest ihb ih =>
    simp only [withoutSlots]
    split
    · exact ih
    · next hs => simp only [withoutSlots, hs, if_false, ihb, ih]
  | choice condition yes no rest ihy ihn ih => simp only [withoutSlots, ihy, ihn, ih]
  | comment commented rest ih => exact congrArg (comment commented) ih
  | child arguments body ih => exact congrArg (child arguments) ih

private theorem SlotsApart.withoutSlots {p : Passage} (h : p.SlotsApart) :
    p.withoutSlots.SlotsApart := by
  induction p with
  | done => trivial
  | text t rest ih => exact ih h
  | leaf tag rest ih => exact ih h
  | block tag arguments body rest ihb ih =>
    obtain ⟨hbody, hrest⟩ := h
    rw [Passage.withoutSlots]
    split
    · exact ih hrest
    · next hs =>
      rw [if_neg hs] at hbody
      refine ⟨?_, ih hrest⟩
      rw [if_neg hs]
      exact ihb hbody
  | choice condition yes no rest ihy ihn ih => exact ⟨ihy h.1, ihn h.2.1, ih h.2.2⟩
  | comment commented rest ih => exact ⟨h.1, ih h.2⟩
  | child arguments body ih => exact ih h

private theorem SlotsApart.uncommented {p : Passage} (h : p.SlotsApart) :
    p.uncommented.SlotsApart := by
  induction p with
  | done => trivial
  | text t rest ih => exact ih h
  | leaf tag rest ih => exact ih h
  | block tag arguments body rest ihb ih =>
    obtain ⟨hbody, hrest⟩ := h
    refine ⟨?_, ih hrest⟩
    by_cases hs : tag.builtIn = .slot
    · simp only [hs, true_or, if_true] at hbody ⊢
      exact hbody
    · simp only [hs, false_or, if_false] at hbody ⊢
      split
      · exact hbody
      · exact ihb hbody
  | choice condition yes no rest ihy ihn ih => exact ⟨ihy h.1, ihn h.2.1, ih h.2.2⟩
  | comment commented rest ih => exact ih h.2
  | child arguments body ih => exact ih h

private theorem CommentsApart.withoutSlots {p : Passage} (h : p.CommentsApart) :
    p.withoutSlots.CommentsApart where
  slots := h.slots.withoutSlots
  blanks := by
    rw [withoutSlots_withoutSlots]
    exact h.blanks

private theorem CommentsInert.withoutSlots {p : Passage} (h : p.CommentsInert) :
    p.withoutSlots.CommentsInert := by
  induction p with
  | done => trivial
  | text t rest ih => exact ih h
  | leaf tag rest ih => exact ih h
  | block tag arguments body rest ihb ih =>
    obtain ⟨hclose, helse, hchild, hbody, hrest⟩ := h
    rw [Passage.withoutSlots]
    split
    · exact ih hrest
    · exact ⟨hclose.withoutSlots, fun hb => (helse hb).withoutSlots,
        fun hb => (hchild hb).withoutSlots, ihb hbody, ih hrest⟩
  | choice condition yes no rest ihy ihn ih =>
    obtain ⟨hyes, hno, helse, hy, hn, hrest⟩ := h
    exact ⟨hyes.withoutSlots, hno.withoutSlots, helse.withoutSlots, ihy hy, ihn hn, ih hrest⟩
  | comment commented rest ih => exact ih h
  | child arguments body ih => exact ⟨h.1.withoutSlots, h.2.1.withoutSlots, ih h.2.2⟩

private theorem CommentsInert.trimStart {p : Passage} (h : p.CommentsInert) :
    p.trimStart.CommentsInert := by
  induction p with
  | text t rest ih =>
    rw [Passage.trimStart]
    split
    · exact ih h
    · exact h
  | _ => exact h

private theorem CommentsInert.trimEnd {p : Passage} (h : p.CommentsInert) {depth : Nat}
    (hopen : p.CommentsCrossed "extends" (closingWalk "extends") depth) :
    p.trimEnd.CommentsInert := by
  induction p with
  | done => trivial
  | text t rest ih =>
    rw [Passage.trimEnd]
    split
    · trivial
    · exact ih h hopen
  | leaf tag rest ih => exact ih h hopen
  | block tag arguments body rest _ ih =>
    obtain ⟨hclose, helse, hchild, hbody, hrest⟩ := h
    exact ⟨hclose, helse, hchild, hbody, ih hrest hopen.2⟩
  | choice condition yes no rest _ _ ih =>
    obtain ⟨hyes, hno, helse, hy, hn, hrest⟩ := h
    exact ⟨hyes, hno, helse, hy, hn, ih hrest hopen.2.2⟩
  | comment commented rest ih => exact ih h hopen.2
  | child arguments body _ => exact absurd rfl hopen.1

end Passage

/-! ### Rendering without comments -/

namespace Engine

open BuiltIn Passage

variable (settings : Settings) (scene : Scene)

/-- Scanning either text to its end does the same to every draft, at any place. -/
def ScansAlike (s t : Text) : Prop :=
  ∀ position position' draft,
    (ofStandard settings).scan scene (scanner position s) draft =
      (ofStandard settings).scan scene (scanner position' t) draft

variable {settings scene}

private theorem ScansAlike.behind {s t rest rest' : Text} {effect : Draft → Draft}
    (h : ScansAlike settings scene rest rest') (hs : Effects settings scene s effect)
    (ht : Effects settings scene t effect) :
    ScansAlike settings scene (s ++ rest) (t ++ rest') := by
  intro position position' draft
  rw [hs, ht]
  exact h _ _ _

private theorem effects_comment (hscene : scene.delimiters = .standard) (commented : Commented) :
    Effects settings scene commented.written id := by
  let tag : BodyTag := ⟨.comment, by decide⟩
  have hblock := effects_block settings scene hscene tag .empty commented.encloses
  have hskip : (fun draft => (tag.builtIn.run scene (tag.call Inside.empty.text commented.text)
      draft).1) = id := by
    funext draft
    have hb := tag.block?_call Inside.empty.text commented.encloses
    change (TagAction.skip scene _ draft).1 = draft
    simp only [TagAction.skip, TagAction.ofBlock, Call.block, hscene, hb]
  rw [hskip] at hblock
  rw [Commented.written, tag_eq_opening "comment"]
  exact hblock

private theorem ScansAlike.block (hscene : scene.delimiters = .standard) (tag : BodyTag)
    (arguments : Inside) {body body' rest rest' : Text}
    (hb : Crosses (closingWalk tag.builtIn.name) body 0 0)
    (hb' : Crosses (closingWalk tag.builtIn.name) body' 0 0)
    (ht : tag.builtIn.TreatsAlike scene body body') (h : ScansAlike settings scene rest rest') :
    ScansAlike settings scene
      (opening tag.builtIn.name arguments.text ++ body ++
        Spelling.tag ("end-" ++ tag.builtIn.name) ++ rest)
      (opening tag.builtIn.name arguments.text ++ body' ++
        Spelling.tag ("end-" ++ tag.builtIn.name) ++ rest') := by
  have he := encloses_of_crosses hb
  have he' := encloses_of_crosses hb'
  refine h.behind (effects_block settings scene hscene tag arguments he) ?_
  have heffect := effects_block settings scene hscene tag arguments he'
  have hsame : (fun draft => (tag.builtIn.run scene (tag.call arguments.text body') draft).1) =
      fun draft => (tag.builtIn.run scene (tag.call arguments.text body) draft).1 := by
    funext draft
    have hown := tag.block?_call arguments.text he
    have hother := tag.block?_call arguments.text he'
    rw [← hscene] at hown hother
    have hrun : tag.builtIn.run scene (tag.call arguments.text body') draft =
        ((tag.builtIn.run scene (tag.call arguments.text body) draft).1, _) :=
      run_congr hown hother tag.has_body rfl ht draft
    rw [hrun]
  rw [hsame] at heffect
  exact heffect

section Levels

variable (hscene : scene.delimiters = .standard)
  (hlevel : ∀ p : Passage, p.CommentsInert → Alike scene p.written p.uncommented.written)

include hscene hlevel

private theorem treatsAlike_child {body : Passage} (h : body.CommentsInert)
    (hopen : body.CommentsCrossed "extends" (closingWalk "extends") 0) (ha : body.CommentsApart) :
    BuiltIn.extend.TreatsAlike scene body.written body.uncommented.written := by
  intro draft
  have hfirst := (sheds_written body ha.slots).collect draft
  have hsecond := (sheds_written body.uncommented ha.slots.uncommented).collect draft
  rw [slots_uncommented, withoutSlots_uncommented] at hsecond
  rw [hscene, hfirst, hsecond]
  refine ⟨rfl, ?_⟩
  have hinert : body.withoutSlots.trimmed.CommentsInert :=
    h.withoutSlots.trimStart.trimEnd hopen.withoutSlots.trimStart
  have halike := hlevel _ hinert
  rw [written_trimmed, ha.blanks] at halike
  exact halike

private theorem treatsAlike_body (tag : BodyTag) {body : Passage}
    (hopen : body.CommentsCrossed tag.builtIn.name (closingWalk tag.builtIn.name) 0)
    (helse : tag.builtIn = .branch → body.CommentsCrossed "if" elseWalk 0)
    (hchild : tag.builtIn = .extend → body.CommentsApart) (h : body.CommentsInert) :
    tag.builtIn.TreatsAlike scene body.written
      (if tag.builtIn = .slot ∨ tag.builtIn = .define then body else body.uncommented).written := by
  have halike := hlevel body h
  obtain ⟨builtIn, hm⟩ := tag
  dsimp only at hopen helse hchild ⊢
  by_cases hs : builtIn = .slot ∨ builtIn = .define
  · rw [if_pos hs]
    exact TreatsAlike.refl scene _ builtIn
  · rw [if_neg hs]
    cases builtIn with
    | branch =>
      have hcross := helse rfl
      rw [TreatsAlike, hscene, splitAtElse_of_crosses (crosses_else hcross),
        splitAtElse_of_crosses (crosses_else hcross.uncommented)]
      exact ⟨halike, fun _ => rfl⟩
    | comment => trivial
    | extend => exact treatsAlike_child hscene hlevel h hopen (hchild rfl)
    | slot => exact absurd (.inl rfl) hs
    | define => exact absurd (.inr rfl) hs
    | _ => exact halike

private theorem treatsAlike_choice {yes no : Passage}
    (hcross : yes.CommentsCrossed "if" elseWalk 0) (hyes : yes.CommentsInert)
    (hno : no.CommentsInert) :
    BuiltIn.branch.TreatsAlike scene (yes.written ++ tag "else" ++ no.written)
      (yes.uncommented.written ++ tag "else" ++ no.uncommented.written) := by
  rw [TreatsAlike, hscene, splitAtElse_else (crosses_else hcross),
    splitAtElse_else (crosses_else hcross.uncommented)]
  exact ⟨hlevel yes hyes, hlevel no hno⟩

private theorem scansAlike_child (arguments : Inside) {body : Passage}
    (hopen : body.CommentsCrossed "extends" (closingWalk "extends") 0) (ha : body.CommentsApart)
    (h : body.CommentsInert) :
    ScansAlike settings scene (opening "extends" arguments.text ++ body.written)
      (opening "extends" arguments.text ++ body.uncommented.written) := by
  intro position position' draft
  have hmem : BuiltIn.extend ∈ withBody := by decide
  have hnone := closing_of_crosses (crosses_closing .extend hmem hopen)
  have hnone' := closing_of_crosses (crosses_closing .extend hmem hopen.uncommented)
  rw [scan_child settings scene hscene arguments hnone,
    scan_child settings scene hscene arguments hnone']
  have hrest := blockOrRest_child (Text.trim arguments.text) hnone 0 0
  have hrest' := blockOrRest_child (Text.trim arguments.text) hnone' 0 0
  rw [← hscene] at hrest hrest'
  have hrun : Inheritance.run scene
      ⟨"extends", Text.trim arguments.text, 0, 0, body.uncommented.written⟩ draft = (_, _) :=
    extend_congr hrest hrest' (treatsAlike_child hscene hlevel h hopen ha) draft
  rw [hrun]

private theorem scansAlike_uncommented (p : Passage) (h : p.CommentsInert) :
    ScansAlike settings scene p.written p.uncommented.written := by
  induction p with
  | done =>
    intro position position' draft
    exact (scan_of_none _ _ _ (Scanner.next?_of_nil rfl)).trans
      (scan_of_none _ _ _ (Scanner.next?_of_nil rfl)).symm
  | text t rest ih => exact (ih h).behind (effects_plain t.no_brace) (effects_plain t.no_brace)
  | leaf tag rest ih =>
    exact (ih h).behind (effects_leaf settings scene tag) (effects_leaf settings scene tag)
  | block tag arguments body rest _ ih =>
    obtain ⟨hclose, helse, hchild, hbody, hrest⟩ := h
    refine (ih hrest).block hscene tag arguments (crosses_closing _ tag.has_body hclose)
      (crosses_closing _ tag.has_body ?_)
      (treatsAlike_body hscene hlevel tag hclose helse hchild hbody)
    split
    · exact hclose
    · exact hclose.uncommented
  | choice condition yes no rest _ _ ih =>
    obtain ⟨hyes, hno, hcross, hy, hn, hrest⟩ := h
    have helse := closingWalk_else (isWord_name .branch (by decide)) (by decide) 0
    have hclose {p q : Passage} (hp : p.CommentsCrossed "if" (closingWalk "if") 0)
        (hq : q.CommentsCrossed "if" (closingWalk "if") 0) :
        Crosses (closingWalk "if") (p.written ++ Spelling.tag "else" ++ q.written) 0 0 :=
      ((crosses_closing .branch (by decide) hp).append helse).append
        (crosses_closing .branch (by decide) hq)
    exact (ih hrest).block hscene ⟨.branch, by decide⟩ condition (hclose hyes hno)
      (hclose hyes.uncommented hno.uncommented) (treatsAlike_choice hscene hlevel hcross hy hn)
  | comment commented rest ih =>
    exact (ih h).behind (effects_comment hscene commented) effects_nil
  | child arguments body _ => exact scansAlike_child hscene hlevel arguments h.1 h.2.1 h.2.2

end Levels

private theorem alike_uncommented (settings : Settings) (files : Files) (levels : Nat)
    (p : Passage) (h : p.CommentsInert) (draft : Draft) :
    (ofStandard settings).renderWithin files levels p.written draft =
      (ofStandard settings).renderWithin files levels p.uncommented.written draft := by
  induction levels generalizing p draft with
  | zero => rfl
  | succ levels ih =>
    let scene := (ofStandard settings).sceneWithin files levels
    have hlevel (q : Passage) (hq : q.CommentsInert) :
        Alike scene q.written q.uncommented.written := ih q hq
    have hs : ScansAlike settings scene p.written p.uncommented.written :=
      scansAlike_uncommented rfl hlevel p h
    exact congrArg (Draft.mapContext · (·.shallower)) (hs 0 0 (draft.mapContext (·.deeper)))

/-- A template is rendered as it is without the text that is commented out in it, if the searches
of the constructs around pass over that text. -/
theorem render_uncommented (settings : Settings) (files : Files) (p : Passage)
    (h : p.CommentsInert) (draft : Draft) :
    (ofStandard settings).render files p.written draft =
      (ofStandard settings).render files p.uncommented.written draft :=
  alike_uncommented settings files _ p h draft

/-- A loop that is opened in a comment is not counted by the branch around it. -/
theorem render_uncommented_branch :
    let commented : Commented := ⟨"\x7b% each ", by decide, by decide⟩
    let body : Passage := .text ⟨"a", by decide⟩ (.comment commented (.text ⟨"b", by decide⟩ .done))
    let page : Passage :=
      .block ⟨.branch, by decide⟩ ⟨".x ", by decide, by decide⟩ body .done
    page.CommentsInert ∧
      page.written = tag "if .x" ++ "a" ++ (tag "comment" ++ "\x7b% each " ++ tag "end-comment") ++
        "b" ++ tag "end-if" ∧
      outputWith [] [("x", .bool true)] page.written =
        outputWith [] [("x", .bool true)] (tag "if .x" ++ "ab" ++ tag "end-if") := by
  intro commented body page
  have hif : Counts BuiltIn.branch.name (closingWalk BuiltIn.branch.name) :=
    closingWalk_counts (by decide) (by decide)
  have hinert : page.CommentsInert := by
    refine ⟨⟨?_, trivial⟩, fun _ => ⟨?_, trivial⟩, fun h => absurd h (by decide), trivial, trivial⟩
    · exact crosses_commented .branch (by decide) hif commented (by decide) 0
    · exact crosses_commented .branch (by decide) elseWalk_counts commented (by decide) 0
  refine ⟨hinert, by decide, ?_⟩
  exact congrArg Draft.output (render_uncommented _ _ page hinert _)

/-- The constructs around a comment find their markers in it: a branch its `else` and its end, a
child its slots. A blank in front of a comment at the end of a child is not trimmed. A tag of a
child that holds the marker of a slot is cut there, and then ends in the comment behind it. -/
theorem commented_markers_found :
    let comment (text : Text) : Text := tag "comment" ++ text ++ tag "end-comment"
    let branch (body : Text) : Text :=
      outputWith [] [("x", .bool true)] (tag "if .x" ++ body ++ tag "end-if")
    let child (layout body : Text) : Text :=
      outputWith [("base", layout)] [] (tag "extends base" ++ body)
    let layout : Text := tag "block x" ++ "D" ++ tag "end-block" ++ tag "passed"
    let cut (commented : Text) : Text := outputWith [("base", "[" ++ tag "passed" ++ "]")]
      [("x", .text "v")]
      (tag "extends base" ++ tag ".x | default \"\x7b% slot a\"" ++ commented)
    branch ("a" ++ "b") = "ab" ∧ branch ("a" ++ comment (tag "else") ++ "b") = "a" ∧
      outputWith [] [] (tag "if .x" ++ "a" ++ comment (tag "end-if") ++ "b" ++ tag "end-if") = "b" ∧
      child layout ("" ++ "") = "D" ∧
      child layout ("" ++ comment (tag "slot x" ++ "A" ++ tag "end-slot") ++ "") = "A" ∧
      child layout ("a " ++ "") = "Da" ∧ child layout ("a " ++ comment "c" ++ "") = "Da " ∧
      cut "" = "[]" ∧ cut (comment "c") = "[vc]" := by
  decide +kernel

end Engine
end Stencil
