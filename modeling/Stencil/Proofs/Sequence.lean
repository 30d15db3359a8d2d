import Stencil.Proofs.Append
import Stencil.Proofs.Frame
import Stencil.Proofs.Reach
import Mathlib.Logic.Relation
/-!
# A text in two parts

Where a scan stands between two tokens, the text may be cut: rendering the front and then the rest
from the context reached is rendering the whole. A tag in front of the cut takes no more than lies
in front of it, so it does not see the cut, and what comes behind is scanned from there in any case.
-/
namespace Stencil
namespace Engine

section Turns

variable (engine : Engine) (scene : Scene)

/-- What a scan does with one token, unless it ends there. -/
def turn? (state : Scanner × Draft) : Option (Scanner × Draft) :=
  match state.1.next? with
  | none | some (.unclosed _, _) => none
  | some (.text text, rest) => some (rest, state.2.write text)
  | some (.tag tag, rest) =>
    let turned := engine.runTag scene tag rest.rest state.2
    some (rest.seek turned.2, turned.1)

abbrev Turns : Scanner × Draft → Scanner × Draft → Prop :=
  Relation.ReflTransGen fun before after => engine.turn? scene before = some after

/-- The scan comes to a start delimiter at this position that is not closed. -/
def EndsUnclosed (scanner : Scanner) (draft : Draft) (position : Nat) : Prop :=
  ∃ last reached after, engine.Turns scene (scanner, draft) (last, reached) ∧
    last.next? = some (.unclosed position, after)

end Turns

/-- The scan of a text in a context stands here, with this draft. -/
def StandsAt (engine : Engine) (files : Files) (text : Text) (context : Context)
    (scanner : Scanner) (draft : Draft) : Prop :=
  engine.Turns (engine.sceneWithin files (engine.config.maxDepth - context.depth - 1))
    (.ofText engine.delimiters text, context.deeper.blank) (scanner, draft)

/-- The own scan of a rendered text ends at a start delimiter at this position that is not
closed. -/
def LeavesOpen (engine : Engine) (files : Files) (text : Text) (context : Context)
    (position : Nat) : Prop :=
  ∃ last reached after, engine.StandsAt files text context last reached ∧
    last.next? = some (.unclosed position, after)

section Cuts

variable (settings : Settings) (scene : Scene)

/-- Scanning takes this stretch of the text from one draft to another, at any place and wherever the
text is cut behind the stretch. -/
structure ScansOver (taken : Text) (scanner : Scanner) (draft : Draft) (after : Scanner)
    (turned : Draft) : Prop where
  rest_eq : scanner.rest = taken ++ after.rest
  after_eq : after = scanner.moved (scanner.position + Text.bytes taken) after.rest
  scan_cut : ∀ position kept cut, after.rest = kept ++ cut →
    (ofSettings settings).scan scene (scanner.moved position (taken ++ kept)) draft =
      (ofSettings settings).scan scene (scanner.moved (position + Text.bytes taken) kept) turned

variable {settings scene} in
private theorem ScansOver.refl (scanner : Scanner) (draft : Draft) :
    ScansOver settings scene [] scanner draft scanner draft :=
  ⟨rfl, rfl, fun _ _ _ _ => rfl⟩

variable {settings scene} in
private theorem ScansOver.trans {first second : Text} {scanner between after : Scanner}
    {draft reached turned : Draft}
    (h : ScansOver settings scene first scanner draft between reached)
    (h' : ScansOver settings scene second between reached after turned) :
    ScansOver settings scene (first ++ second) scanner draft after turned where
  rest_eq := by rw [h.rest_eq, h'.rest_eq, List.append_assoc]
  after_eq := by
    rw [h'.after_eq, h.after_eq, Text.bytes_append, ← Nat.add_assoc]
    rfl
  scan_cut position kept cut hk := by
    have hkept : between.rest = second ++ kept ++ cut := by rw [h'.rest_eq, hk, List.append_assoc]
    rw [List.append_assoc, h.scan_cut position _ cut hkept, Text.bytes_append, ← Nat.add_assoc]
    have hnext := h'.scan_cut (position + Text.bytes first) kept cut hk
    rw [h.after_eq] at hnext
    exact hnext

private theorem scansOver_text {scanner after : Scanner} {text : Text}
    (hn : scanner.next? = some (.text text, after)) (draft : Draft) :
    ScansOver settings scene text scanner draft after (draft.write text) := by
  obtain ⟨hf, hr, ha, hp⟩ := Scanner.next?_eq_text hn
  exact ⟨hr, ha, fun position kept cut hk => scan_plain _ _ _ hf (hp kept cut hk) position⟩

theorem scansOver_tag {scanner rest : Scanner} {tag : TagSpan}
    (hn : scanner.next? = some (.tag tag, rest)) (draft : Draft) :
    let turned := (ofSettings settings).runTag scene tag rest.rest draft
    ∃ taken, ScansOver settings scene taken scanner draft (rest.seek turned.2) turned.1 := by
  intro turned
  obtain ⟨contents, hf, hr, ha, htag, hb⟩ := Scanner.next?_eq_tag hn
  generalize hw : scanner.delimiters.start ++ contents ++ scanner.delimiters.stop = written at *
  obtain ⟨taken, left, hl, ht⟩ := runTag_reaches settings scene tag rest.rest draft
  have hc : tag.contents = Text.trim contents := by rw [htag]
  have hseek (position : Nat) (kept : Text) :
      (scanner.moved (position + Text.bytes written) (taken ++ kept)).seek
          (position + Text.bytes written + Text.bytes taken) =
        scanner.moved (position + Text.bytes (written ++ taken)) kept := by
    rw [Text.bytes_append, ← Nat.add_assoc]
    exact Scanner.seek_behind rfl
  have hafter : rest.seek turned.2 =
      scanner.moved (scanner.position + Text.bytes (written ++ taken)) left := by
    have hsame : turned = (turned.1, tag.stop + Text.bytes taken) := by
      have hwhole := ht tag.start tag.stop left [] (List.append_nil _).symm
      rw [← hl] at hwhole
      exact hwhole
    have hs : tag.stop = scanner.position + Text.bytes written := by rw [htag]
    rw [hsame, hs, ha, hl]
    exact hseek scanner.position left
  rw [hafter]
  refine ⟨written ++ taken, ?_, rfl, fun position kept cut hk => ?_⟩
  · rw [hr, hl, List.append_assoc]
    rfl
  · have hnext := Scanner.next?_tag hf (hb (taken ++ kept)) position
    simp only [hw] at hnext
    rw [List.append_assoc, scan_of_tag _ _ _ hnext]
    have hsame := ht position (position + Text.bytes written) kept cut hk
    rw [hc] at hsame
    change (ofSettings settings).scan scene
      ((scanner.moved _ (taken ++ kept)).seek ((ofSettings settings).runTag scene _ (taken ++ kept)
        draft).2) ((ofSettings settings).runTag scene _ (taken ++ kept) draft).1 = _
    rw [hsame, hseek]

private theorem scansOver_turn {scanner after : Scanner} {draft turned : Draft}
    (h : (ofSettings settings).turn? scene (scanner, draft) = some (after, turned)) :
    ∃ taken, ScansOver settings scene taken scanner draft after turned := by
  simp only [turn?] at h
  split at h
  · cases h
  · cases h
  · next text rest hn =>
    cases h
    exact ⟨text, scansOver_text settings scene hn draft⟩
  · next tag rest hn =>
    cases h
    exact scansOver_tag settings scene hn draft

private theorem scansOver_turns {scanner after : Scanner} {draft turned : Draft}
    (h : (ofSettings settings).Turns scene (scanner, draft) (after, turned)) :
    ∃ taken, ScansOver settings scene taken scanner draft after turned := by
  generalize hs : (scanner, draft) = start at h
  generalize he : (after, turned) = stop at h
  induction h generalizing after turned with
  | refl =>
    cases hs
    cases he
    exact ⟨[], .refl scanner draft⟩
  | @tail middle stop _ hturn ih =>
    obtain ⟨between, reached⟩ := middle
    cases he
    obtain ⟨first, hfirst⟩ := ih rfl
    obtain ⟨second, hsecond⟩ := scansOver_turn settings scene hturn
    exact ⟨first ++ second, hfirst.trans hsecond⟩

private theorem exists_last (scanner : Scanner) (draft : Draft) :
    ∃ last reached, (ofSettings settings).Turns scene (scanner, draft) (last, reached) ∧
      (last.next? = none ∨ ∃ position after, last.next? = some (.unclosed position, after)) := by
  induction scanner, draft using Engine.scan.induct (ofSettings settings) scene with
  | case1 scanner draft h => exact ⟨scanner, draft, .refl, .inl h⟩
  | case2 scanner draft position after h => exact ⟨scanner, draft, .refl, .inr ⟨position, after, h⟩⟩
  | case3 scanner draft text rest h ih =>
    obtain ⟨last, reached, hturns, hl⟩ := ih
    refine ⟨last, reached, .head ?_ hturns, hl⟩
    simp only [turn?, h]
  | case4 scanner draft tag rest h draft' next hr ih =>
    obtain ⟨last, reached, hturns, hl⟩ := ih
    refine ⟨last, reached, .head ?_ hturns, hl⟩
    simp only [turn?, h, hr]

private theorem scan_moved {scanner : Scanner} {draft : Draft}
    (h : ∀ position, ¬ (ofSettings settings).EndsUnclosed scene scanner draft position)
    (position : Nat) :
    (ofSettings settings).scan scene (scanner.moved position scanner.rest) draft =
      (ofSettings settings).scan scene scanner draft := by
  obtain ⟨last, reached, hturns, hl⟩ := exists_last settings scene scanner draft
  obtain ⟨taken, hr, ha, hscan⟩ := scansOver_turns settings scene hturns
  have hend (p : Nat) : (ofSettings settings).scan scene (scanner.moved p scanner.rest) draft =
      reached := by
    rw [hr, hscan p last.rest [] (List.append_nil _).symm]
    rcases hl with hn | ⟨q, after, hn⟩
    · apply scan_of_none
      rcases Scanner.next?_eq_none hn with hf | hf
      · rw [ha] at hf
        exact Scanner.next?_of_finished hf
      · exact Scanner.next?_of_nil hf
    · exact absurd ⟨last, reached, after, hturns, hn⟩ (h q)
  exact (hend position).trans (hend scanner.position).symm

private theorem scan_moved_of_unclosed {scanner : Scanner} {draft : Draft} {position : Nat}
    (h : (ofSettings settings).EndsUnclosed scene scanner draft position) (offset : Nat) :
    ∃ reached : Draft,
      (ofSettings settings).scan scene scanner draft =
        reached.report (.unclosedDelimiter position settings.delimiters.stop) ∧
      (ofSettings settings).scan scene
          (scanner.moved (scanner.position + offset) scanner.rest) draft =
        reached.report (.unclosedDelimiter (position + offset) settings.delimiters.stop) := by
  obtain ⟨last, reached, after, hturns, hn⟩ := h
  obtain ⟨taken, hr, ha, hscan⟩ := scansOver_turns settings scene hturns
  obtain ⟨rfl, hf, inside, hi, hb⟩ := Scanner.next?_eq_unclosed hn
  have hend (p : Nat) : (ofSettings settings).scan scene (scanner.moved p scanner.rest) draft =
      reached.report (.unclosedDelimiter (p + Text.bytes taken) settings.delimiters.stop) := by
    rw [hr, hscan p last.rest [] (List.append_nil _).symm]
    have hu := Scanner.next?_unclosed hf hb (p + Text.bytes taken)
    rw [← hi, ha] at hu
    exact scan_of_unclosed _ _ _ hu
  have hp : last.position = scanner.position + Text.bytes taken := by rw [ha]; rfl
  refine ⟨reached, ?_, ?_⟩
  · rw [hp]
    exact hend scanner.position
  · rw [hend, hp, Nat.add_right_comm]

/-- A scan that goes on from a draft writes and notes behind it what it writes and notes from an
empty one at an earlier place, but for the position of an open end. -/
theorem scan_behind_moved (hs : ∀ text, Draft.OnlyAdds (scene.render text)) (scanner : Scanner)
    (draft : Draft) (offset : Nat) :
    let near := (ofSettings settings).scan scene scanner draft.context.blank
    let stop := settings.delimiters.stop
    ∃ far : Draft,
      (ofSettings settings).scan scene
          (scanner.moved (scanner.position + offset) scanner.rest) draft = draft.behind far ∧
      far.output = near.output ∧ far.context = near.context ∧
      (∀ position, (ofSettings settings).EndsUnclosed scene scanner draft.context.blank position →
        ∃ earlier, near.problems = earlier ++ [.unclosedDelimiter position stop] ∧
          far.problems = earlier ++ [.unclosedDelimiter (position + offset) stop]) ∧
      ((∀ position, ¬ (ofSettings settings).EndsUnclosed scene scanner draft.context.blank
        position) → far.problems = near.problems) := by
  intro near stop
  refine ⟨(ofSettings settings).scan scene (scanner.moved (scanner.position + offset) scanner.rest)
    draft.context.blank, ?_, ?_⟩
  · rw [← scan_behind settings hs, Draft.behind_blank]
  · by_cases h : ∃ position, (ofSettings settings).EndsUnclosed scene scanner draft.context.blank
        position
    · have hnotes {position : Nat} (he : (ofSettings settings).EndsUnclosed scene scanner
          draft.context.blank position) := scan_moved_of_unclosed settings scene he offset
      obtain ⟨position, he⟩ := h
      obtain ⟨reached, hnear, hfar⟩ := hnotes he
      refine ⟨?_, ?_, fun other ho => ?_, fun hn => absurd he (hn position)⟩
      · rw [hfar, show near = _ from hnear]
        rfl
      · rw [hfar, show near = _ from hnear]
        rfl
      · obtain ⟨reached, hnear, hfar⟩ := hnotes ho
        rw [hfar, show near = _ from hnear]
        exact ⟨reached.problems, rfl, rfl⟩
    · have hsame := scan_moved settings scene (not_exists.mp h) (scanner.position + offset)
      rw [hsame]
      exact ⟨rfl, rfl, fun position he => absurd ⟨position, he⟩ h, fun _ => rfl⟩

end Cuts

private theorem render_blank (engine : Engine) (files : Files) (text : Text) {context : Context}
    (h : context.depth < engine.config.maxDepth) :
    engine.render files text context.blank =
      (engine.scan (engine.sceneWithin files (engine.config.maxDepth - context.depth - 1))
        (.ofText engine.delimiters text) context.deeper.blank).mapContext (·.shallower) := by
  have hl : engine.config.maxDepth - context.depth =
      engine.config.maxDepth - context.depth - 1 + 1 := by omega
  have hr : engine.render files text context.blank =
      engine.renderWithin files (engine.config.maxDepth - context.depth) text context.blank := rfl
  rw [hr, hl, renderWithin_succ]
  rfl

section Standing

variable {settings : Settings} {files : Files} {text : Text} {context : Context}
  {scanner : Scanner} {draft : Draft}
  (hs : (ofSettings settings).StandsAt files text context scanner draft)

include hs

/-- Where a scan stands, the text is cut into what brought it there and what is left. -/
theorem StandsAt.cut :
    let scene := (ofSettings settings).sceneWithin files
      (settings.config.maxDepth - context.depth - 1)
    let start := Scanner.ofText settings.delimiters scanner.rest
    ∃ front, text = front ++ scanner.rest ∧ Text.bytes front = scanner.position ∧
      start.moved (start.position + scanner.position) start.rest = scanner ∧
      (ofSettings settings).scan scene (.ofText settings.delimiters front) context.deeper.blank =
        draft ∧
      (ofSettings settings).scan scene (.ofText settings.delimiters text) context.deeper.blank =
        (ofSettings settings).scan scene scanner draft := by
  intro scene start
  obtain ⟨front, hr, ha, hscan⟩ := scansOver_turns settings scene hs
  have hp : Text.bytes front = scanner.position := by
    rw [ha]
    exact (Nat.zero_add _).symm
  refine ⟨front, hr, hp, ?_, ?_, ?_⟩
  · change start.moved (0 + scanner.position) scanner.rest = scanner
    rw [Nat.zero_add, ← hp, ha]
    simp only [start, Scanner.ofText, Scanner.moved, Nat.zero_add]
    rfl
  · have hfront := hscan 0 [] scanner.rest rfl
    rw [List.append_nil] at hfront
    exact hfront.trans (scan_of_none _ _ _ (Scanner.next?_of_nil rfl))
  · have hwhole := hscan 0 scanner.rest [] (List.append_nil _).symm
    rw [← hr] at hwhole
    rw [ha]
    exact hwhole

private theorem StandsAt.depth_eq : draft.context.depth = context.depth + 1 := by
  obtain ⟨front, -, -, -, hfront, -⟩ := hs.cut
  have hframe := Context.Framed.law.scan settings (Context.Framed.law.sceneWithin settings files
    (settings.config.maxDepth - context.depth - 1)) (.ofText settings.delimiters front)
      context.deeper.blank
  rw [hfront] at hframe
  exact hframe.depth

private theorem StandsAt.render_shallower (hdepth : context.depth < settings.config.maxDepth)
    (rest : Text) :
    (ofSettings settings).render files rest draft.context.shallower.blank =
      ((ofSettings settings).scan ((ofSettings settings).sceneWithin files
          (settings.config.maxDepth - context.depth - 1)) (.ofText settings.delimiters rest)
        draft.context.blank).mapContext (·.shallower) := by
  have hd := hs.depth_eq
  have hshallow : draft.context.shallower.depth = context.depth := by
    simp only [Context.shallower, hd, Nat.add_sub_cancel]
  have hlimit : draft.context.shallower.depth < (ofSettings settings).config.maxDepth :=
    hshallow ▸ hdepth
  rw [render_blank _ files rest hlimit, hshallow, Context.deeper_shallower (by omega)]
  rfl

private theorem StandsAt.leavesOpen_iff (rest : Text) (position : Nat) :
    (ofSettings settings).LeavesOpen files rest draft.context.shallower position ↔
      (ofSettings settings).EndsUnclosed ((ofSettings settings).sceneWithin files
          (settings.config.maxDepth - context.depth - 1)) (.ofText settings.delimiters rest)
        draft.context.blank position := by
  have hd := hs.depth_eq
  have hshallow : draft.context.shallower.depth = context.depth := by
    simp only [Context.shallower, hd, Nat.add_sub_cancel]
  simp only [LeavesOpen, StandsAt, EndsUnclosed]
  rw [hshallow, Context.deeper_shallower (by omega)]
  rfl

end Standing

/-- Where a scan stands between two tokens, rendering the front of the text and then the rest of it
is rendering the whole. Only the position of a start delimiter that the rest leaves open is counted
from the beginning of the rest. -/
theorem render_sequential (settings : Settings) (files : Files) (text : Text) (context : Context)
    (hdepth : context.depth < settings.config.maxDepth) {scanner : Scanner} {draft : Draft}
    (hs : (ofSettings settings).StandsAt files text context scanner draft) :
    ∃ front, text = front ++ scanner.rest ∧ Text.bytes front = scanner.position ∧
      let first := (ofSettings settings).render files front context.blank
      let second := (ofSettings settings).render files scanner.rest first.context.blank
      let whole := (ofSettings settings).render files text context.blank
      let stop := settings.delimiters.stop
      whole.output = first.output ++ second.output ∧ whole.context = second.context ∧
      (∀ position, (ofSettings settings).LeavesOpen files scanner.rest first.context position →
        ∃ earlier, second.problems = earlier ++ [.unclosedDelimiter position stop] ∧
          whole.problems = first.problems ++ earlier ++
            [.unclosedDelimiter (position + scanner.position) stop]) ∧
      ((∀ position, ¬ (ofSettings settings).LeavesOpen files scanner.rest first.context position) →
        whole.problems = first.problems ++ second.problems) := by
  obtain ⟨front, hr, hp, hplace, hfront, hwhole⟩ := hs.cut
  obtain ⟨far, hfar, hout, hcontext, hended, hclosed⟩ := scan_behind_moved settings
    ((ofSettings settings).sceneWithin files (settings.config.maxDepth - context.depth - 1))
    (renderWithin_onlyAdds settings files _) (.ofText settings.delimiters scanner.rest) draft
    scanner.position
  have hfirst : (ofSettings settings).render files front context.blank =
      draft.mapContext (·.shallower) := by
    rw [← hfront]
    exact render_blank (ofSettings settings) files front hdepth
  have hall : (ofSettings settings).render files text context.blank =
      (draft.behind far).mapContext (·.shallower) := by
    rw [← hfar, hplace, ← hwhole]
    exact render_blank (ofSettings settings) files text hdepth
  refine ⟨front, hr, hp, ?_⟩
  rw [hfirst, hall]
  dsimp only
  rw [show (draft.mapContext (·.shallower)).context = draft.context.shallower from rfl,
    hs.render_shallower hdepth scanner.rest]
  refine ⟨congrArg (draft.output ++ ·) hout, congrArg Context.shallower hcontext, ?_, ?_⟩
  · intro position hl
    obtain ⟨earlier, hn, hf⟩ := hended position ((hs.leavesOpen_iff _ position).mp hl)
    refine ⟨earlier, hn, ?_⟩
    change draft.problems ++ far.problems = draft.problems ++ earlier ++ _
    rw [hf, List.append_assoc]
  · intro hl
    exact congrArg (draft.problems ++ ·)
      (hclosed fun position he => hl position ((hs.leavesOpen_iff _ position).mpr he))

/-- A cut behind a tag, with a start delimiter in the rest that is not closed. -/
theorem render_sequential_behind_tag :
    let settings : Settings :=
      { config := {}, delimiters := .standard, filters := Filter.builtIns }
    let files := Files.ofKnown []
    let context : Context := { site := "." }
    let first := (ofSettings settings).render files "\x7b% else %\x7d" context.blank
    let second := (ofSettings settings).render files "\x7b% .x" first.context.blank
    let whole := (ofSettings settings).render files "\x7b% else %\x7d\x7b% .x" context.blank
    context.depth < settings.config.maxDepth ∧ ∃ earlier,
      second.problems = earlier ++ [.unclosedDelimiter 0 "%\x7d"] ∧
      whole.problems = first.problems ++ earlier ++ [.unclosedDelimiter 10 "%\x7d"] := by
  intro settings files context first second whole
  have hdepth : context.depth < settings.config.maxDepth := by decide
  let scanner : Scanner := { delimiters := .standard, rest := "\x7b% .x", position := 10 }
  let tag : TagSpan := ⟨"else", 0, 10⟩
  have hn : (Scanner.ofText .standard "\x7b% else %\x7d\x7b% .x").next? =
      some (.tag tag, scanner) := rfl
  have hs : (ofSettings settings).StandsAt files "\x7b% else %\x7d\x7b% .x" context scanner
      (context.deeper.blank.report (.misuse "else" .strayElse)) := by
    refine .single ?_
    change turn? _ _ (Scanner.ofText .standard "\x7b% else %\x7d\x7b% .x", _) = _
    have he : tag.isExpression = false := rfl
    have hname : BuiltIn.named? tag.nameAndArguments.1 = some .strayElse :=
      BuiltIn.named?_name .strayElse
    simp only [turn?, hn, runTag_ofSettings _ _ _ _ he, hname]
    rfl
  obtain ⟨front, hf, -, -, -, hopen, -⟩ := render_sequential settings files _ context hdepth hs
  obtain rfl : front = "\x7b% else %\x7d" := (List.append_cancel_right hf).symm
  have hu : (Scanner.ofText .standard "\x7b% .x").next? = some (.unclosed 0,
    { delimiters := .standard, rest := "\x7b% .x", position := 0, finished := true }) := rfl
  exact ⟨hdepth, hopen 0 ⟨_, _, _, .refl, hu⟩⟩

end Engine
end Stencil
