import Stencil.Proofs.Frame
import Stencil.Proofs.Reading
import Stencil.Proofs.Tree
/-!
# Rendering realises the tree

A tree that is written out with the standard delimiters is rendered as it is evaluated. Each tag is
read where it stands, the search for its end crosses its body, and scanning goes on behind it.
-/
namespace Stencil

open Balance Spelling

/-! ### Blocks of a tree -/

namespace TemplateTree

private theorem splitAtElse_branch (yes : TemplateTree) :
    Branch.splitAtElse .standard "if" yes.written = (yes.written, none) :=
  splitAtElse_of_crosses yes.crosses_else

private theorem splitAtElse_choice (yes no : TemplateTree) :
    Branch.splitAtElse .standard "if" (yes.written ++ tag "else" ++ no.written) =
      (yes.written, some no.written) :=
  splitAtElse_else yes.crosses_else no.written

end TemplateTree

/-! ### Reading a tag of a tree -/

namespace Spelling

/-- A tag is read with these contents. -/
structure Readable (contents : Text) : Prop where
  trimmed : Text.trim contents = contents
  no_stop : Text.contains "%\x7d" contents = false

private theorem readable_words {front : Text} (hs : Text.trimStart front = front) (hn : front ≠ [])
    (hp : '%' ∉ front) (words : Words) : Readable (front ++ words.text) where
  trimmed := Text.trim_append hs hn words.trimmed words.ne_nil
  no_stop := (contains_append_of_notMem hp words.text).trans words.no_stop

private theorem nameAndArguments_words (name : Text) (hn : name.all (!Text.isBlank ·) = true)
    (words : Words) (start stop : Nat) :
    (TagSpan.mk (name ++ " " ++ words.text) start stop).nameAndArguments = (name, words.text) := by
  have hb : (" " : Text) = [' '] := by decide
  have hblank : Text.isBlank ' ' = true := by decide
  have hname : ∀ c ∈ name, (!Text.isBlank c) = true := List.all_eq_true.mp hn
  simp only [TagSpan.nameAndArguments, hb, List.append_assoc, List.singleton_append,
    List.takeWhile_append_of_pos hname, List.dropWhile_append_of_pos hname]
  simp only [List.takeWhile_cons, List.dropWhile_cons, hblank, Bool.not_true, Bool.false_eq_true,
    if_false, List.append_nil, Text.trimStart, if_true]
  rw [show words.text.dropWhile Text.isBlank = words.text from Text.trimStart_of_trim words.trimmed]

private theorem next?_tag {contents : Text} (h : Readable contents) (position : Nat) (rest : Text) :
    (scanner position (tag contents ++ rest)).next? =
      some (.tag ⟨contents, position, position + Text.bytes (tag contents)⟩,
        scanner (position + Text.bytes (tag contents)) rest) := by
  have hnext := next?_span (contains_stop_blanks h.no_stop) position rest
  rw [trim_blanks, h.trimmed, ← tag_eq_span] at hnext
  exact hnext

end Spelling

namespace Engine

section Scanning

variable (settings : Settings) (files : Files) (levels : Nat) {contents : Text}

private theorem scan_runTag (hr : Readable contents) {position stop : Nat} {following : Text}
    {draft turned : Draft} (ht : (ofStandard settings).runTag
      ((ofStandard settings).sceneWithin files levels)
        ⟨contents, position, position + Text.bytes (tag contents)⟩ following draft =
          (turned, stop)) :
    let scene := (ofStandard settings).sceneWithin files levels
    turned.context.depth = draft.context.depth ∧
      (ofStandard settings).scan scene (scanner position (tag contents ++ following)) draft =
        (ofStandard settings).scan scene
          ((scanner (position + Text.bytes (tag contents)) following).seek stop) turned := by
  intro scene
  let span : TagSpan := ⟨contents, position, position + Text.bytes (tag contents)⟩
  have hlaw : draft.context.Framed
      ((ofStandard settings).runTag scene span following draft).1.context :=
    Context.Framed.law.runTag _ (Context.Framed.law.sceneWithin _ files levels) span following draft
  rw [ht] at hlaw
  refine ⟨hlaw.depth, ?_⟩
  rw [scan_of_tag _ _ _ (next?_tag hr position following)]
  change (ofStandard settings).scan scene ((scanner _ following).seek
    ((ofStandard settings).runTag scene span following draft).2)
    ((ofStandard settings).runTag scene span following draft).1 = _
  rw [ht]

private theorem scan_leaf (hr : Readable contents)
    {draft turned : Draft} (position : Nat) (rest : Text)
    (ht : ∀ start stop, (ofStandard settings).runTag
      ((ofStandard settings).sceneWithin files levels) ⟨contents, start, stop⟩ rest draft =
        (turned, stop)) :
    let scene := (ofStandard settings).sceneWithin files levels
    turned.context.depth = draft.context.depth ∧
      (ofStandard settings).scan scene (scanner position (tag contents ++ rest)) draft =
        (ofStandard settings).scan scene (scanner (position + Text.bytes (tag contents)) rest)
          turned := by
  intro scene
  obtain ⟨hd, hs⟩ := scan_runTag settings files levels hr (ht position _)
  exact ⟨hd, hs.trans
    (congrArg (fun s => (ofStandard settings).scan scene s turned) (Scanner.seek_position _))⟩

private theorem runTag_block {scene : Scene} (hscene : scene.delimiters = .standard)
    {builtIn : BuiltIn} {act : Scene → Call → Text → Draft → Draft}
    (hrun : builtIn.run = TagAction.ofBlock act) {span : TagSpan} {arguments : Text}
    (hname : span.nameAndArguments = (builtIn.name, arguments))
    (he : span.isExpression = false) {body : Text}
    (hb : Crosses (closingWalk builtIn.name) body 0 0) (rest : Text) (draft : Draft) :
    let following := body ++ tag ("end-" ++ builtIn.name) ++ rest
    (ofStandard settings).runTag scene span following draft =
      (act scene (span.call following) body draft,
        span.stop + Text.bytes (body ++ tag ("end-" ++ builtIn.name))) := by
  intro following
  have hcall : (span.call following).name = builtIn.name := congrArg Prod.fst hname
  have hblock : (span.call following).block? .standard =
      some ⟨body, span.stop + Text.bytes (body ++ tag ("end-" ++ builtIn.name))⟩ := by
    rw [← hcall] at hb ⊢
    exact block?_of_encloses (by rw [hcall]; rfl) (encloses_of_crosses hb)
  have hn : BuiltIn.named? span.nameAndArguments.1 = some builtIn := by
    rw [hname]
    exact BuiltIn.named?_name builtIn
  rw [runTag_ofSettings _ _ _ _ he, hn]
  simp only [hrun, TagAction.ofBlock, Call.block, hscene, hblock]

private theorem scan_block {builtIn : BuiltIn}
    {act : Scene → Call → Text → Draft → Draft} (hrun : builtIn.run = TagAction.ofBlock act)
    (hr : Readable contents) {arguments : Text}
    (hname : ∀ start stop, (TagSpan.mk contents start stop).nameAndArguments =
      (builtIn.name, arguments))
    (he : ∀ start stop, (TagSpan.mk contents start stop).isExpression = false) {body : Text}
    (hb : Crosses (closingWalk builtIn.name) body 0 0) (position : Nat) (rest : Text)
    (draft : Draft) :
    let scene := (ofStandard settings).sceneWithin files levels
    let written := tag contents ++ body ++ tag ("end-" ++ builtIn.name)
    ∃ call : Call, call.name = builtIn.name ∧ call.arguments = arguments ∧
      (act scene call body draft).context.depth = draft.context.depth ∧
      (ofStandard settings).scan scene (scanner position (written ++ rest)) draft =
        (ofStandard settings).scan scene (scanner (position + Text.bytes written) rest)
          (act scene call body draft) := by
  intro scene written
  let following := body ++ tag ("end-" ++ builtIn.name) ++ rest
  let span : TagSpan := ⟨contents, position, position + Text.bytes (tag contents)⟩
  have ht : (ofStandard settings).runTag scene span following draft = _ :=
    runTag_block settings rfl hrun (hname _ _) (he _ _) hb rest draft
  obtain ⟨hd, hs⟩ := scan_runTag settings files levels hr ht
  refine ⟨span.call following, congrArg Prod.fst (hname _ _), congrArg Prod.snd (hname _ _), hd, ?_⟩
  have hall : written ++ rest = tag contents ++ following := by
    simp only [written, following, List.append_assoc]
  have hbytes : position + Text.bytes written = span.stop +
      Text.bytes (body ++ tag ("end-" ++ builtIn.name)) := by
    simp only [written, span, Text.bytes_append, Nat.add_assoc]
  rw [hall, hs, hbytes]
  exact congrArg (fun s => (ofStandard settings).scan scene s _) (Scanner.seek_behind rfl)

end Scanning

section Trees

open TemplateTree

variable (settings : Settings) (files : Files)

/-- Scanning a tree that is written out is evaluating it, whatever follows. -/
def ScansAs (tree : TemplateTree) : Prop :=
  ∀ levels draft position rest, levels = settings.config.maxDepth - draft.context.depth →
    (ofStandard settings).scan ((ofStandard settings).sceneWithin files levels)
        (scanner position (tree.written ++ rest)) draft =
      (ofStandard settings).scan ((ofStandard settings).sceneWithin files levels)
        (scanner (position + Text.bytes tree.written) rest) (tree.evaluate settings draft)

variable {settings files}

private theorem ScansAs.renderWithin {tree : TemplateTree} (h : ScansAs settings files tree)
    {levels : Nat} {draft : Draft} (hl : levels = settings.config.maxDepth - draft.context.depth) :
    (ofStandard settings).renderWithin files levels tree.written draft =
      within settings.config.maxDepth (tree.evaluate settings) draft := by
  cases levels with
  | zero =>
    rw [within, if_pos (by omega)]
    rfl
  | succ levels =>
    have hs := h levels (draft.mapContext (·.deeper)) 0 []
    rw [List.append_nil] at hs
    have hd : (draft.mapContext (·.deeper)).context.depth = draft.context.depth + 1 := rfl
    rw [renderWithin_succ, within, if_neg (by omega)]
    refine congrArg (Draft.mapContext · _) ((hs (by omega)).trans ?_)
    exact scan_of_none _ _ _ (Scanner.next?_of_nil rfl)

private theorem foldl_iterate {body : TemplateTree} (h : ScansAs settings files body)
    {levels : Nat} (name : Text) (items : List Value) {draft : Draft}
    (hl : levels = settings.config.maxDepth - draft.context.depth) :
    items.foldl (Loop.iterate ((ofStandard settings).sceneWithin files levels) name body.written)
        draft =
      items.foldl (forItem name (within settings.config.maxDepth (body.evaluate settings)))
        draft := by
  induction items generalizing draft with
  | nil => rfl
  | cons item items ih =>
    have hi : Loop.iterate ((ofStandard settings).sceneWithin files levels) name body.written draft
        item = forItem name (within settings.config.maxDepth (body.evaluate settings)) draft item :=
      congrArg (Draft.mapContext · _) (h.renderWithin hl)
    have hd : (Loop.iterate ((ofStandard settings).sceneWithin files levels) name body.written draft
        item).context.depth = draft.context.depth :=
      (Context.Framed.law.sceneWithin _ files levels body.written
        (draft.mapContext (·.pushScope [(name, item)]))).depth
    rw [List.foldl_cons, List.foldl_cons, ih (by rw [hd]; exact hl), hi]

private theorem ScansAs.behind {rest : TemplateTree} (h : ScansAs settings files rest)
    {node tail : Text} {levels position : Nat} {draft turned expected : Draft}
    (hl : levels = settings.config.maxDepth - draft.context.depth)
    (hd : turned.context.depth = draft.context.depth)
    (hs : (ofStandard settings).scan ((ofStandard settings).sceneWithin files levels)
        (scanner position (node ++ (rest.written ++ tail))) draft =
      (ofStandard settings).scan ((ofStandard settings).sceneWithin files levels)
        (scanner (position + Text.bytes node) (rest.written ++ tail)) turned)
    (he : turned = expected) :
    (ofStandard settings).scan ((ofStandard settings).sceneWithin files levels)
        (scanner position (node ++ rest.written ++ tail)) draft =
      (ofStandard settings).scan ((ofStandard settings).sceneWithin files levels)
        (scanner (position + Text.bytes (node ++ rest.written)) tail)
        (rest.evaluate settings expected) := by
  subst he
  rw [List.append_assoc, hs, h levels turned _ tail (hd ▸ hl), Text.bytes_append, Nat.add_assoc]

private theorem scansAs_text (t : PlainText) {rest : TemplateTree}
    (ih : ScansAs settings files rest) : ScansAs settings files (.text t rest) := by
  intro levels draft position tail hl
  have hstart : Delimiters.standard.start = '\x7b' :: ("%" : Text) := by decide
  have hp : Text.Passes Delimiters.standard.start t.text (rest.written ++ tail) := by
    rw [hstart]
    exact Text.passes_of_notMem t.no_brace _
  have hf : (scanner position tail).finished = false := rfl
  have hd : (draft.write t.text).context.depth = draft.context.depth := rfl
  exact ih.behind hl hd (scan_plain _ _ draft hf hp position) rfl

private theorem scansAs_expression (shown : ShownValue) {rest : TemplateTree}
    (ih : ScansAs settings files rest) : ScansAs settings files (.expression shown rest) := by
  intro levels draft position tail hl
  have ht (start stop : Nat) : (ofStandard settings).runTag
      ((ofStandard settings).sceneWithin files levels) ⟨shown.text, start, stop⟩
        (rest.written ++ tail) draft =
      (draft.writeOrReport ((Expression.evaluate settings.filters draft.context shown.text).map
        Value.toText), stop) :=
    runTag_expression _ _ _ _ shown.dotted
  obtain ⟨hd, hs⟩ := scan_leaf settings files levels ⟨shown.trimmed, shown.no_stop⟩ position _ ht
  exact ih.behind hl hd hs rfl

private theorem scansAs_assign (arguments : Words) {rest : TemplateTree}
    (ih : ScansAs settings files rest) : ScansAs settings files (.assign arguments rest) := by
  intro levels draft position tail hl
  have hr : Readable ("assign " ++ arguments.text) :=
    readable_words (by decide) (by decide) (by decide) arguments
  have hname (start stop : Nat) :
      (TagSpan.mk ("assign " ++ arguments.text) start stop).nameAndArguments =
        (BuiltIn.assign.name, arguments.text) :=
    nameAndArguments_words "assign" rfl arguments start stop
  have ht (start stop : Nat) : (ofStandard settings).runTag
      ((ofStandard settings).sceneWithin files levels)
        ⟨"assign " ++ arguments.text, start, stop⟩ (rest.written ++ tail) draft =
      (store settings.filters arguments.text draft, stop) := by
    have hcall : (TagSpan.mk ("assign " ++ arguments.text) start stop).call (rest.written ++ tail) =
        ⟨"assign", arguments.text, start, stop, rest.written ++ tail⟩ := by
      rw [TagSpan.call, hname]
      rfl
    rw [runTag_ofSettings _ _ _ _ rfl, hname, BuiltIn.named?_name, hcall]
    rfl
  obtain ⟨hd, hs⟩ := scan_leaf settings files levels hr position _ ht
  exact ih.behind hl hd hs rfl

private theorem scan_branch (condition : Words) {body first : Text} {second : Option Text}
    {levels : Nat} {draft : Draft} {yes no : Draft → Draft} (position : Nat) (rest : Text)
    (hb : Crosses (closingWalk "if") body 0 0)
    (hsplit : Branch.splitAtElse .standard "if" body = (first, second))
    (hyes : ((ofStandard settings).sceneWithin files levels).render first draft = yes draft)
    (hno : second.elim draft (((ofStandard settings).sceneWithin files levels).render · draft) =
      no draft) :
    let scene := (ofStandard settings).sceneWithin files levels
    let written := tag ("if " ++ condition.text) ++ body ++ tag "end-if"
    ∃ turned : Draft, turned.context.depth = draft.context.depth ∧
      (ofStandard settings).scan scene (scanner position (written ++ rest)) draft =
        (ofStandard settings).scan scene (scanner (position + Text.bytes written) rest) turned ∧
      turned = choose condition.text yes no draft := by
  intro scene written
  have hr : Readable ("if " ++ condition.text) :=
    readable_words (by decide) (by decide) (by decide) condition
  have hname (start stop : Nat) :
      (TagSpan.mk ("if " ++ condition.text) start stop).nameAndArguments =
        (BuiltIn.branch.name, condition.text) :=
    nameAndArguments_words "if" rfl condition start stop
  have hrun : BuiltIn.branch.run = TagAction.ofBlock _ := (rfl : Branch.run = TagAction.ofBlock _)
  obtain ⟨call, hcn, hca, hd, hs⟩ := scan_block settings files levels hrun hr hname
    (fun _ _ => rfl) hb position rest draft
  have hcall : Branch.splitAtElse scene.delimiters call.name body = (first, second) := by
    rw [hcn]
    exact hsplit
  refine ⟨_, hd, hs, ?_⟩
  rw [hcall, hca, choose]
  cases Condition.evaluate draft.context condition.text with
  | error problem => rfl
  | ok holds =>
    cases holds with
    | true => exact hyes
    | false => cases second <;> exact hno

private theorem scansAs_branch (condition : Words) {yes rest : TemplateTree}
    (ihy : ScansAs settings files yes) (ih : ScansAs settings files rest) :
    ScansAs settings files (.branch condition yes rest) := by
  intro levels draft position tail hl
  have hb : Crosses (closingWalk "if") yes.written 0 0 := yes.crosses_closing .branch (by decide)
  have hno : (none : Option Text).elim draft
      (((ofStandard settings).sceneWithin files levels).render · draft) = id draft := rfl
  obtain ⟨turned, hd, hs, he⟩ := scan_branch condition position (rest.written ++ tail) hb
    (splitAtElse_branch yes) (ihy.renderWithin hl) hno
  exact ih.behind hl hd hs he

private theorem scansAs_choice (condition : Words) {yes no rest : TemplateTree}
    (ihy : ScansAs settings files yes) (ihn : ScansAs settings files no)
    (ih : ScansAs settings files rest) :
    ScansAs settings files (.choice condition yes no rest) := by
  intro levels draft position tail hl
  have hb : Crosses (closingWalk "if") (yes.written ++ tag "else" ++ no.written) 0 0 :=
    ((yes.crosses_closing .branch (by decide)).append
      (closingWalk_else (by decide) (by decide) 0)).append (no.crosses_closing .branch (by decide))
  obtain ⟨turned, hd, hs, he⟩ := scan_branch condition position (rest.written ++ tail) hb
    (splitAtElse_choice yes no) (ihy.renderWithin hl) (ihn.renderWithin hl)
  exact ih.behind hl hd hs he

private theorem scansAs_loop (arguments : Words) {body rest : TemplateTree}
    (ihb : ScansAs settings files body) (ih : ScansAs settings files rest) :
    ScansAs settings files (.loop arguments body rest) := by
  intro levels draft position tail hl
  have hr : Readable ("each " ++ arguments.text) :=
    readable_words (by decide) (by decide) (by decide) arguments
  have hname (start stop : Nat) :
      (TagSpan.mk ("each " ++ arguments.text) start stop).nameAndArguments =
        (BuiltIn.loop.name, arguments.text) :=
    nameAndArguments_words "each" rfl arguments start stop
  have hb : Crosses (closingWalk BuiltIn.loop.name) body.written 0 0 :=
    body.crosses_closing .loop (by decide)
  have hrun : BuiltIn.loop.run = TagAction.ofBlock _ := (rfl : Loop.run = TagAction.ofBlock _)
  obtain ⟨call, hcn, hca, hd, hs⟩ := scan_block settings files levels hrun hr hname
    (fun _ _ => rfl) hb position (rest.written ++ tail) draft
  have hhead : Loop.head call = Loop.head (said "each" arguments.text) := by
    simp only [Loop.head, Call.tokens, Call.misuse, hcn, hca, said]
    rfl
  refine ih.behind hl hd hs ?_
  rw [hhead, forEach]
  cases Loop.head (said "each" arguments.text) with
  | error problem => rfl
  | ok head =>
    dsimp only [bind, Except.bind]
    cases Loop.items draft.context head.2 with
    | error problem => rfl
    | ok items => exact foldl_iterate ihb head.1 items hl

private theorem scansAs_comment {body rest : TemplateTree} (ih : ScansAs settings files rest) :
    ScansAs settings files (.comment body rest) := by
  intro levels draft position tail hl
  have hb : Crosses (closingWalk BuiltIn.comment.name) body.written 0 0 :=
    body.crosses_closing .comment (by decide)
  have hr : Readable "comment" := ⟨by decide, by decide⟩
  have hrun : BuiltIn.comment.run = TagAction.ofBlock _ :=
    (rfl : TagAction.skip = TagAction.ofBlock _)
  obtain ⟨call, -, -, hd, hs⟩ := scan_block settings files levels hrun hr (fun _ _ => rfl)
    (fun _ _ => rfl) hb position (rest.written ++ tail) draft
  exact ih.behind hl hd hs rfl

private theorem scansAs (tree : TemplateTree) : ScansAs settings files tree := by
  induction tree with
  | done =>
    intro levels draft position rest _
    rfl
  | text t rest ih => exact scansAs_text t ih
  | expression shown rest ih => exact scansAs_expression shown ih
  | branch condition yes rest ihy ih => exact scansAs_branch condition ihy ih
  | choice condition yes no rest ihy ihn ih => exact scansAs_choice condition ihy ihn ih
  | loop arguments body rest ihb ih => exact scansAs_loop arguments ihb ih
  | comment body rest ihb ih => exact scansAs_comment ih
  | assign arguments rest ih => exact scansAs_assign arguments ih

end Trees

/-- A tree that is written out is rendered as it is evaluated, with the render itself around it. -/
theorem render_written (settings : Settings) (files : Files) (tree : TemplateTree) (draft : Draft) :
    (ofStandard settings).render files tree.written draft =
      TemplateTree.within settings.config.maxDepth (tree.evaluate settings) draft :=
  (scansAs tree).renderWithin rfl

end Engine
end Stencil
