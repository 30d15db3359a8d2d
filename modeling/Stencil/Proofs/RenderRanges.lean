import Stencil.Proofs.Machine
import Stencil.Proofs.Sequence
import Stencil.Proofs.SlotRanges
/-!
# Rendering by offsets

Rendering as it is done on the bytes of a text: tags are handed offsets into the whole text, from
which they cut their bodies, and counts are lowered only if they are not zero. Whatever the text,
every cut is in range and no count goes below zero, since all of it has the result of rendering.
-/
namespace Stencil

/-- A tag with the whole text in which it stands. -/
structure ByteCall where
  name : Text
  arguments : Text
  raw : Text
  start : Nat
  stop : Nat

namespace ByteCall

/-- The tag without the text behind it. -/
def alone (call : ByteCall) : Call := ⟨call.name, call.arguments, call.start, call.stop, []⟩

def block (call : ByteCall) (delimiters : Delimiters) : Option (Except Problem Block) := do
  let close := delimiters.closeMarker call.name
  let found ← Balance.findClosingInBytes call.raw (delimiters.openMarker call.name) close call.stop
  match found with
  | some span =>
    let body ← Text.slice? call.raw call.stop span.start
    some (.ok ⟨body, span.stop⟩)
  | none => some (.error (.unclosedBlock call.name close))

/-- The rest of the text is cut off even if it is not the body. -/
def blockOrRest (call : ByteCall) (delimiters : Delimiters) : Option Block := do
  let block ← call.block delimiters
  let rest ← Text.slice? call.raw call.stop (Text.bytes call.raw)
  some (block.toOption.getD ⟨rest, Text.bytes call.raw⟩)

end ByteCall

namespace Call

variable {call : Call} {raw : Text}

/-- The call with the whole text in place of the text behind it. -/
def inBytes (call : Call) (raw : Text) : ByteCall :=
  ⟨call.name, call.arguments, raw, call.start, call.stop⟩

/-- What follows the tag is what the text holds from its end on. -/
def StandsIn (call : Call) (raw : Text) : Prop :=
  ∃ before, raw = before ++ call.following ∧ Text.bytes before = call.stop

private theorem block_inBytes (h : call.StandsIn raw) (delimiters : Delimiters) :
    (call.inBytes raw).block delimiters = some (call.block delimiters) := by
  obtain ⟨before, rfl, hb⟩ := h
  have hfound : Balance.findClosingInBytes (before ++ call.following)
      (delimiters.openMarker call.name) (delimiters.closeMarker call.name) call.stop =
        some ((Balance.closing (delimiters.openMarker call.name)
          (delimiters.closeMarker call.name) 0 0 call.following).map
            (Balance.spanFrom call.stop (delimiters.closeMarker call.name))) := by
    rw [← hb, Balance.findClosingInBytes_behind (delimiters.openMarker_ne_nil _)
      (delimiters.closeMarker_ne_nil _)]
  simp only [ByteCall.block, inBytes, hfound, Option.bind_eq_bind, Option.bind_some, block,
    block?]
  cases hc : Balance.closing (delimiters.openMarker call.name)
    (delimiters.closeMarker call.name) 0 0 call.following with
  | none => rfl
  | some found =>
    have hbody : Text.slice? (before ++ call.following) call.stop
        (call.stop + Text.bytes found.1) = some found.1 := by
      rw [← hb]
      exact Balance.slice?_of_closing hc before
    simp only [Option.map_some, Balance.spanFrom, hbody, Option.bind_some]

private theorem blockOrRest_inBytes (h : call.StandsIn raw) (delimiters : Delimiters) :
    (call.inBytes raw).blockOrRest delimiters = some (call.blockOrRest delimiters) := by
  have hblock := block_inBytes h delimiters
  obtain ⟨before, rfl, hb⟩ := h
  have hsize : Text.bytes (before ++ call.following) = call.size := by
    rw [Text.bytes_append, hb, size]
  have hrest : Text.slice? (before ++ call.following) call.stop call.size =
      some call.following := by
    rw [← hb, ← hsize]
    exact Text.slice?_suffix _ _
  rw [ByteCall.blockOrRest, hblock]
  simp only [inBytes, hrest, hsize, Option.bind_eq_bind, Option.bind_some, blockOrRest, block]
  cases call.block? delimiters <;> rfl

end Call

/-- The two parts of a body around its own `else`. -/
def Branch.splitAtElseInBytes (delimiters : Delimiters) (name body : Text) :
    Option (Text × Option Text) := do
  let found ← Balance.findTopLevelInBytes body (delimiters.openMarker name)
    (delimiters.closeMarker name) (delimiters.bareMarker "else")
  match found with
  | some span =>
    let first ← Text.slice? body 0 span.start
    let second ← Text.slice? body span.stop (Text.bytes body)
    some (first, some second)
  | none => some (body, none)

private theorem Branch.splitAtElseInBytes_eq (delimiters : Delimiters) (name body : Text) :
    splitAtElseInBytes delimiters name body = some (splitAtElse delimiters name body) := by
  simp only [splitAtElseInBytes, splitAtElse, Balance.findTopLevelInBytes_eq,
    Balance.findTopLevel?, Option.bind_eq_bind, Option.bind_some]
  cases ht : Balance.topLevel (delimiters.openMarker name) (delimiters.closeMarker name)
    (delimiters.bareMarker "else") 0 0 body with
  | none => rfl
  | some found =>
    obtain ⟨first, second⟩ := found
    have hbody := Balance.eq_append_of_topLevel ht
    have hfirst : Text.slice? body 0 (Text.bytes first) = some first := by
      rw [hbody, List.append_assoc]
      exact Text.slice?_prefix _ _
    have hsecond : Text.slice? body
        (Text.bytes first + Text.bytes (delimiters.bareMarker "else")) (Text.bytes body) =
          some second := by
      rw [hbody, ← Text.bytes_append]
      exact Text.slice?_suffix _ _
    simp only [Option.map_some, Balance.spanFrom, Nat.zero_add, hfirst, hsecond, Option.bind_some]

/-- The draft a program ends with, if its requests are answered. -/
def Program.run? (answer? : Text → Draft → Option Draft) : Program → Option Draft
  | done draft => some draft
  | render text draft next => (answer? text draft).bind fun answer => (next answer).run? answer?

private theorem Program.run?_eq {answer? : Text → Draft → Option Draft}
    {answer : Text → Draft → Draft}
    (h : ∀ text draft, answer? text draft = some (answer text draft)) (program : Program) :
    program.run? answer? = some (program.run answer) := by
  induction program with
  | done draft => rfl
  | render text draft next ih =>
    rw [run?, h, Option.bind_some, ih]
    rfl

/-! ### Tags -/

/-- A tag as a program, if all it cuts out of the text is in range. -/
abbrev ByteProgram := Settings → Files → ByteCall → Draft → Option (Program × Nat)

namespace ByteProgram

/-- A tag that takes nothing of the text behind it. -/
def ofLeaf (tag : BuiltIn) : ByteProgram := fun settings files call draft =>
  some (tag.program settings files call.alone draft)

def ofBlock (act : Settings → Call → Text → Draft → Option Program) : ByteProgram :=
  fun settings _ call draft => do
    match ← call.block settings.delimiters with
    | .ok block =>
      let program ← act settings call.alone block.body draft
      some (program, block.next)
    | .error problem => some (.done (draft.report problem), call.stop)

def ofBlockOrRest (act : Settings → Files → Call → Text → Draft → Option Program) : ByteProgram :=
  fun settings files call draft => do
    let block ← call.blockOrRest settings.delimiters
    let program ← act settings files call.alone block.body draft
    some (program, block.next)

def branch : ByteProgram := ofBlock fun settings call body draft => do
  let parts ← Branch.splitAtElseInBytes settings.delimiters call.name body
  match Condition.evaluate draft.context call.arguments with
  | .ok true => some (.render parts.1 draft .done)
  | .ok false => match parts.2 with
    | some second => some (.render second draft .done)
    | none => some (.done draft)
  | .error problem => some (.done (draft.report problem))

def loop : ByteProgram := ofBlock fun _ call body draft =>
  match (do let (name, path) ← Loop.head call; pure (name, ← Loop.items draft.context path)) with
  | .ok (name, items) => some (TagProgram.iterations name body items draft)
  | .error problem => some (.done (draft.report problem))

def skip : ByteProgram := ofBlock fun _ _ _ draft => some (.done draft)

def store : ByteProgram := ofBlock fun _ call body draft =>
  match call.firstName? with
  | some name => some (.done (draft.mapContext (·.storeBlock name body)))
  | none => some (.done (draft.report (call.misuse (.missing .name))))

def fill : ByteProgram := ofBlock fun _ call body draft =>
  match call.firstName? with
  | some name => some (.render ((draft.context.blocks.get? name).getD body) draft .done)
  | none => some (.done (draft.report (call.misuse (.missing .blockName))))

def inlineAsset (kind : AssetKind) : ByteProgram := ofBlock fun _ call body draft =>
  some (.capture body draft fun rendered draft =>
    .done (InlineAsset.register kind call rendered draft))

def layout : ByteProgram := ofBlockOrRest fun settings files call body draft =>
  match call.firstName? with
  | none => some (.render body (draft.report (call.misuse (.missing .layoutName))) .done)
  | some name =>
    if draft.context.bypassesLayouts settings.config.bypassHeader then
      some (.render body draft .done)
    else some (.capture body draft (TagProgram.wrap settings files name))

def extend : ByteProgram := ofBlockOrRest fun settings files call body draft =>
  match call.firstName? with
  | none => some (.done (draft.report (call.misuse (.missing .parentName))))
  | some name => do
    let collected ← Slot.collectInBytes settings.delimiters body draft
    some (.capture (Text.trim collected.1) collected.2 (TagProgram.wrap settings files name))

end ByteProgram

def BuiltIn.programInBytes : BuiltIn → ByteProgram
  | branch => ByteProgram.branch
  | loop => ByteProgram.loop
  | comment => ByteProgram.skip
  | slot | define => ByteProgram.store
  | block => ByteProgram.fill
  | css => ByteProgram.inlineAsset .css
  | js => ByteProgram.inlineAsset .js
  | layout => ByteProgram.layout
  | extend => ByteProgram.extend
  | tag => ByteProgram.ofLeaf tag

section Tags

variable {call : Call} {raw : Text} (h : call.StandsIn raw)
variable (settings : Settings) (files : Files) (draft : Draft)

include h

private theorem ofBlock_inBytes {act? : Settings → Call → Text → Draft → Option Program}
    {act : Settings → Call → Text → Draft → Program}
    (ha : ∀ body, act? settings (call.inBytes raw).alone body draft =
      some (act settings call body draft)) :
    ByteProgram.ofBlock act? settings files (call.inBytes raw) draft =
      some (TagProgram.ofBlock act settings files call draft) := by
  simp only [ByteProgram.ofBlock, TagProgram.ofBlock, Call.block_inBytes h, Option.bind_eq_bind,
    Option.bind_some]
  cases call.block settings.delimiters with
  | error problem => rfl
  | ok block =>
    dsimp only
    rw [ha, Option.bind_some]

private theorem ofBlockOrRest_inBytes
    {act? : Settings → Files → Call → Text → Draft → Option Program}
    {act : Settings → Files → Call → Text → Draft → Program}
    (ha : ∀ body, act? settings files (call.inBytes raw).alone body draft =
      some (act settings files call body draft)) :
    ByteProgram.ofBlockOrRest act? settings files (call.inBytes raw) draft =
      some (TagProgram.ofBlockOrRest act settings files call draft) := by
  simp only [ByteProgram.ofBlockOrRest, TagProgram.ofBlockOrRest, Call.blockOrRest_inBytes h,
    Option.bind_eq_bind, Option.bind_some, ha]

private theorem branch_inBytes :
    ByteProgram.branch settings files (call.inBytes raw) draft =
      some (TagProgram.branch settings files call draft) := by
  refine ofBlock_inBytes h settings files draft fun body => ?_
  simp only [Branch.splitAtElseInBytes_eq, Option.bind_eq_bind, Option.bind_some, Call.inBytes,
    ByteCall.alone]
  cases Condition.evaluate draft.context call.arguments with
  | error problem => rfl
  | ok holds =>
    cases holds with
    | true => rfl
    | false =>
      dsimp only
      cases (Branch.splitAtElse settings.delimiters call.name body).2 <;> rfl

private theorem loop_inBytes :
    ByteProgram.loop settings files (call.inBytes raw) draft =
      some (TagProgram.loop settings files call draft) := by
  refine ofBlock_inBytes h settings files draft fun body => ?_
  have hhead : Loop.head (call.inBytes raw).alone = Loop.head call := rfl
  simp only [hhead]
  cases Loop.head call with
  | error problem => rfl
  | ok found =>
    obtain ⟨name, path⟩ := found
    simp only [bind, Except.bind]
    cases Loop.items draft.context path <;> rfl

private theorem layout_inBytes :
    ByteProgram.layout settings files (call.inBytes raw) draft =
      some (TagProgram.layout settings files call draft) := by
  refine ofBlockOrRest_inBytes h settings files draft fun body => ?_
  have hname : (call.inBytes raw).alone.firstName? = call.firstName? := rfl
  simp only [hname]
  cases call.firstName? with
  | none => rfl
  | some name =>
    dsimp only
    split <;> rfl

private theorem extend_inBytes :
    ByteProgram.extend settings files (call.inBytes raw) draft =
      some (TagProgram.extend settings files call draft) := by
  refine ofBlockOrRest_inBytes h settings files draft fun body => ?_
  have hname : (call.inBytes raw).alone.firstName? = call.firstName? := rfl
  simp only [hname, Slot.collectInBytes_eq, Option.bind_eq_bind, Option.bind_some]
  cases call.firstName? <;> rfl

private theorem fill_inBytes :
    ByteProgram.fill settings files (call.inBytes raw) draft =
      some (TagProgram.fill settings files call draft) := by
  refine ofBlock_inBytes h settings files draft fun body => ?_
  have hname : (call.inBytes raw).alone.firstName? = call.firstName? := rfl
  simp only [hname]
  cases call.firstName? <;> rfl

private theorem still_ofBlock_inBytes {act? : Settings → Call → Text → Draft → Option Program}
    {act : Scene → Call → Text → Draft → Draft}
    (ha : ∀ scene : Scene, ∀ body, act? settings (call.inBytes raw).alone body draft =
      some (.done (act scene call body draft))) :
    ByteProgram.ofBlock act? settings files (call.inBytes raw) draft =
      some (TagProgram.still (TagAction.ofBlock act) settings files call draft) := by
  simp only [ByteProgram.ofBlock, TagProgram.still, TagAction.ofBlock, Call.block_inBytes h,
    Option.bind_eq_bind, Option.bind_some]
  cases call.block settings.delimiters with
  | error problem => rfl
  | ok block =>
    dsimp only
    rw [ha, Option.bind_some]

private theorem store_inBytes :
    ByteProgram.store settings files (call.inBytes raw) draft =
      some (TagProgram.still Slot.store settings files call draft) := by
  refine still_ofBlock_inBytes h settings files draft fun scene body => ?_
  have hname : (call.inBytes raw).alone.firstName? = call.firstName? := rfl
  simp only [hname]
  cases call.firstName? <;> rfl

private theorem skip_inBytes :
    ByteProgram.skip settings files (call.inBytes raw) draft =
      some (TagProgram.still TagAction.skip settings files call draft) :=
  still_ofBlock_inBytes h settings files draft fun _ _ => rfl

private theorem inlineAsset_inBytes (kind : AssetKind) :
    ByteProgram.inlineAsset kind settings files (call.inBytes raw) draft =
      some (TagProgram.inlineAsset kind settings files call draft) :=
  ofBlock_inBytes h settings files draft fun _ => rfl

/-- A tag cuts the same out of the whole text as out of the text behind it. -/
theorem BuiltIn.programInBytes_eq (tag : BuiltIn) :
    tag.programInBytes settings files (call.inBytes raw) draft =
      some (tag.program settings files call draft) := by
  cases tag with
  | branch => exact branch_inBytes h settings files draft
  | loop => exact loop_inBytes h settings files draft
  | comment => exact skip_inBytes h settings files draft
  | slot | define => exact store_inBytes h settings files draft
  | block => exact fill_inBytes h settings files draft
  | css | js => exact inlineAsset_inBytes h settings files draft _
  | layout => exact layout_inBytes h settings files draft
  | extend => exact extend_inBytes h settings files draft
  | strayElse | assign | partialFile | passed | importFile | metaElement | linkElement | title
  | rootHead | rootCss | rootJs => rfl

end Tags

/-! ### Renders -/

/-- The draft one render further out, if it is inside of one. -/
def Draft.shallower? (draft : Draft) : Option Draft :=
  (lower? draft.context.depth).map fun depth => draft.mapContext ({ · with depth })

private theorem Draft.shallower?_eq {draft : Draft} (h : 0 < draft.context.depth) :
    draft.shallower? = some (draft.mapContext (·.shallower)) := by
  obtain ⟨depth, hd⟩ := Nat.exists_eq_succ_of_ne_zero (Nat.ne_of_gt h)
  simp only [shallower?, hd, lower?, Option.map_some, mapContext, Context.shallower,
    Nat.succ_eq_add_one, Nat.add_sub_cancel]

namespace Engine

section

variable (settings : Settings) (files : Files) (answer? : Text → Draft → Option Draft)

/-- What a tag of a text does, and where scanning resumes. -/
def runTagInBytes (raw : Text) (tag : TagSpan) (draft : Draft) : Option (Draft × Nat) :=
  if tag.isExpression then
    some (draft.writeOrReport ((Expression.evaluate settings.filters draft.context
      tag.contents).map Value.toText), tag.stop)
  else do
    let read ← tag.nameAndArgumentsInBytes
    match BuiltIn.named? read.1 with
    | none => some (draft.report (.unknownTag read.1), tag.stop)
    | some builtIn =>
      let acted ← builtIn.programInBytes settings files
        ⟨read.1, read.2, raw, tag.start, tag.stop⟩ draft
      let draft ← acted.1.run? answer?
      some (draft, acted.2)

def scanInBytes (scanner : ByteScanner) (draft : Draft) : Option Draft :=
  match _h : scanner.next with
  | none => none
  | some none => some draft
  | some (some (.unclosed position, _)) =>
    some (draft.report (.unclosedDelimiter position settings.delimiters.stop))
  | some (some (.text text, rest)) => scanInBytes rest (draft.write text)
  | some (some (.tag tag, rest)) =>
    match runTagInBytes settings files answer? scanner.input tag draft with
    | none => none
    | some (draft, next) => scanInBytes (rest.seek next) draft
termination_by Text.bytes scanner.input - scanner.position
decreasing_by
  · obtain ⟨hi, hp, hin⟩ := ByteScanner.next_advances _h (by simp)
    rw [hi]
    omega
  · obtain ⟨hi, hp, hin⟩ := ByteScanner.next_advances _h (by simp)
    have hs := rest.position_le_seek next
    rw [ByteScanner.seek_input, hi]
    omega

end

def renderWithinInBytes (settings : Settings) (files : Files) :
    (levels : Nat) → Text → Draft → Option Draft
  | 0, _, draft =>
    some (draft.report (.depthExceeded settings.config.maxDepth draft.context.templateLabel))
  | levels + 1, text, draft => do
    let scanner : ByteScanner := { delimiters := settings.delimiters, input := text }
    let rendered ← scanInBytes settings files (renderWithinInBytes settings files levels) scanner
      (draft.mapContext (·.deeper))
    rendered.shallower?

/-- Renders a text onto a draft by offsets, with a result if every cut is in range and no count is
lowered below zero. -/
def renderInBytes (settings : Settings) (files : Files) (text : Text) (draft : Draft) :
    Option Draft :=
  renderWithinInBytes settings files (settings.config.maxDepth - draft.context.depth) text draft

section

variable {settings : Settings} {files : Files} {answer? : Text → Draft → Option Draft}

private theorem scanInBytes_of_end {scanner : ByteScanner} (h : scanner.next = some none)
    (draft : Draft) : scanInBytes settings files answer? scanner draft = some draft := by
  rw [scanInBytes]
  split
  · next h' => rw [h] at h'; cases h'
  · rfl
  all_goals next h' => rw [h] at h'; cases h'

private theorem scanInBytes_of_next {scanner rest : ByteScanner} {token : Token} (draft : Draft) :
    scanner.next = some (some (token, rest)) →
    scanInBytes settings files answer? scanner draft =
      match token with
      | .unclosed position =>
        some (draft.report (.unclosedDelimiter position settings.delimiters.stop))
      | .text text => scanInBytes settings files answer? rest (draft.write text)
      | .tag tag =>
        (runTagInBytes settings files answer? scanner.input tag draft).bind fun turned =>
          scanInBytes settings files answer? (rest.seek turned.2) turned.1 := by
  intro h
  rw [scanInBytes]
  split
  · next h' => rw [h] at h'; cases h'
  · next h' => rw [h] at h'; cases h'
  · next h' => rw [h] at h'; cases h'; rfl
  · next h' => rw [h] at h'; cases h'; rfl
  · next tag _ h' =>
    rw [h] at h'
    cases h'
    dsimp only
    cases runTagInBytes settings files answer? scanner.input tag draft <;> rfl

variable {levels : Nat} (ha : ∀ text draft,
  answer? text draft = some ((ofSettings settings).renderWithin files levels text draft))

include ha

private theorem runTagInBytes_eq {raw following : Text} {tag : TagSpan}
    (h : (tag.call following).StandsIn raw) (draft : Draft) :
    runTagInBytes settings files answer? raw tag draft =
      some ((ofSettings settings).runTag ((ofSettings settings).sceneWithin files levels) tag
        following draft) := by
  rw [runTagInBytes]
  cases he : tag.isExpression with
  | true =>
    rw [if_pos rfl, runTag_expression _ _ _ _ he]
    rfl
  | false =>
    rw [if_neg Bool.false_ne_true, runTag_ofSettings _ _ _ _ he]
    simp only [tag.nameAndArgumentsInBytes_eq, Option.bind_eq_bind, Option.bind_some]
    cases BuiltIn.named? tag.nameAndArguments.1 with
    | none => rfl
    | some builtIn =>
      have hprogram := BuiltIn.programInBytes_eq h settings files draft builtIn
      change (builtIn.programInBytes settings files ((tag.call following).inBytes raw)
        draft).bind _ = _
      rw [hprogram, Option.bind_some, Program.run?_eq ha, Option.bind_some]
      dsimp only
      rw [BuiltIn.run_eq_program]
      rfl

private theorem scanInBytes_eq {input : Text} (scanner : Scanner) (h : scanner.StandsIn input)
    (draft : Draft) :
    scanInBytes settings files answer? (scanner.inBytes input) draft =
      some ((ofSettings settings).scan ((ofSettings settings).sceneWithin files levels) scanner
        draft) := by
  induction scanner, draft using Engine.scan.induct (ofSettings settings)
    ((ofSettings settings).sceneWithin files levels) with
  | case1 scanner draft hn =>
    have hnext := Scanner.next_inBytes h
    rw [hn] at hnext
    rw [scanInBytes_of_end hnext, scan_of_none _ _ _ hn]
  | case2 scanner draft position after hn =>
    have hnext := Scanner.next_inBytes h
    rw [hn] at hnext
    rw [scanInBytes_of_next draft hnext, scan_of_unclosed _ _ _ hn]
    rfl
  | case3 scanner draft text rest hn ih =>
    have hnext := Scanner.next_inBytes h
    rw [hn] at hnext
    obtain ⟨-, hr, hp, -⟩ := Scanner.next?_eq_text hn
    rw [scanInBytes_of_next draft hnext, scan_of_text _ _ _ hn]
    exact ih (h.behind hr (by rw [hp]; rfl))
  | case4 scanner draft tag rest hn draft' next hrun ih =>
    have hnext := Scanner.next_inBytes h
    rw [hn] at hnext
    obtain ⟨contents, -, hr, hp, htag, -⟩ := Scanner.next?_eq_tag hn
    have hbehind : rest.StandsIn input := h.behind hr (by rw [hp]; rfl)
    have hcall : (tag.call rest.rest).StandsIn input := by
      obtain ⟨before, hi, hb⟩ := hbehind
      refine ⟨before, hi, ?_⟩
      rw [hb, hp, htag]
      rfl
    have hturn := runTagInBytes_eq ha hcall draft
    rw [hrun] at hturn
    obtain ⟨taken, hover⟩ := scansOver_tag settings
      ((ofSettings settings).sceneWithin files levels) hn draft
    rw [hrun] at hover
    rw [scanInBytes_of_next draft hnext, scan_of_tag _ _ _ hn, hrun]
    change (runTagInBytes settings files answer? input tag draft).bind _ = _
    rw [hturn, Option.bind_some]
    dsimp only
    rw [Scanner.seek_inBytes hbehind]
    exact ih (h.behind hover.rest_eq (by rw [hover.after_eq]; rfl))

end

private theorem renderWithinInBytes_eq (settings : Settings) (files : Files) (levels : Nat)
    (text : Text) (draft : Draft) :
    renderWithinInBytes settings files levels text draft =
      some ((ofSettings settings).renderWithin files levels text draft) := by
  induction levels generalizing text draft with
  | zero => rfl
  | succ levels ih =>
    have hscan := scanInBytes_eq ih (.ofText settings.delimiters text)
      (Scanner.standsIn_ofText settings.delimiters text) (draft.mapContext (·.deeper))
    have hdepth := Machine.sameDepth_law.scan settings
      (Machine.sameDepth_law.sceneWithin settings files levels)
      (.ofText settings.delimiters text) (draft.mapContext (·.deeper))
    change (scanInBytes settings files _
      ((Scanner.ofText settings.delimiters text).inBytes text) _).bind _ = _
    rw [hscan, Option.bind_some, renderWithin_succ]
    -- The scan ends at the depth it begins with, which is that of a render inside another text.
    exact Draft.shallower?_eq (by rw [hdepth]; exact Nat.succ_pos _)

/-- A cut has a result only if its ends are in order, in the text and between characters. Every cut
that rendering makes has one, whatever the text and the delimiters are, and no count of open blocks
or nested renders goes below zero. The searches and the functions that cut tags are in range on
every text, from wherever they are called. -/
theorem render_inRange (settings : Settings) (files : Files) (text : Text) (draft : Draft) :
    (∀ t start stop, (Text.slice? t start stop).isSome = true ↔
      start ≤ stop ∧ stop ≤ Text.bytes t ∧ Text.IsBoundary t start ∧ Text.IsBoundary t stop) ∧
    renderInBytes settings files text draft =
      some ((ofSettings settings).render files text draft) ∧
    (∀ raw opening close position, Balance.findClosingInBytes raw opening close position =
      some (Balance.findClosing? raw opening close position)) ∧
    (∀ raw opening close marker, Balance.findTopLevelInBytes raw opening close marker =
      some (Balance.findTopLevel? raw opening close marker)) ∧
    (∀ delimiters body draft, Slot.collectInBytes delimiters body draft =
      some (Slot.collect delimiters body draft)) ∧
    (∀ tag : TagSpan, tag.nameAndArgumentsInBytes = some tag.nameAndArguments) ∧
    (∀ t, Arguments.splitInBytes t = some (Arguments.split t)) ∧
    (∀ separator t, Arguments.splitAtInBytes separator t =
      some (Arguments.splitAt separator t)) ∧
    (∀ t, Arguments.pairInBytes? t = some (Arguments.pair? t)) ∧
    (∀ t, Arguments.unquoteInBytes t = some (Arguments.unquote t)) :=
  ⟨fun _ _ _ => Text.slice?_isSome_iff, renderWithinInBytes_eq settings files _ text draft,
    Balance.findClosingInBytes_eq,
    Balance.findTopLevelInBytes_eq, Slot.collectInBytes_eq, TagSpan.nameAndArgumentsInBytes_eq,
    Arguments.splitInBytes_eq, Arguments.splitAtInBytes_eq, Arguments.pairInBytes?_eq,
    Arguments.unquoteInBytes_eq⟩

end Engine
end Stencil
