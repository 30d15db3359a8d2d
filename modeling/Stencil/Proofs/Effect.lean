import Stencil.Proofs.Passage
/-!
# Effects

What scanning a stretch of a text does to a draft, if neither its place nor what follows makes a
difference. A tag with a body does the same with two bodies that it treats alike.
-/
namespace Stencil

open Balance Spelling

/-! ### Bodies that are treated alike -/

namespace BuiltIn

/-- Neither text can be told from the other by rendering it. -/
def Alike (scene : Scene) (s t : Text) : Prop :=
  ∀ draft, scene.render s draft = scene.render t draft

/-- All that the tag makes of the first body it makes of the second one. -/
def TreatsAlike (scene : Scene) (s t : Text) : BuiltIn → Prop
  | branch =>
    let first := Branch.splitAtElse scene.delimiters "if" s
    let second := Branch.splitAtElse scene.delimiters "if" t
    Alike scene first.1 second.1 ∧
      ∀ draft, first.2.elim draft (scene.render · draft) =
        second.2.elim draft (scene.render · draft)
  | comment => True
  | slot | define => s = t
  | extend => ∀ draft,
    (Slot.collect scene.delimiters s draft).2 = (Slot.collect scene.delimiters t draft).2 ∧
      Alike scene (Text.trim (Slot.collect scene.delimiters s draft).1)
        (Text.trim (Slot.collect scene.delimiters t draft).1)
  | _ => Alike scene s t

theorem TreatsAlike.refl (scene : Scene) (s : Text) (tag : BuiltIn) :
    tag.TreatsAlike scene s s := by
  cases tag with
  | branch => exact ⟨fun _ => rfl, fun _ => rfl⟩
  | comment => trivial
  | slot | define => rfl
  | extend => exact fun draft => ⟨rfl, fun _ => rfl⟩
  | _ => exact fun draft => rfl

variable {scene : Scene} {call : Call} {start stop : Nat} {following : Text} {block other : Block}

section Closed

variable (hb : call.block? scene.delimiters = some block)
  (ho : Call.block? { call with start, stop, following } scene.delimiters = some other)

include hb ho

private theorem ofBlock_congr {act : Scene → Call → Text → Draft → Draft} {draft : Draft}
    (h : act scene { call with start, stop, following } other.body draft =
      act scene call block.body draft) :
    TagAction.ofBlock act scene { call with start, stop, following } draft =
      ((TagAction.ofBlock act scene call draft).1, other.next) := by
  simp only [TagAction.ofBlock, Call.block, hb, ho, h]

private theorem skip_congr (draft : Draft) :
    TagAction.skip scene { call with start, stop, following } draft =
      ((TagAction.skip scene call draft).1, other.next) := by
  rw [TagAction.skip]
  exact ofBlock_congr hb ho rfl

private theorem branch_congr (hn : call.name = "if")
    (h : branch.TreatsAlike scene block.body other.body) (draft : Draft) :
    Branch.run scene { call with start, stop, following } draft =
      ((Branch.run scene call draft).1, other.next) := by
  rw [Branch.run]
  refine ofBlock_congr hb ho ?_
  obtain ⟨hyes, hno⟩ := h
  dsimp only
  rw [hn]
  revert hyes hno
  generalize Branch.splitAtElse scene.delimiters "if" block.body = parts
  generalize Branch.splitAtElse scene.delimiters "if" other.body = parts'
  intro hyes hno
  obtain ⟨first, second⟩ := parts
  obtain ⟨first', second'⟩ := parts'
  cases Condition.evaluate draft.context call.arguments with
  | error problem => rfl
  | ok holds =>
    cases holds with
    | true => exact (hyes draft).symm
    | false =>
      have hsecond := hno draft
      cases second <;> cases second' <;> exact hsecond.symm

private theorem loop_congr (h : Alike scene block.body other.body) (draft : Draft) :
    Loop.run scene { call with start, stop, following } draft =
      ((Loop.run scene call draft).1, other.next) := by
  rw [Loop.run]
  refine ofBlock_congr hb ho ?_
  have hiterate (name : Text) : Loop.iterate scene name other.body =
      Loop.iterate scene name block.body := by
    funext draft item
    exact congrArg (Draft.mapContext · _) (h _).symm
  have hhead : Loop.head { call with start, stop, following } = Loop.head call := rfl
  simp only [hiterate, hhead]

private theorem store_congr (h : block.body = other.body) (draft : Draft) :
    Slot.store scene { call with start, stop, following } draft =
      ((Slot.store scene call draft).1, other.next) := by
  rw [Slot.store]
  refine ofBlock_congr hb ho ?_
  rw [h]
  rfl

private theorem fill_congr (h : Alike scene block.body other.body) (draft : Draft) :
    Slot.fill scene { call with start, stop, following } draft =
      ((Slot.fill scene call draft).1, other.next) := by
  rw [Slot.fill]
  refine ofBlock_congr hb ho ?_
  have hfirst : Call.firstName? { call with start, stop, following } = call.firstName? := rfl
  rw [hfirst]
  cases call.firstName? with
  | none => rfl
  | some name =>
    -- Stored content is rendered in place of either body.
    dsimp only
    cases draft.context.blocks.get? name with
    | none => exact (h draft).symm
    | some stored => rfl

private theorem inlineAsset_congr (kind : AssetKind) (h : Alike scene block.body other.body)
    (draft : Draft) :
    InlineAsset.run kind scene { call with start, stop, following } draft =
      ((InlineAsset.run kind scene call draft).1, other.next) := by
  rw [InlineAsset.run]
  refine ofBlock_congr hb ho ?_
  have hrender : scene.render other.body = scene.render block.body := funext fun d => (h d).symm
  rw [hrender]
  rfl

end Closed

section ClosedOrRest

variable (hb : call.blockOrRest scene.delimiters = block)
  (ho : Call.blockOrRest { call with start, stop, following } scene.delimiters = other)

include hb ho

private theorem ofBlockOrRest_congr {act : Scene → Call → Text → Draft → Draft} {draft : Draft}
    (h : act scene { call with start, stop, following } other.body draft =
      act scene call block.body draft) :
    TagAction.ofBlockOrRest act scene { call with start, stop, following } draft =
      ((TagAction.ofBlockOrRest act scene call draft).1, other.next) := by
  simp only [TagAction.ofBlockOrRest, hb, ho, h]

private theorem layout_congr (h : Alike scene block.body other.body) (draft : Draft) :
    Layout.run scene { call with start, stop, following } draft =
      ((Layout.run scene call draft).1, other.next) := by
  rw [Layout.run]
  refine ofBlockOrRest_congr hb ho ?_
  have hrender : scene.render other.body = scene.render block.body := funext fun d => (h d).symm
  rw [hrender]
  rfl

theorem extend_congr (h : extend.TreatsAlike scene block.body other.body) (draft : Draft) :
    Inheritance.run scene { call with start, stop, following } draft =
      ((Inheritance.run scene call draft).1, other.next) := by
  rw [Inheritance.run]
  refine ofBlockOrRest_congr hb ho ?_
  obtain ⟨hstored, hkept⟩ := h draft
  have hrender : scene.render (Text.trim (Slot.collect scene.delimiters other.body draft).1) =
      scene.render (Text.trim (Slot.collect scene.delimiters block.body draft).1) :=
    funext fun d => (hkept d).symm
  have hfirst : Call.firstName? { call with start, stop, following } = call.firstName? := rfl
  dsimp only
  rw [hfirst]
  cases call.firstName? with
  | none => rfl
  | some name =>
    dsimp only
    rw [hrender, ← hstored]

end ClosedOrRest

/-- A tag does the same with another body that it treats alike, wherever it stands. -/
theorem run_congr (hb : call.block? scene.delimiters = some block)
    (ho : Call.block? { call with start, stop, following } scene.delimiters = some other)
    {builtIn : BuiltIn} (hm : builtIn ∈ withBody) (hn : call.name = builtIn.name)
    (h : builtIn.TreatsAlike scene block.body other.body) (draft : Draft) :
    builtIn.run scene { call with start, stop, following } draft =
      ((builtIn.run scene call draft).1, other.next) := by
  have hr : call.blockOrRest scene.delimiters = block := by rw [Call.blockOrRest, hb]; rfl
  have hr' : Call.blockOrRest { call with start, stop, following } scene.delimiters = other := by
    rw [Call.blockOrRest, ho]
    rfl
  cases builtIn with
  | branch => exact branch_congr hb ho hn h draft
  | loop => exact loop_congr hb ho h draft
  | comment => exact skip_congr hb ho draft
  | layout => exact layout_congr hr hr' h draft
  | extend => exact extend_congr hr hr' h draft
  | slot | define => exact store_congr hb ho h draft
  | block => exact fill_congr hb ho h draft
  | css | js => exact inlineAsset_congr hb ho _ h draft
  | strayElse | assign | partialFile | passed | importFile | metaElement | linkElement | title
  | rootHead | rootCss | rootJs => exact absurd hm (by decide)

end BuiltIn

theorem BuiltIn.run_leaf {builtIn : BuiltIn} (hm : builtIn ∉ BuiltIn.withBody) (scene : Scene)
    (call : Call) (draft : Draft) (start stop : Nat) (following : Text) :
    builtIn.run scene { call with start, stop, following } draft =
      ((builtIn.run scene call draft).1, stop) := by
  cases builtIn with
  | branch | loop | comment | layout | extend | slot | define | block | css | js =>
    exact absurd (by decide) hm
  | strayElse | assign | partialFile | passed | importFile | metaElement | linkElement | title
  | rootHead | rootCss | rootJs => rfl

/-- A tag with a body as it is called in a passage, wherever that may stand. -/
def BodyTag.call (tag : BodyTag) (arguments body : Text) : Call :=
  ⟨tag.builtIn.name, Text.trim arguments, 0, 0, body ++ Spelling.tag ("end-" ++ tag.builtIn.name)⟩

theorem BodyTag.block?_call (tag : BodyTag) (arguments : Text) {body : Text}
    (hb : Encloses tag.builtIn.name body) :
    (tag.call arguments body).block? .standard =
      some ⟨body, 0 + Text.bytes (body ++ Spelling.tag ("end-" ++ tag.builtIn.name))⟩ :=
  block?_of_encloses (List.append_nil _).symm hb

/-! ### Scanning a stretch -/

namespace Engine

variable (settings : Settings) (scene : Scene)

/-- Scanning the text does this to every draft, at any place and whatever follows. -/
def Effects (t : Text) (effect : Draft → Draft) : Prop :=
  ∀ position rest draft,
    (ofStandard settings).scan scene (scanner position (t ++ rest)) draft =
      (ofStandard settings).scan scene (scanner (position + Text.bytes t) rest) (effect draft)

variable {settings scene}

theorem effects_nil : Effects settings scene [] id := fun _ _ _ => rfl

theorem Effects.append {s t : Text} {first second : Draft → Draft}
    (hs : Effects settings scene s first) (ht : Effects settings scene t second) :
    Effects settings scene (s ++ t) fun draft => second (first draft) := by
  intro position rest draft
  rw [List.append_assoc, hs, ht, Text.bytes_append, Nat.add_assoc]

theorem effects_plain {t : Text} (h : '\x7b' ∉ t) : Effects settings scene t (·.write t) := by
  intro position rest draft
  have hstart : Delimiters.standard.start = '\x7b' :: ("%" : Text) := by decide
  have hp : Text.Passes Delimiters.standard.start t rest := by
    rw [hstart]
    exact Text.passes_of_notMem h rest
  have hf : (scanner position rest).finished = false := rfl
  exact scan_plain _ _ draft hf hp position

variable (settings scene)

/-- What a tag that stands alone does. -/
def leafEffect (tag : LeafTag) (draft : Draft) : Draft :=
  ((ofStandard settings).runTag scene ⟨Text.trim tag.text, 0, 0⟩ [] draft).1

private theorem runTag_leaf (tag : LeafTag) (start stop : Nat) (following : Text) (draft : Draft) :
    (ofStandard settings).runTag scene ⟨Text.trim tag.text, start, stop⟩ following draft =
      (leafEffect settings scene tag draft, stop) := by
  let origin : TagSpan := ⟨Text.trim tag.text, 0, 0⟩
  let span : TagSpan := ⟨Text.trim tag.text, start, stop⟩
  cases he : origin.isExpression with
  | true =>
    have hs : span.isExpression = true := he
    rw [leafEffect, runTag_expression _ _ _ _ hs, runTag_expression _ _ _ _ he]
  | false =>
    have hs : span.isExpression = false := he
    have hname : span.nameAndArguments.1 = origin.nameAndArguments.1 := rfl
    rw [leafEffect, runTag_ofSettings _ _ _ _ hs, runTag_ofSettings _ _ _ _ he, hname]
    cases hn : BuiltIn.named? origin.nameAndArguments.1 with
    | none => rfl
    | some builtIn =>
      have hm : builtIn ∉ BuiltIn.withBody := by
        intro hm
        have hr := name_mem_reserved builtIn hm
        rw [BuiltIn.name_of_named? hn] at hr
        exact tag.not_reserved hr
      exact BuiltIn.run_leaf hm scene (origin.call []) draft start stop following

theorem effects_leaf (tag : LeafTag) :
    Effects settings scene (span tag.text) (leafEffect settings scene tag) := by
  intro position rest draft
  have hs := scan_span settings scene tag.no_stop
    (runTag_leaf settings scene tag position (position + Text.bytes (span tag.text)) rest draft)
  exact hs.trans
    (congrArg (fun s => (ofStandard settings).scan scene s _) (Scanner.seek_position _))

private theorem name_head_ne_dot : ∀ name ∈ reserved, name.head? ≠ some '.' := by decide

private theorem runTag_opening (tag : BodyTag) (arguments : Inside) (start stop : Nat)
    (following : Text) (draft : Draft) :
    (ofStandard settings).runTag scene
        ⟨Text.trim (" " ++ tag.builtIn.name ++ " " ++ arguments.text), start, stop⟩ following
        draft =
      tag.builtIn.run scene
        ⟨tag.builtIn.name, Text.trim arguments.text, start, stop, following⟩ draft := by
  have hr := name_mem_reserved tag.builtIn tag.has_body
  have hread := nameAndArguments_opening (isBlank_of_mem_reserved _ hr)
    (ne_nil_of_mem_reserved _ hr) arguments.text start stop
  have he : (TagSpan.mk (Text.trim (" " ++ tag.builtIn.name ++ " " ++ arguments.text)) start
      stop).isExpression = false := by
    rw [Bool.eq_false_iff]
    intro he
    obtain ⟨rest, hc⟩ := List.isPrefixOf_iff_prefix.mp he
    have hdot : (".": Text) = ['.'] := by decide
    have hfirst := congrArg Prod.fst hread
    have hblank : Text.isBlank '.' = false := by decide
    simp only [TagSpan.nameAndArguments] at hc hfirst
    rw [← hc, hdot] at hfirst
    exact name_head_ne_dot _ hr (by rw [← hfirst]; simp [hblank])
  rw [runTag_ofSettings _ _ _ _ he, hread]
  simp only [BuiltIn.named?_name, TagSpan.call, hread]

private theorem no_stop_opening (tag : BodyTag) (arguments : Inside) :
    Text.contains "%\x7d" (" " ++ tag.builtIn.name ++ " " ++ arguments.text) = false := by
  have hs : ("%\x7d" : Text) = '%' :: ("\x7d" : Text) := by decide
  have hn : '%' ∉ tag.builtIn.name := notMem_of_isWord (by decide) (isWord_name _ tag.has_body)
  have hb : '%' ∉ (" " : Text) := by decide
  have hfront : '%' ∉ (" " ++ tag.builtIn.name ++ " " : Text) := by
    simp only [List.mem_append, not_or]
    exact ⟨⟨hb, hn⟩, hb⟩
  have ha := arguments.no_stop
  rw [hs] at ha ⊢
  exact (contains_append_of_notMem hfront _).trans ha

/-- A block is run on its body, and scanning goes on behind its closing marker. -/
theorem effects_block (hscene : scene.delimiters = .standard) (tag : BodyTag) (arguments : Inside)
    {body : Text} (hb : Encloses tag.builtIn.name body) :
    Effects settings scene
      (opening tag.builtIn.name arguments.text ++ body ++
        Spelling.tag ("end-" ++ tag.builtIn.name))
      fun draft => (tag.builtIn.run scene (tag.call arguments.text body) draft).1 := by
  intro position rest draft
  let close : Text := Spelling.tag ("end-" ++ tag.builtIn.name)
  let inside : Text := " " ++ tag.builtIn.name ++ " " ++ arguments.text
  have hstop : Text.contains "%\x7d" inside = false := no_stop_opening tag arguments
  have hown : (tag.call arguments.text body).block? scene.delimiters =
      some ⟨body, 0 + Text.bytes (body ++ close)⟩ := by
    rw [hscene]
    exact tag.block?_call arguments.text hb
  have hhere (stop : Nat) : Call.block? { tag.call arguments.text body with
      start := position, stop, following := body ++ close ++ rest } scene.delimiters =
        some ⟨body, stop + Text.bytes (body ++ close)⟩ := by
    rw [hscene]
    exact block?_of_encloses rfl hb
  have hrun := BuiltIn.run_congr hown (hhere (position + Text.bytes (span inside))) tag.has_body rfl
    (BuiltIn.TreatsAlike.refl scene body tag.builtIn) draft
  have hs := scan_span settings scene hstop
    ((runTag_opening settings scene tag arguments position _ _ draft).trans hrun)
  have hall : opening tag.builtIn.name arguments.text ++ body ++ close ++ rest =
      span inside ++ (body ++ close ++ rest) := by
    simp only [opening, inside, List.append_assoc]
  have hbytes : position + Text.bytes (opening tag.builtIn.name arguments.text ++ body ++ close) =
      position + Text.bytes (span inside) + Text.bytes (body ++ close) := by
    simp only [opening, inside, Text.bytes_append, Nat.add_assoc]
  change (ofStandard settings).scan scene (scanner position
    (opening tag.builtIn.name arguments.text ++ body ++ close ++ rest)) draft = _
  rw [hall, hs, hbytes]
  exact congrArg (fun s => (ofStandard settings).scan scene s _) (Scanner.seek_behind rfl)

theorem blockOrRest_child (arguments : Text) {body : Text}
    (hb : closing (Delimiters.standard.openMarker "extends")
      (Delimiters.standard.closeMarker "extends") 0 0 body = none) (start stop : Nat) :
    Call.blockOrRest ⟨"extends", arguments, start, stop, body⟩ .standard =
      ⟨body, stop + Text.bytes body⟩ := by
  rw [Call.blockOrRest, Call.block?, hb]
  rfl

theorem scan_child (hscene : scene.delimiters = .standard) (arguments : Inside) {body : Text}
    (hb : closing (Delimiters.standard.openMarker "extends")
      (Delimiters.standard.closeMarker "extends") 0 0 body = none) (position : Nat)
    (draft : Draft) :
    (ofStandard settings).scan scene
        (scanner position (opening "extends" arguments.text ++ body)) draft =
      (Inheritance.run scene ⟨"extends", Text.trim arguments.text, 0, 0, body⟩ draft).1 := by
  let tag : BodyTag := ⟨.extend, by decide⟩
  let stop := position + Text.bytes (opening "extends" arguments.text)
  have hrest (start stop : Nat) := blockOrRest_child (Text.trim arguments.text) hb start stop
  rw [← hscene] at hrest
  have hrun : Inheritance.run scene ⟨"extends", Text.trim arguments.text, position, stop, body⟩
      draft = ((Inheritance.run scene ⟨"extends", Text.trim arguments.text, 0, 0, body⟩ draft).1,
        stop + Text.bytes body) :=
    BuiltIn.extend_congr (hrest 0 0) (hrest position stop)
      (BuiltIn.TreatsAlike.refl scene body .extend) draft
  have hs := scan_span settings scene (no_stop_opening tag arguments)
    ((runTag_opening settings scene tag arguments position stop body draft).trans hrun)
  have hseek : (scanner stop body).seek (stop + Text.bytes body) =
      scanner (stop + Text.bytes body) [] :=
    Scanner.seek_behind (List.append_nil body).symm
  refine hs.trans ?_
  change (ofStandard settings).scan scene ((scanner stop body).seek (stop + Text.bytes body)) _ = _
  rw [hseek]
  exact scan_of_none _ _ _ (Scanner.next?_of_nil rfl)

theorem Effects.renderWithin {settings : Settings} {files : Files} {levels : Nat} {t : Text}
    {effect : Draft → Draft}
    (h : Effects settings ((ofStandard settings).sceneWithin files levels) t effect)
    (draft : Draft) :
    (ofStandard settings).renderWithin files (levels + 1) t draft =
      (effect (draft.mapContext (·.deeper))).mapContext (·.shallower) := by
  have hs := h 0 [] (draft.mapContext (·.deeper))
  have hend : (scanner (0 + Text.bytes t) []).next? = none := Scanner.next?_of_nil rfl
  rw [List.append_nil, scan_of_none _ _ _ hend] at hs
  rw [renderWithin_succ]
  exact congrArg (Draft.mapContext · (·.shallower)) hs

/-- Layouts by their names, in the folder of the default settings. -/
def layoutFiles (layouts : List (Text × Text)) : Files :=
  Files.ofKnown (layouts.map fun layout => ("./layouts/" ++ layout.1 ++ ".hstm", .ok layout.2))

/-- What a text is rendered to in a fresh context, with these layouts and page values. -/
def outputWith (layouts : List (Text × Text)) (data : Fields) (text : Text) : Text :=
  ((ofStandard standard.toSettings).render (layoutFiles layouts) text
    { context := { site := ".", data } }).output

end Engine
end Stencil
