import Stencil.Proofs.Slots
import Stencil.Proofs.Trimmed
/-!
# Sheets

Layouts and children of the plain kind: text, places for passed content, and named regions of plain
text. In a child a region is a slot, in the layout at the end of a chain it is a block.
-/
namespace Stencil

open Balance Spelling

/-- The name of a region: one token, not empty without its quotes. -/
structure RegionName extends Inside where
  single : Arguments.split (Text.trim text) = [Text.trim text]
  named : Arguments.unquote (Text.trim text) ≠ []

/-- What the region is found by. -/
def RegionName.key (name : RegionName) : Text := Arguments.unquote (Text.trim name.text)

inductive Part where
  | text (t : PlainText)
  | passed
  | region (name : RegionName) (content : PlainText)

abbrev Sheet := List Part

def passedTag : LeafTag where
  text := " passed "
  no_stop := by decide
  no_marker := by decide
  not_reserved := by decide

def slotTag : BodyTag := ⟨.slot, by decide⟩

def blockTag : BodyTag := ⟨.block, by decide⟩

namespace Part

/-- The part with what follows it. Regions are written with this tag. -/
def passage (tag : BodyTag) (part : Part) (rest : Passage) : Passage :=
  match part with
  | text t => .text t rest
  | passed => .leaf passedTag rest
  | region name content => .block tag name.toInside (.text content .done) rest

def written (tag : BodyTag) (part : Part) : Text := (part.passage tag .done).written

/-- Name and content of a region. -/
def region? : Part → Option (Text × Text)
  | region name content => some (name.key, content.text)
  | _ => none

private theorem written_passage (tag : BodyTag) (part : Part) (rest : Passage) :
    (part.passage tag rest).written = part.written tag ++ rest.written := by
  cases part <;> simp [passage, written, Passage.written]

end Part

namespace Sheet

def passage (tag : BodyTag) (sheet : Sheet) : Passage := sheet.foldr (Part.passage tag) .done

def written (tag : BodyTag) (sheet : Sheet) : Text := sheet.flatMap (Part.written tag)

/-- The regions of a sheet in order. -/
def regions (sheet : Sheet) : List (Text × Text) := sheet.filterMap Part.region?

/-- What is left of a sheet without its regions. -/
def remainder (sheet : Sheet) : Sheet := sheet.filter fun part => part.region?.isNone

/-- The content of the first region of a name. -/
def region? (sheet : Sheet) (name : Text) : Option Text := Table.get? name sheet.regions

/-- Takes blanks off the texts in front, and texts of blanks altogether. -/
def dropBlanks (trim : PlainText → PlainText) : Sheet → Sheet
  | .text t :: rest =>
    if (trim t).text = [] then dropBlanks trim rest else .text (trim t) :: rest
  | sheet => sheet

/-- The sheet without the blanks around it. -/
def trimmed (sheet : Sheet) : Sheet :=
  (dropBlanks PlainText.trimEnd (dropBlanks PlainText.trimStart sheet).reverse).reverse

/-- The text of a sheet. The first place takes all of the passed content, and a region shows what is
held for its name, or its own content. -/
def filled (held : Text → Option Text) : (passed : Text) → Sheet → Text
  | _, [] => []
  | passed, .text t :: rest => t.text ++ filled held passed rest
  | passed, .passed :: rest => passed ++ filled held [] rest
  | passed, .region name content :: rest =>
    (held name.key).getD content.text ++ filled held passed rest

/-- What is still to be placed behind a sheet. -/
def unplaced : Sheet → Option Text → Option Text
  | [], passed => passed
  | .passed :: rest, _ => unplaced rest none
  | _ :: rest, passed => unplaced rest passed

theorem unplaced_none (sheet : Sheet) : sheet.unplaced none = none := by
  induction sheet with
  | nil => rfl
  | cons part rest ih => cases part <;> exact ih

theorem written_passage (tag : BodyTag) (sheet : Sheet) :
    (sheet.passage tag).written = sheet.written tag := by
  induction sheet with
  | nil => rfl
  | cons part rest ih =>
    rw [passage, List.foldr_cons, Part.written_passage]
    exact congrArg (part.written tag ++ ·) ih

/-! ### The slots of a child -/

theorem commentsCrossed (tag : BodyTag) (sheet : Sheet) (name : Text)
    (verdict : Nat → Text → Verdict) (depth : Nat) :
    (sheet.passage tag).CommentsCrossed name verdict depth := by
  induction sheet with
  | nil => trivial
  | cons part rest ih =>
    cases part with
    | text t => exact ih
    | passed => exact ih
    | region name content => exact ⟨trivial, ih⟩

private theorem slotsApart (sheet : Sheet) : (sheet.passage slotTag).SlotsApart := by
  induction sheet with
  | nil => trivial
  | cons part rest ih =>
    cases part with
    | text t => exact ih
    | passed => exact ih
    | region name content => exact ⟨trivial, ih⟩

private theorem slots_passage (sheet : Sheet) : (sheet.passage slotTag).slots = sheet.regions := by
  induction sheet with
  | nil => rfl
  | cons part rest ih =>
    cases part with
    | text t => exact ih
    | passed => exact ih
    | region name content =>
      have hc : (Passage.text content .done).written = content.text := List.append_nil _
      have hs : slotTag.builtIn = .slot := rfl
      simp only [passage, List.foldr_cons, Part.passage, Passage.slots, hs, if_true, hc]
      exact congrArg ((name.key, content.text) :: ·) ih

private theorem withoutSlots_passage (sheet : Sheet) (tag : BodyTag) :
    (sheet.passage slotTag).withoutSlots = sheet.remainder.passage tag := by
  induction sheet with
  | nil => rfl
  | cons part rest ih =>
    cases part with
    | text t => exact congrArg (Passage.text t) ih
    | passed => exact congrArg (Passage.leaf passedTag) ih
    | region name content => exact ih

theorem collect_written (sheet : Sheet) (tag : BodyTag) (draft : Draft) :
    Slot.collect .standard (sheet.written slotTag) draft =
      (sheet.remainder.written tag, draft.mapContext (·.storeBlocks sheet.regions)) := by
  have h := (Passage.sheds_written (sheet.passage slotTag) sheet.slotsApart).collect draft
  rw [withoutSlots_passage sheet tag, slots_passage, written_passage, written_passage] at h
  exact h

/-! ### Blanks around a sheet -/

private theorem written_cons (tag : BodyTag) (part : Part) (rest : Sheet) :
    Sheet.written tag (part :: rest) = part.written tag ++ Sheet.written tag rest := rfl

private theorem written_text (tag : BodyTag) (t : PlainText) :
    (Part.text t).written tag = t.text := List.append_nil _

private theorem written_tag (tag : BodyTag) {part : Part} (h : ∀ t, part ≠ .text t) :
    ∃ front inside first, part.written tag = front ++ span inside ∧
      ∃ behind, part.written tag = span first ++ behind := by
  cases part with
  | text t => exact absurd rfl (h t)
  | passed =>
    refine ⟨[], passedTag.text, passedTag.text, ?_, [], ?_⟩ <;>
      simp [Part.written, Part.passage, Passage.written]
  | region name content =>
    refine ⟨opening tag.builtIn.name name.text ++ content.text,
      " " ++ ("end-" ++ tag.builtIn.name) ++ " ", " " ++ tag.builtIn.name ++ " " ++ name.text, ?_,
      content.text ++ Spelling.tag ("end-" ++ tag.builtIn.name), ?_⟩ <;>
      simp [Part.written, Part.passage, Passage.written, tag_eq_span, opening]

private theorem dropBlanks_tag (trim : PlainText → PlainText) {part : Part}
    (h : ∀ t, part ≠ .text t) (rest : Sheet) : dropBlanks trim (part :: rest) = part :: rest := by
  cases part with
  | text t => exact absurd rfl (h t)
  | passed => rfl
  | region name content => rfl

private theorem written_dropBlanks_trimStart (tag : BodyTag) (sheet : Sheet) :
    (dropBlanks PlainText.trimStart sheet).written tag = Text.trimStart (sheet.written tag) := by
  induction sheet with
  | nil => rfl
  | cons part rest ih =>
    by_cases h : ∃ t, part = .text t
    · obtain ⟨t, rfl⟩ := h
      have ht : t.trimStart.text = Text.trimStart t.text := rfl
      rw [dropBlanks, written_cons, written_text, Text.trimStart_append, ht]
      by_cases hb : Text.trimStart t.text = []
      · rw [if_pos hb, if_pos hb, ih]
      · rw [if_neg hb, if_neg hb, written_cons, written_text, ht]
    · obtain ⟨-, -, first, -, behind, hw⟩ := written_tag tag (not_exists.mp h)
      rw [dropBlanks_tag _ (not_exists.mp h), written_cons, hw, List.append_assoc,
        Passage.trimStart_span]

private theorem written_dropBlanks_trimEnd (tag : BodyTag) (sheet : Sheet) :
    Sheet.written tag (dropBlanks PlainText.trimEnd sheet).reverse =
      Text.trimEnd (Sheet.written tag sheet.reverse) := by
  -- What is written is the reverse, so the induction takes its parts from the last one on.
  induction sheet with
  | nil => rfl
  | cons part rest ih =>
    have hl (part : Part) : Sheet.written tag (part :: rest).reverse =
        Sheet.written tag rest.reverse ++ part.written tag := by
      simp [written]
    by_cases h : ∃ t, part = .text t
    · obtain ⟨t, rfl⟩ := h
      have ht : t.trimEnd.text = Text.trimEnd t.text := rfl
      rw [dropBlanks, hl, written_text, Text.trimEnd_append, ht]
      by_cases hb : Text.trimEnd t.text = []
      · rw [if_pos hb, if_pos hb, ih]
      · rw [if_neg hb, if_neg hb, hl, written_text, ht]
    · obtain ⟨front, inside, -, hw, -⟩ := written_tag tag (not_exists.mp h)
      have ht := Passage.trimEnd_span (Sheet.written tag rest.reverse ++ front) inside []
      have hn : Text.trimEnd [] = [] := rfl
      rw [hn, List.append_nil, List.append_assoc] at ht
      rw [dropBlanks_tag _ (not_exists.mp h), hl, hw, ht]

theorem written_trimmed (tag : BodyTag) (sheet : Sheet) :
    sheet.trimmed.written tag = Text.trim (sheet.written tag) := by
  rw [trimmed, written_dropBlanks_trimEnd, List.reverse_reverse, written_dropBlanks_trimStart]
  rfl

end Sheet

/-! ### Sheets without regions -/

namespace Sheet

theorem regions_remainder (sheet : Sheet) : sheet.remainder.regions = [] := by
  rw [regions, List.filterMap_eq_nil_iff]
  intro part hp
  simpa [remainder] using (List.mem_filter.mp hp).2

private theorem regions_dropBlanks (trim : PlainText → PlainText) (sheet : Sheet) :
    (dropBlanks trim sheet).regions = sheet.regions := by
  induction sheet with
  | nil => rfl
  | cons part rest ih =>
    cases part with
    | text t =>
      rw [dropBlanks]
      split
      · exact ih
      · rfl
    | passed => rfl
    | region name content => rfl

theorem regions_trimmed (sheet : Sheet) : sheet.trimmed.regions = sheet.regions := by
  have hr (sheet : Sheet) : Sheet.regions sheet.reverse = sheet.regions.reverse :=
    List.filterMap_reverse
  rw [trimmed, hr, regions_dropBlanks, hr, List.reverse_reverse, regions_dropBlanks]

theorem filled_of_no_region {sheet : Sheet} (h : sheet.regions = [])
    (held held' : Text → Option Text) (passed : Text) :
    sheet.filled held passed = sheet.filled held' passed := by
  induction sheet generalizing passed with
  | nil => rfl
  | cons part rest ih =>
    cases part with
    | text t => exact congrArg (t.text ++ ·) (ih h passed)
    | passed => exact congrArg (passed ++ ·) (ih h [])
    | region name content => cases h

end Sheet

/-! ### Rendering a sheet -/

namespace Part

/-- What a part of a layout does to a draft. -/
def run (scene : Scene) (draft : Draft) : Part → Draft
  | text t => draft.write t.text
  | passed => (draft.write (draft.context.passed.getD [])).mapContext fun context =>
    { context with passed := none }
  | region name content =>
    scene.render ((draft.context.blocks.get? name.key).getD content.text) draft

end Part

/-- What is stored for the blocks is plain text. -/
def Context.PlainBlocks (context : Context) : Prop :=
  ∀ name t, context.blocks.get? name = some t → '\x7b' ∉ t

namespace Engine

variable (settings : Settings) (scene : Scene)

private theorem leafEffect_passed (draft : Draft) :
    leafEffect settings scene passedTag draft = Part.run scene draft .passed := by
  have he : (TagSpan.mk (Text.trim passedTag.text) 0 0).isExpression = false := by decide
  have hn : (TagSpan.mk (Text.trim passedTag.text) 0 0).nameAndArguments.1 =
      BuiltIn.passed.name := by decide
  rw [leafEffect, runTag_ofSettings _ _ _ _ he, hn, BuiltIn.named?_name]
  rfl

private theorem firstName?_call (name : RegionName) (body : Text) :
    (blockTag.call name.text body).firstName? = some name.key := by
  have hne : (Arguments.unquote (Text.trim name.text)).isEmpty = false := by
    simpa using name.named
  simp [Call.firstName?, Call.tokens, BodyTag.call, name.single, RegionName.key, hne]

private theorem effects_part (hscene : scene.delimiters = .standard) (part : Part) :
    Effects settings scene (part.written blockTag) fun draft => part.run scene draft := by
  cases part with
  | text t =>
    have h : Effects settings scene t.text (·.write t.text) := effects_plain t.no_brace
    rw [Part.written, Part.passage, Passage.written, Passage.written, List.append_nil]
    exact h
  | passed =>
    have h := effects_leaf settings scene passedTag
    have hrun : leafEffect settings scene passedTag = fun draft => Part.run scene draft .passed :=
      funext (leafEffect_passed settings scene)
    rw [hrun] at h
    rw [Part.written, Part.passage, Passage.written, Passage.written, List.append_nil]
    exact h
  | region name content =>
    have hcross : Crosses (closingWalk "block") content.text 0 0 :=
      (closingWalk_counts (by decide) (by decide)).plain content.no_brace 0
    have hb : Encloses blockTag.builtIn.name content.text := encloses_of_crosses hcross
    have h := effects_block settings scene hscene blockTag name.toInside hb
    have hrun : (fun draft => (blockTag.builtIn.run scene (blockTag.call name.text content.text)
        draft).1) = fun draft => Part.run scene draft (.region name content) := by
      funext draft
      have hown := blockTag.block?_call name.text hb
      have hfirst := firstName?_call name content.text
      change (Slot.fill scene _ draft).1 = _
      simp only [Slot.fill, TagAction.ofBlock, Call.block, hscene, hown, hfirst, Part.run]
    rw [hrun] at h
    simp only [Part.written, Part.passage, Passage.written, List.append_nil]
    exact h

theorem effects_sheet (hscene : scene.delimiters = .standard) (sheet : Sheet) :
    Effects settings scene (sheet.written blockTag) fun draft =>
      sheet.foldl (Part.run scene) draft := by
  induction sheet with
  | nil => exact effects_nil
  | cons part rest ih => exact (effects_part settings scene hscene part).append ih

variable {scene}

theorem foldl_run (hrender : ∀ t : Text, '\x7b' ∉ t → ∀ draft, scene.render t draft = draft.write t)
    (sheet : Sheet) {draft : Draft} (hblocks : draft.context.PlainBlocks) :
    sheet.foldl (Part.run scene) draft =
      (draft.write (sheet.filled draft.context.blocks.get?
        (draft.context.passed.getD []))).mapContext fun context =>
          { context with passed := sheet.unplaced context.passed } := by
  induction sheet generalizing draft with
  | nil => rw [Sheet.filled, Draft.write_nil]; rfl
  | cons part rest ih =>
    rw [List.foldl_cons]
    cases part with
    | text t =>
      have hrest : (draft.write t.text).context.PlainBlocks := hblocks
      rw [Part.run, ih hrest, Sheet.filled, Draft.write_append]
      rfl
    | passed =>
      have hrest : (Part.run scene draft .passed).context.PlainBlocks := hblocks
      rw [ih hrest, Sheet.filled, Draft.write_append]
      simp [Part.run, Draft.write, Draft.mapContext, Sheet.unplaced]
    | region name content =>
      let shown := (draft.context.blocks.get? name.key).getD content.text
      have hplain : '\x7b' ∉ shown := by
        cases hg : draft.context.blocks.get? name.key with
        | none => simpa [shown, hg] using content.no_brace
        | some t => simpa [shown, hg] using hblocks _ _ hg
      have hrest : (draft.write shown).context.PlainBlocks := hblocks
      rw [Part.run, hrender _ hplain, ih hrest, Sheet.filled, Draft.write_append]
      rfl

end Engine
end Stencil
