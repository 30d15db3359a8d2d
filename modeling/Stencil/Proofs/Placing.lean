import Stencil.Proofs.Scan
/-!
# Texts that only place

Some texts show values and put content in place, but do nothing that depends on what a value is.
Which texts these are is seen without rendering them: the scan meets no tag but those that place
content, and what such a tag cuts out of the text around it is a text of the same kind. A child
without its slots is read as one text, so that its pieces have to be fine when put together.
-/
namespace Stencil

/-- The contents of the slots of a child body. -/
def Slot.contents (pieces : List Slot.Piece) : List Text := pieces.filterMap fun
  | .filled _ content => some content
  | _ => none

theorem Slot.mem_contents {pieces : List Slot.Piece} {written content : Text}
    (h : Slot.Piece.filled written content ∈ pieces) : content ∈ Slot.contents pieces :=
  List.mem_filterMap.mpr ⟨_, h, rfl⟩

/-- Of a tag that only places content, the texts that it cuts out for rendering, now or in a block,
and where scanning resumes. A partial is one of them if it is given no arguments. -/
def BuiltIn.parts? (delimiters : Delimiters) (call : Call) : BuiltIn → Option (List Text × Nat)
  | passed => some ([], call.stop)
  | partialFile => if call.tokens.length ≤ 1 then some ([], call.stop) else none
  | layout =>
    let block := call.blockOrRest delimiters
    some ([block.body], block.next)
  | extend =>
    let block := call.blockOrRest delimiters
    let pieces := Slot.pieces delimiters block.body
    some (Text.trim (Slot.keptText pieces) :: Slot.contents pieces, block.next)
  | slot | define | block => match call.block? delimiters with
    | some found => some ([found.body], found.next)
    | none => some ([], call.stop)
  | _ => none

/-- What the scanner has left does nothing but place content. -/
inductive Scanner.Places (delimiters : Delimiters) : Scanner → Prop
  | ended {scanner : Scanner} : scanner.next? = none → Places delimiters scanner
  | unclosed {scanner after : Scanner} {position : Nat} :
    scanner.next? = some (.unclosed position, after) → Places delimiters scanner
  | text {scanner after : Scanner} {t : Text} :
    scanner.next? = some (.text t, after) → Places delimiters after → Places delimiters scanner
  /-- An expression without filters. -/
  | expression {scanner after : Scanner} {tag : TagSpan} {path : Text} :
    scanner.next? = some (.tag tag, after) → tag.isExpression = true →
    Arguments.splitAt '|' tag.contents = [path] → Places delimiters (after.seek tag.stop) →
    Places delimiters scanner
  | unknown {scanner after : Scanner} {tag : TagSpan} :
    scanner.next? = some (.tag tag, after) → tag.isExpression = false →
    BuiltIn.named? tag.nameAndArguments.1 = none → Places delimiters (after.seek tag.stop) →
    Places delimiters scanner
  | tag {scanner after : Scanner} {tag : TagSpan} {builtIn : BuiltIn} {parts : List Text}
      {next : Nat} :
    scanner.next? = some (.tag tag, after) → tag.isExpression = false →
    BuiltIn.named? tag.nameAndArguments.1 = some builtIn →
    builtIn.parts? delimiters (tag.call after.rest) = some (parts, next) →
    (∀ part ∈ parts, Places delimiters (.ofText delimiters part)) →
    Places delimiters (after.seek next) → Places delimiters scanner

/-- What the tags say that the scanner reads one behind the other, whatever their blocks are, among
at most `fuel` tokens. -/
def Scanner.tagsWritten : (fuel : Nat) → Scanner → List Text
  | 0, _ => []
  | fuel + 1, scanner => match scanner.next? with
    | some (.tag tag, after) => tag.contents :: tagsWritten fuel after
    | some (.text _, after) => tagsWritten fuel after
    | _ => []

/-- Looks through what the scanner has left for anything but placing, with at most `fuel` tokens in
a row or texts inside one another. -/
def Scanner.checkPlaces (delimiters : Delimiters) : (fuel : Nat) → Scanner → Bool
  | 0, _ => false
  | fuel + 1, scanner => match scanner.next? with
    | none => true
    | some (.unclosed _, _) => true
    | some (.text _, after) => checkPlaces delimiters fuel after
    | some (.tag tag, after) =>
      if tag.isExpression then
        (Arguments.splitAt '|' tag.contents).length == 1 &&
          checkPlaces delimiters fuel (after.seek tag.stop)
      else match BuiltIn.named? tag.nameAndArguments.1 with
        | none => checkPlaces delimiters fuel (after.seek tag.stop)
        | some builtIn => match builtIn.parts? delimiters (tag.call after.rest) with
          | none => false
          | some (parts, next) =>
            parts.all (fun part => checkPlaces delimiters fuel (.ofText delimiters part)) &&
              checkPlaces delimiters fuel (after.seek next)

/-- What passes the check does nothing but place content. -/
theorem Scanner.places_of_check {delimiters : Delimiters} {fuel : Nat} {scanner : Scanner}
    (h : checkPlaces delimiters fuel scanner = true) : Places delimiters scanner := by
  induction fuel generalizing scanner with
  | zero => cases h
  | succ fuel ih =>
    simp only [checkPlaces] at h
    split at h
    · next hn => exact .ended hn
    · next hn => exact .unclosed hn
    · next hn => exact .text hn (ih h)
    · next hn =>
      split at h
      · next he =>
        obtain ⟨hl, hrest⟩ := (Bool.and_eq_true _ _).mp h
        obtain ⟨path, hpath⟩ := List.length_eq_one_iff.mp (beq_iff_eq.mp hl)
        exact .expression hn he hpath (ih hrest)
      · next he =>
        rw [Bool.not_eq_true] at he
        split at h
        · next hu => exact .unknown hn he hu (ih h)
        · next hb =>
          split at h
          · cases h
          · next hp =>
            obtain ⟨hparts, hrest⟩ := (Bool.and_eq_true _ _).mp h
            exact .tag hn he hb hp (fun part hm => ih (List.all_eq_true.mp hparts part hm))
              (ih hrest)

/-- The text does nothing but place content. -/
def Delimiters.Places (delimiters : Delimiters) (text : Text) : Prop :=
  Scanner.Places delimiters (.ofText delimiters text)

/-- The templates of the site and the contents of blocks do nothing but place content. -/
structure Context.OnlyPlaces (settings : Settings) (files : Files) (context : Context) : Prop where
  templates {role : TemplateRole} {name content : Text} {path : Path} :
    Template.load settings.config files context.site role name = .ok (path, content) →
      settings.delimiters.Places content
  blocks {name content : Text} : context.blocks.get? name = some content →
    settings.delimiters.Places content

namespace Context.OnlyPlaces

variable {settings : Settings} {files : Files} {context : Context}

theorem storeBlock (h : context.OnlyPlaces settings files) (name : Text) {content : Text}
    (hc : settings.delimiters.Places content) :
    (context.storeBlock name content).OnlyPlaces settings files := by
  simp only [Context.storeBlock]
  split
  · exact h
  · refine { templates := h.templates, blocks := fun {other stored} hs => ?_ }
    by_cases he : other = name
    · subst he
      rw [Table.get?_set_self] at hs
      cases hs
      exact hc
    · rw [Table.get?_set_of_ne he] at hs
      exact h.blocks hs

end Context.OnlyPlaces
end Stencil
