import Stencil.Engine
import Stencil.Proofs.Token
/-!
# The scan of a text

One equation for each token a scan can meet, and the dispatch of a tag in an engine that knows the
built-in tags only.
-/
namespace Stencil

/-- The engine that knows the built-in tags and no others. -/
def Engine.ofSettings (settings : Settings) : Engine := { settings with tags := Tag.builtIns }

/-- The call of a tag in front of the text that follows it. -/
def TagSpan.call (tag : TagSpan) (following : Text) : Call :=
  ⟨tag.nameAndArguments.1, tag.nameAndArguments.2, tag.start, tag.stop, following⟩

namespace BuiltIn

/-- The built-in tag of a name. -/
def named? (name : Text) : Option BuiltIn :=
  match Tag.builtIns.get? name with
  | some (.builtIn tag) => some tag
  | _ => none

theorem exists_of_mem_builtIns {entry : Text × Tag} (h : entry ∈ Tag.builtIns) :
    ∃ tag : BuiltIn, entry = (tag.name, .builtIn tag) := by
  rcases Table.mem_or_mem_of_mem_setAll h with h | h
  · obtain ⟨tag, -, rfl⟩ := List.mem_map.mp h
    exact ⟨tag, rfl⟩
  · cases h

private theorem name_nodup : (all.map fun tag => (tag.name, Tag.builtIn tag)).Pairwise
    (fun a b => a.1 ≠ b.1) := by
  rw [List.pairwise_map]
  decide

theorem named?_name (tag : BuiltIn) : named? tag.name = some tag := by
  have hm : tag ∈ all := by cases tag <;> decide
  have hg : Tag.builtIns.get? tag.name = some (.builtIn tag) :=
    Table.get?_ofEntries name_nodup (List.mem_map.mpr ⟨tag, hm, rfl⟩)
  rw [named?, hg]

theorem name_of_named? {name : Text} {tag : BuiltIn} (h : named? name = some tag) :
    tag.name = name := by
  simp only [named?] at h
  split at h
  · next found hg =>
    cases h
    obtain ⟨other, he⟩ := exists_of_mem_builtIns (Table.mem_of_get? hg)
    cases he
    rfl
  · cases h

end BuiltIn

namespace Engine

private theorem action?_ofSettings (settings : Settings) (name : Text) :
    (ofSettings settings).action? name = (BuiltIn.named? name).map BuiltIn.run := by
  simp only [action?, ofSettings, BuiltIn.named?]
  cases hg : Tag.builtIns.get? name with
  | none => rfl
  | some found =>
    obtain ⟨tag, he⟩ := BuiltIn.exists_of_mem_builtIns (Table.mem_of_get? hg)
    cases he
    rw [Option.map_some, Tag.action]
    rfl

theorem runTag_expression (engine : Engine) (scene : Scene) {tag : TagSpan} (following : Text)
    (draft : Draft) (h : tag.isExpression = true) :
    engine.runTag scene tag following draft =
      (draft.writeOrReport ((Expression.evaluate engine.filters draft.context tag.contents).map
        Value.toText), tag.stop) := by
  rw [runTag, if_pos h]

theorem runTag_ofSettings (settings : Settings) (scene : Scene) {tag : TagSpan} (following : Text)
    (draft : Draft) (h : tag.isExpression = false) :
    (ofSettings settings).runTag scene tag following draft =
      match BuiltIn.named? tag.nameAndArguments.1 with
      | none => (draft.report (.unknownTag tag.nameAndArguments.1), tag.stop)
      | some builtIn => builtIn.run scene (tag.call following) draft := by
  rw [runTag, if_neg (by simp [h])]
  simp only [action?_ofSettings]
  cases BuiltIn.named? tag.nameAndArguments.1 <;> rfl

/-- What the tags of a text work with that is rendered with `levels` more renders inside. -/
def sceneWithin (engine : Engine) (files : Files) (levels : Nat) : Scene :=
  { engine.toSettings with files, render := engine.renderWithin files levels }

theorem renderWithin_succ (engine : Engine) (files : Files) (levels : Nat) (text : Text)
    (draft : Draft) :
    engine.renderWithin files (levels + 1) text draft =
      (engine.scan (engine.sceneWithin files levels) (.ofText engine.delimiters text)
        (draft.mapContext (·.deeper))).mapContext (·.shallower) := rfl

section

variable (engine : Engine) (scene : Scene) {scanner after : Scanner} (draft : Draft)

theorem scan_of_none (h : scanner.next? = none) : engine.scan scene scanner draft = draft := by
  rw [scan]
  split
  · rfl
  all_goals next hn => rw [hn] at h; cases h

theorem scan_of_unclosed {position : Nat} (h : scanner.next? = some (.unclosed position, after)) :
    engine.scan scene scanner draft =
      draft.report (.unclosedDelimiter position engine.delimiters.stop) := by
  rw [scan]
  split
  · next hn => rw [hn] at h; cases h
  · next hn => rw [hn] at h; cases h; rfl
  all_goals next hn => rw [hn] at h; cases h

theorem scan_of_text {text : Text} (h : scanner.next? = some (.text text, after)) :
    engine.scan scene scanner draft = engine.scan scene after (draft.write text) := by
  rw [scan]
  split
  · next hn => rw [hn] at h; cases h
  · next hn => rw [hn] at h; cases h
  · next hn => rw [hn] at h; cases h; rfl
  · next hn => rw [hn] at h; cases h

theorem scan_of_tag {tag : TagSpan} (h : scanner.next? = some (.tag tag, after)) :
    engine.scan scene scanner draft =
      engine.scan scene (after.seek (engine.runTag scene tag after.rest draft).2)
        (engine.runTag scene tag after.rest draft).1 := by
  rw [scan]
  split
  · next hn => rw [hn] at h; cases h
  · next hn => rw [hn] at h; cases h
  · next hn => rw [hn] at h; cases h
  · next hn => rw [hn] at h; cases h; rfl

/-! ### Plain text -/

private theorem scan_of_no_start (hf : scanner.finished = false) {t : Text}
    (hb : Text.breakOn? scanner.delimiters.start t = none) (position : Nat) :
    engine.scan scene (scanner.moved position t) draft = draft.write t := by
  by_cases ht : t = []
  · subst ht
    rw [scan_of_none _ _ _ (Scanner.next?_of_nil rfl), Draft.write_nil]
  · rw [scan_of_text _ _ _ (Scanner.next?_last hf hb ht position)]
    exact scan_of_none _ _ _ (Scanner.next?_of_nil rfl)

private theorem scan_of_start (hf : scanner.finished = false) {t plain inside : Text}
    (hb : Text.breakOn? scanner.delimiters.start t = some (plain, inside)) (position : Nat) :
    engine.scan scene (scanner.moved position t) draft =
      engine.scan scene
        (scanner.moved (position + Text.bytes plain) (scanner.delimiters.start ++ inside))
        (draft.write plain) := by
  by_cases hp : plain = []
  · subst hp
    rw [Text.eq_append_of_breakOn? hb, Draft.write_nil]
    rfl
  · rw [scan_of_text _ _ _ (Scanner.next?_plain hf hb hp position)]

theorem scan_plain (hf : scanner.finished = false) {plain rest : Text}
    (hp : Text.Passes scanner.delimiters.start plain rest) (position : Nat) :
    engine.scan scene (scanner.moved position (plain ++ rest)) draft =
      engine.scan scene (scanner.moved (position + Text.bytes plain) rest)
        (draft.write plain) := by
  cases hb : Text.breakOn? scanner.delimiters.start rest with
  | none =>
    have ht : Text.breakOn? scanner.delimiters.start (plain ++ rest) = none := by
      rw [hp, hb]
      rfl
    rw [scan_of_no_start _ _ _ hf ht, scan_of_no_start _ _ _ hf hb, Draft.write_append]
  | some found =>
    obtain ⟨first, inside⟩ := found
    have ht : Text.breakOn? scanner.delimiters.start (plain ++ rest) =
        some (plain ++ first, inside) := by
      rw [hp, hb]
      rfl
    rw [scan_of_start _ _ _ hf ht, scan_of_start _ _ _ hf hb, Draft.write_append,
      Text.bytes_append, Nat.add_assoc]

end
end Engine
end Stencil
