import Stencil.Proofs.ContextLaw
import Stencil.Proofs.Effect
import Stencil.Proofs.Dependents
/-!
# Imports behind other imports

An import that names another one with `after` is emitted behind it, whatever priorities the two
carry, if the first one is linked and its path names nothing that came before. An import that is
read instead keeps no path, so no later one can name it.
-/
namespace Stencil

open Spelling

/-! ### Import tags -/

/-- An import tag as it is written, with text behind it that holds no tag. -/
structure ImportTag where
  text : Text
  no_stop : Text.contains "%\x7d" text = false
  named : (TagSpan.mk (Text.trim text) 0 0).nameAndArguments.1 = "import"
  gap : Text := []
  no_brace : '\x7b' ∉ gap := by decide

namespace ImportTag

def written (tag : ImportTag) : Text := span tag.text ++ tag.gap

def call (tag : ImportTag) : Call := (TagSpan.mk (Text.trim tag.text) 0 0).call []

def options (tag : ImportTag) : Options := Options.ofTokens tag.call.tokens

/-- What the tag imports. -/
def path? (tag : ImportTag) : Option Path :=
  tag.options.positional.orElse fun _ => tag.options.get? "path"

/-- What the tag hands to the registry. -/
structure Hands (tag : ImportTag) (registration : Registration) : Prop where
  dependencies : registration.dependencies = (tag.options.get? "after").toList
  path : ∀ path, registration.asset.source = .external path → tag.path? = some path
  priority : registration.asset.priority ≤ AssetRegistry.highestPriority

/-- What scanning the tag and the text behind it does. -/
def act (scene : Scene) (draft : Draft) (tag : ImportTag) : Draft :=
  (Import.run scene tag.call draft).1.write tag.gap

end ImportTag

namespace Import

variable {files : Files} {call : Call} {options : Options}

private theorem readPriority_le {asset given : Asset}
    (h : AssetTag.readPriority call options asset = .ok given)
    (ha : asset.priority ≤ AssetRegistry.highestPriority) :
    given.priority ≤ AssetRegistry.highestPriority := by
  simp only [AssetTag.readPriority] at h
  split at h
  · cases h
    exact ha
  · split at h
    · next hr =>
      cases h
      simp only [Text.readInt?, Option.filter_eq_some_iff, Bool.and_eq_true,
        decide_eq_true_eq] at hr
      exact hr.2.2
    · cases h

private theorem find_asset {context : Context} {path : Path} {asset : Asset}
    (h : find files call options context path = .ok (.asset asset)) :
    (∀ external, asset.source = .external external → external = path) ∧ asset.priority = 0 := by
  simp only [find] at h
  split at h
  · split at h
    · cases h
      exact ⟨fun external he => (AssetSource.external.inj he).symm, rfl⟩
    · cases h
  · obtain ⟨content, -, h⟩ := exists_of_bind_eq_ok h
    split at h
    · cases h
      exact ⟨fun external he => (nomatch he), rfl⟩
    · cases h

private theorem withOptions_asset {asset given : Asset}
    (h : AssetTag.withOptions call options asset = .ok given) (ha : asset.priority = 0) :
    given.source = asset.source ∧ given.priority ≤ AssetRegistry.highestPriority := by
  obtain ⟨read, hr, h⟩ := exists_of_bind_eq_ok h
  have hp := readPriority_le hr (by rw [ha]; decide)
  cases h
  refine ⟨?_, hp⟩
  simp only [AssetTag.readPriority] at hr
  split at hr
  · cases hr
    rfl
  · split at hr
    · cases hr
      rfl
    · cases hr

private theorem register_after {context context' : Context} {registration : Registration}
    (h : AssetTag.register context registration.asset registration.dependencies = .ok context') :
    context'.assets = context.assets.after registration := by
  obtain ⟨added, assets, hadd, rfl⟩ := AssetTag.add_of_register h
  simp only [AssetRegistry.after, hadd]

private theorem imported_hands {tag : ImportTag} {draft draft' : Draft}
    (h : imported files tag.call draft = .ok draft') :
    draft'.context.assets = draft.context.assets ∨
      ∃ registration, tag.Hands registration ∧
        draft'.context.assets = draft.context.assets.after registration := by
  rcases imported_cases h with
    ⟨text, rfl⟩ | ⟨path, found, given, context, hpath, hfound, hgiven, hr, rfl⟩
  · exact .inl rfl
  · obtain ⟨hexternal, hzero⟩ := find_asset hfound
    obtain ⟨hsource, hp⟩ := withOptions_asset hgiven hzero
    let registration : Registration := ⟨given, (tag.options.get? "after").toList⟩
    have hafter : context.assets = draft.context.assets.after registration := register_after hr
    refine .inr ⟨registration, ⟨rfl, fun external he => ?_, hp⟩, hafter⟩
    rw [hexternal external (hsource ▸ he)]
    exact hpath

end Import

namespace ImportTag

variable {settings : Settings} {scene : Scene}

private theorem act_hands (tag : ImportTag) (draft : Draft) :
    (act scene draft tag).context.assets = draft.context.assets ∨
      ∃ registration, tag.Hands registration ∧
        (act scene draft tag).context.assets = draft.context.assets.after registration := by
  change (Import.run scene tag.call draft).1.context.assets = _ ∨ ∃ registration, _ ∧
    (Import.run scene tag.call draft).1.context.assets = _
  simp only [Import.run, TagAction.leaf]
  split
  · next himported => exact Import.imported_hands himported
  · exact .inl rfl

private theorem foldl_act_hands (tags : List ImportTag) (draft : Draft) :
    ∃ run : List Registration,
      (tags.foldl (act scene) draft).context.assets = draft.context.assets.afterAll run := by
  induction tags generalizing draft with
  | nil => exact ⟨[], rfl⟩
  | cons tag tags ih =>
    obtain ⟨run, hrun⟩ := ih (act scene draft tag)
    rcases tag.act_hands draft with hsame | ⟨registration, -, hafter⟩
    · exact ⟨run, by rw [List.foldl_cons, hrun, hsame]⟩
    · exact ⟨registration :: run, by rw [List.foldl_cons, hrun, hafter]; rfl⟩

/-! ### Texts of imports -/

private theorem not_isExpression (tag : ImportTag) (start stop : Nat) :
    (TagSpan.mk (Text.trim tag.text) start stop).isExpression = false := by
  rw [Bool.eq_false_iff]
  intro he
  obtain ⟨rest, hc⟩ := List.isPrefixOf_iff_prefix.mp he
  have hnamed := tag.named
  have hdot : (".": Text) = ['.'] := by decide
  have hblank : Text.isBlank '.' = false := by decide
  have himport : ("import" : Text) = 'i' :: ("mport" : Text) := by decide
  simp only [TagSpan.nameAndArguments] at hc hnamed
  rw [← hc, hdot, himport] at hnamed
  simp [hblank] at hnamed

private theorem runTag_eq (tag : ImportTag) (start stop : Nat) (following : Text) (draft : Draft) :
    (Engine.ofStandard settings).runTag scene ⟨Text.trim tag.text, start, stop⟩ following draft =
      ((Import.run scene tag.call draft).1, stop) := by
  have hnamed : (TagSpan.mk (Text.trim tag.text) start stop).nameAndArguments.1 =
    BuiltIn.importFile.name := tag.named
  rw [Engine.ofStandard, Engine.runTag_ofSettings _ _ _ _ (tag.not_isExpression start stop), hnamed,
    BuiltIn.named?_name]
  have hbody : BuiltIn.importFile ∉ BuiltIn.withBody := by decide
  dsimp only
  exact BuiltIn.run_leaf hbody scene tag.call draft start stop following

private theorem effects_written (tag : ImportTag) :
    Engine.Effects settings scene tag.written fun draft => act scene draft tag := by
  have hspan : Engine.Effects settings scene (span tag.text)
      fun draft => (Import.run scene tag.call draft).1 := by
    intro position rest draft
    have hs := Engine.scan_span settings scene tag.no_stop
      (tag.runTag_eq position (position + Text.bytes (span tag.text)) rest draft)
    exact hs.trans (congrArg (fun s => (Engine.ofStandard settings).scan scene s _)
      (Scanner.seek_position _))
  exact hspan.append (Engine.effects_plain tag.no_brace)

/-- A template that consists of imports. -/
def textOf (tags : List ImportTag) : Text := tags.flatMap written

private theorem effects_textOf (tags : List ImportTag) :
    Engine.Effects settings scene (textOf tags) fun draft => tags.foldl (act scene) draft := by
  induction tags with
  | nil => exact Engine.effects_nil
  | cons tag tags ih => exact tag.effects_written.append ih

variable (settings : Settings) (files : Files)

/-- The assets that a context has collected behind a template of imports. -/
def registryBehind (draft : Draft) (tags : List ImportTag) : AssetRegistry :=
  ((Engine.ofStandard settings).render files (textOf tags) draft).context.assets

private theorem registryBehind_eq (draft : Draft) :
    (∀ tags, registryBehind settings files draft tags = draft.context.assets) ∨
      ∃ scene start, ∀ tags, registryBehind settings files draft tags =
        (tags.foldl (act scene) start).context.assets := by
  cases hl : settings.config.maxDepth - draft.context.depth with
  | zero =>
    refine .inl fun tags => ?_
    have hlevels : (Engine.ofStandard settings).config.maxDepth - draft.context.depth = 0 := hl
    rw [registryBehind, Engine.render, hlevels]
    rfl
  | succ levels =>
    refine .inr ⟨(Engine.ofStandard settings).sceneWithin files levels,
      draft.mapContext (·.deeper), fun tags => ?_⟩
    have hlevels : (Engine.ofStandard settings).config.maxDepth - draft.context.depth =
      levels + 1 := hl
    rw [registryBehind, Engine.render, hlevels, (effects_textOf tags).renderWithin]
    rfl

private theorem registryBehind_append (draft : Draft) (tags more : List ImportTag) :
    ∃ run, registryBehind settings files draft (tags ++ more) =
      (registryBehind settings files draft tags).afterAll run := by
  rcases registryBehind_eq settings files draft with hsame | ⟨scene, start, heq⟩
  · exact ⟨[], by rw [hsame, hsame]; rfl⟩
  · obtain ⟨run, hrun⟩ := foldl_act_hands more (tags.foldl (act scene) start)
    exact ⟨run, by rw [heq, heq, List.foldl_append, hrun]⟩

private theorem registryBehind_next (draft : Draft) (tags : List ImportTag) (tag : ImportTag) :
    registryBehind settings files draft (tags ++ [tag]) = registryBehind settings files draft tags ∨
      ∃ registration, tag.Hands registration ∧
        registryBehind settings files draft (tags ++ [tag]) =
          (registryBehind settings files draft tags).after registration := by
  rcases registryBehind_eq settings files draft with hsame | ⟨scene, start, heq⟩
  · exact .inl (by rw [hsame, hsame])
  · rw [heq, heq, List.foldl_append]
    exact tag.act_hands _

private theorem stored_of_next {draft : Draft} {tags : List ImportTag} {tag : ImportTag}
    {asset : Asset} (h : (registryBehind settings files draft (tags ++ [tag])).assets =
      (registryBehind settings files draft tags).assets ++ [asset]) :
    ∃ registration, tag.Hands registration ∧
      asset = (registryBehind settings files draft tags).stored registration := by
  rcases registryBehind_next settings files draft tags tag with hsame | ⟨registration, hh, hafter⟩
  · rw [hsame] at h
    exact absurd (congrArg List.length h) (by simp)
  · refine ⟨registration, hh, ?_⟩
    rw [hafter] at h
    cases ha : (registryBehind settings files draft tags).accepts registration with
    | true =>
      rw [AssetRegistry.after_of_accepts ha] at h
      exact (List.singleton_inj.mp (List.append_cancel_left h)).symm
    | false =>
      rw [AssetRegistry.after_of_not_accepts ha] at h
      exact absurd (congrArg List.length h) (by simp)

/-! ### Imports in order -/

open AssetRegistry

/-- An import that names a linked one is emitted behind it, among any other imports, unless the path
names an asset that came before both. -/
theorem emitted_after (draft : Draft) (front between back : List ImportTag)
    (first second : ImportTag) (path : Path) (a b : Asset)
    (hfirst : first.path? = some path) (hsecond : second.options.get? "after" = some path)
    (ha : (registryBehind settings files draft (front ++ [first])).assets =
      (registryBehind settings files draft front).assets ++ [a])
    (hb : (registryBehind settings files draft (front ++ [first] ++ between ++ [second])).assets =
      (registryBehind settings files draft (front ++ [first] ++ between)).assets ++ [b])
    (hkind : a.kind = b.kind) (hlinked : a.isInline = false)
    (hnew : ∀ asset ∈ (registryBehind settings files draft front).assets, ¬ Names path asset) :
    [a, b].Sublist ((registryBehind settings files draft
      (front ++ [first] ++ between ++ [second] ++ back)).ordered a.kind) := by
  obtain ⟨registration, hhands, hstored⟩ := stored_of_next settings files ha
  obtain ⟨registration', hhands', hstored'⟩ := stored_of_next settings files hb
  -- The first import keeps its path, by which the second one finds it.
  have hnames : Names path a := by
    cases hs : a.source with
    | inline content => simp [Asset.isInline, hs] at hlinked
    | external linked =>
      have hgiven : registration.asset.source = .external linked := by
        rw [← hs, hstored]
        rfl
      have hpath : some path = some linked := hfirst.symm.trans (hhands.path linked hgiven)
      cases hpath
      exact names_of_external hs
  obtain ⟨run, hbetween⟩ := registryBehind_append settings files draft (front ++ [first]) between
  obtain ⟨later, hlater⟩ := registryBehind_append settings files draft
    (front ++ [first] ++ between ++ [second]) back
  have hassets : ∃ others,
      (registryBehind settings files draft (front ++ [first] ++ between)).assets =
        (registryBehind settings files draft front).assets ++ a :: others := by
    obtain ⟨others, hs, -⟩ := assets_afterAll
      (registryBehind settings files draft (front ++ [first])) run
    exact ⟨others, by rw [hbetween, hs, ha, List.append_assoc]; rfl⟩
  obtain ⟨others, hassets⟩ := hassets
  have hle : a.priority ≤ b.priority := by
    have hfloor := priorityOf?_of_first hassets hnames hnew
    have hhigh : a.priority ≤ highestPriority := by
      rw [hstored]
      exact effectivePriority_le hhands.priority _
    have hdependencies : registration'.dependencies = [path] := by
      rw [hhands'.dependencies, hsecond]
      rfl
    rw [hstored', stored, hdependencies]
    exact le_effectivePriority hfloor hhigh
  have hpair : [a, b].Sublist
      (registryBehind settings files draft (front ++ [first] ++ between ++ [second])).assets := by
    have hlast : [b].Sublist (others ++ [b]) := List.sublist_append_right others [b]
    rw [hb, hassets, List.append_assoc]
    exact (List.Sublist.cons_cons a hlast).trans (List.sublist_append_right _ _)
  rw [hlater]
  exact (ordered_of_priority_le hkind hpair hle).trans (ordered_sublist_afterAll _ later _)

/-- A linked script of high priority stays in front of one that names it, past a sheet. -/
theorem emitted_after_linked :
    let first : ImportTag :=
      { text := " import https://x.test/lib.js priority=500 "
        no_stop := by decide +kernel, named := by decide +kernel }
    let other : ImportTag :=
      { text := " import site.css external ", gap := "\n"
        no_stop := by decide +kernel, named := by decide +kernel }
    let second : ImportTag :=
      { text := " import app.mjs external after=https://x.test/lib.js "
        no_stop := by decide +kernel, named := by decide +kernel }
    let path : Path := "https://x.test/lib.js"
    let lib : Asset := { kind := .js, source := .external path, priority := 500 }
    let app : Asset :=
      { kind := .js, source := .external "app.mjs", priority := 510, isModule := true }
    let registry :=
      registryBehind Engine.standard.toSettings (.ofKnown []) { context := { site := "." } }
    first.path? = some path ∧ second.options.get? "after" = some path ∧
      (registry [first]).assets = (registry []).assets ++ [lib] ∧
      (registry [first, other, second]).assets = (registry [first, other]).assets ++ [app] ∧
      lib.kind = app.kind ∧ lib.isInline = false ∧
      (∀ asset ∈ (registry []).assets, ¬ Names path asset) ∧
      [lib, app].Sublist ((registry [first, other, second]).ordered .js) := by
  intro first other second path lib app registry
  have hfirst : first.path? = some path := by decide +kernel
  have hsecond : second.options.get? "after" = some path := by decide +kernel
  have ha : (registry [first]).assets = (registry []).assets ++ [lib] := by decide +kernel
  have hb : (registry [first, other, second]).assets =
      (registry [first, other]).assets ++ [app] := by
    decide +kernel
  have hnew : ∀ asset ∈ (registry []).assets, ¬ Names path asset := by
    have hempty : (registry []).assets = [] := by decide +kernel
    rw [hempty]
    exact fun asset hm => (nomatch hm)
  exact ⟨hfirst, hsecond, ha, hb, rfl, rfl, hnew,
    emitted_after _ _ _ [] [other] [] first second path lib app hfirst hsecond ha hb rfl rfl hnew⟩

/-- A script that is read from a file is not found by its path, so the one that names it comes
first. -/
theorem read_import_not_named :
    let first : ImportTag :=
      { text := " import lib.js priority=500 "
        no_stop := by decide +kernel, named := by decide +kernel }
    let second : ImportTag :=
      { text := " import app.js after=lib.js "
        no_stop := by decide +kernel, named := by decide +kernel }
    let files : Files := .ofKnown [("./app.js", .ok "app"), ("./lib.js", .ok "lib")]
    let lib : Asset := { kind := .js, source := .inline "lib", priority := 500 }
    let app : Asset := { kind := .js, source := .inline "app", priority := 300 }
    let registry := registryBehind Engine.standard.toSettings files { context := { site := "." } }
    first.path? = some "lib.js" ∧ second.options.get? "after" = some "lib.js" ∧
      (registry [first]).assets = [lib] ∧ (registry [first, second]).assets = [lib, app] ∧
      (registry [first, second]).ordered .js = [app, lib] := by
  decide +kernel

end ImportTag
end Stencil
