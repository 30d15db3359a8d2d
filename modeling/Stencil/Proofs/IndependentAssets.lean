import Stencil.Proofs.Dependents
/-!
# Independent assets

Assets that name no others are all accepted, each with the priority that it asks for or the default
of its type. If no two of a kind get the same priority, only one order of them is ascending, so the
order in which they are registered is not seen in what is emitted.
-/
namespace Stencil

namespace Asset

/-- The asset as it is kept where it names no others. -/
def settled (asset : Asset) : Asset := { asset with priority := asset.ownPriority }

/-- Every asset that is linked has a path, no identity comes twice, and no two assets of a kind are
kept with one priority. -/
structure Apart (assets : List Asset) : Prop where
  path : ∀ asset ∈ assets, ∀ path, asset.source = .external path → Text.isBlankText path = false
  key : (assets.map key).Nodup
  priority : assets.Pairwise fun a b => a.kind = b.kind → a.ownPriority ≠ b.ownPriority

variable {assets others emitted emitted' : List Asset}

private theorem Apart.perm (h : Apart assets) (hp : others.Perm assets) : Apart others where
  path asset hm := h.path asset (hp.subset hm)
  key := (hp.map Asset.key).nodup_iff.mpr h.key
  priority := (hp.pairwise_iff fun hne hk he => hne hk.symm he.symm).mpr h.priority

/-- Assets of different priorities are emitted in one order only. -/
theorem Arranged.unique (h : Arranged assets emitted) (h' : Arranged others emitted')
    (hp : others.Perm assets) (hd : (assets.map priority).Nodup) : emitted' = emitted := by
  refine List.Perm.eq_of_pairwise ?_ h'.ascending h.ascending (h'.perm.trans (hp.trans h.perm.symm))
  intro a b ha hb hab hba
  have hmem : a ∈ assets := hp.subset (h'.perm.subset ha)
  exact List.inj_on_of_nodup_map hd hmem (h.perm.subset hb) (Int.le_antisymm hab hba)

end Asset

namespace AssetRegistry

variable {registry : AssetRegistry} {assets others : List Asset}

/-- Assets that are registered one after another and name no others. -/
def independent (assets : List Asset) : List Registration := assets.map fun asset => ⟨asset, []⟩

private theorem stored_independent (registry : AssetRegistry) (asset : Asset) :
    registry.stored ⟨asset, []⟩ = asset.settled := rfl

private theorem after_independent {asset : Asset}
    (hpath : ∀ path, asset.source = .external path → Text.isBlankText path = false)
    (hkey : ∀ other ∈ registry.assets, other.key ≠ asset.key) :
    registry.accepts ⟨asset, []⟩ = true ∧
      (registry.after ⟨asset, []⟩).assets = registry.assets ++ [asset.settled] := by
  have hblank : ¬ Registration.Blank ⟨asset, []⟩ := by
    rintro ⟨path, hsource, hb⟩
    rw [hpath path hsource] at hb
    cases hb
  have hknows : ¬ registry.Knows ⟨asset, []⟩ := by
    rintro ⟨other, hm, he⟩
    exact hkey other hm he
  have haccepts : registry.accepts ⟨asset, []⟩ = true := by
    obtain ⟨after, hadd, -⟩ := add_of_new hblank hknows
    rw [accepts, hadd]
  refine ⟨haccepts, ?_⟩
  rw [after_of_accepts haccepts, stored_independent]

private theorem afterAll_independent (registry : AssetRegistry)
    (hpath : ∀ asset ∈ assets, ∀ path,
      asset.source = .external path → Text.isBlankText path = false)
    (hkey : (registry.assets.map Asset.key ++ assets.map Asset.key).Nodup) :
    registry.accepted (independent assets) = assets ∧
      (registry.afterAll (independent assets)).assets =
        registry.assets ++ assets.map Asset.settled := by
  induction assets generalizing registry with
  | nil => exact ⟨rfl, (List.append_nil _).symm⟩
  | cons asset assets ih =>
    obtain ⟨hfirst, hrest⟩ := List.forall_mem_cons.mp hpath
    have hnew : ∀ other ∈ registry.assets, other.key ≠ asset.key := fun other hm =>
      (List.nodup_append.mp hkey).2.2 _ (List.mem_map_of_mem hm) _ List.mem_cons_self
    obtain ⟨haccepts, hassets⟩ := after_independent hfirst hnew
    have hkeys : ((registry.after ⟨asset, []⟩).assets.map Asset.key ++
        assets.map Asset.key).Nodup := by
      rw [hassets, List.map_append, List.append_assoc]
      exact hkey
    obtain ⟨haccepted, hall⟩ := ih (registry.after ⟨asset, []⟩) hrest hkeys
    constructor
    · have hcons : registry.accepted (independent (asset :: assets)) =
          asset :: (registry.after ⟨asset, []⟩).accepted (independent assets) := if_pos haccepts
      rw [hcons, haccepted]
    · refine hall.trans ?_
      rw [hassets, List.append_assoc]
      rfl

private theorem accepted_independent (h : Asset.Apart assets) :
    accepted {} (independent assets) = assets :=
  (afterAll_independent {} h.path h.key).1

private theorem assets_independent (h : Asset.Apart assets) :
    (afterAll {} (independent assets)).assets = assets.map Asset.settled :=
  (afterAll_independent {} h.path h.key).2

private theorem arranged_ordered (h : Asset.Apart assets) (kind : AssetKind) :
    Asset.Arranged ((assets.map Asset.settled).filter fun asset => asset.kind == kind)
      ((afterAll {} (independent assets)).ordered kind) := by
  rw [ordered_eq_insertionSort, assets_independent h]
  exact arranged_insertionSort _

private theorem nodup_priority (h : Asset.Apart assets) (kind : AssetKind) :
    (((assets.map Asset.settled).filter fun asset => asset.kind == kind).map
      Asset.priority).Nodup := by
  refine List.pairwise_map.mpr (List.pairwise_filter.mpr (List.pairwise_map.mpr ?_))
  refine h.priority.imp fun hne ha hb => hne ?_
  exact (beq_iff_eq.mp ha).trans (beq_iff_eq.mp hb).symm

/-- Assets that name no others are all accepted, and those of a kind are emitted in one order, in
whatever order they are registered. -/
theorem ordered_in_any_order (h : Asset.Apart assets) (hp : others.Perm assets) :
    let registry := afterAll {} (independent assets)
    let registry' := afterAll {} (independent others)
    accepted {} (independent others) = others ∧
    ∀ kind, registry'.ordered kind = registry.ordered kind ∧
      registry'.html kind = registry.html kind ∧
      Asset.Arranged ((assets.map Asset.settled).filter fun asset => asset.kind == kind)
        (registry.ordered kind) := by
  intro registry registry'
  have hothers := h.perm hp
  refine ⟨accepted_independent hothers, fun kind => ?_⟩
  have harranged := arranged_ordered h kind
  have hsame : registry'.ordered kind = registry.ordered kind :=
    harranged.unique (arranged_ordered hothers kind) ((hp.map Asset.settled).filter _)
      (nodup_priority h kind)
  refine ⟨hsame, ?_, harranged⟩
  rw [html, html, hsame]

/-- Scripts and sheets in two orders, most of them with the priority of their type. -/
theorem ordered_in_any_order_mixed :
    let low : Asset := { kind := .css, source := .external "/low.css", priority := -10 }
    let sheet : Asset := { kind := .css, source := .inline "a" }
    let app : Asset := { kind := .js, source := .external "app.js" }
    let lib : Asset := { kind := .js, source := .external "lib.js", isModule := true }
    let assets := [low, sheet, app, lib]
    let others := [app, sheet, lib, low]
    Asset.Apart assets ∧ others.Perm assets ∧
      (afterAll {} (independent others)).ordered .js = [lib.settled, app.settled] ∧
      (afterAll {} (independent others)).html .css =
        (afterAll {} (independent assets)).html .css := by
  intro low sheet app lib assets others
  have hapart : Asset.Apart assets := by
    refine ⟨?_, by decide +kernel, by decide⟩
    intro asset hm path hs
    simp only [assets, List.mem_cons, List.not_mem_nil, or_false] at hm
    rcases hm with rfl | rfl | rfl | rfl <;> cases hs <;> decide
  have hperm : others.Perm assets := by decide
  have hscripts : (afterAll {} (independent assets)).ordered .js = [lib.settled, app.settled] := by
    decide +kernel
  obtain ⟨-, hsame⟩ := ordered_in_any_order hapart hperm
  exact ⟨hapart, hperm, (hsame .js).1.trans hscripts, (hsame .css).2.1⟩

end AssetRegistry
end Stencil
