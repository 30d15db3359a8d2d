import Stencil.Proofs.Registry
/-!
# Dependents

An asset that names others is stored with a priority above theirs, or with the highest one there is.
As assets of one priority are emitted in the order in which they were accepted, it follows those
that it names. Of several assets that one dependency names only the first is looked at, be it of
another kind.
-/
namespace Stencil

namespace Asset

/-- The priority of the asset fits into 32 bits. -/
def InRange (asset : Asset) : Prop :=
  AssetRegistry.lowestPriority ≤ asset.priority ∧ asset.priority ≤ AssetRegistry.highestPriority

/-- The priority that an asset asks for, or else the default of its type. -/
def ownPriority (asset : Asset) : Int :=
  if asset.priority = 0 then asset.defaultPriority else asset.priority

private theorem defaultPriority_inRange (asset : Asset) :
    AssetRegistry.lowestPriority ≤ asset.defaultPriority ∧
      asset.defaultPriority ≤ AssetRegistry.highestPriority := by
  rw [defaultPriority]
  split
  · decide
  · split <;> decide

private theorem le_ownPriority {asset : Asset} (h : AssetRegistry.lowestPriority ≤ asset.priority) :
    AssetRegistry.lowestPriority ≤ asset.ownPriority := by
  rw [ownPriority]
  split
  · exact asset.defaultPriority_inRange.1
  · exact h

private theorem ownPriority_le {asset : Asset}
    (h : asset.priority ≤ AssetRegistry.highestPriority) :
    asset.ownPriority ≤ AssetRegistry.highestPriority := by
  rw [ownPriority]
  split
  · exact asset.defaultPriority_inRange.2
  · exact h

end Asset

namespace AssetRegistry

variable {registry : AssetRegistry} {asset : Asset} {dependency : Text} {dependencies : List Text}

private theorem add_of_accepts {registration : Registration}
    (h : registry.accepts registration = true) :
    registry.add registration.asset registration.dependencies =
      .ok (true, registry.after registration) := by
  rw [accepts] at h
  rw [after]
  split at h
  · next isNew _ hadd =>
    cases h
    rw [hadd]
  · cases h

/-! ### Names -/

/-- The dependency names the asset, by its key or by a path that cleans to its own. -/
def Names (dependency : Text) (asset : Asset) : Prop := asset.isNamedBy asset.key dependency = true

private theorem names_iff : Names dependency asset ↔ asset.key = dependency ∨
    ∃ path, asset.source = .external path ∧ Path.clean path = Path.clean dependency := by
  rw [Names, Asset.isNamedBy, Bool.or_eq_true, beq_iff_eq]
  refine or_congr_right ?_
  cases asset.source <;> simp

theorem names_of_external {path : Path} (h : asset.source = .external path) : Names path asset :=
  names_iff.mpr (.inr ⟨path, h, rfl⟩)

private theorem priorityOf?_eq (registry : AssetRegistry) (dependency : Text) :
    registry.priorityOf? dependency =
      (registry.assets.find? fun asset => asset.isNamedBy asset.key dependency).map
        Asset.priority := by
  simp only [priorityOf?, assets, List.find?_map, Option.map_map, Function.comp_def,
    AssetEntry.key_eq]

theorem priorityOf?_of_first {earlier later : List Asset}
    (h : registry.assets = earlier ++ asset :: later) (hn : Names dependency asset)
    (he : ∀ other ∈ earlier, ¬ Names dependency other) :
    registry.priorityOf? dependency = some asset.priority := by
  have hnone : earlier.find? (fun asset => asset.isNamedBy asset.key dependency) = none :=
    List.find?_eq_none.mpr he
  have hhere : asset.isNamedBy asset.key dependency = true := hn
  rw [priorityOf?_eq, h, List.find?_append, hnone, Option.none_or, List.find?_cons, hhere]
  rfl

private theorem exists_priorityOf? {earlier later : List Asset}
    (h : registry.assets = earlier ++ asset :: later) (hn : Names dependency asset) :
    ∃ first ∈ registry.assets, registry.priorityOf? dependency = some first.priority ∧
      (first = asset ∨
        earlier.find? (fun other => other.isNamedBy other.key dependency) = some first) := by
  cases hf : earlier.find? fun other => other.isNamedBy other.key dependency with
  | none =>
    refine ⟨asset, ?_, priorityOf?_of_first h hn (List.find?_eq_none.mp hf), .inl rfl⟩
    rw [h]
    exact List.mem_append_right _ List.mem_cons_self
  | some first =>
    refine ⟨first, ?_, ?_, .inr rfl⟩
    · rw [h]
      exact List.mem_append_left _ (List.mem_of_find?_eq_some hf)
    · rw [priorityOf?_eq, h, List.find?_append, hf]
      rfl

/-! ### Priorities -/

private theorem effectivePriority_of_none
    (h : (dependencies.filterMap registry.priorityOf?).max? = none) :
    registry.effectivePriority asset dependencies = asset.ownPriority := by
  rw [effectivePriority, h]
  rfl

private theorem effectivePriority_of_some {floor : Int}
    (h : (dependencies.filterMap registry.priorityOf?).max? = some floor) :
    registry.effectivePriority asset dependencies =
      if asset.ownPriority ≤ floor then min (floor + dependencyStep) highestPriority
      else asset.ownPriority := by
  rw [effectivePriority, h]
  rfl

/-- An asset keeps its own priority if that is above those of its dependencies. Otherwise it gets
one above the highest of them, as far as there is one. -/
theorem effectivePriority_cases (registry : AssetRegistry) (asset : Asset)
    (dependencies : List Text) :
    (registry.effectivePriority asset dependencies = asset.ownPriority ∧
      ∀ dependency ∈ dependencies, ∀ floor, registry.priorityOf? dependency = some floor →
        floor < asset.ownPriority) ∨
    ∃ highest, asset.ownPriority ≤ highest ∧
      (∀ dependency ∈ dependencies, ∀ floor, registry.priorityOf? dependency = some floor →
        floor ≤ highest) ∧
      registry.effectivePriority asset dependencies =
        min (highest + dependencyStep) highestPriority := by
  have hmem : ∀ dependency ∈ dependencies, ∀ floor, registry.priorityOf? dependency = some floor →
      floor ∈ dependencies.filterMap registry.priorityOf? := fun dependency hd floor hf =>
    List.mem_filterMap.mpr ⟨dependency, hd, hf⟩
  cases hm : (dependencies.filterMap registry.priorityOf?).max? with
  | none =>
    refine .inl ⟨effectivePriority_of_none hm, fun dependency hd floor hf => ?_⟩
    have hfloor := hmem dependency hd floor hf
    rw [List.max?_eq_none_iff.mp hm] at hfloor
    cases hfloor
  | some highest =>
    have hle : ∀ dependency ∈ dependencies, ∀ floor,
        registry.priorityOf? dependency = some floor → floor ≤ highest := by
      intro dependency hd floor hf
      exact (List.max?_eq_some_iff.mp hm).2 floor (hmem dependency hd floor hf)
    by_cases hown : asset.ownPriority ≤ highest
    · refine .inr ⟨highest, hown, hle, ?_⟩
      rw [effectivePriority_of_some hm, if_pos hown]
    · refine .inl ⟨?_, fun dependency hd floor hf => ?_⟩
      · rw [effectivePriority_of_some hm, if_neg hown]
      · have hfloor := hle dependency hd floor hf
        omega

private theorem le_effectivePriority_of_mem (hd : dependency ∈ dependencies) {floor : Int}
    (h : registry.priorityOf? dependency = some floor) (hf : floor ≤ highestPriority) :
    floor ≤ registry.effectivePriority asset dependencies := by
  rcases registry.effectivePriority_cases asset dependencies with
    ⟨heq, hown⟩ | ⟨highest, -, hle, heq⟩
  · rw [heq]
    exact Int.le_of_lt (hown dependency hd floor h)
  · have hfloor := hle dependency hd floor h
    rw [heq, dependencyStep]
    omega

theorem le_effectivePriority {floor : Int} (h : registry.priorityOf? dependency = some floor)
    (hf : floor ≤ highestPriority) : floor ≤ registry.effectivePriority asset [dependency] :=
  le_effectivePriority_of_mem (List.mem_singleton_self dependency) h hf

theorem effectivePriority_le (h : asset.priority ≤ highestPriority) (dependencies : List Text) :
    registry.effectivePriority asset dependencies ≤ highestPriority := by
  rcases registry.effectivePriority_cases asset dependencies with ⟨heq, -⟩ | ⟨highest, -, -, heq⟩
  · rw [heq]
    exact asset.ownPriority_le h
  · rw [heq]
    exact Int.min_le_right _ _

private theorem lowest_le_effectivePriority (h : lowestPriority ≤ asset.priority)
    (dependencies : List Text) :
    lowestPriority ≤ registry.effectivePriority asset dependencies := by
  have hown := asset.le_ownPriority h
  rcases registry.effectivePriority_cases asset dependencies with
    ⟨heq, -⟩ | ⟨highest, hhighest, -, heq⟩
  · rw [heq]
    exact hown
  · have hrange : lowestPriority ≤ highestPriority := by decide
    rw [heq, dependencyStep]
    omega

private theorem stored_inRange {registration : Registration} (h : registration.asset.InRange) :
    (registry.stored registration).InRange :=
  ⟨lowest_le_effectivePriority h.1 _, effectivePriority_le h.2 _⟩

private theorem after_inRange {registration : Registration}
    (hr : ∀ asset ∈ registry.assets, asset.InRange) (h : registration.asset.InRange) :
    ∀ asset ∈ (registry.after registration).assets, asset.InRange := by
  cases ha : registry.accepts registration with
  | true =>
    rw [after_of_accepts ha]
    exact List.forall_mem_append.mpr ⟨hr, List.forall_mem_singleton.mpr (stored_inRange h)⟩
  | false =>
    rw [after_of_not_accepts ha]
    exact hr

/-- No run of registrations leaves the range of 32 bits. -/
theorem afterAll_inRange {run : List Registration} (hr : ∀ asset ∈ registry.assets, asset.InRange)
    (h : ∀ registration ∈ run, registration.asset.InRange) :
    ∀ asset ∈ (registry.afterAll run).assets, asset.InRange := by
  induction run generalizing registry with
  | nil => exact hr
  | cons registration run ih =>
    obtain ⟨hfirst, hrest⟩ := List.forall_mem_cons.mp h
    exact ih (after_inRange hr hfirst) hrest

/-! ### The order of emission -/

theorem ordered_of_priority_le {first second : Asset} (hk : first.kind = second.kind)
    (h : [first, second].Sublist registry.assets) (hp : first.priority ≤ second.priority) :
    [first, second].Sublist (registry.ordered first.kind) := by
  have hkept : [first, second].Sublist
      (registry.assets.filter fun asset => asset.kind == first.kind) := by
    have hf := h.filter fun asset => asset.kind == first.kind
    simpa [hk] using hf
  rw [ordered_eq_insertionSort]
  exact List.pair_sublist_insertionSort hp hkept

/-- Behind any run an asset that is accepted follows every asset of its kind that it names, unless
the first asset that the same dependency names came before that one and has a lower priority. It
does so behind all further registrations, and all priorities fit into 32 bits as those given do. -/
theorem named_then_dependent (run later : List Registration) (next : Registration)
    (hrange : ∀ registration ∈ run ++ next :: later, registration.asset.InRange)
    {after : AssetRegistry}
    (hadd : (afterAll {} run).add next.asset next.dependencies = .ok (true, after)) :
    ∃ added, next.asset.StoredAs added ∧ after.assets = (afterAll {} run).assets ++ [added] ∧
      (∀ asset ∈ (after.afterAll later).assets, asset.InRange) ∧
      ∀ dependency ∈ next.dependencies, ∀ earlier asset others,
        (afterAll {} run).assets = earlier ++ asset :: others → asset.kind = next.asset.kind →
        (asset.key = dependency ∨
          ∃ path, asset.source = .external path ∧ Path.clean path = Path.clean dependency) →
        (∀ first, earlier.find? (fun other => other.isNamedBy other.key dependency) = some first →
          asset.priority ≤ first.priority) →
          [asset, added].Sublist (after.ordered asset.kind) ∧
            [asset, added].Sublist ((after.afterAll later).ordered asset.kind) := by
  let registry := afterAll {} run
  obtain ⟨hrun, hrest⟩ := List.forall_mem_append.mp hrange
  obtain ⟨hnext, hlater⟩ := List.forall_mem_cons.mp hrest
  have hregistry : ∀ asset ∈ registry.assets, asset.InRange :=
    afterAll_inRange (fun _ hm => nomatch hm) hrun
  have haccepts : registry.accepts next = true := by rw [accepts, hadd]
  obtain rfl : registry.after next = after := by rw [AssetRegistry.after, hadd]
  have hassets := after_of_accepts haccepts
  refine ⟨registry.stored next, ⟨_, rfl⟩, hassets,
    afterAll_inRange (after_inRange hregistry hnext) hlater, ?_⟩
  intro dependency hd earlier asset others hsplit hkind hnamed hearlier
  -- The floor of the new priority is that of the first asset the dependency names.
  obtain ⟨first, hmem, hfloor, hfirst⟩ := exists_priorityOf? hsplit (names_iff.mpr hnamed)
  have hle : asset.priority ≤ first.priority := by
    rcases hfirst with rfl | hfound
    · exact Int.le_refl _
    · exact hearlier first hfound
  have hpriority : asset.priority ≤ (registry.stored next).priority :=
    Int.le_trans hle (le_effectivePriority_of_mem hd hfloor (hregistry first hmem).2)
  have hpair : [asset, registry.stored next].Sublist (registry.after next).assets := by
    have hlast : [registry.stored next].Sublist (others ++ [registry.stored next]) :=
      List.sublist_append_right _ _
    rw [hassets, hsplit, List.append_assoc]
    exact (hlast.cons_cons asset).trans (List.sublist_append_right _ _)
  have hstored : asset.kind = (registry.stored next).kind := hkind
  have hnow := ordered_of_priority_le hstored hpair hpriority
  exact ⟨hnow, hnow.trans (ordered_sublist_afterAll _ later _)⟩

/-- A script of the highest priority stays in front of one that names it by a path of another
spelling, also when a script of low priority comes later. -/
theorem named_then_dependent_highest :
    let base : Asset := { kind := .js, source := .external "base.js", isModule := true }
    let lib : Asset := { kind := .js, source := .external "/lib.js", priority := highestPriority }
    let app : Asset := { kind := .js, source := .external "app.js", priority := 5 }
    let late : Asset := { kind := .js, source := .external "late.js", priority := -1 }
    let run : List Registration := [⟨base, []⟩, ⟨lib, []⟩]
    let next : Registration := ⟨app, ["external:JS:base.js", "/./lib.js"]⟩
    (∀ registration ∈ run ++ [next, ⟨late, []⟩], registration.asset.InRange) ∧
      ∃ after added, (afterAll {} run).add next.asset next.dependencies = .ok (true, after) ∧
        app.StoredAs added ∧ [lib, added].Sublist ((after.afterAll [⟨late, []⟩]).ordered .js) := by
  intro base lib app late run next
  have hrange : ∀ registration ∈ run ++ [next, ⟨late, []⟩], registration.asset.InRange := by
    have h : ∀ registration ∈ run ++ [next, ⟨late, []⟩],
        lowestPriority ≤ registration.asset.priority ∧
          registration.asset.priority ≤ highestPriority := by
      decide +kernel
    exact h
  have hadd : (afterAll {} run).add next.asset next.dependencies =
      .ok (true, (afterAll {} run).after next) := by
    have haccepts : (afterAll {} run).accepts next = true := by decide +kernel
    exact add_of_accepts haccepts
  have hassets : (afterAll {} run).assets = [{ base with priority := 200 }] ++ lib :: [] := by
    decide +kernel
  have hnone : [{ base with priority := 200 }].find?
      (fun other => other.isNamedBy other.key "/./lib.js") = none := by
    decide +kernel
  obtain ⟨added, hstored, -, -, hfollows⟩ :=
    named_then_dependent run [⟨late, []⟩] next hrange hadd
  have hpair := (hfollows "/./lib.js" (by decide) _ lib [] hassets rfl
    (.inr ⟨"/lib.js", rfl, by decide +kernel⟩)
    (fun first hfirst => by rw [hnone] at hfirst; cases hfirst)).2
  exact ⟨hrange, _, added, hadd, hstored, hpair⟩

/-- A sheet that came before is found in the place of a script of the same path, so what depends on
the script comes first. -/
theorem other_kind_named :
    let sheet : Asset := { kind := .css, source := .external "lib", priority := 100 }
    let lib : Asset := { kind := .js, source := .external "lib", priority := 500 }
    let app : Asset := { kind := .js, source := .external "app.js", priority := 300 }
    let run : List Registration := [⟨{ sheet with priority := 0 }, []⟩, ⟨lib, []⟩]
    let next : Registration := ⟨{ app with priority := 0 }, ["lib"]⟩
    ∃ after, (afterAll {} run).add next.asset next.dependencies = .ok (true, after) ∧
      (afterAll {} run).assets = [sheet, lib] ∧ Names "lib" lib ∧
      after.ordered .js = [app, lib] := by
  intro sheet lib app run next
  have haccepts : (afterAll {} run).accepts next = true := by decide +kernel
  refine ⟨(afterAll {} run).after next, add_of_accepts haccepts, ?_, names_of_external rfl, ?_⟩
  · decide +kernel
  · decide +kernel

end AssetRegistry
end Stencil
