import Stencil.Asset.Registry
import Mathlib.Data.List.Sort
/-!
# Runs of the asset registry

Assets are told apart by their kind and their content, or their kind and their cleaned path. Over
any run of registrations each identity is accepted once, and what is accepted stays as it was
stored. The assets of a kind are emitted by ascending priority, those of one priority in the order
in which they were accepted, and no later registration moves one of them past another.
-/
namespace Stencil

namespace Asset

/-- Both are of one kind, with the same content or the same path but for its spelling. -/
def SameIdentity (a b : Asset) : Prop :=
  a.kind = b.kind ∧
    match a.source, b.source with
    | .inline s, .inline t => s = t
    | .external p, .external q => Path.clean p = Path.clean q
    | _, _ => False

/-- The digests of the two do not collide. -/
def ToldApart (a b : Asset) : Prop :=
  ∀ s t, a.source = .inline s → b.source = .inline t →
    Digest.sha256 (Text.utf8 s) = Digest.sha256 (Text.utf8 t) → s = t

/-- The second asset is the first one with the priority that it is accepted with. -/
def StoredAs (given stored : Asset) : Prop := ∃ priority, stored = { given with priority }

private theorem label_inj {k l : AssetKind} {s t : Text}
    (h : k.label ++ ":" ++ s = l.label ++ ":" ++ t) : k = l ∧ s = t := by
  have hc : AssetKind.css.label = 'C' :: ("SS" : Text) := by decide
  have hj : AssetKind.js.label = 'J' :: ("S" : Text) := by decide
  cases k <;> cases l
  · exact ⟨rfl, List.append_cancel_left h⟩
  · rw [hc, hj] at h
    exact absurd (List.cons.inj h).1 (by decide)
  · rw [hc, hj] at h
    exact absurd (List.cons.inj h).1 (by decide)
  · exact ⟨rfl, List.append_cancel_left h⟩

private theorem label_append_inj {origin : Text} {k l : AssetKind} {s t : Text} :
    origin ++ k.label ++ ":" ++ s = origin ++ l.label ++ ":" ++ t ↔ k = l ∧ s = t := by
  constructor
  · intro h
    simp only [List.append_assoc] at h
    exact label_inj (by simpa only [List.append_assoc] using List.append_cancel_left h)
  · rintro ⟨rfl, rfl⟩
    rfl

private theorem inline_ne_external (s t : Text) : ("inline:" : Text) ++ s ≠ "external:" ++ t := by
  have hi : ("inline:" : Text) = 'i' :: ("nline:" : Text) := by decide
  have he : ("external:" : Text) = 'e' :: ("xternal:" : Text) := by decide
  rw [hi, he]
  intro h
  exact absurd (List.cons.inj h).1 (by decide)

/-- Without a collision the keys say whether two assets are the same. -/
theorem key_eq_iff {a b : Asset} (h : a.ToldApart b) : a.key = b.key ↔ a.SameIdentity b := by
  obtain ⟨kind, source, _, _, _, _, _⟩ := a
  obtain ⟨kind', source', _, _, _, _, _⟩ := b
  cases source with
  | inline s =>
    cases source' with
    | inline t =>
      simp only [key, SameIdentity, label_append_inj]
      constructor
      · rintro ⟨hk, hd⟩
        exact ⟨hk, h s t rfl rfl hd⟩
      · rintro ⟨hk, rfl⟩
        exact ⟨hk, rfl⟩
    | external q =>
      simp only [key, SameIdentity, and_false, iff_false, List.append_assoc]
      exact inline_ne_external _ _
  | external p =>
    cases source' with
    | inline t =>
      simp only [key, SameIdentity, and_false, iff_false, List.append_assoc]
      exact (inline_ne_external _ _).symm
    | external q => simp only [key, SameIdentity, label_append_inj]

end Asset

/-- One call that hands an asset to the registry. -/
structure Registration where
  asset : Asset
  dependencies : List Text := []

namespace Registration

/-- The asset is to be linked and has no path. -/
def Blank (registration : Registration) : Prop :=
  ∃ path, registration.asset.source = .external path ∧ Text.isBlankText path = true

end Registration

/-- The second list holds the assets of the first one by ascending priority, those of one priority
in the same order. -/
structure Asset.Arranged (assets emitted : List Asset) : Prop where
  perm : emitted.Perm assets
  ascending : emitted.Pairwise fun a b => a.priority ≤ b.priority
  stable (priority : Int) : emitted.filter (fun a => a.priority = priority) =
    assets.filter fun a => a.priority = priority

namespace AssetRegistry

/-! ### One registration -/

/-- The registry behind a registration, whatever becomes of it. -/
def after (registry : AssetRegistry) (registration : Registration) : AssetRegistry :=
  match registry.add registration.asset registration.dependencies with
  | .ok (_, after) => after
  | .error _ => registry

def accepts (registry : AssetRegistry) (registration : Registration) : Bool :=
  match registry.add registration.asset registration.dependencies with
  | .ok (isNew, _) => isNew
  | .error _ => false

/-- The asset as the registry keeps it. -/
def stored (registry : AssetRegistry) (registration : Registration) : Asset :=
  { registration.asset with
    priority := registry.effectivePriority registration.asset registration.dependencies }

private theorem isPathless_iff (registration : Registration) :
    isPathless registration.asset = true ↔ registration.Blank := by
  obtain ⟨⟨kind, source, _, _, _, _, _⟩, dependencies⟩ := registration
  cases source <;> simp [isPathless, Registration.Blank]

private theorem has_iff (registry : AssetRegistry) (key : Text) :
    registry.has key = true ↔ ∃ asset ∈ registry.assets, asset.key = key := by
  simp [has, assets, AssetEntry.key_eq]

/-- The registry has the key of what is to be registered. -/
def Knows (registry : AssetRegistry) (registration : Registration) : Prop :=
  ∃ asset ∈ registry.assets, asset.key = registration.asset.key

section

variable {registry : AssetRegistry} {registration : Registration}

private theorem add_of_blank (h : registration.Blank) :
    registry.add registration.asset registration.dependencies =
      .error (.missingPath registration.asset.kind) := by
  rw [add, if_pos ((isPathless_iff registration).mpr h)]

private theorem add_of_knows (hb : ¬ registration.Blank) (hk : registry.Knows registration) :
    registry.add registration.asset registration.dependencies = .ok (false, registry) := by
  rw [← isPathless_iff] at hb
  rw [Knows, ← has_iff] at hk
  rw [add, if_neg hb, if_pos hk]

theorem add_of_new (hb : ¬ registration.Blank) (hk : ¬ registry.Knows registration) :
    ∃ after, registry.add registration.asset registration.dependencies = .ok (true, after) ∧
      after.assets = registry.assets ++ [registry.stored registration] := by
  rw [← isPathless_iff] at hb
  rw [Knows, ← has_iff] at hk
  refine ⟨⟨registry.entries ++ [⟨registry.stored registration, _, rfl⟩]⟩, ?_, ?_⟩
  · rw [add, if_neg hb, if_neg hk]
    rfl
  · simp [assets]

private theorem add_eq_error_iff :
    (∃ error, registry.add registration.asset registration.dependencies = .error error) ↔
      registration.Blank := by
  constructor
  · rintro ⟨error, he⟩
    by_contra hb
    by_cases hk : registry.Knows registration
    · rw [add_of_knows hb hk] at he
      cases he
    · obtain ⟨after, ho, -⟩ := add_of_new hb hk
      rw [ho] at he
      cases he
  · intro hb
    exact ⟨_, add_of_blank hb⟩

private theorem add_eq_false_iff (hb : ¬ registration.Blank) :
    (∃ after, registry.add registration.asset registration.dependencies = .ok (false, after)) ↔
      registry.Knows registration := by
  constructor
  · rintro ⟨after, ha⟩
    by_contra hk
    obtain ⟨after', ho, -⟩ := add_of_new hb hk
    rw [ho] at ha
    cases ha
  · intro hk
    exact ⟨_, add_of_knows hb hk⟩

private theorem after_eq_self (h : registration.Blank ∨ registry.Knows registration) :
    registry.after registration = registry := by
  by_cases hb : registration.Blank
  · simp only [after, add_of_blank hb]
  · simp only [after, add_of_knows hb (h.resolve_left hb)]

theorem after_of_accepts (h : registry.accepts registration = true) :
    (registry.after registration).assets = registry.assets ++ [registry.stored registration] := by
  by_cases hb : registration.Blank
  · simp [accepts, add_of_blank hb] at h
  · by_cases hk : registry.Knows registration
    · simp [accepts, add_of_knows hb hk] at h
    · obtain ⟨after, ho, ha⟩ := add_of_new hb hk
      rw [AssetRegistry.after, ho]
      exact ha

theorem after_of_not_accepts (h : registry.accepts registration = false) :
    registry.after registration = registry := by
  apply after_eq_self
  by_contra hno
  obtain ⟨hb, hk⟩ := not_or.mp hno
  obtain ⟨after, ho, -⟩ := add_of_new hb hk
  simp [accepts, ho] at h

end

/-! ### Runs -/

/-- The registry behind a run of registrations. -/
def afterAll (registry : AssetRegistry) (run : List Registration) : AssetRegistry :=
  run.foldl after registry

/-- The assets that a run gets accepted, as they are handed in. -/
def accepted (registry : AssetRegistry) : List Registration → List Asset
  | [] => []
  | registration :: rest =>
    let others := accepted (registry.after registration) rest
    if registry.accepts registration then registration.asset :: others else others

/-- What a run gets accepted is what it appends, in order. -/
theorem assets_afterAll (registry : AssetRegistry) (run : List Registration) :
    ∃ stored, (registry.afterAll run).assets = registry.assets ++ stored ∧
      List.Forall₂ Asset.StoredAs (registry.accepted run) stored := by
  induction run generalizing registry with
  | nil => exact ⟨[], (List.append_nil _).symm, .nil⟩
  | cons registration rest ih =>
    obtain ⟨others, hs, hf⟩ := ih (registry.after registration)
    cases ha : registry.accepts registration with
    | true =>
      refine ⟨registry.stored registration :: others, ?_, ?_⟩
      · rw [after_of_accepts ha, List.append_assoc] at hs
        exact hs
      · simp only [accepted, ha, if_true]
        exact .cons ⟨_, rfl⟩ hf
    | false =>
      rw [after_of_not_accepts ha] at hs hf
      refine ⟨others, ?_, ?_⟩
      · rw [afterAll, List.foldl_cons, after_of_not_accepts ha]
        exact hs
      · simp only [accepted, ha, after_of_not_accepts ha]
        exact hf

private theorem assets_afterAll_append (registry : AssetRegistry) (run later : List Registration) :
    registry.afterAll (run ++ later) = (registry.afterAll run).afterAll later := by
  simp only [afterAll, List.foldl_append]

/-! ### The order of emission -/

private theorem insertByPriority_eq (asset : Asset) (assets : List Asset) :
    insertByPriority asset assets =
      assets.orderedInsert (fun a b => a.priority ≤ b.priority) asset := by
  induction assets with
  | nil => rfl
  | cons first rest ih => simp only [insertByPriority, List.orderedInsert_cons, ih]

theorem ordered_eq_insertionSort (registry : AssetRegistry) (kind : AssetKind) :
    registry.ordered kind = (registry.assets.filter fun asset => asset.kind == kind).insertionSort
      fun a b => a.priority ≤ b.priority := by
  rw [ordered]
  induction registry.assets.filter fun asset => asset.kind == kind with
  | nil => rfl
  | cons first rest ih => rw [List.foldr_cons, ih, insertByPriority_eq, List.insertionSort_cons]

private theorem filter_orderedInsert (priority : Int) (asset : Asset) (assets : List Asset) :
    (assets.orderedInsert (fun a b => a.priority ≤ b.priority) asset).filter
        (fun a => a.priority = priority) =
      (asset :: assets).filter fun a => a.priority = priority := by
  induction assets with
  | nil => rfl
  | cons first rest ih =>
    by_cases hle : asset.priority ≤ first.priority
    · rw [List.orderedInsert_cons_of_le _ rest hle]
    · rw [List.orderedInsert_of_not_le _ rest hle, List.filter_cons, ih]
      -- An asset that is passed has another priority than the one that passes it.
      by_cases ha : asset.priority = priority
      · have hf : first.priority ≠ priority := by omega
        simp [ha, hf]
      · simp [ha, List.filter_cons]

theorem arranged_insertionSort (assets : List Asset) :
    Asset.Arranged assets (assets.insertionSort fun a b => a.priority ≤ b.priority) where
  perm := List.perm_insertionSort _ assets
  ascending := by
    have htotal : Std.Total fun a b : Asset => a.priority ≤ b.priority :=
      ⟨fun a b => Int.le_total _ _⟩
    have htrans : IsTrans Asset fun a b => a.priority ≤ b.priority := ⟨fun a b c => Int.le_trans⟩
    exact List.pairwise_insertionSort _ assets
  stable priority := by
    induction assets with
    | nil => rfl
    | cons first rest ih =>
      rw [List.insertionSort_cons, filter_orderedInsert, List.filter_cons, List.filter_cons, ih]

private theorem insertionSort_sublist_append (assets more : List Asset) :
    (assets.insertionSort fun a b => a.priority ≤ b.priority).Sublist
      ((assets ++ more).insertionSort fun a b => a.priority ≤ b.priority) := by
  have htrans : IsTrans Asset fun a b => a.priority ≤ b.priority := ⟨fun a b c => Int.le_trans⟩
  induction assets with
  | nil => exact List.nil_sublist _
  | cons first rest ih =>
    rw [List.cons_append, List.insertionSort_cons, List.insertionSort_cons]
    exact List.Sublist.orderedInsert_sublist first ih (arranged_insertionSort _).ascending

theorem ordered_sublist_afterAll (registry : AssetRegistry) (later : List Registration)
    (kind : AssetKind) :
    (registry.ordered kind).Sublist ((registry.afterAll later).ordered kind) := by
  obtain ⟨stored, hs, -⟩ := assets_afterAll registry later
  rw [ordered_eq_insertionSort, ordered_eq_insertionSort, hs, List.filter_append]
  exact insertionSort_sublist_append _ _

/-! ### The law of the registry -/

private theorem mem_of_mem_accepted {registry : AssetRegistry} {run : List Registration}
    {asset : Asset} (h : asset ∈ registry.accepted run) :
    ∃ registration ∈ run, registration.asset = asset := by
  induction run generalizing registry with
  | nil => cases h
  | cons first rest ih =>
    simp only [accepted] at h
    split at h
    · rcases List.mem_cons.mp h with rfl | hr
      · exact ⟨first, List.mem_cons_self, rfl⟩
      · obtain ⟨registration, hm, he⟩ := ih hr
        exact ⟨registration, List.mem_cons_of_mem _ hm, he⟩
    · obtain ⟨registration, hm, he⟩ := ih h
      exact ⟨registration, List.mem_cons_of_mem _ hm, he⟩

private theorem keys_of_storedAs {given stored : List Asset}
    (h : List.Forall₂ Asset.StoredAs given stored) :
    stored.map Asset.key = given.map Asset.key := by
  induction h with
  | nil => rfl
  | cons hfirst _ ih =>
    obtain ⟨priority, rfl⟩ := hfirst
    rw [List.map_cons, List.map_cons, ih]
    rfl

private theorem knows_afterAll_iff {run : List Registration} {next : Registration}
    (h : ∀ registration ∈ run, registration.asset.ToldApart next.asset) :
    (afterAll {} run).Knows next ↔ ∃ asset ∈ accepted {} run, asset.SameIdentity next.asset := by
  obtain ⟨stored, hs, hf⟩ := assets_afterAll {} run
  have hkeys : (afterAll {} run).assets.map Asset.key = (accepted {} run).map Asset.key := by
    rw [hs, ← keys_of_storedAs hf]
    rfl
  have hknows : (afterAll {} run).Knows next ↔
      ∃ asset ∈ accepted {} run, asset.key = next.asset.key := by
    simp only [Knows, ← List.mem_map, hkeys]
  rw [hknows]
  refine exists_congr fun asset => and_congr_right fun hm => ?_
  obtain ⟨registration, hr, rfl⟩ := mem_of_mem_accepted hm
  exact Asset.key_eq_iff (h registration hr)

/-- Behind any run a registration is refused if it has no path, passed over if its identity was
accepted, and appended otherwise. What was accepted is emitted by priority, now and later on. -/
theorem registered_once (run : List Registration) (next : Registration)
    (h : ∀ registration ∈ run, registration.asset.ToldApart next.asset) :
    let registry := afterAll {} run
    let outcome := registry.add next.asset next.dependencies
    let known := ∃ asset ∈ accepted {} run, asset.SameIdentity next.asset
    ((∃ error, outcome = .error error) ↔ next.Blank) ∧
    (¬ next.Blank → ((∃ after, outcome = .ok (false, after)) ↔ known)) ∧
    (next.Blank ∨ known → registry.after next = registry) ∧
    (¬ next.Blank → ¬ known → ∃ after stored, outcome = .ok (true, after) ∧
      next.asset.StoredAs stored ∧ after.assets = registry.assets ++ [stored]) ∧
    List.Forall₂ Asset.StoredAs (accepted {} run) registry.assets ∧
    (∀ kind, Asset.Arranged (registry.assets.filter (·.kind = kind)) (registry.ordered kind)) ∧
    ∀ later kind, (registry.ordered kind).Sublist ((afterAll {} (run ++ later)).ordered kind) := by
  intro registry outcome known
  have hknown : registry.Knows next ↔ known := knows_afterAll_iff h
  refine ⟨add_eq_error_iff, fun hb => (add_eq_false_iff hb).trans hknown, ?_, ?_, ?_, ?_, ?_⟩
  · intro hor
    exact after_eq_self (hor.imp_right hknown.mpr)
  · intro hb hk
    obtain ⟨after, ho, ha⟩ := add_of_new hb (fun hn => hk (hknown.mp hn))
    exact ⟨after, _, ho, ⟨_, rfl⟩, ha⟩
  · obtain ⟨stored, hs, hf⟩ := assets_afterAll {} run
    exact hs ▸ hf
  · intro kind
    rw [ordered_eq_insertionSort]
    exact arranged_insertionSort _
  · intro later kind
    rw [assets_afterAll_append]
    exact ordered_sublist_afterAll registry later kind

/-- A sheet that comes a second time, behind another one and a script of its text. -/
theorem registered_once_again :
    let sheet (content : Text) : Registration :=
      { asset := { kind := .css, source := .inline content } }
    let script : Registration := { asset := { kind := .js, source := .inline "a" } }
    let run : List Registration := [sheet "a", script, sheet "b"]
    (∀ registration ∈ run, registration.asset.ToldApart (sheet "a").asset) ∧
      ¬ (sheet "a").Blank ∧ accepted {} run = [(sheet "a").asset, script.asset, (sheet "b").asset] ∧
      (afterAll {} run).after (sheet "a") = afterAll {} run := by
  intro sheet script run
  have hd : Digest.sha256 (Text.utf8 "b") ≠ Digest.sha256 (Text.utf8 "a") := by decide +kernel
  have htold : ∀ registration ∈ run, registration.asset.ToldApart (sheet "a").asset := by
    intro registration hm s t hs ht hc
    cases ht
    simp only [run, List.mem_cons, List.not_mem_nil, or_false] at hm
    rcases hm with rfl | rfl | rfl
    · cases hs
      rfl
    · cases hs
      rfl
    · cases hs
      exact absurd hc hd
  have hblank : ¬ (sheet "a").Blank := by
    rintro ⟨path, hp, -⟩
    cases hp
  have hfirst : accepts {} (sheet "a") = true := by decide +kernel
  have hsecond : accepts (after {} (sheet "a")) script = true := by decide +kernel
  have hthird : accepts (after (after {} (sheet "a")) script) (sheet "b") = true := by
    decide +kernel
  have haccepted : accepted {} run = [(sheet "a").asset, script.asset, (sheet "b").asset] := by
    simp only [run, accepted, hfirst, hsecond, hthird, if_true]
  obtain ⟨-, -, hsame, -⟩ := registered_once run (sheet "a") htold
  refine ⟨htold, hblank, haccepted, hsame (.inr ⟨(sheet "a").asset, ?_, rfl, rfl⟩)⟩
  rw [haccepted]
  exact List.mem_cons_self

end AssetRegistry
end Stencil
