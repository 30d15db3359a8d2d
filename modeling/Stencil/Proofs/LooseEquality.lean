import Stencil.Proofs.Isolation
import Stencil.Proofs.Order
import Mathlib.Data.List.Perm.Subperm
/-!
# Loose equality

Two values are loosely equal if they are one value as soon as every number is replaced by its place.
So loose equality is an equivalence, equal parts make equal wholes, and it does not matter which
value stands on the left. Objects are loosely equal if they have as many members and every key of
one leads to loosely equal values in both.
-/
namespace Stencil

/-! ### Outlines -/

/-- A value with the places of its numbers. -/
inductive Outline where
  | null
  | bool (b : Bool)
  | number (place : Option Place)
  | text (t : Text)
  | array (items : List Outline)
  | object (members : List (Text × Outline))

namespace Value

mutual

def outline : Value → Outline
  | null => .null
  | bool b => .bool b
  | number n => .number n.toQuantity.place?
  | text t => .text t
  | array items => .array (itemOutlines items)
  | object members => .object (memberOutlines members)

def itemOutlines : List Value → List Outline
  | [] => []
  | item :: rest => outline item :: itemOutlines rest

def memberOutlines : List (Text × Value) → List (Text × Outline)
  | [] => []
  | (key, value) :: rest => (key, outline value) :: memberOutlines rest

end

private theorem place_eq_iff (m n : Number) :
    (m.toQuantity.order? n.toQuantity == some .eq) = true ↔
      m.toQuantity.place? = n.toQuantity.place? := by
  have hplace (n : Number) : ∃ a, n.toQuantity.place? = some a :=
    Option.ne_none_iff_exists'.mp fun hnone =>
      toQuantity_ne_undefined n (Quantity.place?_eq_none_iff.mp hnone)
  obtain ⟨a, ha⟩ := hplace m
  obtain ⟨b, hb⟩ := hplace n
  rw [Quantity.order?_eq_some ha hb, ha, hb, beq_iff_eq, Option.some_inj, Option.some_inj,
    compare_eq_iff_eq]

mutual

private theorem looselyEqual_iff_outline (v w : Value) :
    v.looselyEqual w = true ↔ v.outline = w.outline :=
  match v, w with
  | .null, w => by cases w <;> simp [looselyEqual, outline]
  | .bool a, w => by cases w <;> simp [looselyEqual, outline]
  | .number m, .number n => by
    rw [looselyEqual, place_eq_iff, outline, outline, Outline.number.injEq]
  | .text s, w => by cases w <;> simp [looselyEqual, outline]
  | .array vs, .array ws => by
    rw [looselyEqual, outline, outline, itemOutlines_eq_iff vs ws, Outline.array.injEq]
  | .object as, .object bs => by
    rw [looselyEqual, outline, outline, memberOutlines_eq_iff as bs, Outline.object.injEq]
  | .number _, .null | .number _, .bool _ | .number _, .text _ => iff_of_false nofun nofun
  | .number _, .array _ | .number _, .object _ => iff_of_false nofun nofun
  | .array _, .null | .array _, .bool _ | .array _, .number _ => iff_of_false nofun nofun
  | .array _, .text _ | .array _, .object _ => iff_of_false nofun nofun
  | .object _, .null | .object _, .bool _ | .object _, .number _ => iff_of_false nofun nofun
  | .object _, .text _ | .object _, .array _ => iff_of_false nofun nofun

private theorem itemOutlines_eq_iff (vs ws : List Value) :
    looselyEqualItems vs ws = true ↔ itemOutlines vs = itemOutlines ws :=
  match vs, ws with
  | [], [] => iff_of_true rfl rfl
  | [], _ :: _ | _ :: _, [] => iff_of_false nofun nofun
  | v :: vs, w :: ws => by
    rw [looselyEqualItems, Bool.and_eq_true, looselyEqual_iff_outline v w,
      itemOutlines_eq_iff vs ws, itemOutlines, itemOutlines, List.cons.injEq]

private theorem memberOutlines_eq_iff (as bs : List (Text × Value)) :
    looselyEqualMembers as bs = true ↔ memberOutlines as = memberOutlines bs :=
  match as, bs with
  | [], [] => iff_of_true rfl rfl
  | [], _ :: _ | _ :: _, [] => iff_of_false nofun nofun
  | (k, v) :: as, (l, w) :: bs => by
    rw [looselyEqualMembers, Bool.and_eq_true, Bool.and_eq_true, beq_iff_eq,
      looselyEqual_iff_outline v w, memberOutlines_eq_iff as bs, memberOutlines, memberOutlines,
      List.cons.injEq, Prod.mk.injEq]

end

private theorem place_eq_of_same {m n : Number} (h : m.same n = true) :
    m.toQuantity.place? = n.toQuantity.place? := by
  cases m with
  | int m =>
    cases n with
    | int n => rw [show m = n from beq_iff_eq.mp h]
    | real y => cases h
  | real x =>
    cases n with
    | int n => cases h
    | real y =>
      have hvalue : x.value = y.value := beq_iff_eq.mp h
      simp only [Number.toQuantity, Quantity.place?, hvalue]

mutual

private theorem outline_eq_of_same (v w : Value) (h : v.same w = true) : v.outline = w.outline :=
  match v, w with
  | .null, w => by cases w <;> simp_all [same, outline]
  | .bool a, w => by cases w <;> simp_all [same, outline]
  | .number m, .number n => congrArg Outline.number (place_eq_of_same h)
  | .text s, w => by cases w <;> simp_all [same, outline]
  | .array vs, .array ws => congrArg Outline.array (itemOutlines_eq_of_same vs ws h)
  | .object as, .object bs => congrArg Outline.object (memberOutlines_eq_of_same as bs h)

private theorem itemOutlines_eq_of_same (vs ws : List Value) (h : sameItems vs ws = true) :
    itemOutlines vs = itemOutlines ws :=
  match vs, ws with
  | [], [] => rfl
  | v :: vs, w :: ws => by
    obtain ⟨hv, hvs⟩ := Bool.and_eq_true_iff.mp h
    rw [itemOutlines, itemOutlines, outline_eq_of_same v w hv, itemOutlines_eq_of_same vs ws hvs]

private theorem memberOutlines_eq_of_same (as bs : List (Text × Value))
    (h : sameMembers as bs = true) :
    memberOutlines as = memberOutlines bs :=
  match as, bs with
  | [], [] => rfl
  | (k, v) :: as, (l, w) :: bs => by
    obtain ⟨hfirst, has⟩ := Bool.and_eq_true_iff.mp h
    obtain ⟨hk, hv⟩ := Bool.and_eq_true_iff.mp hfirst
    rw [memberOutlines, memberOutlines, outline_eq_of_same v w hv, beq_iff_eq.mp hk,
      memberOutlines_eq_of_same as bs has]

end

private theorem itemOutlines_append (vs ws : List Value) :
    itemOutlines (vs ++ ws) = itemOutlines vs ++ itemOutlines ws := by
  induction vs with
  | nil => rfl
  | cons v vs ih => rw [List.cons_append, itemOutlines, ih, itemOutlines, List.cons_append]

private theorem memberOutlines_append (as bs : List (Text × Value)) :
    memberOutlines (as ++ bs) = memberOutlines as ++ memberOutlines bs := by
  induction as with
  | nil => rfl
  | cons a as ih => rw [List.cons_append, memberOutlines, ih, memberOutlines, List.cons_append]

/-! ### Objects by key -/

theorem looselyEqualMembers_iff {as bs : List (Text × Value)} :
    looselyEqualMembers as bs = true ↔
      List.Forall₂ (fun a b => a.1 = b.1 ∧ a.2.looselyEqual b.2 = true) as bs := by
  induction as generalizing bs with
  | nil => cases bs <;> simp [looselyEqualMembers]
  | cons a as ih => cases bs <;> simp [looselyEqualMembers, ih]

end Value

namespace Table

variable {α : Type} {key : Text} {value : α} {as bs : Table α}

instance (table : Table α) : Decidable table.Ascending :=
  inferInstanceAs (Decidable (List.Pairwise (fun a b => a.1 < b.1) table))

private theorem Ascending.exists_parts (h : as.Ascending) (hk : as.get? key = some value) :
    ∃ front back, as = front ++ (key, value) :: back ∧
      ∀ other, as.set key other = front ++ (key, other) :: back := by
  induction as with
  | nil => cases hk
  | cons entry rest ih =>
    obtain ⟨k, v⟩ := entry
    obtain ⟨hfirst, hrest⟩ := List.pairwise_cons.mp h
    by_cases hkey : k = key
    · subst hkey
      obtain rfl : v = value := by simpa [get?] using hk
      exact ⟨[], rest, rfl, fun other => by simp [set]⟩
    · rw [get?, if_neg hkey] at hk
      obtain ⟨front, back, hparts, hset⟩ := ih hrest hk
      have hlt : ¬ key < k := List.lt_asymm (hfirst _ (mem_of_get? hk))
      refine ⟨(k, v) :: front, back, by rw [hparts, List.cons_append], fun other => ?_⟩
      rw [set, if_neg hkey, if_neg hlt, hset, List.cons_append]

private theorem Ascending.nodup_keys (h : as.Ascending) : as.keys.Nodup := by
  rw [keys, List.Nodup, List.pairwise_map]
  refine h.imp fun {a b} hlt heq => ?_
  rw [heq] at hlt
  exact List.lt_irrefl b.1 hlt

private theorem Ascending.keys_eq (ha : as.Ascending) (hb : bs.Ascending)
    (hl : as.length = bs.length) (hs : as.keys ⊆ bs.keys) : as.keys = bs.keys := by
  have hlength : bs.keys.length ≤ as.keys.length := by simp [keys, hl]
  have hperm : as.keys.Perm bs.keys :=
    (List.subperm_of_subset ha.nodup_keys hs).perm_of_length_le hlength
  refine hperm.eq_of_pairwise (fun k l _ _ hk hl => ?_) (List.pairwise_map.mpr ha)
    (List.pairwise_map.mpr hb)
  exact absurd hk (List.lt_asymm hl)

end Table

namespace Value

variable {as bs : Fields} {u v w : Value}

private theorem exists_of_get? (h : looselyEqualMembers as bs = true) {key : Text}
    (hk : as.get? key = some v) : ∃ w, bs.get? key = some w ∧ v.looselyEqual w = true := by
  rw [looselyEqualMembers_iff] at h
  induction h with
  | nil => cases hk
  | @cons a b as bs hab _ ih =>
    obtain ⟨k, x⟩ := a
    obtain ⟨l, y⟩ := b
    obtain ⟨rfl, hxy⟩ := hab
    rw [Table.get?] at hk ⊢
    split at hk
    · next hkey =>
      cases hk
      exact ⟨y, if_pos hkey, hxy⟩
    · next hkey =>
      rw [if_neg hkey]
      exact ih hk

/-- It is enough to look from one side, if the objects have as many members. -/
theorem looselyEqual_object_iff (ha : Table.Ascending as) (hb : Table.Ascending bs) :
    (object as).looselyEqual (object bs) = true ↔ as.length = bs.length ∧
      ∀ key v, as.get? key = some v → ∃ w, bs.get? key = some w ∧ v.looselyEqual w = true := by
  rw [looselyEqual]
  constructor
  · intro h
    exact ⟨(looselyEqualMembers_iff.mp h).length_eq, fun key v hk => exists_of_get? h hk⟩
  · rintro ⟨hl, hlookup⟩
    have hsubset : Table.keys as ⊆ Table.keys bs := by
      intro key hk
      obtain ⟨v, hv⟩ := Option.isSome_iff_exists.mp (Table.has_iff_mem_keys.mpr hk)
      obtain ⟨w, hw, -⟩ := hlookup key v hv
      exact Table.has_iff_mem_keys.mp (Option.isSome_iff_exists.mpr ⟨w, hw⟩)
    have hkeys := ha.keys_eq hb hl hsubset
    rw [looselyEqualMembers_iff, List.forall₂_iff_get]
    refine ⟨hl, fun i hi hj => ?_⟩
    have hkey : (as.get ⟨i, hi⟩).1 = (bs.get ⟨i, hj⟩).1 := by
      have hget := congrArg (fun keys => keys[i]?) hkeys
      simpa [Table.keys, hi, hj] using hget
    obtain ⟨w, hw, hvw⟩ := hlookup _ _ (ha.get?_of_mem (as.get_mem ⟨i, hi⟩))
    rw [hkey, hb.get?_of_mem (bs.get_mem ⟨i, hj⟩)] at hw
    cases hw
    exact ⟨hkey, hvw⟩

/-! ### The laws of loose equality -/

private theorem looselyEqual_comm (v w : Value) : v.looselyEqual w = w.looselyEqual v := by
  rw [Bool.eq_iff_iff, looselyEqual_iff_outline, looselyEqual_iff_outline]
  exact eq_comm

private theorem looselyEqual_array_append {front back : List Value} (h : v.looselyEqual w = true) :
    (array (front ++ v :: back)).looselyEqual (array (front ++ w :: back)) = true := by
  rw [looselyEqual_iff_outline] at h ⊢
  simp only [outline, itemOutlines_append, itemOutlines, h]

private theorem looselyEqual_object_set {members : Fields} {key : Text}
    (ha : Table.Ascending members) (hk : members.get? key = some v)
    (h : v.looselyEqual w = true) :
    (object members).looselyEqual (object (members.set key w)) = true := by
  obtain ⟨front, back, hparts, hset⟩ := ha.exists_parts hk
  rw [hset w, hparts]
  rw [looselyEqual_iff_outline] at h ⊢
  simp only [outline, memberOutlines_append, memberOutlines, h]

private theorem exists_holds?_comm {comparison : Comparison}
    (h : comparison = .equal ∨ comparison = .unequal) (v w : Value) :
    ∃ result, comparison.holds? v w = some result ∧ comparison.holds? w v = some result := by
  rcases h with rfl | rfl
  · exact ⟨_, rfl, congrArg some (looselyEqual_comm w v)⟩
  · exact ⟨_, rfl, congrArg (fun b => some !b) (looselyEqual_comm w v)⟩

/-- Loose equality is an equivalence that takes same values together and keeps to the parts of a
value. Of two objects it asks for as many members and, by each key of one, for loosely equal values
in both. A condition on it comes to the same with its operands turned around. -/
theorem looselyEqual_equivalence :
    (∀ v : Value, v.looselyEqual v = true) ∧
    (∀ v w : Value, v.looselyEqual w = true → w.looselyEqual v = true) ∧
    (∀ u v w : Value, u.looselyEqual v = true → v.looselyEqual w = true →
      u.looselyEqual w = true) ∧
    (∀ v w : Value, v.same w = true → v.looselyEqual w = true) ∧
    (∀ (front back : List Value) (v w : Value), v.looselyEqual w = true →
      (array (front ++ v :: back)).looselyEqual (array (front ++ w :: back)) = true) ∧
    (∀ (members : Fields) (key : Text) (v w : Value), Table.Ascending members →
      members.get? key = some v → v.looselyEqual w = true →
      (object members).looselyEqual (object (members.set key w)) = true) ∧
    (∀ as bs : Fields, Table.Ascending as → Table.Ascending bs →
      ((object as).looselyEqual (object bs) = true ↔ as.length = bs.length ∧
        ∀ key v, as.get? key = some v → ∃ w, bs.get? key = some w ∧ v.looselyEqual w = true)) ∧
    ∀ (context : Context) (condition turned left right : Text) (comparison : Comparison),
      comparison = .equal ∨ comparison = .unequal →
      Condition.Compares condition left comparison right →
      Condition.Compares turned right comparison left →
      Condition.evaluate context condition = Condition.evaluate context turned := by
  refine ⟨?_, ?_, ?_, ?_, ?_, ?_, ?_, ?_⟩
  · intro v
    exact (looselyEqual_iff_outline v v).mpr rfl
  · intro v w h
    rwa [looselyEqual_comm w v]
  · intro u v w huv hvw
    rw [looselyEqual_iff_outline] at huv hvw ⊢
    exact huv.trans hvw
  · intro v w h
    exact (looselyEqual_iff_outline v w).mpr (outline_eq_of_same v w h)
  · intro front back v w h
    exact looselyEqual_array_append h
  · intro members key v w ha hk h
    exact looselyEqual_object_set ha hk h
  · intro as bs ha hb
    exact looselyEqual_object_iff ha hb
  · intro context condition turned left right comparison hcomparison hcondition hturned
    obtain ⟨result, hresult, hresult'⟩ := exists_holds?_comm hcomparison
      (Condition.operand context left) (Condition.operand context right)
    rw [hcondition.evaluate hresult, hturned.evaluate hresult']

/-- The number two of either kind and zeros of either sign, in arrays and in members of objects. -/
theorem looselyEqual_equivalence_mixed :
    let two : Value := .int 2
    let twoReal : Value := .number (.real ⟨false, 2 * Double.unitsPerOne⟩)
    let minusZero : Value := .number (.real ⟨true, 0⟩)
    let zeroReal : Value := .number (.real ⟨false, 0⟩)
    let row : Value := .array [.text "x", two, .null]
    let rowReal : Value := .array [.text "x", twoReal, .null]
    let members : Fields := [("a", .int 0), ("b", row)]
    let others : Fields := [("a", minusZero), ("b", rowReal)]
    let context : Context := { site := ".", data := [("left", row), ("right", twoReal)] }
    (two.looselyEqual twoReal = true ∧ twoReal.looselyEqual two = true ∧
      two.looselyEqual two = true) ∧
    (minusZero.same zeroReal = true ∧ minusZero.looselyEqual zeroReal = true) ∧
    row.looselyEqual rowReal = true ∧
    (Table.Ascending members ∧ members.get? "b" = some row ∧
      (object members).looselyEqual (object (members.set "b" rowReal)) = true) ∧
    (Table.Ascending others ∧ (object members).looselyEqual (object others) = true ∧
      ∃ w, others.get? "b" = some w ∧ row.looselyEqual w = true) ∧
    Condition.evaluate context ".left != .right" =
      Condition.evaluate context ".right != .left" := by
  intro two twoReal minusZero zeroReal row rowReal members others context
  obtain ⟨-, hsymm, htrans, hsame, harray, hobject, hlookups, hconditions⟩ :=
    looselyEqual_equivalence
  have htwo : two.looselyEqual twoReal = true := by decide +kernel
  have hback := hsymm two twoReal htwo
  have hzero : minusZero.same zeroReal = true := by decide
  have hrow := harray [.text "x"] [.null] two twoReal htwo
  have hmembers : Table.Ascending members := by decide
  have hothers : Table.Ascending others := by decide
  have hb : members.get? "b" = some row := rfl
  have hall : (object members).looselyEqual (object others) = true := by decide +kernel
  have hleft : Condition.Compares ".left != .right" ".left" .unequal ".right" :=
    ⟨"!=", by decide, by decide⟩
  have hright : Condition.Compares ".right != .left" ".right" .unequal ".left" :=
    ⟨"!=", by decide, by decide⟩
  exact ⟨⟨htwo, hback, htrans two twoReal two htwo hback⟩, ⟨hzero, hsame _ _ hzero⟩, hrow,
    ⟨hmembers, hb, hobject members "b" row rowReal hmembers hb hrow⟩,
    ⟨hothers, hall, ((hlookups members others hmembers hothers).mp hall).2 "b" row hb⟩,
    hconditions context _ _ _ _ .unequal (.inr rfl) hleft hright⟩

end Value
end Stencil
