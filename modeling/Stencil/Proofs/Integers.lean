import Stencil.Proofs.LooseEquality
import Stencil.Proofs.Rounding
import Mathlib.Algebra.Order.Ring.Int
/-!
# Integers in conditions

Conditions compare integers as doubles, which have 53 bits. So they compare the integers that the
doubles stand for: the order of two integers is never turned around, but two that share a double are
taken for equal. Integers share a double only if neither is below 2^53 in size and they are at most
2048 apart.
-/
namespace Stencil

/-- The integer can be written in 64 bits, with a sign or without. -/
def FitsWord (n : Int) : Prop := -0x8000000000000000 ≤ n ∧ n ≤ 0xffffffffffffffff

instance (n : Int) : Decidable (FitsWord n) := inferInstanceAs (Decidable (_ ∧ _))

private theorem FitsWord.natAbs_lt {n : Int} (h : FitsWord n) : n.natAbs < 2 ^ 64 := by
  obtain ⟨hlow, hhigh⟩ := h
  omega

namespace Double

open Quantity

variable {a b n : Int}

/-! ### The integer of a double -/

/-- The integer that the double nearest to `n` stands for. -/
def nearestInt (n : Int) : Int :=
  let size : Nat := roundUnits n.natAbs 1
  if n < 0 then -(size : Int) else size

/-- The integers are equal if they share a double. -/
def ToldApart (a b : Int) : Prop := nearestInt a = nearestInt b → a = b

instance (a b : Int) : Decidable (ToldApart a b) := inferInstanceAs (Decidable (_ → _))

private theorem ToldApart.symm (h : ToldApart a b) : ToldApart b a := fun heq => (h heq.symm).symm

private theorem nearestInt_mono (h : a ≤ b) : nearestInt a ≤ nearestInt b := by
  simp only [nearestInt]
  split
  · next ha =>
    split
    · next hb =>
      have hround := roundUnits_mono (show b.natAbs ≤ a.natAbs by omega)
      omega
    · omega
  · next ha =>
    have hround := roundUnits_mono (show a.natAbs ≤ b.natAbs by omega)
    rw [if_neg (by omega)]
    omega

private theorem nearestInt_eq_iff (h : ToldApart a b) : nearestInt a = nearestInt b ↔ a = b :=
  ⟨h, congrArg nearestInt⟩

private theorem nearestInt_lt_iff (h : ToldApart a b) : nearestInt a < nearestInt b ↔ a < b := by
  constructor
  · intro hlt
    by_contra hle
    exact absurd hlt (nearestInt_mono (not_lt.mp hle)).not_gt
  · intro hlt
    refine lt_of_le_of_ne (nearestInt_mono hlt.le) fun heq => ?_
    exact absurd (h heq) hlt.ne

private theorem nearestInt_eq_self (h : n.natAbs < 2 ^ 53) : nearestInt n = n := by
  have hspacing : spacing n.natAbs = 0 := Nat.le_zero.mp (spacing_le h)
  have hround : roundUnits n.natAbs 1 = n.natAbs :=
    roundUnits_of_dvd (by rw [hspacing]; exact Nat.one_dvd _)
  rw [nearestInt, hround]
  split <;> omega

private theorem natAbs_nearestInt (n : Int) : (nearestInt n).natAbs = roundUnits n.natAbs 1 := by
  rw [nearestInt]
  split <;> omega

private theorem nearestInt_near (h : FitsWord n) : (nearestInt n - n).natAbs ≤ 1024 := by
  have hspacing : spacing n.natAbs ≤ 11 := spacing_le h.natAbs_lt
  have hgap : 2 ^ spacing n.natAbs ≤ 2 ^ 11 := Nat.pow_le_pow_right (by decide) hspacing
  obtain ⟨hlow, hhigh⟩ := roundUnits_near n.natAbs
  rw [nearestInt]
  split <;> omega

private theorem toldApart_of_small (h : a.natAbs < 2 ^ 53) (b : Int) : ToldApart a b := by
  intro heq
  by_cases hb : b.natAbs < 2 ^ 53
  · rwa [nearestInt_eq_self h, nearestInt_eq_self hb] at heq
  · -- 2^53 is a double, so what is not below it is not rounded to below it.
    have hround : roundUnits (2 ^ 53) 1 = 2 ^ 53 :=
      roundUnits_of_dvd (Nat.pow_dvd_pow 2 (spacing_le (by decide)))
    have hmono := roundUnits_mono (Nat.le_of_not_lt hb)
    rw [hround, ← natAbs_nearestInt, ← heq, nearestInt_eq_self h] at hmono
    omega

private theorem toldApart_of_far (ha : FitsWord a) (hb : FitsWord b) (h : 2048 < (a - b).natAbs) :
    ToldApart a b := by
  intro heq
  have hnear := nearestInt_near ha
  have hnear' := nearestInt_near hb
  omega

end Double

namespace Quantity

open Double

variable {a b n : Int}

private theorem ofInt_eq (h : FitsWord n) :
    ofInt n = .finite ⟨n < 0, roundUnits n.natAbs 1 * unitsPerOne⟩ := by
  have hspacing : spacing n.natAbs ≤ 11 := spacing_le h.natAbs_lt
  have hsize : roundUnits n.natAbs 1 ≤ 2 ^ 64 :=
    roundUnits_le h.natAbs_lt.le (Nat.pow_dvd_pow 2 (hspacing.trans (by decide)))
  have hlimit : roundUnits n.natAbs 1 * unitsPerOne < unitsLimit := by
    obtain ⟨k, l, hone, hlimit, hl⟩ := exists_exponents
    rw [hone, hlimit]
    calc
      roundUnits n.natAbs 1 * 2 ^ k ≤ 2 ^ 64 * 2 ^ k := Nat.mul_le_mul_right _ hsize
      _ = 2 ^ (64 + k) := (Nat.pow_add 2 64 k).symm
      _ < 2 ^ l := Nat.pow_lt_pow_right (by decide) (by omega)
  rw [ofInt, ofRatio, ofUnitsRatio, roundUnits_mul_unitsPerOne]
  exact if_pos hlimit

private theorem order?_ofInt (ha : FitsWord a) (hb : FitsWord b) :
    (ofInt a).order? (ofInt b) = some (compare (nearestInt a) (nearestInt b)) := by
  have hvalue (n : Int) : (Double.mk (n < 0) (roundUnits n.natAbs 1 * unitsPerOne)).value =
      nearestInt n * unitsPerOne := by
    rw [Double.value, nearestInt, Nat.cast_mul]
    by_cases hn : n < 0
    · simp only [hn, decide_true, if_true, neg_mul]
    · simp only [hn, decide_false, Bool.false_eq_true, if_false]
  have hpos : (0 : Int) < unitsPerOne := by
    obtain ⟨k, -, hone, -⟩ := exists_exponents
    rw [hone]
    exact Int.natCast_pos.mpr (Nat.two_pow_pos k)
  rw [ofInt_eq ha, ofInt_eq hb, order?, hvalue, hvalue, ← cmp_eq_compare, ← cmp_eq_compare,
    cmp_mul_pos_right hpos]

end Quantity

/-! ### Comparisons of integers -/

namespace Comparison

open Double

variable {α : Type} [LinearOrder α] {a b : Int}

/-- What a condition with this comparison says. -/
def Relates (a b : α) : Comparison → Prop
  | equal => a = b
  | unequal => a ≠ b
  | order test => test.Relates a b

instance (comparison : Comparison) (a b : α) : Decidable (comparison.Relates a b) :=
  match comparison with
  | equal => inferInstanceAs (Decidable (a = b))
  | unequal => inferInstanceAs (Decidable (a ≠ b))
  | order .less => inferInstanceAs (Decidable (a < b))
  | order .atMost => inferInstanceAs (Decidable (a ≤ b))
  | order .more => inferInstanceAs (Decidable (b < a))
  | order .atLeast => inferInstanceAs (Decidable (b ≤ a))

private theorem relates_nearestInt_iff (h : ToldApart a b) (comparison : Comparison) :
    comparison.Relates (nearestInt a) (nearestInt b) ↔ comparison.Relates a b := by
  have hless := nearestInt_lt_iff h
  have hmore := nearestInt_lt_iff h.symm
  cases comparison with
  | equal => exact nearestInt_eq_iff h
  | unequal => exact not_congr (nearestInt_eq_iff h)
  | order test =>
    cases test with
    | less => exact hless
    | atMost => exact not_lt.symm.trans ((not_congr hmore).trans not_lt)
    | more => exact hmore
    | atLeast => exact not_lt.symm.trans ((not_congr hless).trans not_lt)

end Comparison

namespace Value

open Double

variable {a b : Int}

private theorem looselyEqual_int (ha : FitsWord a) (hb : FitsWord b) :
    (int a).looselyEqual (int b) = true ↔ nearestInt a = nearestInt b := by
  rw [int, int, looselyEqual, Number.toQuantity, Number.toQuantity, Quantity.order?_ofInt ha hb,
    beq_iff_eq, Option.some_inj, compare_eq_iff_eq]

private theorem holds?_int (ha : FitsWord a) (hb : FitsWord b) (comparison : Comparison) :
    comparison.holds? (int a) (int b) =
      some (decide (comparison.Relates (nearestInt a) (nearestInt b))) := by
  have hequal := looselyEqual_int ha hb
  cases comparison with
  | equal => exact congrArg some (Bool.eq_iff_iff.mpr (hequal.trans decide_eq_true_iff.symm))
  | unequal =>
    refine congrArg some (Bool.eq_iff_iff.mpr ?_)
    rw [Bool.not_eq_true', Bool.eq_false_iff, decide_eq_true_iff, Ne, hequal]
    exact Iff.rfl
  | order test =>
    have horder : (Comparison.order test).holds? (int a) (int b) =
        some (test.holds ((Quantity.ofInt a).order? (Quantity.ofInt b))) := rfl
    rw [horder, Quantity.order?_ofInt ha hb]
    refine congrArg some (Bool.eq_iff_iff.mpr ?_)
    rw [test.holds_compare, decide_eq_true_iff]
    exact Iff.rfl

private theorem forall₂_iff_pairs {α β : Type} {R : α → β → Prop} {as : List α} {bs : List β} :
    List.Forall₂ R as bs ↔ as.length = bs.length ∧ ∀ pair ∈ as.zip bs, R pair.1 pair.2 := by
  rw [List.forall₂_iff_zip, Prod.forall]

private theorem looselyEqualItems_iff {vs ws : List Value} :
    looselyEqualItems vs ws = true ↔ List.Forall₂ (fun v w => v.looselyEqual w = true) vs ws := by
  induction vs generalizing ws with
  | nil => cases ws <;> simp [looselyEqualItems]
  | cons v vs ih => cases ws <;> simp [looselyEqualItems, ih]

def intArray (items : List Int) : Value := array (items.map int)

def intObject (members : Table Int) : Value := object (members.map fun (key, n) => (key, int n))

private theorem looselyEqual_intArray {as bs : List Int} (ha : ∀ a ∈ as, FitsWord a)
    (hb : ∀ b ∈ bs, FitsWord b) :
    (intArray as).looselyEqual (intArray bs) = true ↔
      as.length = bs.length ∧ ∀ pair ∈ as.zip bs, nearestInt pair.1 = nearestInt pair.2 := by
  rw [intArray, intArray, looselyEqual, looselyEqualItems_iff, List.forall₂_map_left_iff,
    List.forall₂_map_right_iff, forall₂_iff_pairs]
  refine and_congr_right fun _ => forall₂_congr fun pair hpair => ?_
  obtain ⟨hleft, hright⟩ := List.of_mem_zip hpair
  exact looselyEqual_int (ha pair.1 hleft) (hb pair.2 hright)

private theorem looselyEqual_intObject {as bs : Table Int} (ha : ∀ a ∈ as, FitsWord a.2)
    (hb : ∀ b ∈ bs, FitsWord b.2) :
    (intObject as).looselyEqual (intObject bs) = true ↔ as.length = bs.length ∧
      ∀ pair ∈ as.zip bs, pair.1.1 = pair.2.1 ∧ nearestInt pair.1.2 = nearestInt pair.2.2 := by
  rw [intObject, intObject, looselyEqual, looselyEqualMembers_iff, List.forall₂_map_left_iff,
    List.forall₂_map_right_iff, forall₂_iff_pairs]
  refine and_congr_right fun _ => forall₂_congr fun pair hpair => ?_
  obtain ⟨hleft, hright⟩ := List.of_mem_zip hpair
  exact and_congr_right fun _ => looselyEqual_int (ha pair.1 hleft) (hb pair.2 hright)

private theorem eq_of_looselyEqual_intArray {as bs : List Int} (ha : ∀ a ∈ as, FitsWord a)
    (hb : ∀ b ∈ bs, FitsWord b) (hapart : ∀ pair ∈ as.zip bs, ToldApart pair.1 pair.2)
    (h : (intArray as).looselyEqual (intArray bs) = true) : as = bs := by
  obtain ⟨hlength, hpairs⟩ := (looselyEqual_intArray ha hb).mp h
  rw [← List.forall₂_eq_eq_eq, forall₂_iff_pairs]
  exact ⟨hlength, fun pair hpair => hapart pair hpair (hpairs pair hpair)⟩

private theorem eq_of_looselyEqual_intObject {as bs : Table Int} (ha : ∀ a ∈ as, FitsWord a.2)
    (hb : ∀ b ∈ bs, FitsWord b.2) (hapart : ∀ pair ∈ as.zip bs, ToldApart pair.1.2 pair.2.2)
    (h : (intObject as).looselyEqual (intObject bs) = true) : as = bs := by
  obtain ⟨hlength, hpairs⟩ := (looselyEqual_intObject ha hb).mp h
  rw [← List.forall₂_eq_eq_eq, forall₂_iff_pairs]
  refine ⟨hlength, fun pair hpair => ?_⟩
  obtain ⟨hkey, hnear⟩ := hpairs pair hpair
  exact Prod.ext hkey (hapart pair hpair hnear)

end Value

namespace Condition

open Double

/-! ### The law of integers in conditions -/

/-- Conditions on integers of 64 bits say of them what is true of the integers that their doubles
stand for. This is true of the integers themselves exactly if the two do not share a double, as it
is if one is below 2^53 in size or they are more than 2048 apart. Loose equality of arrays and
objects goes by the same. -/
theorem integers_compared {a b : Int} (ha : FitsWord a) (hb : FitsWord b) :
    (∀ (context : Context) (condition left right : Text) (comparison : Comparison),
      operand context left = .int a → operand context right = .int b →
      Compares condition left comparison right →
      evaluate context condition =
        .ok (decide (comparison.Relates (nearestInt a) (nearestInt b))) ∧
      (ToldApart a b → evaluate context condition = .ok (decide (comparison.Relates a b)))) ∧
    (ToldApart a b ↔ ∀ comparison : Comparison,
      comparison.holds? (.int a) (.int b) = some (decide (comparison.Relates a b))) ∧
    (a.natAbs < 2 ^ 53 ∨ b.natAbs < 2 ^ 53 ∨ 2048 < (a - b).natAbs → ToldApart a b) ∧
    (∀ as bs : List Int, (∀ n ∈ as, FitsWord n) → (∀ n ∈ bs, FitsWord n) →
      ((Value.intArray as).looselyEqual (Value.intArray bs) = true ↔
        as.length = bs.length ∧ ∀ pair ∈ as.zip bs, nearestInt pair.1 = nearestInt pair.2) ∧
      ((∀ pair ∈ as.zip bs, ToldApart pair.1 pair.2) →
        (Value.intArray as).looselyEqual (Value.intArray bs) = true → as = bs)) ∧
    ∀ as bs : Table Int, (∀ n ∈ as, FitsWord n.2) → (∀ n ∈ bs, FitsWord n.2) →
      ((Value.intObject as).looselyEqual (Value.intObject bs) = true ↔ as.length = bs.length ∧
        ∀ pair ∈ as.zip bs, pair.1.1 = pair.2.1 ∧ nearestInt pair.1.2 = nearestInt pair.2.2) ∧
      ((∀ pair ∈ as.zip bs, ToldApart pair.1.2 pair.2.2) →
        (Value.intObject as).looselyEqual (Value.intObject bs) = true → as = bs) := by
  have hholds (comparison : Comparison) := Value.holds?_int ha hb comparison
  have hexact (hapart : ToldApart a b) (comparison : Comparison) :
      comparison.holds? (.int a) (.int b) = some (decide (comparison.Relates a b)) := by
    rw [hholds, decide_eq_decide.mpr (comparison.relates_nearestInt_iff hapart)]
  refine ⟨?_, ⟨hexact, ?_⟩, ?_, ?_, ?_⟩
  · intro context condition left right comparison hleft hright hcondition
    rw [← hleft, ← hright] at hholds hexact
    exact ⟨hcondition.evaluate (hholds comparison),
      fun hapart => hcondition.evaluate (hexact hapart comparison)⟩
  · intro h heq
    have hequal := h .equal
    rw [hholds, Option.some_inj, decide_eq_decide] at hequal
    exact hequal.mp heq
  · rintro (h | h | h)
    · exact toldApart_of_small h b
    · exact (toldApart_of_small h a).symm
    · exact toldApart_of_far ha hb h
  · intro as bs has hbs
    exact ⟨Value.looselyEqual_intArray has hbs, Value.eq_of_looselyEqual_intArray has hbs⟩
  · intro as bs has hbs
    exact ⟨Value.looselyEqual_intObject has hbs, Value.eq_of_looselyEqual_intObject has hbs⟩

/-- The least signed and the greatest unsigned integer of 64 bits, and integers past 2^53 that are
far enough apart. -/
theorem integers_compared_extremes :
    let low : Int := -0x8000000000000000
    let high : Int := 0xffffffffffffffff
    let context : Context := { site := ".", data := [("a", .int low), ("b", .int high)] }
    (FitsWord low ∧ FitsWord high ∧ ToldApart low high) ∧
      evaluate context ".a < .b" = .ok true ∧
      (Value.intArray [7, high]).looselyEqual (Value.intArray [7, high - 4096]) = false ∧
      (Value.intObject [("k", low)]).looselyEqual (Value.intObject [("k", low + 4096)]) =
        false := by
  intro low high context
  have hlow : FitsWord low := by decide
  have hhigh : FitsWord high := by decide
  obtain ⟨hconditions, -, hapart, harrays, hobjects⟩ := integers_compared hlow hhigh
  have hless : Compares ".a < .b" ".a" (.order .less) ".b" := ⟨"<", by decide, by decide⟩
  have hlh : ToldApart low high := hapart (.inr (.inr (by decide)))
  refine ⟨⟨hlow, hhigh, hlh⟩, ?_, ?_, ?_⟩
  · exact (hconditions context _ _ _ _ rfl rfl hless).2 hlh
  · rw [Bool.eq_false_iff]
    intro h
    have heq := (harrays [7, high] [7, high - 4096] (by decide) (by decide)).2 (by decide) h
    exact absurd heq (by decide)
  · rw [Bool.eq_false_iff]
    intro h
    have heq := (hobjects [("k", low)] [("k", low + 4096)] (by decide) (by decide)).2 (by decide) h
    exact absurd heq (by decide)

/-- 2^53 and the next integer are taken for equal, side by side and in arrays and objects. -/
theorem neighbours_taken_for_equal :
    let a : Int := 0x20000000000000
    let b : Int := 0x20000000000001
    let context : Context := { site := ".", data := [("a", .int a), ("b", .int b)] }
    a < b ∧ evaluate context ".a == .b" = .ok true ∧ evaluate context ".a < .b" = .ok false ∧
      (Value.intArray [a]).looselyEqual (Value.intArray [b]) = true ∧
      (Value.intObject [("k", a)]).looselyEqual (Value.intObject [("k", b)]) = true := by
  decide +kernel

end Condition
end Stencil
