import Stencil.Condition
import Mathlib.Order.Compare
import Mathlib.Order.WithBot
import Mathlib.Data.Int.Order.Basic
/-!
# The order of numbers

Every quantity but one has its place on a line with an infinity at either end, and two quantities
compare as their places do. So the order of values that count as numbers is total and transitive,
and of two opposite conditions one holds. The exception is a text that names what is no number: it
counts as one, but it stands in no order to anything, itself included.
-/
namespace Stencil

/-- Places between the two infinities. -/
def Place := WithBot (WithTop ℤ)

namespace Place

instance : LinearOrder Place :=
  @WithBot.linearOrder (WithTop ℤ) (@WithTop.linearOrder ℤ Int.instLinearOrder)

def ofInt (n : ℤ) : Place := WithBot.some (WithTop.some n)

def lowest : Place := (⊥ : WithBot (WithTop ℤ))

def highest : Place := WithBot.some (⊤ : WithTop ℤ)

private theorem ofInt_lt_ofInt {m n : ℤ} : ofInt m < ofInt n ↔ m < n :=
  WithBot.coe_lt_coe.trans WithTop.coe_lt_coe

private theorem compare_ofInt (m n : ℤ) : compare (ofInt m) (ofInt n) = compare m n := by
  rcases lt_trichotomy m n with h | rfl | h
  · rw [compare_lt_iff_lt.mpr h, compare_lt_iff_lt, ofInt_lt_ofInt]
    exact h
  · exact (compare_eq_iff_eq.mpr rfl).trans (compare_eq_iff_eq.mpr rfl).symm
  · rw [compare_gt_iff_gt.mpr h, compare_gt_iff_gt, ofInt_lt_ofInt]
    exact h

private theorem lowest_lt_ofInt (n : ℤ) : lowest < ofInt n := WithBot.bot_lt_coe _

private theorem ofInt_lt_highest (n : ℤ) : ofInt n < highest :=
  WithBot.coe_lt_coe.mpr (WithTop.coe_lt_top n)

private theorem lowest_lt_highest : lowest < highest := WithBot.bot_lt_coe _

end Place

namespace Quantity

/-- Where a quantity stands. -/
def place? : Quantity → Option Place
  | finite x => some (.ofInt x.value)
  | infinite negative => some (if negative then .lowest else .highest)
  | undefined => none

theorem place?_eq_none_iff {q : Quantity} : q.place? = none ↔ q = undefined := by
  cases q <;> simp [place?]

private theorem order?_eq (q r : Quantity) :
    q.order? r = Option.map₂ compare q.place? r.place? := by
  cases q with
  | undefined => rfl
  | finite x =>
    cases r with
    | finite y => exact congrArg some (Place.compare_ofInt x.value y.value).symm
    | infinite negative =>
      cases negative with
      | false => exact congrArg some (compare_lt_iff_lt.mpr (Place.ofInt_lt_highest _)).symm
      | true => exact congrArg some (compare_gt_iff_gt.mpr (Place.lowest_lt_ofInt _)).symm
    | undefined => rfl
  | infinite negative =>
    cases r with
    | finite y =>
      cases negative with
      | false => exact congrArg some (compare_gt_iff_gt.mpr (Place.ofInt_lt_highest _)).symm
      | true => exact congrArg some (compare_lt_iff_lt.mpr (Place.lowest_lt_ofInt _)).symm
    | infinite other =>
      refine congrArg some (Eq.symm ?_)
      cases negative <;> cases other
      · exact compare_eq_iff_eq.mpr rfl
      · exact compare_gt_iff_gt.mpr Place.lowest_lt_highest
      · exact compare_lt_iff_lt.mpr Place.lowest_lt_highest
      · exact compare_eq_iff_eq.mpr rfl
    | undefined => rfl

theorem order?_eq_some {q r : Quantity} {a b : Place} (hq : q.place? = some a)
    (hr : r.place? = some b) : q.order? r = some (compare a b) := by
  rw [order?_eq, hq, hr]
  rfl

end Quantity

namespace OrderTest

/-- The question that the test asks. -/
def Relates {α : Type} [LE α] [LT α] (a b : α) : OrderTest → Prop
  | less => a < b
  | atMost => a ≤ b
  | more => b < a
  | atLeast => b ≤ a

/-- The test that passes where this one fails. -/
def opposite : OrderTest → OrderTest
  | less => atLeast
  | atMost => more
  | more => atMost
  | atLeast => less

theorem holds_compare {α : Type} [LinearOrder α] (test : OrderTest) (a b : α) :
    test.holds (some (compare a b)) = true ↔ test.Relates a b := by
  cases test with
  | less => exact Ordering.isLT_iff_eq_lt.trans compare_lt_iff_lt
  | atMost => exact Ordering.isLE_iff_ne_gt.trans compare_le_iff_le
  | more => exact Ordering.isGT_iff_eq_gt.trans compare_gt_iff_gt
  | atLeast => exact Ordering.isGE_iff_ne_lt.trans compare_ge_iff_ge

private theorem relates_opposite {α : Type} [LinearOrder α] (test : OrderTest) (a b : α) :
    test.opposite.Relates a b ↔ ¬ test.Relates a b := by
  cases test <;> simp [opposite, Relates]

end OrderTest

namespace Value

variable {l r : Value} {a b : Place}

/-- The value is a text that names what is no number. -/
def NamesNone (v : Value) : Prop := ∃ t, v = text t ∧ Decimal.NamesNone (Text.trim t)

/-- No condition on the order of the values is refused. -/
def Comparable (l r : Value) : Prop := ∀ test, (Comparison.order test).holds? l r ≠ none

/-- Where the value stands as a number. -/
def StandsAt (v : Value) (a : Place) : Prop := ∃ q, v.toQuantity? = some q ∧ q.place? = some a

theorem toQuantity_ne_undefined (n : Number) : n.toQuantity ≠ .undefined := by
  cases n with
  | int n =>
    rw [Number.toQuantity, Quantity.ofInt]
    exact Quantity.ofRatio_ne_undefined _ _ _
  | real x => nofun

private theorem namesNone_iff {v : Value} : v.NamesNone ↔ v.toQuantity? = some .undefined := by
  cases v with
  | text t =>
    rw [toQuantity?, Decimal.read?_eq_undefined_iff]
    exact ⟨fun ⟨s, hs, hn⟩ => by cases hs; exact hn, fun hn => ⟨t, rfl, hn⟩⟩
  | number n =>
    rw [toQuantity?, Option.some_inj]
    refine iff_of_false ?_ (toQuantity_ne_undefined n)
    rintro ⟨t, ⟨⟩, -⟩
  | null | bool _ | array _ | object _ => exact iff_of_false nofun nofun

private theorem order_holds?_eq (test : OrderTest) (l r : Value) :
    (Comparison.order test).holds? l r =
    Option.map₂ (fun q p => test.holds (Quantity.order? q p)) l.toQuantity? r.toQuantity? := by
  cases hl : l.toQuantity? with
  | none => simp [Comparison.holds?, hl]
  | some q => cases hr : r.toQuantity? <;> simp [Comparison.holds?, hl, hr]

private theorem comparable_iff : l.Comparable r ↔ l.toQuantity?.isSome ∧ r.toQuantity?.isSome := by
  constructor
  · intro h
    have hless := h .less
    rw [order_holds?_eq] at hless
    cases hl : l.toQuantity? <;> cases hr : r.toQuantity? <;> simp [hl, hr] at hless ⊢
  · rintro ⟨hl, hr⟩ test
    obtain ⟨q, hq⟩ := Option.isSome_iff_exists.mp hl
    obtain ⟨p, hp⟩ := Option.isSome_iff_exists.mp hr
    rw [order_holds?_eq, hq, hp]
    nofun

instance (v : Value) : Decidable v.NamesNone := decidable_of_iff' _ namesNone_iff

instance (l r : Value) : Decidable (l.Comparable r) := decidable_of_iff' _ comparable_iff

private theorem exists_standsAt {v : Value} (h : v.toQuantity?.isSome) (hn : ¬ v.NamesNone) :
    ∃ a, v.StandsAt a := by
  obtain ⟨q, hq⟩ := Option.isSome_iff_exists.mp h
  have hne : q.place? ≠ none := by
    intro hnone
    rw [Quantity.place?_eq_none_iff.mp hnone] at hq
    exact hn (namesNone_iff.mpr hq)
  obtain ⟨a, ha⟩ := Option.ne_none_iff_exists'.mp hne
  exact ⟨a, q, hq, ha⟩

/-- A condition with this test is true of the values. -/
def Passes (test : OrderTest) (l r : Value) : Prop :=
  (Comparison.order test).holds? l r = some true

private theorem StandsAt.passes_iff (hl : l.StandsAt a) (hr : r.StandsAt b) (test : OrderTest) :
    Passes test l r ↔ test.Relates a b := by
  obtain ⟨q, hq, ha⟩ := hl
  obtain ⟨p, hp, hb⟩ := hr
  rw [Passes, order_holds?_eq, hq, hp, Option.map₂_some_some, Quantity.order?_eq_some ha hb,
    Option.some_inj, OrderTest.holds_compare]

private theorem holds?_of_namesNone (h : l.Comparable r) (hn : l.NamesNone ∨ r.NamesNone)
    (test : OrderTest) :
    (Comparison.order test).holds? l r = some false := by
  obtain ⟨hl, hr⟩ := comparable_iff.mp h
  obtain ⟨q, hq⟩ := Option.isSome_iff_exists.mp hl
  obtain ⟨p, hp⟩ := Option.isSome_iff_exists.mp hr
  have hnone : Quantity.order? q p = none := by
    rcases hn with hn | hn
    · rw [namesNone_iff, hq] at hn
      rw [Option.some.inj hn]
      rfl
    · rw [namesNone_iff, hp] at hn
      rw [Option.some.inj hn, Quantity.order?_eq, Quantity.place?_eq_none_iff.mpr rfl,
        Option.map₂_none_right]
  rw [order_holds?_eq, hq, hp, Option.map₂_some_some, hnone]
  cases test <;> rfl

end Value

namespace Condition

variable {context : Context} {condition left right : Text} {comparison : Comparison}

/-- The condition is two operands with a symbol of the comparison between them. -/
def Compares (condition left : Text) (comparison : Comparison) (right : Text) : Prop :=
  ∃ symbol, Arguments.split condition = [left, symbol, right] ∧
    Comparison.ofText? symbol = some comparison

theorem Compares.evaluate {result : Bool} (h : Compares condition left comparison right)
    (hr : comparison.holds? (operand context left) (operand context right) = some result) :
    Condition.evaluate context condition = .ok result := by
  obtain ⟨symbol, hsplit, hsymbol⟩ := h
  simp only [Condition.evaluate, hsplit, hsymbol, hr]

/-- The order of values that count as numbers and name one is total and transitive, and it is the
same read from right to left. Of two conditions with opposite tests one is true and the other is
false. A value that counts as a number but names none passes no test. -/
theorem ordering_consistent {l r : Value} (h : l.Comparable r) :
    (¬ l.NamesNone → ¬ r.NamesNone →
      ((Value.Passes .less l r ↔ ¬ Value.Passes .atLeast l r) ∧
        (Value.Passes .more l r ↔ ¬ Value.Passes .atMost l r) ∧
        (Value.Passes .atMost l r ↔ Value.Passes .atLeast r l) ∧
        (Value.Passes .atMost l r ∨ Value.Passes .atMost r l)) ∧
      (∀ m : Value, r.Comparable m → ¬ m.NamesNone →
        Value.Passes .atMost l r → Value.Passes .atMost r m → Value.Passes .atMost l m) ∧
      ∀ (context : Context) (condition other left right : Text) (test : OrderTest),
        operand context left = l → operand context right = r →
        Compares condition left (.order test) right →
        Compares other left (.order test.opposite) right →
        ∃ passes,
          evaluate context condition = .ok passes ∧ evaluate context other = .ok !passes) ∧
    (l.NamesNone ∨ r.NamesNone → ∀ test, (Comparison.order test).holds? l r = some false) := by
  refine ⟨fun hl hr => ?_, fun hn => Value.holds?_of_namesNone h hn⟩
  obtain ⟨hln, hrn⟩ := Value.comparable_iff.mp h
  obtain ⟨a, ha⟩ := Value.exists_standsAt hln hl
  obtain ⟨b, hb⟩ := Value.exists_standsAt hrn hr
  have hopposite (test : OrderTest) :
      Value.Passes test.opposite l r ↔ ¬ Value.Passes test l r := by
    rw [ha.passes_iff hb, ha.passes_iff hb, test.relates_opposite]
  refine ⟨⟨hopposite .atLeast, hopposite .atMost, ?_, ?_⟩, ?_, ?_⟩
  · rw [ha.passes_iff hb, hb.passes_iff ha]
    exact Iff.rfl
  · rw [ha.passes_iff hb, hb.passes_iff ha]
    exact le_total a b
  · intro m hrm hm hle hle'
    obtain ⟨-, hmn⟩ := Value.comparable_iff.mp hrm
    obtain ⟨c, hc⟩ := Value.exists_standsAt hmn hm
    rw [ha.passes_iff hb] at hle
    rw [hb.passes_iff hc] at hle'
    rw [ha.passes_iff hc]
    exact le_trans hle hle'
  · intro context condition other left right test hleft hright hcondition hother
    obtain ⟨passes, hpasses⟩ := Option.ne_none_iff_exists'.mp (h test)
    obtain ⟨fails, hfails⟩ := Option.ne_none_iff_exists'.mp (h test.opposite)
    have hcases := hopposite test
    rw [Value.Passes, Value.Passes, hpasses, hfails, Option.some_inj, Option.some_inj] at hcases
    have hfails' : fails = !passes := by
      rw [Bool.eq_iff_iff, hcases, Bool.not_eq_true', Bool.not_eq_true]
    subst hleft hright hfails'
    exact ⟨passes, hcondition.evaluate hpasses, hother.evaluate hfails⟩

/-- A numeral with blanks around it, an integer past 2^63 and an infinity; a text that names no
number is not less than them and not at least them either. -/
theorem ordering_consistent_mixed :
    let low : Value := .text " -1e3\n"
    let middle : Value := .int 0x8000000000000001
    let high : Value := .text "+Infinity"
    let unordered : Value := .text "NaN"
    let context : Context := { site := ".", data := [("a", low), ("b", middle)] }
    (low.Comparable middle ∧ middle.Comparable high ∧ unordered.Comparable middle) ∧
      (¬ low.NamesNone ∧ ¬ middle.NamesNone ∧ ¬ high.NamesNone ∧ unordered.NamesNone) ∧
      (Value.Passes .less low middle ↔ ¬ Value.Passes .atLeast low middle) ∧
      Value.Passes .atMost low high ∧
      (∃ passes, evaluate context ".a > .b" = .ok passes ∧
        evaluate context ".a  <= .b" = .ok !passes) ∧
      (Comparison.order .atLeast).holds? unordered middle = some false := by
  intro low middle high unordered context
  have hlm : low.Comparable middle := by decide +kernel
  have hmh : middle.Comparable high := by decide +kernel
  have hum : unordered.Comparable middle := by decide +kernel
  have hl : ¬ low.NamesNone := by decide +kernel
  have hm : ¬ middle.NamesNone := by decide +kernel
  have hh : ¬ high.NamesNone := by decide +kernel
  have hu : unordered.NamesNone := by decide +kernel
  have hlm' : Value.Passes .atMost low middle := by rw [Value.Passes]; decide +kernel
  have hmh' : Value.Passes .atMost middle high := by rw [Value.Passes]; decide +kernel
  have hmore : Compares ".a > .b" ".a" (.order .more) ".b" := ⟨">", by decide, by decide⟩
  have hatMost : Compares ".a  <= .b" ".a" (.order .atMost) ".b" := ⟨"<=", by decide, by decide⟩
  obtain ⟨⟨hcomplement, -⟩, htrans, hif⟩ := (ordering_consistent hlm).1 hl hm
  exact ⟨⟨hlm, hmh, hum⟩, ⟨hl, hm, hh, hu⟩, hcomplement, htrans high hmh hh hlm' hmh',
    hif context _ _ _ _ .more rfl rfl hmore hatMost,
    (ordering_consistent hum).2 (.inl hu) .atLeast⟩

/-- The name of what is no number is compared without a problem, and it is not at most itself, nor
is it less than one or at least one. -/
theorem unordered_not_at_most_itself :
    let context : Context := { site := ".", data := [("x", .text "nan")] }
    evaluate context ".x <= .x" = .ok false ∧ evaluate context ".x < 1" = .ok false ∧
      evaluate context ".x >= 1" = .ok false := by
  decide +kernel

end Condition
end Stencil
