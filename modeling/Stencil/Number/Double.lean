/-!
# Double precision

A finite double is a sign and a whole number of units of 2^-1074, so that doubles compare as
integers do. One rounding, to nearest with ties to even, produces every one of them; what it
cannot hold becomes infinite.
-/
namespace Stencil

structure Double where
  negative : Bool
  units : Nat
deriving DecidableEq, Repr

namespace Double

def unitsPerOne : Nat := Nat.pow 2 1074

/-- The first number of units past the finite doubles, which is 2^1024. -/
def unitsLimit : Nat := Nat.pow 2 2098

/-- The distance to the next double above `n` units is 2 to this power. -/
def spacing (n : Nat) : Nat := n.log2 - 52

def value (x : Double) : Int := if x.negative then -(x.units : Int) else x.units

def isZero (x : Double) : Bool := x.units == 0

/-- The integer that `x` is, if it is one. -/
def toInt? (x : Double) : Option Int :=
  let size : Nat := x.units / unitsPerOne
  if x.units % unitsPerOne = 0 then some (if x.negative then -(size : Int) else size) else none

end Double

/-- What a numeral or an operation may give: a double, an infinity or no number. -/
inductive Quantity where
  | finite (x : Double)
  | infinite (negative : Bool)
  | undefined
deriving DecidableEq, Repr

namespace Quantity

/-- The whole number nearest to `num / den`; a half goes to the even neighbour. -/
def roundDiv (num den : Nat) : Nat :=
  let quotient := num / den
  let twice := 2 * (num % den)
  if twice < den ∨ (twice = den ∧ quotient % 2 = 0) then quotient else quotient + 1

/-- The number nearest to `num / den` that has 53 significant bits. -/
def roundUnits (num den : Nat) : Nat :=
  let gap := Nat.pow 2 (Double.spacing (num / den))
  roundDiv num (den * gap) * gap

def ofUnitsRatio (negative : Bool) (num den : Nat) : Quantity :=
  let units := roundUnits num den
  if units < Double.unitsLimit then .finite ⟨negative, units⟩ else .infinite negative

def ofRatio (negative : Bool) (num den : Nat) : Quantity :=
  ofUnitsRatio negative (num * Double.unitsPerOne) den

def ofInt (n : Int) : Quantity := ofRatio (n < 0) n.natAbs 1

def mul (x y : Double) : Quantity :=
  ofUnitsRatio (x.negative != y.negative) (x.units * y.units) Double.unitsPerOne

def div (x y : Double) : Quantity :=
  ofRatio (x.negative != y.negative) x.units y.units

/-- How two quantities compare; one that is undefined compares with nothing. -/
def order? : Quantity → Quantity → Option Ordering
  | .finite x, .finite y => some (compare x.value y.value)
  | .finite _, .infinite negative => some (if negative then .gt else .lt)
  | .infinite negative, .finite _ => some (if negative then .lt else .gt)
  | .infinite x, .infinite y => some (if x = y then .eq else if x then .lt else .gt)
  | .undefined, _ => none
  | _, .undefined => none

end Quantity
end Stencil
