import Stencil.Expression
/-!
# Conditions

A condition is one value, which counts as true or false, or two values with an operator between
them. Equality takes any values, order only those that count as numbers. What is missing counts as
null.
-/
namespace Stencil

/-- A question about the order of two numbers. -/
inductive OrderTest where
  | less
  | atMost
  | more
  | atLeast
deriving DecidableEq

/-- Numbers without an order pass no test. -/
def OrderTest.holds : OrderTest → Option Ordering → Bool
  | less, some order => order.isLT
  | atMost, some order => order.isLE
  | more, some order => order.isGT
  | atLeast, some order => order.isGE
  | _, none => false

inductive Comparison where
  | equal
  | unequal
  | order (test : OrderTest)
deriving DecidableEq

namespace Comparison

def ofText? (symbol : Text) : Option Comparison :=
  if symbol = "==" then some equal
  else if symbol = "!=" then some unequal
  else if symbol = "<" then some (order .less)
  else if symbol = "<=" then some (order .atMost)
  else if symbol = ">" then some (order .more)
  else if symbol = ">=" then some (order .atLeast)
  else none

/-- Whether two values compare so, unless one that is to be ordered does not count as a number. -/
def holds? (comparison : Comparison) (left right : Value) : Option Bool :=
  match comparison with
  | equal => some (left.looselyEqual right)
  | unequal => some !left.looselyEqual right
  | order test => do some (test.holds ((← left.toQuantity?).order? (← right.toQuantity?)))

end Comparison

namespace Condition

def operand (context : Context) (token : Text) : Value :=
  (Expression.value? context token).getD .null

def evaluate (context : Context) (condition : Text) : Except Problem Bool :=
  match Arguments.split condition with
  | [] => .error (.misuse "if" (.missing .condition))
  | [single] => .ok (operand context single).isTruthy
  | [left, symbol, right] =>
    match Comparison.ofText? symbol with
    | none => .error (.misuse "if" (.unknownOperator symbol))
    | some comparison =>
      let left := operand context left
      let right := operand context right
      match comparison.holds? left right with
      | some result => .ok result
      | none => .error (.incomparable left.toText symbol right.toText)
  | _ => .error (.misuse "if" (.notACondition (Text.trim condition)))

end Condition
end Stencil
