import Stencil.Number.Decimal
import Stencil.Table
import Stencil.Text.Blank
/-!
# Values

The data that templates show: the values of JSON, with whole numbers and doubles kept apart. A
value is written into a page as its text; an object keeps its members in key order.

Three comparisons: sameness, which tells `1` from `1.0`; loose equality, which compares numbers as
doubles at any depth; and order, for which texts that hold a numeral count as numbers.
-/
namespace Stencil

inductive Number where
  | int (n : Int)
  | real (x : Double)

inductive Value where
  | null
  | bool (b : Bool)
  | number (n : Number)
  | text (t : Text)
  | array (items : List Value)
  | object (members : List (Text × Value))

abbrev Fields := Table Value

namespace Number

def text : Number → Text
  | int n => Text.ofInt n
  | real x => x.text

def toQuantity : Number → Quantity
  | int n => .ofInt n
  | real x => .finite x

def isZero : Number → Bool
  | int n => n == 0
  | real x => x.isZero

/-- A number of either kind is only the same as one of its own kind; the zeros are the same. -/
def same : Number → Number → Bool
  | int m, int n => m == n
  | real x, real y => x.value == y.value
  | _, _ => false

end Number

namespace Value

def int (n : Int) : Value := .number (.int n)

def emptyObject : Value := .object []

mutual

/-- Null is written as nothing, an array as `[a, b]` and an object with its keys in order. -/
def toText : Value → Text
  | null => []
  | bool b => if b then "true" else "false"
  | number n => n.text
  | text t => t
  | array items => "[" ++ Text.join ", " (itemTexts items) ++ "]"
  | object members => "\x7b" ++ Text.join ", " (memberTexts members) ++ "\x7d"

def itemTexts : List Value → List Text
  | [] => []
  | item :: rest => toText item :: itemTexts rest

def memberTexts : List (Text × Value) → List Text
  | [] => []
  | (key, value) :: rest => (key ++ ": " ++ toText value) :: memberTexts rest

end

/-- Null, `false`, zero and all that is empty count as false. -/
def isTruthy : Value → Bool
  | null => false
  | bool b => b
  | number n => !n.isZero
  | text t => !t.isEmpty
  | array items => !items.isEmpty
  | object members => !members.isEmpty

/-- The whole number that `x` is, if it is one below 2^63 in size, else `x` itself. -/
def ofDouble (x : Double) : Value :=
  match x.toInt? with
  | some n => if n.natAbs < 0x8000000000000000 then .int n else .number (.real x)
  | none => .number (.real x)

/-! ### Comparisons -/

mutual

def same : Value → Value → Bool
  | null, null => true
  | bool a, bool b => a == b
  | number a, number b => a.same b
  | text a, text b => a == b
  | array as, array bs => sameItems as bs
  | object as, object bs => sameMembers as bs
  | _, _ => false

def sameItems : List Value → List Value → Bool
  | [], [] => true
  | a :: as, b :: bs => same a b && sameItems as bs
  | _, _ => false

def sameMembers : List (Text × Value) → List (Text × Value) → Bool
  | [], [] => true
  | (k, a) :: as, (l, b) :: bs => k == l && same a b && sameMembers as bs
  | _, _ => false

end

/-- The number that a value counts as. -/
def toQuantity? : Value → Option Quantity
  | number n => some n.toQuantity
  | text t => Decimal.read? (Text.trim t)
  | _ => none

mutual

def looselyEqual : Value → Value → Bool
  | null, null => true
  | bool a, bool b => a == b
  | number a, number b => a.toQuantity.order? b.toQuantity == some .eq
  | text a, text b => a == b
  | array as, array bs => looselyEqualItems as bs
  | object as, object bs => looselyEqualMembers as bs
  | _, _ => false

def looselyEqualItems : List Value → List Value → Bool
  | [], [] => true
  | a :: as, b :: bs => looselyEqual a b && looselyEqualItems as bs
  | _, _ => false

def looselyEqualMembers : List (Text × Value) → List (Text × Value) → Bool
  | [], [] => true
  | (k, a) :: as, (l, b) :: bs => k == l && looselyEqual a b && looselyEqualMembers as bs
  | _, _ => false

end

end Value

/-! ### Text in HTML -/

namespace Html

/-- The five characters that could end an attribute or open an element are written as entities. -/
def escapeChar : Char → Text
  | '&' => "&amp;"
  | '<' => "&lt;"
  | '>' => "&gt;"
  | '"' => "&quot;"
  | '\'' => "&#39;"
  | c => [c]

def escape (t : Text) : Text := t.flatMap escapeChar

/-- An attribute with its value in double quotes. -/
def valueAttribute (name value : Text) : Text := name ++ "=\"" ++ escape value ++ "\""

end Html
end Stencil
