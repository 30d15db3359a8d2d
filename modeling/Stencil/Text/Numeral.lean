import Stencil.Text.Basic
/-!
# Whole numbers in text

Decimal numerals of ASCII digits with a stated range. A sign is an optional part of the numeral;
a numeral for a natural number takes only a plus.
-/
namespace Stencil.Text

def ofNat (n : Nat) : Text := Nat.toDigits 10 n

def ofInt (n : Int) : Text := if n < 0 then '-' :: ofNat n.natAbs else ofNat n.natAbs

def digitValue (c : Char) : Nat := c.toNat - '0'.toNat

/-- The value of a run of digits, most significant first. -/
def digitsValue (digits : Text) : Nat := digits.foldl (fun n c => 10 * n + digitValue c) 0

def readDigits? (t : Text) : Option Nat :=
  if !t.isEmpty && t.all Char.isDigit then some (digitsValue t) else none

/-- A natural number up to `limit`. -/
def readNat? (limit : Nat) (t : Text) : Option Nat :=
  let digits := match t with
    | '+' :: rest => rest
    | _ => t
  (readDigits? digits).filter (· ≤ limit)

/-- An integer from `low` to `high`. -/
def readInt? (low high : Int) (t : Text) : Option Int :=
  let value := match t with
    | '+' :: rest => (readDigits? rest).map Int.ofNat
    | '-' :: rest => (readDigits? rest).map fun n => -Int.ofNat n
    | _ => (readDigits? t).map Int.ofNat
  value.filter fun n => low ≤ n && n ≤ high

/-- The largest position or count that a numeral may state. -/
def largestCount : Nat := 0xffffffffffffffff

end Stencil.Text
