import Stencil.Value
/-!
# Numbers of JSON

A numeral without point or exponent that fits 64 bits is a whole number. Any other is a double: as
many digits as fit an unsigned 64-bit number are rounded to a double, which one power of ten then
scales. The two roundings make it differ from the nearest double in rare cases.
-/
namespace Stencil.Json

/-- As many digits as keep the number in 64 bits, added to the `significand`, and their count. -/
private def takeDigits (significand : Nat) : Text → Nat × Nat
  | [] => (significand, 0)
  | c :: digits =>
    let next := 10 * significand + Text.digitValue c
    if next ≤ Text.largestCount then
      let (result, count) := takeDigits next digits
      (result, count + 1)
    else (significand, 0)

private def powerOfTen (n : Nat) : Option Double :=
  match Quantity.ofDecimal false 1 n with
  | .finite x => some x
  | _ => none

private def toDouble? : Quantity → Option Double
  | .finite x => some x
  | _ => none

/-- `x * 10 ^ exponent`. Powers below 10^-308 are reached in steps, which soon give zero; the
first argument bounds their number. -/
private def scale? : Nat → Double → Int → Option Double
  | 0, x, _ => some x
  | steps + 1, x, exponent =>
    if x.isZero then some x
    else if 308 < exponent then none
    else if 0 ≤ exponent then do toDouble? (Quantity.mul x (← powerOfTen exponent.toNat))
    else if -308 ≤ exponent then do toDouble? (Quantity.div x (← powerOfTen (-exponent).toNat))
    else do scale? steps (← toDouble? (Quantity.div x (← powerOfTen 308))) (exponent + 308)

private def real? (negative : Bool) (significand : Nat) (exponent : Int) : Option Number := do
  let x ← scale? 4 (← toDouble? (.ofInt significand)) exponent
  some (.real { x with negative })

private def whole (negative : Bool) (n : Nat) : Option Number :=
  if !negative then some (.int n)
  else if 0 < n && n ≤ 0x8000000000000000 then some (.int (-(n : Int)))
  else real? negative n 0

private def readExponent? : Text → Option (Int × Text)
  | [] => none
  | sign :: rest =>
    let digitsFrom := if sign == '+' || sign == '-' then rest else sign :: rest
    let digits := digitsFrom.takeWhile Char.isDigit
    let exponent : Int := Text.digitsValue digits
    if digits.isEmpty then none
    else some (if sign == '-' then -exponent else exponent, digitsFrom.dropWhile Char.isDigit)

private def startsExponent : Text → Bool
  | mark :: _ => mark == 'e' || mark == 'E'
  | [] => false

private def readUnsigned? (negative : Bool) (t : Text) : Option (Number × Text) := do
  let digits := t.takeWhile Char.isDigit
  let rest := t.dropWhile Char.isDigit
  guard !digits.isEmpty
  guard !(Text.startsWith "0" digits && digits.length != 1)
  let (significand, kept) := takeDigits 0 digits
  let dropped : Int := (digits.length - kept : Nat)
  match rest with
  | '.' :: rest =>
    let fraction := rest.takeWhile Char.isDigit
    let rest := rest.dropWhile Char.isDigit
    guard !fraction.isEmpty
    let (significand, places) := takeDigits significand fraction
    let (exponent, rest) ←
      if startsExponent rest then readExponent? (rest.drop 1) else some (0, rest)
    some (← real? negative significand (dropped - places + exponent), rest)
  | _ =>
    if startsExponent rest then
      let (exponent, rest) ← readExponent? (rest.drop 1)
      some (← real? negative significand (dropped + exponent), rest)
    else if kept < digits.length then some (← real? negative significand dropped, rest)
    else some (← whole negative significand, rest)

/-- A number at the start of the text, and the text behind it. -/
def readNumber? : Text → Option (Number × Text)
  | '-' :: rest => readUnsigned? true rest
  | t => readUnsigned? false t

end Stencil.Json
