import Stencil.Number.Double
import Stencil.Text.Numeral
/-!
# Decimals

Numerals are read to the nearest double. A double is written positionally with the fewest digits
that read back to it: on finer and finer grids of powers of ten, the first that has a neighbour of
the double inside its rounding interval gives the digits.
-/
namespace Stencil

/-- The quantity `digits * 10 ^ exponent`. -/
def Quantity.ofDecimal (negative : Bool) (digits : Nat) (exponent : Int) : Quantity :=
  let scale := (Text.ofNat digits).length + exponent
  -- Beyond these bounds the power of ten decides alone.
  if digits = 0 ∨ scale < -400 then .finite ⟨negative, 0⟩
  else if 400 < scale then .infinite negative
  else ofRatio negative (digits * Nat.pow 10 exponent.toNat) (Nat.pow 10 (-exponent).toNat)

theorem Quantity.ofRatio_ne_undefined (negative : Bool) (num den : Nat) :
    Quantity.ofRatio negative num den ≠ .undefined := by
  simp only [ofRatio, ofUnitsRatio]
  split <;> nofun

theorem Quantity.ofDecimal_ne_undefined (negative : Bool) (digits : Nat) (exponent : Int) :
    Quantity.ofDecimal negative digits exponent ≠ .undefined := by
  simp only [ofDecimal]
  split
  · nofun
  · split
    · nofun
    · exact ofRatio_ne_undefined _ _ _

namespace Decimal

/-- The digits in front of the first character that is none, and the text from there. -/
private def digitRun (t : Text) : Text × Text :=
  (t.takeWhile Char.isDigit, t.dropWhile Char.isDigit)

/-- An exponent of any length; `none` if the mark is not followed by a number. -/
private def readExponent? : Text → Option Int
  | [] => some 0
  | mark :: rest =>
    if mark != 'e' && mark != 'E' then none
    else match rest with
      | '-' :: digits => (Text.readDigits? digits).map fun n => -Int.ofNat n
      | '+' :: digits => (Text.readDigits? digits).map Int.ofNat
      | digits => (Text.readDigits? digits).map Int.ofNat

private def readUnsigned? (negative : Bool) (t : Text) : Option Quantity :=
  let word := Text.asciiLower t
  if word = "inf" ∨ word = "infinity" then some (.infinite negative)
  else if word = "nan" then some .undefined
  else
    let (whole, rest) := digitRun t
    let (fraction, rest) := match rest with
      | '.' :: rest => digitRun rest
      | _ => ([], rest)
    if whole.isEmpty && fraction.isEmpty then none
    else (readExponent? rest).map fun exponent =>
      .ofDecimal negative (Text.digitsValue (whole ++ fraction)) (exponent - fraction.length)

/-- A numeral with an optional sign, point and exponent, or the name of a special value. -/
def read? : Text → Option Quantity
  | '-' :: rest => readUnsigned? true rest
  | '+' :: rest => readUnsigned? false rest
  | t => readUnsigned? false t

/-- The name of what is no number, in letters of either case, with a sign or without. -/
def NamesNone (t : Text) : Prop :=
  ∃ sign word, t = sign ++ word ∧ (sign = [] ∨ sign = ['-'] ∨ sign = ['+']) ∧
    Text.asciiLower word = "nan"

private theorem readUnsigned?_eq_undefined_iff (negative : Bool) (t : Text) :
    readUnsigned? negative t = some .undefined ↔ Text.asciiLower t = "nan" := by
  have hnumeral (empty : Bool) (found : Option Int) (digits : Nat) (places : Int) :
      ¬ (if empty = true then none
        else found.map fun exponent => Quantity.ofDecimal negative digits (exponent - places)) =
          some Quantity.undefined := by
    intro h
    split at h
    · cases h
    · obtain ⟨exponent, -, hq⟩ := Option.map_eq_some_iff.mp h
      exact Quantity.ofDecimal_ne_undefined _ _ _ hq
  simp only [readUnsigned?]
  split
  · next h => rcases h with h | h <;> rw [h] <;> exact iff_of_false nofun (by decide)
  · split
    · next h => exact iff_of_true rfl h
    · next h =>
      refine iff_of_false ?_ h
      split <;> exact hnumeral _ _ _ _

/-- Only a name is read as what is no number, never a numeral. -/
theorem read?_eq_undefined_iff (t : Text) : read? t = some .undefined ↔ NamesNone t := by
  have hsigned {c : Char} (hc : Char.toLower c ≠ 'n') (rest : Text) :
      NamesNone (c :: rest) ↔ (c = '-' ∨ c = '+') ∧ Text.asciiLower rest = "nan" := by
    constructor
    · rintro ⟨sign, word, ht, rfl | rfl | rfl, hw⟩
      · rw [← (show c :: rest = word from ht)] at hw
        exact absurd (List.cons.inj hw).1 hc
      · obtain ⟨rfl, rfl⟩ := List.cons.inj ht
        exact ⟨.inl rfl, hw⟩
      · obtain ⟨rfl, rfl⟩ := List.cons.inj ht
        exact ⟨.inr rfl, hw⟩
    · rintro ⟨rfl | rfl, hw⟩
      · exact ⟨['-'], rest, rfl, .inr (.inl rfl), hw⟩
      · exact ⟨['+'], rest, rfl, .inr (.inr rfl), hw⟩
  unfold read?
  split
  · next rest =>
    rw [readUnsigned?_eq_undefined_iff, hsigned (by decide)]
    simp
  · next rest =>
    rw [readUnsigned?_eq_undefined_iff, hsigned (by decide)]
    simp
  · next hminus hplus =>
    rw [readUnsigned?_eq_undefined_iff]
    constructor
    · exact fun h => ⟨[], t, rfl, .inl rfl, h⟩
    · rintro ⟨sign, word, rfl, rfl | rfl | rfl, hw⟩
      · exact hw
      · exact absurd rfl (hminus word)
      · exact absurd rfl (hplus word)

/-- The number `digits * 10 ^ exponent`. -/
structure Scaled where
  digits : Nat
  exponent : Int

/-- Compares the decimal with `units / parts` units of a double. -/
def Scaled.compareUnits (d : Scaled) (units parts : Nat) : Ordering :=
  compare (d.digits * Nat.pow 10 d.exponent.toNat * Double.unitsPerOne * parts)
    (units * Nat.pow 10 (-d.exponent).toNat)

/-- The decimal lies among the numbers that round to the double of so many units: from half way
to the double below to half way to the double above, ends included if the last bit is 0. -/
def Scaled.readsBackTo (d : Scaled) (units : Nat) : Bool :=
  let gap := Nat.pow 2 (Double.spacing units)
  let narrow := 1 < gap && units == 0x10000000000000 * gap
  let ends := (units / gap) % 2 == 0
  let low := d.compareUnits (4 * units - (if narrow then gap else 2 * gap)) 4
  let high := d.compareUnits (4 * units + 2 * gap) 4
  (low == .gt || (ends && low == .eq)) && (high == .lt || (ends && high == .eq))

/-- The least power of ten above so many units, if they are not none. -/
private def scaleOf (units : Nat) : Int :=
  let estimate := ((units.log2 : Int) - 1074) * 30103 / 100000
  let above (k : Int) : Bool := (Scaled.mk 1 k).compareUnits units 1 == .gt
  if above estimate then estimate
  else if above (estimate + 1) then estimate + 1
  else estimate + 2

/-- The neighbour on the grid `10 ^ exponent` that reads back; of two the nearer, on a tie the
upper. -/
private def onGrid? (units : Nat) (exponent : Int) : Option Scaled :=
  let grid := Double.unitsPerOne * Nat.pow 10 exponent.toNat
  let lower : Scaled := ⟨units * Nat.pow 10 (-exponent).toNat / grid, exponent⟩
  let upper : Scaled := ⟨lower.digits + 1, exponent⟩
  match lower.readsBackTo units, upper.readsBackTo units with
  | true, true =>
    let middle : Scaled := ⟨lower.digits + upper.digits, exponent⟩
    some (if middle.compareUnits (2 * units) 1 == .gt then lower else upper)
  | true, false => some lower
  | false, true => some upper
  | false, false => none

/-- The fewest digits that read back to so many units, which are not none. -/
def shortest (units : Nat) : Scaled :=
  let scale := scaleOf units
  match (List.range 17).findSome? fun n => onGrid? units (scale - (n + 1 : Nat)) with
  | some d => d
  | none => ⟨units * Nat.pow 5 1074, -1074⟩

private def dropZeros (digits : Text) : Text := (digits.reverse.dropWhile (· == '0')).reverse

/-- Positional notation without an exponent or needless zeros. -/
def Scaled.text (d : Scaled) : Text :=
  let digits := Text.ofNat d.digits
  let places := (-d.exponent).toNat
  if 0 ≤ d.exponent then digits ++ List.replicate d.exponent.toNat '0'
  else
    let padded := List.replicate (places + 1 - digits.length) '0' ++ digits
    let whole := padded.take (padded.length - places)
    match dropZeros (padded.drop (padded.length - places)) with
    | [] => whole
    | fraction => whole ++ "." ++ fraction

end Decimal

/-- The sign is kept for zero too. -/
def Double.text (x : Double) : Text :=
  let magnitude : Text := if x.isZero then "0" else (Decimal.shortest x.units).text
  if x.negative then '-' :: magnitude else magnitude

end Stencil
