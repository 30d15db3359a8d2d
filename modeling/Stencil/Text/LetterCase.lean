import Stencil.Text.Blank
import Stencil.Text.LetterCase.Table
/-!
# Upper and lower case

Full case mapping: a character may become several, and a capital sigma that ends a word becomes
the final form.
-/
namespace Stencil.Text.LetterCase

private def shifted? (runs : List Run) (code : Nat) : Option Nat :=
  let holds (run : Run) : Bool :=
    run.first ≤ code && code ≤ run.last && (code - run.first) % run.step == 0
  (runs.find? holds).map fun run => (Int.ofNat code + run.shift).toNat

def upperChar (c : Char) : Text :=
  match upperExpansions.lookup c.toNat with
  | some codes => codes.map Char.ofNat
  | none => [((shifted? upperRuns c.toNat).map Char.ofNat).getD c]

/-- Only the capital I with a dot has a lower case of two characters. -/
def lowerChar (c : Char) : Text :=
  if c.toNat = 0x130 then ['i', '\u0307']
  else [((shifted? lowerRuns c.toNat).map Char.ofNat).getD c]

/-- The nearest character that is not passed over is a letter. -/
private def meetsLetter (t : Text) : Bool :=
  ((t.dropWhile (inRanges ignorableRanges)).head?.map (inRanges casedRanges)).getD false

/-- `before` holds the characters in front, nearest first. -/
private def lowerFrom (before : Text) : Text → Text
  | [] => []
  | c :: t =>
    let lowered :=
      if c = 'Σ' then if meetsLetter before && !meetsLetter t then ['ς'] else ['σ']
      else lowerChar c
    lowered ++ lowerFrom (c :: before) t

end LetterCase

def toUpper (t : Text) : Text := t.flatMap LetterCase.upperChar

def toLower (t : Text) : Text := LetterCase.lowerFrom [] t

def capitalize : Text → Text
  | [] => []
  | c :: t => LetterCase.upperChar c ++ t

end Stencil.Text
