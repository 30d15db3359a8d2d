import Stencil.Text.Blank
import Stencil.Text.Quoted.Table
/-!
# Quoted text

How a message shows a text that may hold anything: between double quotes, with the quote, the
backslash and the usual controls escaped by a letter and hidden characters by their number.
-/
namespace Stencil.Text.Quoted

def escapeLetter? : Char → Option Char
  | '"' => some '"'
  | '\\' => some '\\'
  | '\n' => some 'n'
  | '\t' => some 't'
  | '\r' => some 'r'
  | '\x00' => some '0'
  | _ => none

def encodeChar (c : Char) : Text :=
  match escapeLetter? c with
  | some letter => ['\\', letter]
  | none =>
    if inRanges hiddenRanges c then "\\u\x7b" ++ Nat.toDigits 16 c.toNat ++ "\x7d" else [c]

end Quoted

def quoted (t : Text) : Text := "\"" ++ t.flatMap Quoted.encodeChar ++ "\""

end Stencil.Text
