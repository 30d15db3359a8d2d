import Stencil.Files
import Stencil.Markup.Delimiters
import Stencil.Yaml.Reader
/-!
# Configuration

The settings of an engine, each with a default, and their reader. A settings file is a mapping;
keys it does not know are passed over, and a known key may be given once.
-/
namespace Stencil

structure Config where
  start : Text := Delimiters.standard.start
  stop : Text := Delimiters.standard.stop
  /-- What template file names end in, dot included. -/
  extension : Text := ".hstm"
  partialsFolder : Path := "partials"
  layoutsFolder : Path := "layouts"
  /-- The layout around every page. -/
  rootLayout : Text := "root"
  /-- Holds the data of the pages in its folder. -/
  dataFile : Path := "data_en.json"
  /-- A request with this header gets pages without layouts. -/
  bypassHeader : Text := "HX-Request"
  /-- How many renders may be under way inside one another. -/
  maxDepth : Nat := 64

namespace Config

inductive Error where
  | delimiters (error : Delimiters.Error)
  | zeroDepth
  | unreadable (path : Path) (cause : ReadError)
  | malformed

def Error.message : Error → Text
  | delimiters error => "invalid delimiters: " ++ error.message
  | zeroDepth => "max_depth must be at least 1"
  | unreadable path cause => "cannot read config " ++ path ++ ": " ++ cause.message
  | malformed => "invalid config"

def validate (config : Config) : Except Error Delimiters :=
  if config.maxDepth = 0 then .error .zeroDepth
  else match Delimiters.ofTexts config.start config.stop with
    | .ok delimiters => .ok delimiters
    | .error error => .error (.delimiters error)

private def textOf? : Yaml → Option Text
  | .scalar _ t => some t
  | _ => none

private def radixValue? (radix : Nat) (digits : Text) : Option Nat :=
  if digits.isEmpty then none
  else digits.foldlM (fun n c =>
    let digit :=
      if c.isDigit then c.toNat - '0'.toNat
      else if 'a' ≤ c.toLower ∧ c.toLower ≤ 'f' then c.toLower.toNat - 'a'.toNat + 10
      else radix
    if digit < radix then some (radix * n + digit) else none) 0

/-- A whole number in decimal, hexadecimal, octal or binary. Digits behind a leading zero make no
number. -/
private def numeral? (t : Text) : Option Nat :=
  let digits := (Text.dropStart? "+" t).getD t
  match digits with
  | '0' :: 'x' :: rest => radixValue? 16 rest
  | '0' :: 'o' :: rest => radixValue? 8 rest
  | '0' :: 'b' :: rest => radixValue? 2 rest
  | '0' :: _ :: _ => none
  | _ => Text.readDigits? digits

private def countOf? : Yaml → Option Nat
  | .scalar true t => (numeral? t).filter (· ≤ Text.largestCount)
  | _ => none

/-- The entries of a mapping, for which nothing at all may stand. -/
private def entriesOf? : Yaml → Option (List (Text × Yaml))
  | .mapping entries => entries.mapM fun (key, value) => (textOf? key).map (·, value)
  | .scalar true [] => some []
  | _ => none

private def givenOnce (known : List Text) (entries : List (Text × Yaml)) : Bool :=
  known.all fun key => (entries.filter fun entry => entry.1 == key).length ≤ 1

private def setDelimiter? (config : Config) (entry : Text × Yaml) : Option Config :=
  match entry with
  | (key, value) =>
    if key = "start" then (textOf? value).map fun t => { config with start := t }
    else if key = "end" then (textOf? value).map fun t => { config with stop := t }
    else some config

private def set? (config : Config) (entry : Text × Yaml) : Option Config :=
  match entry with
  | (key, value) =>
    if key = "delimiters" then do
      let entries ← entriesOf? value
      guard (givenOnce ["start", "end"] entries)
      entries.foldlM setDelimiter? config
    else if key = "extension" then (textOf? value).map fun t => { config with extension := t }
    else if key = "partials_dir" then
      (textOf? value).map fun t => { config with partialsFolder := t }
    else if key = "layouts_dir" then (textOf? value).map fun t => { config with layoutsFolder := t }
    else if key = "root_layout" then (textOf? value).map fun t => { config with rootLayout := t }
    else if key = "data_file" then (textOf? value).map fun t => { config with dataFile := t }
    else if key = "bypass_header" then
      (textOf? value).map fun t => { config with bypassHeader := t }
    else if key = "max_depth" then (countOf? value).map fun n => { config with maxDepth := n }
    else some config

def keys : List Text :=
  ["delimiters", "extension", "partials_dir", "layouts_dir", "root_layout", "data_file",
   "bypass_header", "max_depth"]

def read? (t : Text) : Option Config := do
  let entries ← entriesOf? (← Yaml.read? t)
  guard (givenOnce keys entries)
  entries.foldlM set? {}

def ofText (t : Text) : Except Error Config :=
  match read? t with
  | some config => .ok config
  | none => .error .malformed

def ofFile (files : Files) (path : Path) : Except Error Config :=
  match files.read path with
  | .ok t => ofText t
  | .error cause => .error (.unreadable path cause)

end Config
end Stencil
