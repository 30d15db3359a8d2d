import Stencil.Text.Blank
/-!
# Paths

A path is kept and shown as it was built. Its components decide whether two paths name the same
template, its parent is where relative names start, and cleaning is the lexical normal form that
identifies an external asset.
-/
namespace Stencil

abbrev Path := Text

namespace Path

def segments (p : Path) : List Text := p.splitOn '/'

def isRooted (p : Path) : Bool := Text.startsWith "/" p

/-- A rooted path stands for itself; any other goes under `base`. -/
def join (base p : Path) : Path :=
  if isRooted p then p
  else if base.isEmpty || Text.endsWith "/" base then base ++ p
  else base ++ "/" ++ p

/-- An empty segment, or a dot that says nothing. -/
def isIdle (segment : Text) : Bool := segment.isEmpty || segment == "."

/-- The parts by which paths are told apart: `a//b`, `a/./b` and `a/b/` have those of `a/b`, and
only a dot in front counts. -/
structure Components where
  rooted : Bool
  dotted : Bool
  names : List Text
deriving DecidableEq

def startsWithDot (p : Path) : Bool := (segments p).head? == some ("." : Text)

def components (p : Path) : Components :=
  { rooted := isRooted p, dotted := startsWithDot p
    names := (segments p).filter fun segment => !isIdle segment }

def same (p q : Path) : Bool := components p == components q

/-- The segments in front of the last one that is not idle, less the idle ones at their end; both
lists start at the end. -/
def dropLast? (backwards : List Text) : Option (List Text) :=
  match backwards.dropWhile isIdle with
  | [] => none
  | _ :: rest => some (rest.dropWhile isIdle)

/-- The path without its last component. A root and an empty path have no parent. -/
def parent? (p : Path) : Option Path :=
  let fixed := isRooted p || startsWithDot p
  let body := if fixed then (segments p).drop 1 else segments p
  match dropLast? body.reverse with
  | none => if startsWithDot p then some [] else none
  | some rest =>
    let front := Text.join "/" rest.reverse
    if isRooted p then some ("/" ++ front)
    else if startsWithDot p then some (if rest.isEmpty then "." else "./" ++ front)
    else some front

def fileName? (p : Path) : Option Text :=
  (components p).names.getLast?.filter (· != "..")

/-- What follows the last dot of the file name, if something stands in front of that dot. -/
def extension? (p : Path) : Option Text := do
  let (reversed, before) ← Text.breakAt? (· == '.') (← fileName? p).reverse
  if before.isEmpty then none else some reversed.reverse

def isUrl (p : Path) : Bool := Text.contains "://" p || Text.startsWith "//" p

/-- Adds a segment to the directories in force, innermost first. A step up from the root stays. -/
def descend (rooted : Bool) (within : List Text) (segment : Text) : List Text :=
  if isIdle segment then within
  else if segment = ".." then
    match within with
    | [] => if rooted then [] else [".."]
    | last :: outer => if last ≠ ".." then outer else if rooted then within else ".." :: within
  else segment :: within

/-- The lexical normal form; a URL is kept as it is. -/
def clean (p : Path) : Path :=
  if isUrl p then p
  else
    let joined := Text.join "/" ((segments p).foldl (descend (isRooted p)) []).reverse
    if isRooted p then "/" ++ joined
    else if joined.isEmpty then "."
    else joined

end Path
end Stencil
