import Stencil.Path
import Stencil.Table
/-!
# Files

Rendering sees files through two questions: is there a file at a path, and what text does it hold.
A tree of folders answers them the way a file system walks a path, segment by segment.
-/
namespace Stencil

inductive ReadError where
  | missing
  | notDirectory
  | isDirectory
  | notText
  | nulInName
  | denied
deriving DecidableEq

def ReadError.message : ReadError → Text
  | missing => "No such file or directory (os error 2)"
  | notDirectory => "Not a directory (os error 20)"
  | isDirectory => "Is a directory (os error 21)"
  | notText => "stream did not contain valid UTF-8"
  | nulInName => "file name contained an unexpected NUL byte"
  | denied => "Permission denied (os error 13)"

structure Files where
  isFile : Path → Bool
  read : Path → Except ReadError Text

/-- The text of a file's bytes. -/
def textOfBytes (content : ByteArray) : Except ReadError Text :=
  match String.fromUTF8? content with
  | some s => .ok s.toList
  | none => .error .notText

/-- What a path leads to is a file, readable as text or not. -/
def isFileFound : Except ReadError Text → Bool
  | .ok _ => true
  | .error cause => cause == .notText

/-- Files of which some have been read before. Any other path counts as a file that is missing, so
that whoever needs it reports that it cannot be read. -/
def Files.ofKnown (known : Table (Except ReadError Text)) : Files where
  isFile path := (known.get? path).all isFileFound
  read path := (known.get? path).getD (.error .missing)

inductive FileTree where
  | file (content : ByteArray)
  | folder (entries : List (Text × FileTree))

namespace FileTree

/-- Changes what stands at the end of a list of names; folders on the way are made. -/
def update (change : Option FileTree → FileTree) : List Text → Option FileTree → FileTree
  | [], tree => change tree
  | name :: rest, tree =>
    let entries := match tree with
      | some (folder entries) => entries
      | _ => []
    folder (Table.set name (update change rest (Table.get? name entries)) entries)

def addFile (tree : FileTree) (names : List Text) (content : ByteArray) : FileTree :=
  update (fun _ => file content) names (some tree)

def addFolder (tree : FileTree) (names : List Text) : FileTree :=
  update (fun old => old.getD (folder [])) names (some tree)

/-- One step of a walk. The list holds the current place and the folders around it; the root is
its own parent. -/
def step (places : List FileTree) (segment : Text) : Except ReadError (List FileTree) :=
  match places with
  | folder entries :: outer =>
    if Path.isIdle segment then .ok places
    else if segment = ".." then .ok (if outer.isEmpty then places else outer)
    else match Table.get? segment entries with
      | some found => .ok (found :: places)
      | none => .error .missing
  | _ => .error .notDirectory

/-- What stands at a path, seen from the working directory, which `working` reaches from the
root. -/
def find (tree : FileTree) (working : List Text) (p : Path) : Except ReadError FileTree := do
  if List.contains p '\x00' then throw .nulInName
  if p.isEmpty then throw .missing
  let start := if Path.isRooted p then [] else working
  let places ← (start ++ Path.segments p).foldlM step [tree]
  match places with
  | found :: _ => pure found
  | [] => throw .missing

def textOf : FileTree → Except ReadError Text
  | folder _ => .error .isDirectory
  | file content => textOfBytes content

def files (tree : FileTree) (working : List Text) : Files where
  isFile p := match find tree working p with
    | .ok (file _) => true
    | _ => false
  read p := find tree working p >>= textOf

end FileTree
end Stencil
