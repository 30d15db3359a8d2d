import Stencil.Text.Numeral
/-!
# Scalars of YAML

Quoted and plain scalars at a place in a text. A line break inside a scalar counts as one blank,
and each further one as a line break; a plain scalar goes on as long as its lines are indented.
-/
namespace Stencil.Yaml

/-- What is left of a text, and where it starts. -/
structure Cursor where
  rest : Text
  column : Nat
  /-- A block collection may start here: only blanks and dashes of block entries stand before it on
  its line. -/
  fresh : Bool

namespace Cursor

def isSpaceOrTab (c : Char) : Bool := c == ' ' || c == '\t'

def isBreak (c : Char) : Bool := c == '\n' || c == '\u2028' || c == '\u2029'

/-- The text is at an end, a blank or a line break. -/
def endsWord (t : Text) : Bool :=
  match t with
  | [] => true
  | c :: _ => isSpaceOrTab c || isBreak c

/-- Drops characters that stand on the current line. -/
def forward (cursor : Cursor) (count : Nat) : Cursor :=
  ⟨cursor.rest.drop count, cursor.column + count, false⟩

def skipSpaces (cursor : Cursor) : Cursor :=
  cursor.forward (cursor.rest.takeWhile isSpaceOrTab).length

private def skipFrom (flow : Bool) : (comment fresh : Bool) → Nat → Text → Cursor
  | _, fresh, column, [] => ⟨[], column, fresh⟩
  | comment, fresh, column, c :: t =>
    if isBreak c then skipFrom flow false (fresh || !flow) 0 t
    else if comment || c == ' ' || (c == '\t' && (flow || !fresh)) then
      skipFrom flow comment fresh (column + 1) t
    else if c = '#' then skipFrom flow true fresh (column + 1) t
    else ⟨c :: t, column, fresh⟩

/-- The next character that is no blank, line break or part of a comment. Outside flow collections a
tab is no blank where a block collection may start, since it would leave the column unclear. -/
def toNext (cursor : Cursor) (flow : Bool) : Cursor :=
  skipFrom flow false cursor.fresh cursor.column cursor.rest

/-- A key at the one cursor may have its colon at the other: they stand on one line, and not too far
apart. -/
def isKeyBefore (key colon : Cursor) : Bool :=
  let passed := key.rest.length - colon.rest.length
  colon.column == key.column + passed && passed ≤ 1024

/-- A line of three equal characters that ends or starts a document. -/
def isDocumentMark (mark : Char) (cursor : Cursor) : Bool :=
  cursor.column == 0 && List.isPrefixOf [mark, mark, mark] cursor.rest &&
    endsWord (cursor.rest.drop 3)

def isAnyDocumentMark (cursor : Cursor) : Bool :=
  cursor.isDocumentMark '-' || cursor.isDocumentMark '.'

end Cursor

/-- What a run of line breaks and the blanks around it stands for inside a scalar. -/
private def folded : Text → Text
  | ['\n'] => " "
  | '\n' :: breaks => breaks
  | breaks => breaks

/-- Passes blanks and line breaks: the breaks, and what follows. On a new line a tab to the left of
`least` is refused. -/
private def passBlanks? (least : Nat) : (fresh : Bool) → Nat → Text → Option (Text × Cursor)
  | fresh, column, [] => some ([], ⟨[], column, fresh⟩)
  | fresh, column, c :: t =>
    if Cursor.isBreak c then
      (passBlanks? least true 0 t).map fun (breaks, next) => (c :: breaks, next)
    else if fresh && c == '\t' && column < least then none
    else if Cursor.isSpaceOrTab c then passBlanks? least fresh (column + 1) t
    else some ([], ⟨c :: t, column, fresh⟩)

private def hexValue? (digits : Text) : Option Nat :=
  digits.foldlM (fun n c =>
    if c.isDigit then some (16 * n + (c.toNat - '0'.toNat))
    else if 'a' ≤ c ∧ c ≤ 'f' then some (16 * n + (c.toNat - 'a'.toNat + 10))
    else if 'A' ≤ c ∧ c ≤ 'F' then some (16 * n + (c.toNat - 'A'.toNat + 10))
    else none) 0

private def escapedLetter? : Char → Option Char
  | '0' => some '\x00'
  | 'a' => some '\x07'
  | 'b' => some '\x08'
  | 't' => some '\t'
  | '\t' => some '\t'
  | 'n' => some '\n'
  | 'v' => some '\x0b'
  | 'f' => some '\x0c'
  | 'r' => some '\r'
  | 'e' => some '\x1b'
  | ' ' => some ' '
  | '"' => some '"'
  | '/' => some '/'
  | '\\' => some '\\'
  | 'N' => some '\u0085'
  | '_' => some '\u00a0'
  | 'L' => some '\u2028'
  | 'P' => some '\u2029'
  | _ => none

private def escapeWidth : Char → Nat
  | 'x' => 2
  | 'u' => 4
  | 'U' => 8
  | _ => 0

/-- The scalar up to its closing quote, with the place behind it. The first argument bounds the
steps, of which each passes a character. -/
def readQuoted? (quote : Char) : Nat → Cursor → Option (Text × Cursor)
  | 0, _ => none
  | fuel + 1, cursor =>
    let keep (taken : Text) (count : Nat) :=
      (readQuoted? quote fuel (cursor.forward count)).map fun (t, c) => (taken ++ t, c)
    if cursor.isAnyDocumentMark then none
    else match cursor.rest with
    | [] => none
    | c :: t =>
      if c = quote then
        if quote = '\'' ∧ t.head? = some '\'' then keep ['\''] 2
        else some ([], cursor.forward 1)
      else if Cursor.isSpaceOrTab c ∨ Cursor.isBreak c then do
        let (breaks, next) ← passBlanks? 0 false cursor.column cursor.rest
        let blanks :=
          if breaks.isEmpty then cursor.rest.takeWhile Cursor.isSpaceOrTab else folded breaks
        (readQuoted? quote fuel next).map fun (rest, c) => (blanks ++ rest, c)
      else if quote = '"' ∧ c = '\\' then
        match t with
        | [] => none
        | letter :: t =>
          if Cursor.isBreak letter then do
            let (breaks, next) ← passBlanks? 0 true 0 t
            (readQuoted? quote fuel next).map fun (rest, c) => (breaks ++ rest, c)
          else match escapedLetter? letter, escapeWidth letter with
          | some char, _ => keep [char] 2
          | none, 0 => none
          | none, width =>
            match hexValue? (t.take width) with
            | some n =>
              if (t.take width).length = width ∧ n.isValidChar then keep [Char.ofNat n] (width + 2)
              else none
            | none => none
      else keep [c] 1

/-- The character and what follows it may start a plain scalar. -/
def startsPlain (flow : Bool) : Text → Bool
  | [] => false
  | c :: t =>
    if c == '-' then !Cursor.endsWord t
    else if c == '?' || c == ':' then !flow && !Cursor.endsWord t
    else !Cursor.endsWord [c] && !List.contains (",[]\x7b\x7d#&*!|>'\"%@`" : Text) c

/-- A colon that neither separates nor belongs to a plain scalar of a flow collection. -/
private def isStrayColon : Text → Bool
  | ':' :: c :: _ => List.contains (",?[]\x7b\x7d" : Text) c
  | _ => false

private def endsPlain (flow : Bool) : Text → Bool
  | [] => true
  | c :: t =>
    Cursor.isBreak c || (c == ':' && Cursor.endsWord t) ||
      (Cursor.isSpaceOrTab c && t.head? == some '#') ||
      (flow && (List.contains (",[]\x7b\x7d" : Text) c || isStrayColon (c :: t)))

/-- The part of a plain scalar that stands on the current line, with blanks at its end. -/
private def plainRun (flow : Bool) : Text → Text
  | [] => []
  | c :: t => if endsPlain flow (c :: t) then [] else c :: plainRun flow t

private def dropEndSpaces (t : Text) : Text := (t.reverse.dropWhile Cursor.isSpaceOrTab).reverse

/-- One line of a plain scalar. -/
def readPlainLine (flow : Bool) (cursor : Cursor) : Text × Cursor :=
  let run := plainRun flow cursor.rest
  (dropEndSpaces run, cursor.forward run.length)

/-- A plain scalar whose further lines start at `indent` or to the right of it, with the place
behind the blanks that follow it. -/
def readPlain? (flow : Bool) (indent : Nat) : Nat → Cursor → Option (Text × Cursor)
  | 0, _ => none
  | fuel + 1, cursor => do
    let (line, stop) := readPlainLine flow cursor
    guard !(flow && isStrayColon stop.rest)
    let (breaks, next) ← passBlanks? indent false stop.column stop.rest
    let goesOn := next.fresh && !next.isAnyDocumentMark && (flow || indent ≤ next.column) &&
      next.rest.head? != some '#' && !endsPlain flow next.rest
    if goesOn then
      (readPlain? flow indent fuel next).map
        fun (rest, stop) => (line ++ folded breaks ++ rest, stop)
    else some (line, next)

end Stencil.Yaml
