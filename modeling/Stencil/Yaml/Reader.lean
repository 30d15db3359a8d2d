import Stencil.Yaml.Scalar
/-!
# Reading YAML

The part of YAML that settings are written in: one document of block and flow collections, plain
and quoted scalars, and comments. Anchors, tags, block scalars, directives and explicit keys are
refused.
-/
namespace Stencil

inductive Yaml where
  | scalar (isPlain : Bool) (t : Text)
  | sequence (items : List Yaml)
  | mapping (entries : List (Yaml × Yaml))

namespace Yaml

def empty : Yaml := .scalar true []

private def isBlockEntry (cursor : Cursor) : Bool :=
  cursor.rest.head? == some '-' && Cursor.endsWord (cursor.rest.drop 1)

mutual

/-- A scalar or flow collection. Plain scalars go on over lines that are indented by `indent`. -/
private def readInline? (flow : Bool) (indent : Nat) : Nat → Cursor → Option (Yaml × Cursor)
  | 0, _ => none
  | fuel + 1, cursor =>
    if cursor.isAnyDocumentMark then none
    else match cursor.rest with
    | [] => none
    | '"' :: _ =>
      (readQuoted? '"' (cursor.rest.length + 1) (cursor.forward 1)).map
        fun (t, c) => (.scalar false t, c)
    | '\'' :: _ =>
      (readQuoted? '\'' (cursor.rest.length + 1) (cursor.forward 1)).map
        fun (t, c) => (.scalar false t, c)
    | '[' :: _ =>
      (readFlowItems? indent fuel (cursor.forward 1)).map fun (items, c) => (.sequence items, c)
    | '\x7b' :: _ =>
      (readFlowEntries? indent fuel (cursor.forward 1)).map
        fun (entries, c) => (.mapping entries, c)
    | rest =>
      if startsPlain flow rest then
        (readPlain? flow indent rest.length cursor).map fun (t, c) => (.scalar true t, c)
      else none

/-- A key with its value behind a colon, or a value alone. -/
private def readFlowEntry? (indent : Nat) : Nat → Cursor → Option (Yaml × Option Yaml × Cursor)
  | 0, _ => none
  | fuel + 1, cursor => do
    let (key, stop) ← readInline? true indent fuel cursor
    let next := stop.toNext true
    match next.rest with
    | ':' :: _ =>
      guard (cursor.isKeyBefore next)
      let value := (next.forward 1).toNext true
      if value.rest.head?.any (fun c => c == ',' || c == ']' || c == '\x7d') then
        some (key, some empty, value)
      else
        let (v, stop) ← readInline? true indent fuel value
        some (key, some v, stop.toNext true)
    | _ => some (key, none, next)

private def readFlowItems? (indent : Nat) : Nat → Cursor → Option (List Yaml × Cursor)
  | 0, _ => none
  | fuel + 1, cursor =>
    let next := cursor.toNext true
    match next.rest with
    | ']' :: _ => some ([], next.forward 1)
    | _ => do
      let (key, value, stop) ← readFlowEntry? indent fuel next
      let item := match value with
        | some v => .mapping [(key, v)]
        | none => key
      match stop.rest with
      | ',' :: _ =>
        (readFlowItems? indent fuel (stop.forward 1)).map fun (items, c) => (item :: items, c)
      | ']' :: _ => some ([item], stop.forward 1)
      | _ => none

private def readFlowEntries? (indent : Nat) : Nat → Cursor → Option (List (Yaml × Yaml) × Cursor)
  | 0, _ => none
  | fuel + 1, cursor =>
    let next := cursor.toNext true
    match next.rest with
    | '\x7d' :: _ => some ([], next.forward 1)
    | _ => do
      let (key, value, stop) ← readFlowEntry? indent fuel next
      let entry := (key, value.getD empty)
      match stop.rest with
      | ',' :: _ =>
        (readFlowEntries? indent fuel (stop.forward 1)).map
          fun (entries, c) => (entry :: entries, c)
      | '\x7d' :: _ => some ([entry], stop.forward 1)
      | _ => none

end

/-- The key of a block mapping, which ends on its line before a colon, and the place behind that
colon. -/
private def readKey? (cursor : Cursor) : Option (Yaml × Cursor) := do
  let onLine := { cursor with rest := cursor.rest.takeWhile (!Cursor.isBreak ·) }
  let (key, stop) ←
    if startsPlain false onLine.rest then
      let (t, stop) := readPlainLine false onLine
      some (.scalar true t, stop)
    else readInline? false 0 (2 * onLine.rest.length + 2) onLine
  let colon := stop.skipSpaces
  match colon.rest with
  | ':' :: t =>
    guard (Cursor.endsWord t && onLine.isKeyBefore colon)
    some (key, cursor.forward (colon.column + 1 - cursor.column))
  | _ => none

/-- The place of the next content, which has to stand on a later line than a node before it. -/
private def afterNode? (cursor : Cursor) : Option Cursor :=
  let next := cursor.toNext false
  if next.fresh || next.rest.isEmpty then some next else none

mutual

/-- The node at a cursor that stands at its first character; `indent` is the least column of
further lines of a plain scalar. -/
private def readBlock? (indent : Nat) : Nat → Cursor → Option (Yaml × Cursor)
  | 0, _ => none
  | fuel + 1, cursor =>
    if cursor.fresh ∧ isBlockEntry cursor then
      (readItems? cursor.column fuel cursor).map fun (items, c) => (.sequence items, c)
    else if cursor.fresh ∧ (readKey? cursor).isSome then
      (readEntries? cursor.column fuel cursor).map fun (entries, c) => (.mapping entries, c)
    else do
      let (node, stop) ← readInline? false indent (2 * cursor.rest.length + 2) cursor
      some (node, ← afterNode? stop)

private def readItems? (column : Nat) : Nat → Cursor → Option (List Yaml × Cursor)
  | 0, _ => none
  | fuel + 1, cursor =>
    if cursor.column = column ∧ isBlockEntry cursor then do
      let next := { cursor.forward 1 with fresh := true }.toNext false
      let (item, stop) ←
        if column < next.column ∧ next.rest ≠ [] then readBlock? (column + 1) fuel next
        else some (empty, next)
      (readItems? column fuel stop).map fun (items, c) => (item :: items, c)
    else some ([], cursor)

private def readEntries? (column : Nat) : Nat → Cursor → Option (List (Yaml × Yaml) × Cursor)
  | 0, _ => none
  | fuel + 1, cursor =>
    if cursor.column = column ∧ cursor.rest ≠ [] ∧ ¬cursor.isAnyDocumentMark then do
      let (key, stop) ← readKey? cursor
      let next := stop.toNext false
      let (value, stop) ←
        if next.rest ≠ [] ∧ ¬next.isAnyDocumentMark ∧
            (column < next.column ∨ (column = next.column ∧ isBlockEntry next)) then
          readBlock? (column + 1) fuel next
        else some (empty, next)
      (readEntries? column fuel stop).map fun (entries, c) => ((key, value) :: entries, c)
    else some ([], cursor)

end

/-- Passes the marks that end a document. -/
private def passEnds : Nat → Cursor → Cursor
  | 0, cursor => cursor
  | fuel + 1, cursor =>
    if cursor.isDocumentMark '.' then passEnds fuel ((cursor.forward 3).toNext false) else cursor

private def isAllowed (c : Char) : Bool :=
  c == '\t' || c == '\n' || (' ' ≤ c && c ≤ '~') ||
    ('\u00a0' ≤ c && c != '\ufeff' && c != '\ufffe' && c != '\uffff')

/-- Every line break as a line feed, but for the line and the paragraph separator. -/
private def plainBreaks : Text → Text
  | [] => []
  | '\u0085' :: t => '\n' :: plainBreaks t
  | '\r' :: '\n' :: t => '\n' :: plainBreaks t
  | '\r' :: t => '\n' :: plainBreaks t
  | c :: t => c :: plainBreaks t

/-- The one document of a text; an empty text holds an empty scalar. -/
def read? (t : Text) : Option Yaml := do
  let t := plainBreaks ((Text.dropStart? "\ufeff" t).getD t)
  guard (t.all isAllowed)
  let first := Cursor.toNext ⟨t, 0, true⟩ false
  let marked := first.isDocumentMark '-'
  let content := if marked then (first.forward 3).toNext false else first
  let (node, stop) ←
    if content.rest = [] ∨ (marked ∧ content.isAnyDocumentMark) then some (empty, content)
    else readBlock? 0 (2 * t.length + 4) content
  guard (passEnds t.length stop).rest.isEmpty
  some node

end Yaml
end Stencil
