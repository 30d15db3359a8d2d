import Stencil.Json.Number
/-!
# Reading JSON

A strict reader: one value with blanks around it, escapes in pairs where they stand for one
character, no control characters in texts, and no more than 127 levels of nesting. Of a repeated
key the last value stays.
-/
namespace Stencil.Json

private def skipBlanks (t : Text) : Text :=
  t.dropWhile fun c => c == ' ' || c == '\n' || c == '\t' || c == '\r'

private def hexDigit? (c : Char) : Option Nat :=
  if c.isDigit then some (c.toNat - '0'.toNat)
  else if 'a' ≤ c ∧ c ≤ 'f' then some (c.toNat - 'a'.toNat + 10)
  else if 'A' ≤ c ∧ c ≤ 'F' then some (c.toNat - 'A'.toNat + 10)
  else none

private def hexUnit? (a b c d : Char) : Option Nat := do
  some (((← hexDigit? a) * 16 + (← hexDigit? b)) * 256 + (← hexDigit? c) * 16 + (← hexDigit? d))

private def escaped? : Char → Option Char
  | '"' => some '"'
  | '\\' => some '\\'
  | '/' => some '/'
  | 'b' => some '\x08'
  | 'f' => some '\x0c'
  | 'n' => some '\n'
  | 'r' => some '\r'
  | 't' => some '\t'
  | _ => none

/-- The character that one escaped unit stands for, unless it is half of a pair. -/
private def unitChar? (unit : Nat) : Option Char :=
  if 0xD800 ≤ unit ∧ unit ≤ 0xDFFF then none else some (Char.ofNat unit)

private def pairChar? (high low : Nat) : Option Char :=
  if 0xD800 ≤ high ∧ high ≤ 0xDBFF ∧ 0xDC00 ≤ low ∧ low ≤ 0xDFFF then
    some (Char.ofNat (0x10000 + (high - 0xD800) * 0x400 + (low - 0xDC00)))
  else none

/-- The text up to the closing quote, and what follows it. -/
private def readText? : Text → Option (Text × Text)
  | [] => none
  | '"' :: rest => some ([], rest)
  | '\\' :: 'u' :: a :: b :: c :: d :: rest => do
    let unit ← hexUnit? a b c d
    match unitChar? unit, rest with
    | some char, rest =>
      let (t, rest) ← readText? rest
      some (char :: t, rest)
    | none, '\\' :: 'u' :: e :: f :: g :: h :: rest =>
      let char ← pairChar? unit (← hexUnit? e f g h)
      let (t, rest) ← readText? rest
      some (char :: t, rest)
    | none, _ => none
  | '\\' :: letter :: rest => do
    let char ← escaped? letter
    let (t, rest) ← readText? rest
    some (char :: t, rest)
  | char :: rest => do
    guard (0x20 ≤ char.toNat && char != '\\')
    let (t, rest) ← readText? rest
    some (char :: t, rest)

mutual

/-- A value at the start of the text. `levels` is how many more containers may be opened, and the
first argument bounds the calls. -/
private def readValue? : Nat → Nat → Text → Option (Value × Text)
  | 0, _, _ => none
  | fuel + 1, levels, t =>
    match skipBlanks t with
    | 'n' :: 'u' :: 'l' :: 'l' :: rest => some (.null, rest)
    | 't' :: 'r' :: 'u' :: 'e' :: rest => some (.bool true, rest)
    | 'f' :: 'a' :: 'l' :: 's' :: 'e' :: rest => some (.bool false, rest)
    | '"' :: rest => (readText? rest).map fun (t, rest) => (.text t, rest)
    | '[' :: rest =>
      if levels = 0 then none
      else match skipBlanks rest with
        | ']' :: rest => some (.array [], rest)
        | rest => (readItems? fuel (levels - 1) rest).map fun (items, rest) => (.array items, rest)
    | '\x7b' :: rest =>
      if levels = 0 then none
      else match skipBlanks rest with
        | '\x7d' :: rest => some (.object [], rest)
        | rest => (readMembers? fuel (levels - 1) rest).map fun (members, rest) =>
            (.object (Table.ofEntries members), rest)
    | rest => (readNumber? rest).map fun (n, rest) => (.number n, rest)

private def readItems? : Nat → Nat → Text → Option (List Value × Text)
  | 0, _, _ => none
  | fuel + 1, levels, t => do
    let (item, rest) ← readValue? fuel levels t
    match skipBlanks rest with
    | ',' :: rest =>
      let (items, rest) ← readItems? fuel levels rest
      some (item :: items, rest)
    | ']' :: rest => some ([item], rest)
    | _ => none

private def readMembers? : Nat → Nat → Text → Option (List (Text × Value) × Text)
  | 0, _, _ => none
  | fuel + 1, levels, t => do
    let '"' :: rest := skipBlanks t | none
    let (key, rest) ← readText? rest
    let ':' :: rest := skipBlanks rest | none
    let (value, rest) ← readValue? fuel levels rest
    match skipBlanks rest with
    | ',' :: rest =>
      let (members, rest) ← readMembers? fuel levels rest
      some ((key, value) :: members, rest)
    | '\x7d' :: rest => some ([(key, value)], rest)
    | _ => none

end

/-- The value that the whole text writes. -/
def read? (t : Text) : Option Value := do
  let (value, rest) ← readValue? (2 * t.length + 2) 127 t
  guard (skipBlanks rest).isEmpty
  some value

/-- The members of the object that the whole text writes. -/
def readObject? (t : Text) : Option Fields :=
  match read? t with
  | some (.object members) => some members
  | _ => none

private theorem readValue?_object {fuel levels : Nat} {t rest : Text} {members : Fields}
    (h : readValue? fuel levels t = some (.object members, rest)) :
    ∃ entries, members = Table.ofEntries entries := by
  cases fuel with
  | zero => simp [readValue?] at h
  | succ fuel =>
    rw [readValue?] at h
    split at h
    -- Every character but an opening brace starts a value of another kind.
    case h_6 =>
      split at h
      · cases h
      · split at h
        · cases h
          exact ⟨[], rfl⟩
        · obtain ⟨⟨entries, _⟩, -, he⟩ := Option.map_eq_some_iff.mp h
          cases he
          exact ⟨entries, rfl⟩
    case h_5 =>
      split at h
      · cases h
      · split at h
        · cases h
        · obtain ⟨_, -, he⟩ := Option.map_eq_some_iff.mp h
          cases he
    all_goals simp at h

/-- What is read as an object is a table of entries as they were written. -/
theorem readObject?_ofEntries {t : Text} {members : Fields}
    (h : readObject? t = some members) : ∃ entries, members = Table.ofEntries entries := by
  simp only [readObject?] at h
  split at h
  · next hr =>
    cases h
    obtain ⟨⟨value, rest⟩, hv, hr⟩ := Option.bind_eq_some_iff.mp hr
    obtain ⟨_, -, he⟩ := Option.bind_eq_some_iff.mp hr
    cases he
    exact readValue?_object hv
  · cases h

end Stencil.Json
