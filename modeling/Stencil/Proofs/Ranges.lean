import Stencil.Proofs.Token
/-!
# Byte ranges

A text is cut by byte offsets. The bytes between two offsets are a part of the text if the offsets
are in order, lie within the text and stand between characters. A cut at any other offsets has no
result, so whatever is made of such cuts has a result only if all of them are in range.
-/
namespace Stencil
namespace Text

variable {t s front back pattern : Text} {n start stop : Nat}

/-- The first `n` bytes, if a character ends there. -/
def takeBytes? : Nat → Text → Option Text
  | 0, _ => some []
  | _ + 1, [] => none
  | n + 1, c :: t =>
    if c.utf8Size ≤ n + 1 then (takeBytes? (n + 1 - c.utf8Size) t).map (c :: ·) else none

/-- The part of a text between two byte offsets. -/
def slice? (t : Text) (start stop : Nat) : Option Text :=
  if start ≤ stop then (dropBytes? start t).bind (takeBytes? (stop - start)) else none

/-- The byte offset of the first occurrence of a pattern. -/
def find? (pattern t : Text) : Option Nat := (breakOn? pattern t).map fun found => bytes found.1

theorem bytes_pos (h : t ≠ []) : 0 < bytes t := by
  obtain ⟨c, t, rfl⟩ := List.exists_cons_of_ne_nil h
  have hc := c.utf8Size_pos
  simp only [bytes]
  omega

theorem bytes_cons_eq (c : Char) (t : Text) :
    ∃ n, bytes (c :: t) = n + 1 ∧ c.utf8Size ≤ n + 1 ∧ n + 1 - c.utf8Size = bytes t := by
  have hc := c.utf8Size_pos
  refine ⟨bytes (c :: t) - 1, ?_, ?_, ?_⟩ <;> simp only [bytes] <;> omega

theorem dropBytes?_eq_some_iff :
    dropBytes? n t = some s ↔ ∃ front, t = front ++ s ∧ bytes front = n := by
  constructor
  · intro h
    induction t generalizing n with
    | nil =>
      cases n with
      | zero => exact ⟨[], (Option.some.inj h), rfl⟩
      | succ n => cases h
    | cons c t ih =>
      cases n with
      | zero => exact ⟨[], (Option.some.inj h), rfl⟩
      | succ n =>
        simp only [dropBytes?] at h
        split at h
        · next hc =>
          obtain ⟨front, rfl, hf⟩ := ih h
          refine ⟨c :: front, rfl, ?_⟩
          simp only [bytes]
          omega
        · cases h
  · rintro ⟨front, rfl, rfl⟩
    exact dropBytes?_append front s

private theorem takeBytes?_eq_some_iff :
    takeBytes? n t = some s ↔ ∃ back, t = s ++ back ∧ bytes s = n := by
  constructor
  · intro h
    induction t generalizing n s with
    | nil =>
      cases n with
      | zero => cases h; exact ⟨[], rfl, rfl⟩
      | succ n => cases h
    | cons c t ih =>
      cases n with
      | zero => cases h; exact ⟨c :: t, rfl, rfl⟩
      | succ n =>
        simp only [takeBytes?] at h
        split at h
        · next hc =>
          obtain ⟨taken, ht, rfl⟩ := Option.map_eq_some_iff.mp h
          obtain ⟨back, rfl, hb⟩ := ih ht
          refine ⟨back, rfl, ?_⟩
          simp only [bytes]
          omega
        · cases h
  · rintro ⟨back, rfl, rfl⟩
    induction s with
    | nil => cases back <;> rfl
    | cons c s ih =>
      obtain ⟨n, hn, hle, hs⟩ := bytes_cons_eq c s
      rw [hn, List.cons_append, takeBytes?, if_pos hle, hs, ih]
      rfl

/-- A range is a part of the text if its ends are in order, within the text and between
characters. -/
theorem slice?_eq_some_iff :
    slice? t start stop = some s ↔
      ∃ front back, t = front ++ s ++ back ∧ bytes front = start ∧ bytes (front ++ s) = stop := by
  constructor
  · intro h
    simp only [slice?] at h
    split at h
    · next hle =>
      obtain ⟨rest, hd, ht⟩ := Option.bind_eq_some_iff.mp h
      obtain ⟨front, rfl, hf⟩ := dropBytes?_eq_some_iff.mp hd
      obtain ⟨back, rfl, hb⟩ := takeBytes?_eq_some_iff.mp ht
      refine ⟨front, back, (List.append_assoc _ _ _).symm, hf, ?_⟩
      rw [bytes_append]
      omega
    · cases h
  · rintro ⟨front, back, rfl, rfl, rfl⟩
    have hle : bytes front ≤ bytes (front ++ s) := by
      rw [bytes_append]
      omega
    have hn : bytes (front ++ s) - bytes front = bytes s := by
      rw [bytes_append]
      omega
    rw [slice?, if_pos hle, List.append_assoc, dropBytes?_append, hn]
    exact takeBytes?_eq_some_iff.mpr ⟨back, rfl, rfl⟩

theorem le_of_slice? (h : slice? t start stop = some s) : start ≤ stop ∧ stop ≤ bytes t := by
  obtain ⟨front, back, rfl, rfl, rfl⟩ := slice?_eq_some_iff.mp h
  simp only [bytes_append]
  omega

/-- A character begins at the offset, or the text ends there. -/
def IsBoundary (t : Text) (offset : Nat) : Prop := ∃ front, front <+: t ∧ bytes front = offset

theorem prefix_of_bytes_le {front other : Text} (hf : front <+: t) (ho : other <+: t)
    (hle : bytes front ≤ bytes other) : front <+: other := by
  rcases List.prefix_or_prefix_of_prefix hf ho with h | ⟨back, rfl⟩
  · exact h
  · cases back with
    | nil => simp
    | cons c back =>
      have hpos := bytes_pos (List.cons_ne_nil c back)
      rw [bytes_append] at hle
      omega

theorem slice?_isSome_iff :
    (slice? t start stop).isSome = true ↔
      start ≤ stop ∧ stop ≤ bytes t ∧ IsBoundary t start ∧ IsBoundary t stop := by
  constructor
  · intro h
    obtain ⟨s, hs⟩ := Option.isSome_iff_exists.mp h
    obtain ⟨hle, hin⟩ := le_of_slice? hs
    obtain ⟨front, back, rfl, hf, hb⟩ := slice?_eq_some_iff.mp hs
    refine ⟨hle, hin, ⟨front, ?_, hf⟩, ⟨front ++ s, List.prefix_append _ _, hb⟩⟩
    exact (List.prefix_append _ _).trans (List.prefix_append _ _)
  · rintro ⟨hle, -, ⟨front, hf, rfl⟩, ⟨upTo, hu, rfl⟩⟩
    obtain ⟨s, rfl⟩ := prefix_of_bytes_le hf hu hle
    obtain ⟨back, rfl⟩ := hu
    rw [slice?_eq_some_iff.mpr ⟨front, back, rfl, rfl, rfl⟩]
    rfl

/-- No part of a text begins inside a character. -/
example : slice? ("é" : Text) 1 2 = none := by decide

theorem slice?_append (front s back : Text) :
    slice? (front ++ s ++ back) (bytes front) (bytes front + bytes s) = some s :=
  slice?_eq_some_iff.mpr ⟨front, back, rfl, rfl, bytes_append front s⟩

theorem slice?_prefix (s back : Text) : slice? (s ++ back) 0 (bytes s) = some s :=
  slice?_eq_some_iff.mpr ⟨[], back, rfl, rfl, rfl⟩

theorem slice?_suffix (front s : Text) :
    slice? (front ++ s) (bytes front) (bytes (front ++ s)) = some s :=
  slice?_eq_some_iff.mpr ⟨front, [], (List.append_nil _).symm, rfl, rfl⟩

theorem find?_eq_none (h : breakOn? pattern t = none) : find? pattern t = none := by
  rw [find?, h]
  rfl

theorem find?_eq_some (h : breakOn? pattern t = some (front, back)) :
    find? pattern t = some (bytes front) := by
  rw [find?, h]
  rfl

theorem find?_cons (c : Char) (t : Text) :
    find? pattern (c :: t) = if pattern.isPrefixOf (c :: t) then some 0
      else (find? pattern t).map (c.utf8Size + ·) := by
  simp only [find?, breakOn?]
  split
  · rfl
  · rw [Option.map_map, Option.map_map]
    rfl

end Text

/-- A count lowered by one, if it is not zero. -/
def lower? : Nat → Option Nat
  | 0 => none
  | count + 1 => some count

/-! ### Scanning by offsets -/

/-- A scanner that keeps the whole text and its offset in it. -/
structure ByteScanner where
  delimiters : Delimiters
  input : Text
  position : Nat := 0
  finished : Bool := false

namespace ByteScanner

def next (s : ByteScanner) : Option (Option (Token × ByteScanner)) :=
  if s.finished || Text.bytes s.input ≤ s.position then some none
  else do
    let remaining ← Text.slice? s.input s.position (Text.bytes s.input)
    match Text.find? s.delimiters.start remaining with
    | none => some (some (.text remaining, { s with position := Text.bytes s.input }))
    | some opening =>
      if 0 < opening then
        let plain ← Text.slice? remaining 0 opening
        some (some (.text plain, { s with position := s.position + opening }))
      else
        let behindStart := Text.bytes s.delimiters.start
        let inside ← Text.slice? remaining behindStart (Text.bytes remaining)
        match Text.find? s.delimiters.stop inside with
        | none => some (some (.unclosed s.position, { s with finished := true }))
        | some close =>
          let tagEnd := behindStart + close + Text.bytes s.delimiters.stop
          let tag ← Text.slice? remaining 0 tagEnd
          some (some (.tag ⟨s.delimiters.inner tag, s.position, s.position + tagEnd⟩,
            { s with position := s.position + tagEnd }))

def seek (s : ByteScanner) (position : Nat) : ByteScanner :=
  let target := min position (Text.bytes s.input)
  if s.position < target then { s with position := target } else s

variable {s after : ByteScanner} {token : Token}

theorem next_advances (h : s.next = some (some (token, after)))
    (hu : ∀ position, token ≠ .unclosed position) :
    after.input = s.input ∧ s.position < after.position ∧ s.position < Text.bytes s.input := by
  simp only [next] at h
  split at h
  · cases h
  next hin =>
  have hlt : s.position < Text.bytes s.input := by simp at hin; omega
  obtain ⟨remaining, -, h⟩ := Option.bind_eq_some_iff.mp h
  split at h
  · cases h
    exact ⟨rfl, hlt, hlt⟩
  · next opening _ =>
    split at h
    · next hpos =>
      obtain ⟨plain, -, h⟩ := Option.bind_eq_some_iff.mp h
      cases h
      exact ⟨rfl, Nat.lt_add_of_pos_right hpos, hlt⟩
    · obtain ⟨inside, -, h⟩ := Option.bind_eq_some_iff.mp h
      split at h
      · cases h
        exact absurd rfl (hu _)
      · obtain ⟨tag, -, h⟩ := Option.bind_eq_some_iff.mp h
        cases h
        have hstart := Text.bytes_pos s.delimiters.start_ne_nil
        refine ⟨rfl, ?_, hlt⟩
        dsimp only
        omega

theorem seek_input (s : ByteScanner) (position : Nat) : (s.seek position).input = s.input := by
  simp only [seek]
  split <;> rfl

theorem position_le_seek (s : ByteScanner) (position : Nat) :
    s.position ≤ (s.seek position).position := by
  simp only [seek]
  split
  · next h => exact Nat.le_of_lt h
  · exact Nat.le_refl _

end ByteScanner

namespace Scanner

variable {scanner after : Scanner} {input : Text}

/-- The scanner as one over the whole text. -/
def inBytes (scanner : Scanner) (input : Text) : ByteScanner :=
  ⟨scanner.delimiters, input, scanner.position, scanner.finished⟩

/-- What the scanner has left is what the text holds from its position on. -/
def StandsIn (scanner : Scanner) (input : Text) : Prop :=
  ∃ before, input = before ++ scanner.rest ∧ Text.bytes before = scanner.position

theorem standsIn_ofText (delimiters : Delimiters) (t : Text) :
    (ofText delimiters t).StandsIn t := ⟨[], rfl, rfl⟩

end Scanner

private theorem Delimiters.inner_tag (d : Delimiters) (contents : Text) :
    d.inner (d.start ++ contents ++ d.stop) = Text.trim contents := by
  have hstart : Text.dropStart? d.start (d.start ++ contents ++ d.stop) =
      some (contents ++ d.stop) := by
    have hp : Text.startsWith d.start (d.start ++ contents ++ d.stop) = true :=
      List.isPrefixOf_iff_prefix.mpr ⟨contents ++ d.stop, (List.append_assoc _ _ _).symm⟩
    rw [Text.dropStart?, if_pos hp, List.append_assoc, List.drop_left]
  have hstop : Text.dropEnd? d.stop (contents ++ d.stop) = some contents := by
    have hs : Text.endsWith d.stop (contents ++ d.stop) = true :=
      List.isSuffixOf_iff_suffix.mpr ⟨contents, rfl⟩
    rw [Text.dropEnd?, if_pos hs, List.length_append, Nat.add_sub_cancel, List.take_left]
  rw [inner, hstart]
  simp only [Option.getD_some, hstop]

namespace Scanner

variable {scanner after : Scanner} {input : Text}

section Cuts

variable {delimiters : Delimiters} {rest inside contents behind : Text}

private theorem slice?_behindStart (hb : Text.breakOn? delimiters.start rest = some ([], inside)) :
    Text.slice? rest (Text.bytes delimiters.start) (Text.bytes rest) = some inside := by
  rw [Text.eq_append_of_breakOn? hb]
  exact Text.slice?_suffix _ _

private theorem slice?_tag (hb : Text.breakOn? delimiters.start rest = some ([], inside))
    (hs : Text.breakOn? delimiters.stop inside = some (contents, behind)) :
    Text.slice? rest 0
        (Text.bytes delimiters.start + Text.bytes contents + Text.bytes delimiters.stop) =
      some (delimiters.start ++ contents ++ delimiters.stop) := by
  rw [Text.eq_append_of_breakOn? hb, Text.eq_append_of_breakOn? hs, ← Text.bytes_append,
    ← Text.bytes_append]
  simp only [List.nil_append, ← List.append_assoc]
  exact Text.slice?_prefix _ _

end Cuts

theorem next_inBytes (h : scanner.StandsIn input) :
    (scanner.inBytes input).next =
      some (scanner.next?.map fun found => (found.1, found.2.inBytes input)) := by
  obtain ⟨before, rfl, hp⟩ := h
  obtain ⟨delimiters, rest, position, finished⟩ := scanner
  dsimp only at hp
  subst hp
  cases finished with
  | true => simp [ByteScanner.next, inBytes, next?]
  | false =>
  by_cases hr : rest = []
  · subst hr
    simp [ByteScanner.next, inBytes, next?]
  have hlt : ¬ Text.bytes (before ++ rest) ≤ Text.bytes before := by
    have hpos := Text.bytes_pos hr
    rw [Text.bytes_append]
    omega
  have hempty : rest.isEmpty = false := by simpa using hr
  have hslice : Text.slice? (before ++ rest) (Text.bytes before) (Text.bytes (before ++ rest)) =
      some rest := Text.slice?_suffix before rest
  simp only [ByteScanner.next, inBytes, next?, hlt, hempty, decide_false, Bool.or_self,
    Bool.false_eq_true, if_false, hslice, Option.bind_eq_bind, Option.bind_some]
  cases hb : Text.breakOn? delimiters.start rest with
  | none =>
    rw [Text.find?_eq_none hb]
    simp [advance]
  | some found =>
    obtain ⟨plain, inside⟩ := found
    have hrest := Text.eq_append_of_breakOn? hb
    rw [Text.find?_eq_some hb]
    cases plain with
    | cons c plain =>
      have hpos : 0 < Text.bytes (c :: plain) := Text.bytes_pos (List.cons_ne_nil c plain)
      have hplain : Text.slice? rest 0 (Text.bytes (c :: plain)) = some (c :: plain) := by
        rw [hrest, List.append_assoc]
        exact Text.slice?_prefix _ _
      simp only [if_pos hpos, hplain, Option.bind_some, advance, Option.map_some]
    | nil =>
      have hzero : ¬ 0 < Text.bytes [] := Nat.lt_irrefl 0
      simp only [if_neg hzero, slice?_behindStart hb, Option.bind_some]
      cases hs : Text.breakOn? delimiters.stop inside with
      | none => simp [Text.find?_eq_none hs]
      | some found =>
        obtain ⟨contents, behind⟩ := found
        simp only [Text.find?_eq_some hs, slice?_tag hb hs, Option.bind_some, advance,
          Option.map_some, Delimiters.inner_tag, Text.bytes_append]

theorem StandsIn.behind {taken : Text} (h : scanner.StandsIn input)
    (hr : scanner.rest = taken ++ after.rest)
    (hp : after.position = scanner.position + Text.bytes taken) : after.StandsIn input := by
  obtain ⟨before, rfl, hb⟩ := h
  refine ⟨before ++ taken, ?_, ?_⟩
  · rw [hr, List.append_assoc]
  · rw [Text.bytes_append, hb, hp]

theorem seek_inBytes (h : scanner.StandsIn input) (position : Nat) :
    (scanner.inBytes input).seek position = (scanner.seek position).inBytes input := by
  obtain ⟨before, rfl, hb⟩ := h
  have hlen : Text.bytes (before ++ scanner.rest) = scanner.position + Text.bytes scanner.rest := by
    rw [Text.bytes_append, hb]
  simp only [ByteScanner.seek, seek, inBytes, hlen]
  split <;> rfl

end Scanner
end Stencil
