/-!
# Text

A text is a list of characters, so that a cut is an equation between appends. Positions in a
text are counted in UTF-8 bytes. The main fact is that breaking a text at a pattern loses nothing.
-/
namespace Stencil

abbrev Text := List Char

instance : Coe String Text := ⟨String.toList⟩

namespace Text

/-- The length in UTF-8 bytes. -/
def bytes : Text → Nat
  | [] => 0
  | c :: t => c.utf8Size + bytes t

@[simp] theorem bytes_append (s t : Text) : bytes (s ++ t) = bytes s + bytes t := by
  induction s with
  | nil => simp [bytes]
  | cons c s ih => simp [bytes, ih, Nat.add_assoc]

/-- What is left after the first `n` bytes, from the next character on. -/
def dropBytes : Nat → Text → Text
  | 0, t => t
  | _ + 1, [] => []
  | n + 1, c :: t => dropBytes (n + 1 - c.utf8Size) t

theorem dropBytes_append (s t : Text) : dropBytes (bytes s) (s ++ t) = t := by
  induction s with
  | nil => simp [bytes, dropBytes]
  | cons c s ih =>
    have hc := c.utf8Size_pos
    obtain ⟨n, hn⟩ : ∃ n, bytes (c :: s) = n + 1 := ⟨bytes (c :: s) - 1, by simp [bytes]; omega⟩
    have hd : n + 1 - c.utf8Size = bytes s := by simp [bytes] at hn; omega
    rw [hn, List.cons_append, dropBytes, hd, ih]

theorem dropBytes_length_le (n : Nat) (t : Text) : (dropBytes n t).length ≤ t.length := by
  induction t generalizing n with
  | nil => cases n <;> simp [dropBytes]
  | cons c t ih =>
    cases n with
    | zero => simp [dropBytes]
    | succ n => simp only [dropBytes, List.length_cons]; exact Nat.le_succ_of_le (ih _)

/-- What is left after the first `n` bytes, if a character ends there. -/
def dropBytes? : Nat → Text → Option Text
  | 0, t => some t
  | _ + 1, [] => none
  | n + 1, c :: t => if c.utf8Size ≤ n + 1 then dropBytes? (n + 1 - c.utf8Size) t else none

theorem dropBytes?_append (s t : Text) : dropBytes? (bytes s) (s ++ t) = some t := by
  induction s with
  | nil => simp [bytes, dropBytes?]
  | cons c s ih =>
    have hc := c.utf8Size_pos
    obtain ⟨n, hn⟩ : ∃ n, bytes (c :: s) = n + 1 := ⟨bytes (c :: s) - 1, by simp [bytes]; omega⟩
    have hd : n + 1 - c.utf8Size = bytes s := by simp [bytes] at hn; omega
    have hle : c.utf8Size ≤ n + 1 := by simp [bytes] at hn; omega
    rw [hn, List.cons_append, dropBytes?, if_pos hle, hd, ih]

/-- The text around the first occurrence of `pattern`. -/
def breakOn? (pattern : Text) : Text → Option (Text × Text)
  | [] => if pattern.isEmpty then some ([], []) else none
  | c :: t =>
    if pattern.isPrefixOf (c :: t) then some ([], (c :: t).drop pattern.length)
    else (breakOn? pattern t).map fun (before, after) => (c :: before, after)

theorem eq_append_of_isPrefixOf {p t : Text} (h : p.isPrefixOf t = true) :
    t = p ++ t.drop p.length := by
  obtain ⟨r, rfl⟩ := List.isPrefixOf_iff_prefix.mp h
  simp

theorem eq_append_of_breakOn? {p t a b : Text} (h : breakOn? p t = some (a, b)) :
    t = a ++ p ++ b := by
  induction t generalizing a with
  | nil =>
    simp only [breakOn?, List.isEmpty_iff] at h
    split at h
    · simp_all
    · simp at h
  | cons c t ih =>
    simp only [breakOn?] at h
    split at h
    · next hp =>
      obtain ⟨rfl, rfl⟩ := by simpa using h
      simpa using eq_append_of_isPrefixOf hp
    · obtain ⟨⟨x, y⟩, hxy, he⟩ := Option.map_eq_some_iff.mp h
      obtain ⟨rfl, rfl⟩ := by simpa using he
      simp [ih hxy]

def contains (pattern t : Text) : Bool := (breakOn? pattern t).isSome

/-- The text around the first character that satisfies `p`, which belongs to neither side. -/
def breakAt? (p : Char → Bool) : Text → Option (Text × Text)
  | [] => none
  | c :: t => if p c then some ([], t)
      else (breakAt? p t).map fun (before, after) => (c :: before, after)

def startsWith (pattern t : Text) : Bool := pattern.isPrefixOf t

def endsWith (pattern t : Text) : Bool := pattern.isSuffixOf t

/-- The text behind `start`, if that is how it begins. -/
def dropStart? (start t : Text) : Option Text :=
  if startsWith start t then some (t.drop start.length) else none

/-- The text in front of `stop`, if that is how it ends. -/
def dropEnd? (stop t : Text) : Option Text :=
  if endsWith stop t then some (t.take (t.length - stop.length)) else none

def join (separator : Text) (parts : List Text) : Text := List.intercalate separator parts

theorem join_singleton (separator part : Text) : join separator [part] = part :=
  List.intercalate_singleton

theorem join_cons_cons (separator first second : Text) (rest : List Text) :
    join separator (first :: second :: rest) =
      first ++ separator ++ join separator (second :: rest) :=
  List.intercalate_cons_cons

/-- The pieces between the occurrences of `separator`, from left to right without overlap. -/
def splitOnText (separator t : Text) : List Text :=
  if _h : separator = [] then [t]
  else
    match _hb : breakOn? separator t with
    | none => [t]
    | some (before, after) => before :: splitOnText separator after
termination_by t.length
decreasing_by
  have ht := congrArg List.length (eq_append_of_breakOn? _hb)
  have hs : 0 < separator.length := List.length_pos_iff.mpr _h
  simp at ht
  omega

def utf8 (t : Text) : List UInt8 := t.flatMap String.utf8EncodeChar

/-- Letters of ASCII in lower case, all else as it is. -/
def asciiLower (t : Text) : Text := t.map Char.toLower

def asciiEqualFold (s t : Text) : Bool := asciiLower s == asciiLower t

end Text
end Stencil
