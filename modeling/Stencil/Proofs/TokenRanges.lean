import Stencil.Markup.Arguments
import Stencil.Proofs.Ranges
/-!
# Cutting tags by offsets

The name of a tag, its arguments and the quotes around them, cut at the offsets of the characters
they are read from. Every cut is in range, whatever the text, and gives the same parts.
-/
namespace Stencil
namespace Text

variable {p : Char → Bool} {t front back : Text}

/-- The offset of the first character that satisfies `p`. -/
def position? (p : Char → Bool) (t : Text) : Option Nat :=
  (breakAt? p t).map fun found => bytes found.1

private theorem position?_eq_some (h : breakAt? p t = some (front, back)) :
    position? p t = some (bytes front) := by
  rw [position?, h]
  rfl

private theorem position?_eq_none (h : breakAt? p t = none) : position? p t = none := by
  rw [position?, h]
  rfl

private theorem position?_cons (c : Char) (t : Text) :
    position? p (c :: t) = if p c then some 0 else (position? p t).map (c.utf8Size + ·) := by
  simp only [position?, breakAt?]
  split
  · rfl
  · rw [Option.map_map, Option.map_map]
    rfl

private theorem bytes_lt_position?_iff {c : Char} (hc : p c = false) (front back : Text) :
    bytes front < (position? p (front ++ c :: back)).getD (bytes (front ++ c :: back)) ↔
      ∀ d ∈ front, p d = false := by
  induction front with
  | nil =>
    have hpos := c.utf8Size_pos
    have hlt : 0 < (position? p (c :: back)).getD (bytes (c :: back)) := by
      rw [position?_cons, hc]
      cases position? p back with
      | none => exact bytes_pos (List.cons_ne_nil c back)
      | some n => exact Nat.add_pos_left hpos n
    exact iff_of_true hlt fun d hd => (List.not_mem_nil hd).elim
  | cons d front ih =>
    rw [List.cons_append, position?_cons, List.forall_mem_cons, ← ih]
    cases hd : p d with
    | true => simp
    | false =>
      cases position? p (front ++ c :: back) with
      | none => simp [bytes]
      | some n => simp [bytes]

private theorem eq_append_of_breakAt? (h : breakAt? p t = some (front, back)) :
    ∃ c, p c = true ∧ (∀ d ∈ front, p d = false) ∧ t = front ++ c :: back := by
  induction t generalizing front with
  | nil => cases h
  | cons c t ih =>
    simp only [breakAt?] at h
    split at h
    · next hc =>
      cases h
      exact ⟨c, hc, fun d hd => (List.not_mem_nil hd).elim, rfl⟩
    · next hc =>
      obtain ⟨⟨found, rest⟩, hb, he⟩ := Option.map_eq_some_iff.mp h
      cases he
      obtain ⟨d, hd, hno, rfl⟩ := ih hb
      refine ⟨d, hd, ?_, rfl⟩
      rw [List.forall_mem_cons]
      exact ⟨by simpa using hc, hno⟩

private theorem breakAt?_eq_none (h : breakAt? p t = none) : ∀ d ∈ t, p d = false := by
  induction t with
  | nil => exact fun d hd => (List.not_mem_nil hd).elim
  | cons c t ih =>
    simp only [breakAt?] at h
    split at h
    · cases h
    · next hc =>
      rw [List.forall_mem_cons]
      exact ⟨by simpa using hc, ih (Option.map_eq_none_iff.mp h)⟩

/-! ### Bytes of characters -/

private theorem utf8EncodeChar_ne_nil (c : Char) : String.utf8EncodeChar c ≠ [] := by
  rw [← List.length_pos_iff, String.length_utf8EncodeChar]
  exact c.utf8Size_pos

private theorem le_of_mem_utf8EncodeChar {c : Char} (hc : 128 ≤ c.toNat) :
    ∀ b ∈ String.utf8EncodeChar c, 128 ≤ b.toNat := by
  have hlong : ¬ c.val.toNat ≤ 127 := Nat.not_le_of_lt hc
  rw [String.utf8EncodeChar, if_neg hlong]
  repeat' split
  all_goals
    simp only [List.forall_mem_cons, List.not_mem_nil, false_implies, implies_true, and_true,
      UInt8.toNat_ofNat']
    omega

section Bytes

variable {a c : Char} (ha : a.toNat < 128)

include ha

private theorem utf8EncodeChar_ascii : String.utf8EncodeChar a = [UInt8.ofNat a.toNat] := by
  have hle : a.val.toNat ≤ 127 := Nat.le_of_lt_succ ha
  rw [String.utf8EncodeChar, if_pos hle]
  rfl

private theorem eq_of_ascii_mem_utf8
    (h : UInt8.ofNat a.toNat ∈ String.utf8EncodeChar c) : c = a := by
  have hbyte : (UInt8.ofNat a.toNat).toNat = a.toNat := by
    rw [UInt8.toNat_ofNat']
    omega
  by_cases hc : c.toNat < 128
  · rw [utf8EncodeChar_ascii hc, List.mem_singleton] at h
    have hnat := congrArg UInt8.toNat h
    rw [hbyte, UInt8.toNat_ofNat', Nat.mod_eq_of_lt (by omega)] at hnat
    exact Char.toNat_inj.mp hnat.symm
  · have hhigh := le_of_mem_utf8EncodeChar (Nat.le_of_not_lt hc) _ h
    omega

end Bytes

end Text

/-! ### The name of a tag -/

/-- The contents cut at their first blank. -/
def TagSpan.nameAndArgumentsInBytes (tag : TagSpan) : Option (Text × Text) :=
  match Text.position? Text.isBlank tag.contents with
  | some blank => do
    let name ← Text.slice? tag.contents 0 blank
    let arguments ← Text.slice? tag.contents blank (Text.bytes tag.contents)
    some (name, Text.trimStart arguments)
  | none => some (tag.contents, [])

theorem TagSpan.nameAndArgumentsInBytes_eq (tag : TagSpan) :
    tag.nameAndArgumentsInBytes = some tag.nameAndArguments := by
  obtain ⟨contents, start, stop⟩ := tag
  simp only [nameAndArgumentsInBytes, nameAndArguments]
  cases hb : Text.breakAt? Text.isBlank contents with
  | none =>
    have hword : ∀ d ∈ contents, (!Text.isBlank d) = true := fun d hd => by
      rw [Text.breakAt?_eq_none hb d hd]
      rfl
    rw [Text.position?_eq_none hb, ← List.append_nil contents,
      List.takeWhile_append_of_pos hword, List.dropWhile_append_of_pos hword]
    rfl
  | some found =>
    obtain ⟨name, arguments⟩ := found
    obtain ⟨c, hc, hno, rfl⟩ := Text.eq_append_of_breakAt? hb
    have hword : ∀ d ∈ name, (!Text.isBlank d) = true := fun d hd => by
      rw [hno d hd]
      rfl
    rw [Text.position?_eq_some hb]
    simp only [Text.slice?_prefix, Text.slice?_suffix, Option.bind_eq_bind, Option.bind_some]
    rw [List.takeWhile_append_of_pos hword, List.dropWhile_append_of_pos hword,
      List.takeWhile_cons_of_neg (by simp [hc]), List.dropWhile_cons_of_neg (by simp [hc]),
      List.append_nil]

namespace Arguments

/-! ### Tokens -/

/-- The tokens read so far and the offset at which the next one starts, if it has started. -/
def splitLoop (input : Text) (tokens : List Text) (start? : Option Nat) (quote : Option Char)
    (offset : Nat) : Text → Option (List Text)
  | [] => match start? with
    | some start => (Text.slice? input start (Text.bytes input)).map fun last => tokens ++ [last]
    | none => some tokens
  | c :: t => match quote with
    | some q =>
      splitLoop input tokens start? (if c = q then none else some q) (offset + c.utf8Size) t
    | none =>
      if Text.isAsciiBlank c then match start? with
        | some start => (Text.slice? input start offset).bind fun token =>
          splitLoop input (tokens ++ [token]) none none (offset + c.utf8Size) t
        | none => splitLoop input tokens none none (offset + c.utf8Size) t
      else
        splitLoop input tokens (start?.or (some offset)) (if isQuote c then some c else none)
          (offset + c.utf8Size) t

def splitInBytes (t : Text) : Option (List Text) := splitLoop t [] none none 0 t

section Read

variable (done backwards : Text) (c : Char) (t : Text)

private theorem read_further :
    done ++ backwards.reverse ++ c :: t = done ++ (c :: backwards).reverse ++ t := by simp

private theorem bytes_read_further :
    Text.bytes (done ++ backwards.reverse) + c.utf8Size =
      Text.bytes (done ++ (c :: backwards).reverse) := by
  simp [Text.bytes, Nat.add_assoc]

private theorem read_behind :
    done ++ backwards.reverse ++ c :: t =
      (done ++ backwards.reverse ++ [c]) ++ [].reverse ++ t := by simp

private theorem bytes_read_behind :
    Text.bytes (done ++ backwards.reverse) + c.utf8Size =
      Text.bytes ((done ++ backwards.reverse ++ [c]) ++ [].reverse) := by
  simp [Text.bytes, Nat.add_assoc]

private theorem slice?_read :
    Text.slice? (done ++ backwards.reverse ++ t) (Text.bytes done)
      (Text.bytes (done ++ backwards.reverse)) = some backwards.reverse :=
  Text.slice?_eq_some_iff.mpr ⟨done, t, rfl, rfl, rfl⟩

end Read

variable {done backwards : Text} {quote : Option Char}

private theorem splitLoop_eq (t : Text) (tokens : List Text) (hq : quote ≠ none → backwards ≠ []) :
    splitLoop (done ++ backwards.reverse ++ t) tokens
        (if backwards = [] then none else some (Text.bytes done)) quote
        (Text.bytes (done ++ backwards.reverse)) t =
      some (tokens ++ splitFrom quote backwards t) := by
  induction t generalizing tokens done backwards quote with
  | nil =>
    by_cases hb : backwards = []
    · simp [splitLoop, splitFrom, token, hb]
    · rw [if_neg hb, splitLoop, List.append_nil, Text.slice?_suffix, splitFrom, token,
        if_neg (by simpa using hb)]
      rfl
  | cons c t ih =>
    have hstep (quote : Option Char) := @ih done (c :: backwards) quote tokens
      fun _ => List.cons_ne_nil c backwards
    rw [if_neg (List.cons_ne_nil c backwards)] at hstep
    cases quote with
    | some q =>
      have hb : backwards ≠ [] := hq (Option.some_ne_none q)
      simp only [splitLoop]
      rw [if_neg hb, read_further, bytes_read_further, hstep]
      rfl
    | none =>
      by_cases hc : Text.isAsciiBlank c = true
      · have hbegin (tokens : List Text) := @ih (done ++ backwards.reverse ++ [c]) [] none tokens
          fun h => absurd rfl h
        simp only [if_true] at hbegin
        simp only [splitLoop, splitFrom, hc, Option.isNone_none, Bool.and_self, if_true]
        by_cases hb : backwards = []
        · rw [if_pos hb, bytes_read_behind, read_behind]
          dsimp only
          rw [hbegin, hb]
          rfl
        · rw [if_neg hb]
          dsimp only
          rw [slice?_read, Option.bind_some, bytes_read_behind, read_behind, hbegin, token,
            if_neg (by simpa using hb), List.append_assoc]
      · have hstart : (if backwards = [] then none else some (Text.bytes done)).or
            (some (Text.bytes (done ++ backwards.reverse))) = some (Text.bytes done) := by
          by_cases hb : backwards = [] <;> simp [hb]
        simp only [splitLoop, splitFrom, hc, Bool.and_false, Bool.false_eq_true, if_false]
        rw [hstart, read_further, bytes_read_further, hstep]
        rfl

theorem splitInBytes_eq (t : Text) : splitInBytes t = some (split t) :=
  @splitLoop_eq [] [] none t [] fun h => absurd rfl h

/-! ### Pieces between separators -/

/-- The pieces read so far and the offset behind the last separator. -/
def splitAtLoop (separator : Char) (input : Text) (pieces : List Text) (last : Nat)
    (quote : Option Char) (offset : Nat) : Text → Option (List Text)
  | [] => (Text.slice? input last (Text.bytes input)).map fun piece => pieces ++ [Text.trim piece]
  | c :: t => match quote with
    | some q =>
      splitAtLoop separator input pieces last (if c = q then none else some q)
        (offset + c.utf8Size) t
    | none =>
      if isQuote c then
        splitAtLoop separator input pieces last (some c) (offset + c.utf8Size) t
      else if c = separator then
        (Text.slice? input last offset).bind fun piece =>
          splitAtLoop separator input (pieces ++ [Text.trim piece]) (offset + c.utf8Size) none
            (offset + c.utf8Size) t
      else splitAtLoop separator input pieces last none (offset + c.utf8Size) t

def splitAtInBytes (separator : Char) (t : Text) : Option (List Text) :=
  splitAtLoop separator t [] 0 none 0 t

private theorem splitAtLoop_eq (separator : Char) (t : Text) (pieces : List Text) :
    splitAtLoop separator (done ++ backwards.reverse ++ t) pieces (Text.bytes done) quote
        (Text.bytes (done ++ backwards.reverse)) t =
      some (pieces ++ splitAtFrom separator quote backwards t) := by
  induction t generalizing pieces done backwards quote with
  | nil =>
    rw [splitAtLoop, List.append_nil, Text.slice?_suffix]
    rfl
  | cons c t ih =>
    have hstep (quote : Option Char) := @ih done (c :: backwards) quote pieces
    cases quote with
    | some q =>
      simp only [splitAtLoop]
      rw [read_further, bytes_read_further, hstep]
      rfl
    | none =>
      simp only [splitAtLoop, splitAtFrom, Option.isNone_none, Bool.true_and, Bool.and_eq_true,
        Bool.not_eq_true', beq_iff_eq]
      by_cases hc : isQuote c = true
      · have hquote : quoteAfter none c = some c := if_pos hc
        rw [if_pos hc, if_neg (by simp [hc]), read_further, bytes_read_further, hstep, hquote]
      rw [if_neg hc]
      by_cases hs : c = separator
      · have hbegin := @ih (done ++ backwards.reverse ++ [c]) [] none
          (pieces ++ [Text.trim backwards.reverse])
        rw [if_pos hs, if_pos ⟨by simpa using hc, hs⟩, slice?_read, Option.bind_some,
          bytes_read_behind, read_behind]
        rw [List.reverse_nil, List.append_nil] at hbegin ⊢
        rw [hbegin, List.append_assoc]
        rfl
      · have hquote : quoteAfter none c = none := if_neg hc
        rw [if_neg hs, if_neg fun h => hs h.2, read_further, bytes_read_further, hstep, hquote]

theorem splitAtInBytes_eq (separator : Char) (t : Text) :
    splitAtInBytes separator t = some (splitAt separator t) :=
  @splitAtLoop_eq [] [] none separator t []

/-! ### Pairs -/

/-- Key and value around an equals sign that stands behind a key and before any quote. -/
def pairInBytes? (token : Text) : Option (Option (Text × Text)) :=
  let quoteAt := (Text.position? isQuote token).getD (Text.bytes token)
  match Text.position? (· == '=') token with
  | some equals =>
    if 0 < equals ∧ equals < quoteAt then do
      let key ← Text.slice? token 0 equals
      let value ← Text.slice? token (equals + 1) (Text.bytes token)
      some (some (key, value))
    else some none
  | none => some none

theorem pairInBytes?_eq (token : Text) : pairInBytes? token = some (pair? token) := by
  simp only [pairInBytes?, pair?]
  cases hb : Text.breakAt? (· == '=') token with
  | none =>
    rw [Text.position?_eq_none hb]
    rfl
  | some found =>
    obtain ⟨key, value⟩ := found
    rw [Text.position?_eq_some hb]
    obtain ⟨c, hc, -, rfl⟩ := Text.eq_append_of_breakAt? hb
    obtain rfl : c = '=' := by simpa using hc
    have hquote := @Text.bytes_lt_position?_iff isQuote '=' rfl key value
    have hkey : 0 < Text.bytes key ↔ key.isEmpty = false := by
      cases key with
      | nil => simp [Text.bytes]
      | cons c key => exact iff_of_true (Text.bytes_pos (List.cons_ne_nil c key)) rfl
    have hany : (∀ d ∈ key, isQuote d = false) ↔ key.any isQuote = false := by
      rw [List.any_eq_false]
      exact forall₂_congr fun d _ => by simp
    have hvalue : Text.slice? (key ++ '=' :: value) (Text.bytes key + 1)
        (Text.bytes (key ++ '=' :: value)) = some value :=
      Text.slice?_eq_some_iff.mpr ⟨key ++ ['='], [], by simp, by simp [Text.bytes]; rfl, by simp⟩
    simp only [hquote, hkey, hany, Text.slice?_prefix, hvalue, Option.bind_eq_bind,
      Option.bind_some]
    cases hk : key.isEmpty <;> cases ha : key.any isQuote <;> simp [Option.filter, hk, ha]

/-! ### Quotes -/

/-- The text without its first and last byte, if they are the same quote. -/
def unquoteInBytes (t : Text) : Option Text :=
  let utf8 := Text.utf8 t
  if 2 ≤ utf8.length then do
    let first ← utf8[0]?
    let last ← utf8[utf8.length - 1]?
    if (first = 0x22 ∨ first = 0x27) ∧ last = first then Text.slice? t 1 (Text.bytes t - 1)
    else some t
  else some t

private theorem isQuote_of_byte {c : Char} {b : UInt8} (hb : b ∈ String.utf8EncodeChar c)
    (h : b = 0x22 ∨ b = 0x27) : isQuote c = true := by
  obtain rfl | rfl := h
  · obtain rfl := @Text.eq_of_ascii_mem_utf8 '"' c (by decide) hb
    rfl
  · obtain rfl := @Text.eq_of_ascii_mem_utf8 '\'' c (by decide) hb
    rfl

private theorem exists_byte_of_isQuote {q : Char} (hq : isQuote q = true) :
    ∃ b : UInt8, String.utf8EncodeChar q = [b] ∧ (b = 0x22 ∨ b = 0x27) ∧
      ∀ c, b ∈ String.utf8EncodeChar c → c = q := by
  simp only [isQuote, Bool.or_eq_true, beq_iff_eq] at hq
  obtain rfl | rfl := hq
  · exact ⟨0x22, rfl, .inl rfl, fun c hc => @Text.eq_of_ascii_mem_utf8 '"' c (by decide) hc⟩
  · exact ⟨0x27, rfl, .inr rfl, fun c hc => @Text.eq_of_ascii_mem_utf8 '\'' c (by decide) hc⟩

private theorem unquoteInBytes_of_not_isQuote {c : Char} (hc : ¬ isQuote c = true) (t : Text) :
    unquoteInBytes (c :: t) = some (c :: t) := by
  obtain ⟨first, more, hfirst⟩ := List.exists_cons_of_ne_nil (Text.utf8EncodeChar_ne_nil c)
  have hutf8 : Text.utf8 (c :: t) = first :: (more ++ Text.utf8 t) := by
    simp only [Text.utf8, List.flatMap_cons, hfirst, List.cons_append]
  have hno : ¬ (first = 0x22 ∨ first = 0x27) := fun h =>
    hc (isQuote_of_byte (by rw [hfirst]; exact List.mem_cons_self) h)
  simp only [unquoteInBytes, hutf8]
  split
  · next hlen =>
    have hlast : (first :: (more ++ Text.utf8 t)).length - 1 <
        (first :: (more ++ Text.utf8 t)).length := by omega
    rw [List.getElem?_cons_zero, List.getElem?_eq_getElem hlast]
    simp only [Option.bind_eq_bind, Option.bind_some, hno, false_and, if_false]
  · rfl

private theorem unquoteInBytes_between {q : Char} (hq : isQuote q = true) (inner : Text)
    (last : Char) :
    unquoteInBytes (q :: (inner ++ [last])) =
      some (if last = q then inner else q :: (inner ++ [last])) := by
  obtain ⟨b, hb, hbyte, honly⟩ := exists_byte_of_isQuote hq
  have hne := Text.utf8EncodeChar_ne_nil last
  have hutf8 : Text.utf8 (q :: (inner ++ [last])) =
      b :: Text.utf8 inner ++ String.utf8EncodeChar last := by
    simp [Text.utf8, hb]
  have hlong : 2 ≤ (Text.utf8 (q :: (inner ++ [last]))).length := by
    have hpos := List.length_pos_iff.mpr hne
    rw [hutf8, List.length_append, List.length_cons]
    omega
  have hfirst : (Text.utf8 (q :: (inner ++ [last])))[0]? = some b := by
    rw [hutf8]
    rfl
  have hlast : (Text.utf8 (q :: (inner ++ [last])))[
      (Text.utf8 (q :: (inner ++ [last]))).length - 1]? =
        some ((String.utf8EncodeChar last).getLast hne) := by
    rw [← List.getLast?_eq_getElem?, hutf8, List.getLast?_append,
      List.getLast?_eq_some_getLast hne, Option.some_or]
  have hsame : (String.utf8EncodeChar last).getLast hne = b ↔ last = q := by
    constructor
    · intro h
      exact honly last (h ▸ List.getLast_mem hne)
    · rintro rfl
      simp [hb]
  simp only [unquoteInBytes, if_pos hlong, hfirst, hlast, Option.bind_eq_bind, Option.bind_some,
    hbyte, hsame, true_and]
  split
  · next h =>
    subst h
    have hsize : last.utf8Size = 1 := by
      rw [← String.length_utf8EncodeChar, hb]
      rfl
    refine Text.slice?_eq_some_iff.mpr ⟨[last], [last], rfl, ?_, ?_⟩
    · simp [Text.bytes, hsize]
    · simp [Text.bytes, hsize, Nat.add_comm]
  · rfl

theorem unquoteInBytes_eq (t : Text) : unquoteInBytes t = some (unquote t) := by
  cases t with
  | nil => rfl
  | cons q t =>
    by_cases hq : isQuote q = true
    · obtain rfl | ⟨inner, last, rfl⟩ := List.eq_nil_or_concat t
      · obtain ⟨b, hb, -, -⟩ := exists_byte_of_isQuote hq
        have hshort : ¬ 2 ≤ (Text.utf8 [q]).length := by simp [Text.utf8, hb]
        rw [unquoteInBytes, if_neg hshort]
        simp [unquote]
      · rw [List.concat_eq_append, unquoteInBytes_between hq, unquote]
        simp [hq]
    · rw [unquoteInBytes_of_not_isQuote hq, unquote]
      simp [hq]

end Arguments
end Stencil
