import Stencil.Proofs.Ranges
/-!
# The moves of a scanner

A scanner is read from and moved forward in any order. Every move takes the bytes from the position
in front of it to the one behind it: a token those it was read from, a jump those it passes over.
-/
namespace Stencil
namespace Text

variable {pattern t before after : Text}

theorem length_le_of_breakOn? (h : breakOn? pattern t = some (before, after))
    {earlier later : Text} (ht : t = earlier ++ pattern ++ later) :
    before.length ≤ earlier.length := by
  refine Nat.not_lt.mp fun hlt => ?_
  have hall : before ++ pattern ++ after = earlier ++ pattern ++ later :=
    (eq_append_of_breakOn? h).symm.trans ht
  have hfront : earlier <+: before ++ pattern ++ after := by
    rw [hall, List.append_assoc]
    exact List.prefix_append _ _
  have hbefore : before <+: before ++ pattern ++ after := by
    rw [List.append_assoc]
    exact List.prefix_append _ _
  obtain ⟨back, rfl⟩ := List.prefix_of_prefix_length_le hfront hbefore (by omega)
  have hne : back ≠ [] := by
    rintro rfl
    simp at hlt
  have hno := not_isPrefixOf_of_breakOn? h hne (List.suffix_append earlier back)
  simp only [List.append_assoc, List.append_cancel_left_eq] at hall
  rw [List.append_assoc, hall, Bool.eq_false_iff] at hno
  exact hno (List.isPrefixOf_iff_prefix.mpr (List.prefix_append _ _))

private theorem not_infix_of_breakOn? (hp : pattern ≠ [])
    (h : breakOn? pattern t = some (before, after)) : ¬ pattern <:+: before := by
  rintro ⟨front, back, rfl⟩
  have ht : t = front ++ pattern ++ (back ++ pattern ++ after) := by
    rw [eq_append_of_breakOn? h]
    simp only [List.append_assoc]
  have hle := length_le_of_breakOn? h ht
  have hpos := List.length_pos_iff.mpr hp
  simp only [List.length_append] at hle
  omega

/-- A boundary of the text, or an offset behind its end. -/
def IsReachable (t : Text) (offset : Nat) : Prop := bytes t ≤ offset ∨ IsBoundary t offset

private theorem isBoundary_bytes (t : Text) : IsBoundary t (bytes t) := ⟨t, List.prefix_refl t, rfl⟩

private theorem IsReachable.isBoundary_min {offset : Nat} (h : t.IsReachable offset) :
    t.IsBoundary (min offset (bytes t)) := by
  rcases h with h | h
  · rw [Nat.min_eq_right h]
    exact isBoundary_bytes t
  · rcases Nat.le_total offset (bytes t) with hle | hle
    · rwa [Nat.min_eq_left hle]
    · rw [Nat.min_eq_right hle]
      exact isBoundary_bytes t

/-- The text stands in the input at these bytes, in front of `back`. -/
def StandsAt (s input : Text) (span : Span) (back : Text) : Prop :=
  ∃ front, input = front ++ s ++ back ∧ bytes front = span.start ∧ bytes (front ++ s) = span.stop

theorem StandsAt.slice? {s input back : Text} {span : Span} (h : s.StandsAt input span back) :
    slice? input span.start span.stop = some s := by
  obtain ⟨front, rfl, hstart, hstop⟩ := h
  exact slice?_eq_some_iff.mpr ⟨front, back, rfl, hstart, hstop⟩

end Text

def Span.holds (span : Span) (byte : Nat) : Prop := span.start ≤ byte ∧ byte < span.stop

/-- The token is what the input holds at these bytes. A text goes on to the next start delimiter or
to the end, a tag to the first end delimiter behind its start, and an unclosed delimiter takes
nothing. -/
def Token.ReadFrom (delimiters : Delimiters) (input : Text) (span : Span) : Token → Prop
  | .text t => t ≠ [] ∧ ¬ delimiters.start <:+: t ∧
      ∃ back, t.StandsAt input span back ∧ (back = [] ∨ delimiters.start <+: back)
  | .tag found => ∃ middle back,
      (delimiters.start ++ middle ++ delimiters.stop).StandsAt input span back ∧
      (∀ earlier later, middle ++ delimiters.stop ++ back = earlier ++ delimiters.stop ++ later →
        middle.length ≤ earlier.length) ∧
      found = ⟨Text.trim middle, span.start, span.stop⟩
  | .unclosed position => span = ⟨position, position⟩ ∧
      ∃ back, Text.StandsAt [] input span (delimiters.start ++ back) ∧ ¬ delimiters.stop <:+: back

namespace Scanner

/-- What may be done with a scanner. -/
inductive Move where
  | read
  | seek (position : Nat)

/-- What comes of a move, with the bytes it takes. -/
inductive Event where
  | token (token : Token) (span : Span)
  | jump (span : Span)
  /-- There was nothing left to read. -/
  | ended (position : Nat)

namespace Event

def span : Event → Span
  | token _ span => span
  | jump span => span
  | ended position => ⟨position, position⟩

def token? : Event → Option Token
  | token found _ => some found
  | _ => none

/-- The bytes of a text or a tag. -/
def taken? : Event → Option Span
  | token (.text _) span => some span
  | token (.tag _) span => some span
  | _ => none

def jumped? : Event → Option Span
  | jump span => some span
  | _ => none

theorem span_of_taken? {event : Event} {span : Span} (h : event.taken? = some span) :
    event.span = span := by
  match event, h with
  | token (.text _) _, rfl => rfl
  | token (.tag _) _, rfl => rfl

theorem span_of_jumped? {event : Event} {span : Span} (h : event.jumped? = some span) :
    event.span = span := by
  match event, h with
  | jump _, rfl => rfl

end Event

def step (scanner : Scanner) : Move → Event × Scanner
  | .read => match scanner.next? with
    | some (token, after) => (.token token ⟨scanner.position, after.position⟩, after)
    | none => (.ended scanner.position, scanner)
  | .seek position =>
    (.jump ⟨scanner.position, (scanner.seek position).position⟩, scanner.seek position)

/-- What comes of moves one after another, and the scanner they end with. -/
def trace : List Move → Scanner → List Event × Scanner
  | [], scanner => ([], scanner)
  | move :: moves, scanner =>
    let (event, after) := scanner.step move
    let (events, last) := trace moves after
    (event :: events, last)

theorem trace_append (front back : List Move) (scanner : Scanner) :
    trace (front ++ back) scanner =
      ((trace front scanner).1 ++ (trace back (trace front scanner).2).1,
        (trace back (trace front scanner).2).2) := by
  induction front generalizing scanner with
  | nil => rfl
  | cons move front ih => simp only [List.cons_append, trace, ih]

/-! ### One move -/

variable {scanner after : Scanner} {input : Text}

private theorem StandsIn.standsAt (h : scanner.StandsIn input) {s back : Text}
    (hr : scanner.rest = s ++ back) :
    s.StandsAt input ⟨scanner.position, scanner.position + Text.bytes s⟩ back := by
  obtain ⟨before, rfl, hb⟩ := h
  refine ⟨before, ?_, hb, ?_⟩
  · rw [hr, List.append_assoc]
  · rw [Text.bytes_append, hb]

private theorem StandsIn.exists_rest (h : scanner.StandsIn input) {target : Nat}
    (ht : input.IsBoundary target) (hle : scanner.position ≤ target) :
    ∃ passed back, scanner.rest = passed ++ back ∧
      target = scanner.position + Text.bytes passed := by
  obtain ⟨before, hin, hb⟩ := h
  obtain ⟨upTo, hu, rfl⟩ := ht
  have hsome : (Text.slice? input scanner.position (Text.bytes upTo)).isSome := by
    refine Text.slice?_isSome_iff.mpr ⟨hle, ?_, ⟨before, ?_, hb⟩, upTo, hu, rfl⟩
    · obtain ⟨back, rfl⟩ := hu
      rw [Text.bytes_append]
      omega
    · rw [hin]
      exact List.prefix_append _ _
  obtain ⟨passed, hs⟩ := Option.isSome_iff_exists.mp hsome
  obtain ⟨front, back, hf, hstart, hstop⟩ := Text.slice?_eq_some_iff.mp hs
  refine ⟨passed, back, ?_, ?_⟩
  · have hd := Text.dropBytes?_append before scanner.rest
    have hd' := Text.dropBytes?_append front (passed ++ back)
    rw [← List.append_assoc, ← hf, hstart, ← hb, hin, hd] at hd'
    exact Option.some.inj hd'
  · rw [← hstop, Text.bytes_append, hstart]

theorem StandsIn.bytes_eq (h : scanner.StandsIn input) :
    Text.bytes input = scanner.position + Text.bytes scanner.rest := by
  obtain ⟨before, rfl, hb⟩ := h
  rw [Text.bytes_append, hb]

private theorem StandsIn.seek (h : scanner.StandsIn input) {position : Nat}
    (hp : input.IsReachable position) :
    (scanner.seek position).StandsIn input ∧
      scanner.position ≤ (scanner.seek position).position := by
  simp only [Scanner.seek, ← h.bytes_eq]
  split
  · next hlt =>
    refine ⟨?_, Nat.le_of_lt hlt⟩
    obtain ⟨passed, back, hr, ht⟩ := h.exists_rest hp.isBoundary_min (Nat.le_of_lt hlt)
    have hdrop : Text.dropBytes (min position (Text.bytes input) - scanner.position)
        scanner.rest = back := by
      rw [ht, Nat.add_sub_cancel_left, hr, Text.dropBytes_append]
    rw [hdrop]
    exact h.behind hr ht
  · exact ⟨h, Nat.le_refl _⟩

/-- How many bytes there are to read. -/
def unread (scanner : Scanner) : Nat := if scanner.finished then 0 else Text.bytes scanner.rest

/-- What a move keeps, and what is known of its event. -/
structure Moved (input : Text) (scanner : Scanner) (event : Event) (after : Scanner) : Prop where
  delimiters : after.delimiters = scanner.delimiters
  standsIn : after.StandsIn input
  start : event.span.start = scanner.position
  stop : event.span.stop = after.position
  forward : scanner.position ≤ after.position
  reads : ∀ token, event.token? = some token →
    token.ReadFrom scanner.delimiters input event.span
  finished : after.finished = true ↔
    scanner.finished = true ∨ ∃ position, event.token? = some (.unclosed position)
  silent : scanner.finished = true → event.token? = none
  unread_lt : event.token?.isSome = true → after.unread < scanner.unread
  unread_le : after.unread ≤ scanner.unread

private theorem bytes_rest_of_finished (h : scanner.finished = false) :
    scanner.unread = Text.bytes scanner.rest := by
  simp [unread, h]

private theorem next?_text_extent {text : Text} (h : scanner.next? = some (.text text, after)) :
    text ≠ [] ∧ ¬ scanner.delimiters.start <:+: text ∧
      (after.rest = [] ∨ scanner.delimiters.start <+: after.rest) := by
  simp only [next?] at h
  split at h
  · cases h
  next hf =>
  have hr : scanner.rest ≠ [] := fun he => by simp [he] at hf
  split at h
  · next hb =>
    cases h
    exact ⟨hr, Text.breakOn?_eq_none_iff.mp hb, .inl rfl⟩
  · split at h <;> cases h
  · next plain inside hne hb =>
    cases h
    exact ⟨hne, Text.not_infix_of_breakOn? scanner.delimiters.start_ne_nil hb,
      .inr (List.prefix_append _ _)⟩

private theorem moved_text (hin : scanner.StandsIn input) {text : Text}
    (h : scanner.next? = some (.text text, after)) :
    Moved input scanner (.token (.text text) ⟨scanner.position, after.position⟩) after := by
  obtain ⟨hne, hno, hend⟩ := next?_text_extent h
  obtain ⟨hf, hr, ha, -⟩ := next?_eq_text h
  have hd : after.delimiters = scanner.delimiters := by rw [ha]; rfl
  have hp : after.position = scanner.position + Text.bytes text := by rw [ha]; rfl
  have hfa : after.finished = false := by rw [ha]; exact hf
  have hlt : after.unread < scanner.unread := by
    have hpos := Text.bytes_pos hne
    rw [bytes_rest_of_finished hf, bytes_rest_of_finished hfa, hr, Text.bytes_append]
    omega
  exact {
    delimiters := hd
    standsIn := hin.behind hr hp
    start := rfl
    stop := rfl
    forward := by omega
    reads := by
      rintro token ⟨⟩
      rw [Event.span, hp]
      exact ⟨hne, hno, after.rest, hin.standsAt hr, hend⟩
    finished := by simp [hf, hfa, Event.token?]
    silent := fun hs => by rw [hf] at hs; cases hs
    unread_lt := fun _ => hlt
    unread_le := Nat.le_of_lt hlt }

private theorem moved_tag (hin : scanner.StandsIn input) {tag : TagSpan}
    (h : scanner.next? = some (.tag tag, after)) :
    Moved input scanner (.token (.tag tag) ⟨scanner.position, after.position⟩) after := by
  obtain ⟨middle, hf, hr, ha, rfl, hfirst⟩ := next?_eq_tag h
  have hd : after.delimiters = scanner.delimiters := by rw [ha]; rfl
  have hp : after.position = scanner.position +
      Text.bytes (scanner.delimiters.start ++ middle ++ scanner.delimiters.stop) := by rw [ha]; rfl
  have hfa : after.finished = false := by rw [ha]; exact hf
  have hlt : after.unread < scanner.unread := by
    have hpos := Text.bytes_pos scanner.delimiters.start_ne_nil
    rw [bytes_rest_of_finished hf, bytes_rest_of_finished hfa, hr]
    simp only [Text.bytes_append]
    omega
  exact {
    delimiters := hd
    standsIn := hin.behind hr hp
    start := rfl
    stop := rfl
    forward := by omega
    reads := by
      rintro token ⟨⟩
      rw [Event.span, hp]
      exact ⟨middle, after.rest, hin.standsAt hr,
        fun earlier later he => Text.length_le_of_breakOn? (hfirst after.rest) he, rfl⟩
    finished := by simp [hf, hfa, Event.token?]
    silent := fun hs => by rw [hf] at hs; cases hs
    unread_lt := fun _ => hlt
    unread_le := Nat.le_of_lt hlt }

private theorem moved_unclosed (hin : scanner.StandsIn input) {position : Nat}
    (h : scanner.next? = some (.unclosed position, after)) :
    Moved input scanner (.token (.unclosed position) ⟨scanner.position, after.position⟩) after := by
  obtain ⟨rfl, hf, inside, hr, hb⟩ := next?_eq_unclosed h
  have ha : after = { scanner with finished := true } := by
    have hn := next?_unclosed hf hb scanner.position
    rw [← hr] at hn
    have he := h.symm.trans hn
    simp only [Option.some.injEq, Prod.mk.injEq, true_and] at he
    exact he
  subst ha
  have hlt : 0 < scanner.unread := by
    have hpos := Text.bytes_pos scanner.delimiters.start_ne_nil
    rw [bytes_rest_of_finished hf, hr, Text.bytes_append]
    omega
  exact {
    delimiters := rfl
    standsIn := hin
    start := rfl
    stop := rfl
    forward := Nat.le_refl _
    reads := by
      rintro token ⟨⟩
      have hat := hin.standsAt (s := []) hr
      exact ⟨rfl, inside, hat, Text.breakOn?_eq_none_iff.mp hb⟩
    finished := by simp [Event.token?]
    silent := fun hs => by rw [hf] at hs; cases hs
    unread_lt := fun _ => hlt
    unread_le := Nat.zero_le _ }

private theorem moved_ended (hin : scanner.StandsIn input) :
    Moved input scanner (.ended scanner.position) scanner where
  delimiters := rfl
  standsIn := hin
  start := rfl
  stop := rfl
  forward := Nat.le_refl _
  reads := fun _ h => by cases h
  finished := by simp [Event.token?]
  silent := fun _ => rfl
  unread_lt := fun h => by cases h
  unread_le := Nat.le_refl _

private theorem moved_seek (hin : scanner.StandsIn input) {position : Nat}
    (hp : input.IsReachable position) :
    Moved input scanner (scanner.step (.seek position)).1 (scanner.seek position) := by
  have hf : (scanner.seek position).finished = scanner.finished := by
    simp only [seek]
    split <;> rfl
  have hd : (scanner.seek position).delimiters = scanner.delimiters := by
    simp only [seek]
    split <;> rfl
  obtain ⟨hstands, hle⟩ := hin.seek hp
  exact {
    delimiters := hd
    standsIn := hstands
    start := rfl
    stop := rfl
    forward := hle
    reads := fun _ h => by cases h
    finished := by simp [hf, step, Event.token?]
    silent := fun _ => rfl
    unread_lt := fun h => by cases h
    unread_le := by
      have hend := hin.bytes_eq
      have hend' := hstands.bytes_eq
      simp only [unread, hf]
      split <;> omega }

/-- A jump is to a place that the text has. -/
def Move.Within (input : Text) : Move → Prop
  | read => True
  | seek position => input.IsReachable position

theorem moved_step (hin : scanner.StandsIn input) {move : Move} (hm : move.Within input) :
    Moved input scanner (scanner.step move).1 (scanner.step move).2 := by
  cases move with
  | seek position => exact moved_seek hin hm
  | read =>
    simp only [step]
    split
    · next token after h =>
      cases token with
      | text text => exact moved_text hin h
      | tag tag => exact moved_tag hin h
      | unclosed position => exact moved_unclosed hin h
    · exact moved_ended hin

end Scanner
end Stencil
