import Stencil.Proofs.Moves
import Mathlib.Data.List.Pairwise
/-!
# The partition of a text

Whatever is done with a scanner, its tokens and jumps follow one another from the start of the text
to its position, and no byte is taken twice. At the end nothing is left out but what was passed over
in a jump and what stands behind a start delimiter that is not closed.
-/
namespace Stencil.Scanner

variable {scanner after : Scanner} {input : Text}

/-- The spans of the events follow one another from `start` to `stop`. -/
def Tiles : Nat → List Event → Nat → Prop
  | start, [], stop => start = stop
  | start, event :: events, stop =>
    event.span.start = start ∧ start ≤ event.span.stop ∧ Tiles event.span.stop events stop

namespace Tiles

variable {start stop byte : Nat} {events before behind : List Event} {event : Event}

private theorem le (h : Tiles start events stop) : start ≤ stop := by
  induction events generalizing start with
  | nil => exact Nat.le_of_eq h
  | cons event events ih => exact Nat.le_trans h.2.1 (ih h.2.2)

private theorem mem_bounds (h : Tiles start events stop) (hm : event ∈ events) :
    start ≤ event.span.start ∧ event.span.start ≤ event.span.stop ∧ event.span.stop ≤ stop := by
  induction events generalizing start with
  | nil => cases hm
  | cons first events ih =>
    obtain ⟨hs, hle, ht⟩ := h
    rcases List.mem_cons.mp hm with rfl | hm
    · exact ⟨Nat.le_of_eq hs.symm, by omega, ht.le⟩
    · have hb := ih ht hm
      omega

private theorem pairwise (h : Tiles start events stop) :
    events.Pairwise fun first second => first.span.stop ≤ second.span.start := by
  induction events generalizing start with
  | nil => exact .nil
  | cons event events ih => exact .cons (fun _ hm => (h.2.2.mem_bounds hm).1) (ih h.2.2)

private theorem exists_mem (h : Tiles start events stop) (hstart : start ≤ byte)
    (hstop : byte < stop) :
    ∃ event ∈ events, event.span.start ≤ byte ∧ byte < event.span.stop := by
  induction events generalizing start with
  | nil =>
    simp only [Tiles] at h
    omega
  | cons event events ih =>
    obtain ⟨hs, -, ht⟩ := h
    by_cases hb : byte < event.span.stop
    · exact ⟨event, List.mem_cons_self, by omega, hb⟩
    · obtain ⟨other, hm, ho⟩ := ih ht (by omega)
      exact ⟨other, List.mem_cons_of_mem _ hm, ho⟩

private theorem behind_mem (h : Tiles start (before ++ event :: behind) stop) :
    Tiles event.span.stop behind stop := by
  induction before generalizing start with
  | nil => exact h.2.2
  | cons first before ih => exact ih h.2.2

private theorem eq_of_empty (h : Tiles start events stop)
    (he : ∀ event ∈ events, event.span.start = event.span.stop) : start = stop := by
  induction events generalizing start with
  | nil => exact h
  | cons event events ih =>
    have hs := ih h.2.2 fun other hm => he other (List.mem_cons_of_mem _ hm)
    rw [← hs, ← he event List.mem_cons_self, h.1]

end Tiles

section Run

variable {moves : List Move}

/-- What moves keep together. -/
structure Traced (input : Text) (scanner : Scanner) (events : List Event) (last : Scanner) :
    Prop where
  standsIn : last.StandsIn input
  tiles : Tiles scanner.position events last.position
  reads : ∀ event ∈ events, ∀ token, event.token? = some token →
    token.ReadFrom scanner.delimiters input event.span
  finished : last.finished = true →
    scanner.finished = true ∨ ∃ event ∈ events, ∃ position, event.token? = some (.unclosed position)
  silent : scanner.finished = true → ∀ event ∈ events, event.token? = none
  tokens : (events.filterMap Event.token?).length + last.unread ≤ scanner.unread

private theorem traced (hin : scanner.StandsIn input) (hm : ∀ move ∈ moves, move.Within input) :
    Traced input scanner (trace moves scanner).1 (trace moves scanner).2 := by
  induction moves generalizing scanner with
  | nil =>
    have hno : ∀ {P : Prop} {event : Event}, event ∈ ([] : List Event) → P := fun h => by cases h
    exact ⟨hin, rfl, fun _ h => hno h, .inl, fun _ _ h => hno h, Nat.le_of_eq (Nat.zero_add _)⟩
  | cons move moves ih =>
    have hstep := moved_step hin (hm move List.mem_cons_self)
    have hrest := ih hstep.standsIn fun other ho => hm other (List.mem_cons_of_mem _ ho)
    simp only [trace]
    generalize scanner.step move = stepped at hstep hrest
    obtain ⟨event, after⟩ := stepped
    dsimp only at hstep hrest ⊢
    generalize trace moves after = run at hrest
    obtain ⟨events, last⟩ := run
    refine ⟨hrest.standsIn, ⟨hstep.start, ?_, ?_⟩, ?_, ?_, ?_, ?_⟩
    · exact hstep.stop ▸ hstep.forward
    · exact hstep.stop ▸ hrest.tiles
    · intro other ho token ht
      rcases List.mem_cons.mp ho with rfl | ho
      · exact hstep.reads token ht
      · exact hstep.delimiters ▸ hrest.reads other ho token ht
    · intro hl
      rcases hrest.finished hl with hf | ⟨other, ho, hu⟩
      · exact (hstep.finished.mp hf).imp_right fun hu => ⟨event, List.mem_cons_self, hu⟩
      · exact .inr ⟨other, List.mem_cons_of_mem _ ho, hu⟩
    · intro hf other ho
      rcases List.mem_cons.mp ho with rfl | ho
      · exact hstep.silent hf
      · exact hrest.silent (hstep.finished.mpr (.inl hf)) other ho
    · have hr := hrest.tokens
      have hle := hstep.unread_le
      cases ht : event.token? with
      | none =>
        rw [List.filterMap_cons_none ht]
        omega
      | some token =>
        have hlt := hstep.unread_lt (by rw [ht]; rfl)
        rw [List.filterMap_cons_some ht, List.length_cons]
        omega

private theorem silent_behind (hin : scanner.StandsIn input)
    (hm : ∀ move ∈ moves, move.Within input)
    {before behind : List Event} {event : Event} {position : Nat}
    (he : (trace moves scanner).1 = before ++ event :: behind)
    (hu : event.token? = some (.unclosed position)) : ∀ other ∈ behind, other.token? = none := by
  induction moves generalizing scanner before with
  | nil => simp [trace] at he
  | cons move moves ih =>
    have hstep := moved_step hin (hm move List.mem_cons_self)
    have hothers : ∀ other ∈ moves, other.Within input :=
      fun other ho => hm other (List.mem_cons_of_mem _ ho)
    simp only [trace] at he
    cases before with
    | nil =>
      obtain ⟨hfirst, rfl⟩ := List.cons_eq_cons.mp he
      have hf := hstep.finished.mpr (.inr ⟨position, hfirst ▸ hu⟩)
      exact (traced hstep.standsIn hothers).silent hf
    | cons first before => exact ih hstep.standsIn hothers (List.cons_eq_cons.mp he).2

private theorem StandsIn.rest_eq (h : scanner.StandsIn input) (h' : after.StandsIn input) {s : Text}
    (hs : Text.slice? input scanner.position after.position = some s) :
    scanner.rest = s ++ after.rest := by
  obtain ⟨before, hin, hb⟩ := h
  obtain ⟨upTo, hin', hu⟩ := h'
  obtain ⟨front, back, hf, hstart, hstop⟩ := Text.slice?_eq_some_iff.mp hs
  have hdrop := Text.dropBytes?_append before scanner.rest
  have hdrop' := Text.dropBytes?_append upTo after.rest
  have hfront := Text.dropBytes?_append front (s ++ back)
  have hback := Text.dropBytes?_append (front ++ s) back
  rw [← List.append_assoc, ← hf, hstart, ← hb, hin, hdrop] at hfront
  rw [← hf, hstop, ← hu, hin', hdrop'] at hback
  rw [Option.some.inj hfront, Option.some.inj hback]

private theorem exists_parts (hin : scanner.StandsIn input) (hr : ∀ move ∈ moves, move = .read) :
    ∃ parts, List.Forall₂ (fun span part => Text.slice? input span.start span.stop = some part)
        ((trace moves scanner).1.filterMap Event.taken?) parts ∧
      scanner.rest = parts.flatten ++ (trace moves scanner).2.rest := by
  induction moves generalizing scanner with
  | nil => exact ⟨[], .nil, rfl⟩
  | cons move moves ih =>
    obtain rfl := hr move List.mem_cons_self
    have hwithin : Move.read.Within input := trivial
    have hstep := moved_step hin hwithin
    obtain ⟨parts, hparts, hrest⟩ := ih hstep.standsIn fun other ho =>
      hr other (List.mem_cons_of_mem _ ho)
    simp only [trace]
    cases hn : scanner.next? with
    | none =>
      have hs : scanner.step .read = (.ended scanner.position, scanner) := by simp only [step, hn]
      rw [hs] at hparts hrest ⊢
      exact ⟨parts, hparts, hrest⟩
    | some found =>
      obtain ⟨token, after⟩ := found
      have hs : scanner.step .read = (.token token ⟨scanner.position, after.position⟩, after) := by
        simp only [step, hn]
      rw [hs] at hstep hparts hrest ⊢
      have htoken := hstep.reads token rfl
      have hbehind {s : Text}
          (hslice : Text.slice? input scanner.position after.position = some s) :
          scanner.rest = s ++ parts.flatten ++ (trace moves after).2.rest := by
        rw [hin.rest_eq hstep.standsIn hslice, hrest, List.append_assoc]
      cases token with
      | text text =>
        obtain ⟨-, -, back, hat, -⟩ := htoken
        exact ⟨text :: parts, .cons hat.slice? hparts, hbehind hat.slice?⟩
      | tag tag =>
        obtain ⟨middle, back, hat, -⟩ := htoken
        exact ⟨_ :: parts, .cons hat.slice? hparts, hbehind hat.slice?⟩
      | unclosed position =>
        obtain ⟨-, back, hat, -⟩ := htoken
        exact ⟨parts, hparts, hbehind hat.slice?⟩

end Run

/-! ### The partition -/

section Uncovered

variable {events : List Event} {last : Scanner} {byte : Nat}

/-- The bytes of no text and no tag. -/
def Uncovered (events : List Event) (byte : Nat) : Prop :=
  ∀ span ∈ events.filterMap Event.taken?, ¬ span.holds byte

def Jumped (events : List Event) (byte : Nat) : Prop :=
  ∃ span ∈ events.filterMap Event.jumped?, span.holds byte

private theorem Traced.ne_of_holds (h : Traced input scanner events last) {first second : Event}
    (hf : first ∈ events) (hs : second ∈ events) (hne : first ≠ second)
    (hb : first.span.holds byte) : ¬ second.span.holds byte := by
  have hpair : events.Pairwise fun a b => ¬ (a.span.holds byte ∧ b.span.holds byte) := by
    refine h.tiles.pairwise.imp fun hle hboth => ?_
    obtain ⟨⟨-, hlt⟩, ⟨hle', -⟩⟩ := hboth
    omega
  have hsymm : Std.Symm fun a b : Event => ¬ (a.span.holds byte ∧ b.span.holds byte) :=
    ⟨fun _ _ hn hboth => hn hboth.symm⟩
  exact fun hb' => hpair.forall hf hs hne ⟨hb, hb'⟩

private theorem Traced.taken_or_jumped (h : Traced input scanner events last) {event : Event}
    (hm : event ∈ events) (hb : event.span.holds byte) :
    event.taken? = some event.span ∨ event.jumped? = some event.span := by
  match event, hm, hb with
  | .jump _, _, _ => exact .inr rfl
  | .token (.text _) _, _, _ => exact .inl rfl
  | .token (.tag _) _, _, _ => exact .inl rfl
  | .ended _, _, hb => exact absurd hb.2 (Nat.not_lt.mpr hb.1)
  | .token (.unclosed position) span, hm, hb =>
    obtain ⟨rfl, -⟩ := h.reads _ hm _ rfl
    exact absurd hb.2 (Nat.not_lt.mpr hb.1)

private theorem Traced.uncovered_iff (h : Traced input scanner events last)
    (hstart : scanner.position ≤ byte) :
    Uncovered events byte ↔ Jumped events byte ∨ last.position ≤ byte := by
  constructor
  · intro hu
    by_cases hlt : byte < last.position
    · obtain ⟨event, hm, hb⟩ := h.tiles.exists_mem hstart hlt
      rcases h.taken_or_jumped hm hb with ht | hj
      · exact absurd hb (hu event.span (List.mem_filterMap.mpr ⟨event, hm, ht⟩))
      · exact .inl ⟨event.span, List.mem_filterMap.mpr ⟨event, hm, hj⟩, hb⟩
    · exact .inr (Nat.not_lt.mp hlt)
  · rintro hu span hs hb
    obtain ⟨event, hm, ht⟩ := List.mem_filterMap.mp hs
    obtain rfl := Event.span_of_taken? ht
    rcases hu with ⟨span, hs, hb'⟩ | hle
    · obtain ⟨other, ho, hj⟩ := List.mem_filterMap.mp hs
      obtain rfl := Event.span_of_jumped? hj
      have hne : event ≠ other := by
        rintro rfl
        cases event <;> simp [Event.taken?, Event.jumped?] at ht hj
      exact h.ne_of_holds hm ho hne hb hb'
    · have hbound := h.tiles.mem_bounds hm
      have hlt := hb.2
      omega

end Uncovered

/-- How the events of moves part the input, from the first byte to the position of `last`. -/
structure Partition (delimiters : Delimiters) (input : Text) (moves : List Move)
    (events : List Event) (last : Scanner) : Prop where
  /-- The position never goes back. -/
  forward : ∀ front back, moves = front ++ back →
    (trace front (ofText delimiters input)).2.position ≤ last.position
  inside : last.position ≤ Text.bytes input
  reads : ∀ token span, .token token span ∈ events → token.ReadFrom delimiters input span
  /-- Texts and tags stand apart, in the order they are read. -/
  ordered : (events.filterMap Event.taken?).Pairwise fun first second => first.stop ≤ second.start
  uncovered : ∀ byte < Text.bytes input,
    (Uncovered events byte ↔ Jumped events byte ∨ last.position ≤ byte)
  /-- At the end only jumps and what stands behind an unclosed delimiter are left out. -/
  left_out : last.next? = none → ∀ byte < Text.bytes input,
    (Uncovered events byte ↔ Jumped events byte ∨
      ∃ position span, .token (.unclosed position) span ∈ events ∧ position ≤ byte)
  /-- Behind an unclosed delimiter nothing is read, wherever one jumps. -/
  silent : ∀ before position span behind,
    events = before ++ .token (.unclosed position) span :: behind →
      ∀ event ∈ behind, event.token? = none
  few : (events.filterMap Event.token?).length ≤ Text.bytes input
  /-- Without a jump the texts and tags are the input, up to an unclosed delimiter. -/
  reproduces : (∀ move ∈ moves, move = .read) → ∃ parts,
    List.Forall₂ (fun span part => Text.slice? input span.start span.stop = some part)
      (events.filterMap Event.taken?) parts ∧
    input = parts.flatten ++ last.rest ∧
    (∀ position span, .token (.unclosed position) span ∈ events →
      Text.bytes parts.flatten = position) ∧
    (last.next? = none → (∀ position span, .token (.unclosed position) span ∉ events) →
      parts.flatten = input)

section Whole

variable {delimiters : Delimiters} {moves : List Move} {events : List Event} {last : Scanner}

private theorem Traced.ended (h : Traced input (ofText delimiters input) events last)
    (hn : last.next? = none) :
    last.rest = [] ∨ ∃ position span, .token (.unclosed position) span ∈ events := by
  rcases next?_eq_none hn with hl | hr
  · rcases h.finished hl with hf | ⟨event, hm, position, hu⟩
    · cases hf
    · match event, hu with
      | .token _ span, rfl => exact .inr ⟨position, span, hm⟩
  · exact .inl hr

private theorem Traced.uncovered_of_unclosed (h : Traced input scanner events last)
    {before behind : List Event} {position byte : Nat} {span : Span}
    (he : events = before ++ .token (.unclosed position) span :: behind)
    (hs : ∀ event ∈ behind, event.token? = none) (hle : position ≤ byte) :
    Uncovered events byte := by
  intro taken ht hb
  obtain ⟨event, hm, ht⟩ := List.mem_filterMap.mp ht
  obtain rfl := Event.span_of_taken? ht
  have hunclosed : .token (.unclosed position) span ∈ events := by simp [he]
  obtain ⟨rfl, -⟩ := h.reads _ hunclosed _ rfl
  have hpair := h.tiles.pairwise
  rw [he, List.pairwise_append] at hpair
  rw [he, List.mem_append, List.mem_cons] at hm
  rcases hm with hm | rfl | hm
  · have hstop := hpair.2.2 event hm _ List.mem_cons_self
    have hlt := hb.2
    change event.span.stop ≤ position at hstop
    omega
  · cases ht
  · have hnone := hs event hm
    cases event <;> simp [Event.taken?, Event.token?] at ht hnone

private theorem Traced.left_out (h : Traced input (ofText delimiters input) events last)
    (hs : ∀ before position span behind,
      events = before ++ .token (.unclosed position) span :: behind →
        ∀ event ∈ behind, event.token? = none)
    (hn : last.next? = none) {byte : Nat} (hb : byte < Text.bytes input) :
    Uncovered events byte ↔ Jumped events byte ∨
      ∃ position span, .token (.unclosed position) span ∈ events ∧ position ≤ byte := by
  have hiff := h.uncovered_iff (Nat.zero_le byte)
  constructor
  · intro hu
    refine (hiff.mp hu).imp_right fun hle => ?_
    rcases h.ended hn with hr | ⟨position, span, hm⟩
    · have hend := h.standsIn.bytes_eq
      rw [hr, Text.bytes] at hend
      omega
    · refine ⟨position, span, hm, ?_⟩
      obtain ⟨rfl, -⟩ := h.reads _ hm _ rfl
      exact Nat.le_trans (h.tiles.mem_bounds hm).2.2 hle
  · rintro (hj | ⟨position, span, hm, hle⟩)
    · exact hiff.mpr (.inl hj)
    · obtain ⟨before, behind, he⟩ := List.append_of_mem hm
      exact h.uncovered_of_unclosed he (hs _ _ _ _ he) hle

private theorem jumped?_of_read (hr : ∀ move ∈ moves, move = .read) :
    ∀ event ∈ (trace moves scanner).1, event.jumped? = none := by
  induction moves generalizing scanner with
  | nil => exact fun _ h => by cases h
  | cons move moves ih =>
    obtain rfl := hr move List.mem_cons_self
    intro event hm
    rcases List.mem_cons.mp hm with rfl | hm
    · split <;> rfl
    · exact ih (fun other ho => hr other (List.mem_cons_of_mem _ ho)) event hm

private theorem position_of_unclosed (hin : scanner.StandsIn input)
    (hr : ∀ move ∈ moves, move = .read) {position : Nat} {span : Span}
    (hm : .token (.unclosed position) span ∈ (trace moves scanner).1) :
    (trace moves scanner).2.position = position := by
  have hw : ∀ move ∈ moves, move.Within input := fun move hm => hr move hm ▸ trivial
  have htraced := traced hin hw
  obtain ⟨rfl, -⟩ := htraced.reads _ hm _ rfl
  obtain ⟨before, behind, he⟩ := List.append_of_mem hm
  have htiles := htraced.tiles
  rw [he] at htiles
  refine (htiles.behind_mem.eq_of_empty fun event hb => ?_).symm
  have hsilent := silent_behind hin hw he rfl event hb
  have hjump := jumped?_of_read hr event (by rw [he]; simp [hb])
  cases event with
  | ended position => rfl
  | token token span => cases hsilent
  | jump span => cases hjump

/-- However a scanner is read from and moved forward, tokens and jumps part the text. -/
theorem trace_partition (delimiters : Delimiters) (input : Text) (moves : List Move)
    (h : ∀ move ∈ moves, move.Within input) :
    Partition delimiters input moves (trace moves (ofText delimiters input)).1
      (trace moves (ofText delimiters input)).2 := by
  have hin := standsIn_ofText delimiters input
  have htraced := traced hin h
  have hsilent : ∀ before position span behind, (trace moves (ofText delimiters input)).1 =
      before ++ .token (.unclosed position) span :: behind →
        ∀ event ∈ behind, event.token? = none :=
    fun _ _ _ _ he => silent_behind hin h he rfl
  have hend := htraced.standsIn.bytes_eq
  refine ⟨?_, by omega, fun token span hm => htraced.reads _ hm token rfl, ?_,
    fun byte _ => htraced.uncovered_iff (Nat.zero_le byte),
    fun hn byte hb => htraced.left_out hsilent hn hb, hsilent, ?_, ?_⟩
  · rintro front back rfl
    have hfront := traced hin fun move hm => h move (List.mem_append_left _ hm)
    have hback := traced hfront.standsIn fun move hm => h move (List.mem_append_right _ hm)
    rw [trace_append]
    exact hback.tiles.le
  · refine htraced.tiles.pairwise.filterMap _ fun first second hle span hs span' hs' => ?_
    rwa [Event.span_of_taken? hs, Event.span_of_taken? hs'] at hle
  · have hcount := htraced.tokens
    exact Nat.le_trans (Nat.le_add_right _ _) hcount
  · intro hr
    obtain ⟨parts, hparts, hrest⟩ := exists_parts hin hr
    refine ⟨parts, hparts, hrest, fun position span hm => ?_, fun hn hno => ?_⟩
    · have hall : Text.bytes input = Text.bytes parts.flatten +
          Text.bytes (trace moves (ofText delimiters input)).2.rest := by
        rw [← Text.bytes_append, ← hrest]
        rfl
      rw [position_of_unclosed hin hr hm] at hend
      omega
    · rcases htraced.ended hn with he | ⟨position, span, hm⟩
      · rw [he, List.append_nil] at hrest
        exact hrest.symm
      · exact absurd hm (hno position span)

/-- A jump into the tag, one back, and one behind the end after a delimiter that is not closed. -/
theorem trace_partition_jumps :
    let input : Text := "a\x7b%x%\x7dé\x7b%"
    let moves : List Move := [.read, .seek 3, .seek 0, .read, .read, .seek 20, .read]
    let run := trace moves (ofText .standard input)
    (∀ move ∈ moves, move.Within input) ∧
      run.1.map Event.span = [⟨0, 1⟩, ⟨1, 3⟩, ⟨3, 3⟩, ⟨3, 8⟩, ⟨8, 8⟩, ⟨8, 10⟩, ⟨10, 10⟩] ∧
      Partition .standard input moves run.1 run.2 := by
  intro input moves run
  have hwithin : ∀ move ∈ moves, move.Within input := by
    simp only [moves, List.forall_mem_cons, List.not_mem_nil, false_implies, implies_true, and_true]
    refine ⟨trivial, .inr ⟨"a\x7b%", by decide, by decide⟩, .inr ⟨[], by decide, rfl⟩, trivial,
      trivial, .inl (by decide), trivial⟩
  exact ⟨hwithin, by decide, trace_partition .standard input moves hwithin⟩

end Whole

end Stencil.Scanner
