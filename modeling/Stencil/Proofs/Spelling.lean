import Stencil.Proofs.Walk
/-!
# Markers in their canonical spelling

With the standard delimiters every marker begins with a brace and a word between blanks. So a tag
is a marker or not by what stands behind its start delimiter, and a text in which no marker begins
is passed over character by character.
-/
namespace Stencil.Spelling

open Balance

/-- A tag with this text between its delimiters. -/
def span (inside : Text) : Text := "\x7b%" ++ inside ++ "%\x7d"

/-- A tag with single blanks inside its delimiters. -/
def tag (contents : Text) : Text := "\x7b% " ++ contents ++ " %\x7d"

/-- The tag that opens a block, up to the name as every search expects it. -/
def opening (name arguments : Text) : Text := span (" " ++ name ++ " " ++ arguments)

/-- What stands in front of the first space. -/
def word (contents : Text) : Text := contents.takeWhile (· != ' ')

/-- The name stands first, between blanks. -/
def begins (inside name : Text) : Bool := (" " ++ name ++ " " : Text).isPrefixOf inside

/-- The name of a tag or marker is one word and no part of a delimiter. -/
def isWord (name : Text) : Bool := name.all fun c => !(" %\x7b\x7d" : Text).contains c

variable {name inside contents rest s t : Text}

theorem openMarker_standard (name : Text) :
    Delimiters.standard.openMarker name = "\x7b% " ++ (name ++ " ") := by
  have h : ("\x7b%" : Text) ++ (" " : Text) = ("\x7b% " : Text) := by decide
  simp only [Delimiters.openMarker, Delimiters.standard, h, List.append_assoc]

theorem openMarker_eq_cons (name : Text) :
    Delimiters.standard.openMarker name = '\x7b' :: '%' :: (" " ++ name ++ " ") := by
  have hd : ("\x7b% " : Text) = '\x7b' :: '%' :: (" " : Text) := by decide
  rw [openMarker_standard, hd]
  simp

theorem closeMarker_standard (name : Text) :
    Delimiters.standard.closeMarker name = tag ("end-" ++ name) := by
  have h : ("\x7b%" : Text) ++ (" end-" : Text) = ("\x7b% " : Text) ++ ("end-" : Text) := by decide
  have hs : (" " : Text) ++ ("%\x7d" : Text) = (" %\x7d" : Text) := by decide
  simp only [Delimiters.closeMarker, Delimiters.standard, tag, h, List.append_assoc, hs]

private theorem bareMarker_standard (name : Text) :
    Delimiters.standard.bareMarker name = tag name := by
  have h : ("\x7b%" : Text) ++ (" " : Text) = ("\x7b% " : Text) := by decide
  have hs : (" " : Text) ++ ("%\x7d" : Text) = (" %\x7d" : Text) := by decide
  simp only [Delimiters.bareMarker, Delimiters.standard, tag, h, List.append_assoc, hs]

private theorem tag_eq_openMarker (name : Text) :
    tag name = Delimiters.standard.openMarker name ++ "%\x7d" := by
  have hs : (" %\x7d" : Text) = (" " : Text) ++ ("%\x7d" : Text) := by decide
  rw [openMarker_standard, tag, hs]
  simp only [List.append_assoc]

theorem tag_eq_span (contents : Text) : tag contents = span (" " ++ contents ++ " ") := by
  have h : ("\x7b% " : Text) = ("\x7b%" : Text) ++ (" " : Text) := by decide
  have hs : (" %\x7d" : Text) = (" " : Text) ++ ("%\x7d" : Text) := by decide
  rw [tag, span, h, hs]
  simp only [List.append_assoc]

/-- What follows the brace of a tag. -/
def spanTail (inside : Text) : Text := '%' :: (inside ++ "%\x7d")

theorem span_eq_cons (inside : Text) : span inside = '\x7b' :: spanTail inside := by
  have h : ("\x7b%" : Text) = ['\x7b', '%'] := by decide
  rw [span, h]
  rfl

private theorem span_ne_nil (inside : Text) : span inside ≠ [] := by
  rw [span_eq_cons]
  exact List.cons_ne_nil _ _

private theorem tag_ne_nil (contents : Text) : tag contents ≠ [] := by
  rw [tag_eq_span]
  exact span_ne_nil _

theorem spanTail_length (inside : Text) : (spanTail inside).length = inside.length + 3 := by
  have hs : ("%\x7d" : Text).length = 2 := by decide
  simp only [spanTail, List.length_cons, List.length_append, hs]

theorem brace_notMem_spanTail (h : '\x7b' ∉ inside) : '\x7b' ∉ spanTail inside := by
  have hl : '\x7b' ∉ ("%\x7d" : Text) := by decide
  simp only [spanTail, List.mem_cons, List.mem_append, not_or]
  exact ⟨by decide, h, hl⟩

theorem brace_notMem_blanks (h : '\x7b' ∉ contents) : '\x7b' ∉ (" " ++ contents ++ " " : Text) := by
  have hb : '\x7b' ∉ (" " : Text) := by decide
  simp only [List.mem_append, not_or]
  exact ⟨⟨hb, h⟩, hb⟩

theorem isPrefixOf_self_append (s rest : Text) : s.isPrefixOf (s ++ rest) = true :=
  List.isPrefixOf_iff_prefix.mpr (List.prefix_append s rest)

/-! ### Names -/

theorem notMem_of_isWord {c : Char} (hc : c ∈ (" %\x7b\x7d" : Text)) (h : isWord name = true) :
    c ∉ name := by
  intro hm
  have hall := List.all_eq_true.mp h c hm
  rw [List.contains_iff_mem.mpr hc] at hall
  cases hall

theorem isWord_end (h : isWord name = true) : isWord ("end-" ++ name) = true := by
  have he : isWord "end-" = true := by decide
  simp only [isWord, List.all_append, Bool.and_eq_true] at h he ⊢
  exact ⟨he, h⟩

theorem ne_end (name : Text) : name ≠ "end-" ++ name := by
  intro h
  have hl := congrArg List.length h
  have h4 : ("end-" : Text).length = 4 := by decide
  rw [List.length_append, h4] at hl
  omega

private theorem word_append_space (h : ' ' ∉ name) (rest : Text) :
    word (name ++ ' ' :: rest) = name := by
  have hall : ∀ c ∈ name, (c != ' ') = true := by
    intro c hc
    rw [bne_iff_ne]
    intro he
    exact h (he ▸ hc)
  rw [word, List.takeWhile_append_of_pos hall]
  simp

private theorem exists_of_begins (h : begins inside name = true) :
    ∃ rest, inside = ' ' :: (name ++ ' ' :: rest) := by
  have hb : (" " : Text) = [' '] := by decide
  obtain ⟨rest, hr⟩ := List.isPrefixOf_iff_prefix.mp h
  refine ⟨rest, ?_⟩
  rw [← hr, hb]
  simp

theorem begins_unique {other : Text} (hn : ' ' ∉ name) (ho : ' ' ∉ other)
    (h : begins inside name = true) (h' : begins inside other = true) : name = other := by
  obtain ⟨r, hr⟩ := exists_of_begins h
  obtain ⟨r', hr'⟩ := exists_of_begins h'
  have he : name ++ ' ' :: r = other ++ ' ' :: r' := by
    rw [hr] at hr'
    exact (List.cons.inj hr').2
  have hw := word_append_space hn r
  rw [he, word_append_space ho] at hw
  exact hw.symm

private theorem exists_word_append (contents : Text) :
    ∃ rest, contents ++ [' '] = word contents ++ ' ' :: rest := by
  induction contents with
  | nil => exact ⟨[], rfl⟩
  | cons c t ih =>
    by_cases hc : c = ' '
    · subst hc
      exact ⟨t ++ [' '], by simp [word]⟩
    · obtain ⟨rest, hr⟩ := ih
      have hw : word (c :: t) = c :: word t := by simp [word, hc]
      refine ⟨rest, ?_⟩
      rw [hw, List.cons_append, hr, List.cons_append]

private theorem begins_word (contents : Text) :
    begins (" " ++ contents ++ " ") (word contents) = true := by
  obtain ⟨rest, hr⟩ := exists_word_append contents
  have hb : (" " : Text) = [' '] := by decide
  have hp : (" " : Text) ++ contents ++ " " = " " ++ word contents ++ " " ++ rest := by
    rw [hb, List.append_assoc, hr]
    simp
  rw [begins, hp]
  exact isPrefixOf_self_append _ _

theorem word_of_begins (hn : ' ' ∉ name) (h : begins (" " ++ contents ++ " ") name = true) :
    word contents = name := by
  refine begins_unique ?_ hn (begins_word contents) h
  intro hm
  have hall := List.all_eq_true.mp List.all_takeWhile ' ' hm
  cases hall

/-! ### Where no marker begins -/

/-- No opening marker of these names begins in the text, whatever follows it. -/
def Unmarked (names : List Text) (s : Text) : Prop :=
  ∀ back, back ≠ [] → back <:+ s → ∀ name ∈ names, ∀ rest,
    (Delimiters.standard.openMarker name).isPrefixOf (back ++ rest) = false

variable {names : List Text}

private theorem Unmarked.of_suffix (h : Unmarked names s) (ht : t <:+ s) : Unmarked names t :=
  fun back hb hback => h back hb (hback.trans ht)

theorem Unmarked.of_subset {others : List Text} (h : Unmarked names s)
    (hsub : ∀ name ∈ others, name ∈ names) : Unmarked others s :=
  fun back hb hback name hn => h back hb hback name (hsub name hn)

private theorem not_openMarker_of_ne {c : Char} (h : c ≠ '\x7b') (name t : Text) :
    (Delimiters.standard.openMarker name).isPrefixOf (c :: t) = false := by
  have hc : ('\x7b' == c) = false := by simpa using h.symm
  have hb : ("\x7b% " : Text) = '\x7b' :: ("% " : Text) := by decide
  rw [openMarker_standard, hb]
  simp only [List.cons_append, List.isPrefixOf, hc, Bool.false_and]

theorem unmarked_of_notMem (h : '\x7b' ∉ s) (names : List Text) : Unmarked names s := by
  intro back hb hback name _ rest
  obtain ⟨c, t, rfl⟩ := List.exists_cons_of_ne_nil hb
  have hc : c ≠ '\x7b' := fun he => h (he ▸ hback.subset List.mem_cons_self)
  exact not_openMarker_of_ne hc name (t ++ rest)

private theorem openMarker_eq_append (name : Text) :
    Delimiters.standard.openMarker name = "\x7b% " ++ name ++ [' '] := by
  have hb : (" " : Text) = [' '] := by decide
  rw [openMarker_standard, hb, List.append_assoc]

private theorem not_openMarker_inside (hw : isWord name = true)
    (hc : Text.contains (Delimiters.standard.openMarker name) inside = false) {front back : Text}
    (hi : inside = front ++ back) (rest : Text) :
    (Delimiters.standard.openMarker name).isPrefixOf (back ++ "%\x7d" ++ rest) = false := by
  have hinside (between : Text) (hb : back = Delimiters.standard.openMarker name ++ between) :
      False := by
    rw [Bool.eq_false_iff, Ne, Text.contains_iff_infix] at hc
    exact hc ⟨front, between, by rw [List.append_assoc, ← hb, hi]⟩
  have hstop : ("%\x7d" : Text) = ['%', '\x7d'] := by decide
  rw [Bool.eq_false_iff]
  intro hp
  obtain ⟨tail, ht⟩ := List.isPrefixOf_iff_prefix.mp hp
  rw [hstop, List.append_assoc] at ht
  rcases List.append_eq_append_iff.mp ht with ⟨between, hb, -⟩ | ⟨between, hb, hrest⟩
  · exact hinside between hb
  -- A marker that ended in the stop delimiter would end with `%` and not a blank, or hold a brace.
  · rcases between with _ | ⟨c, _ | ⟨d, between⟩⟩
    · exact hinside [] (by simpa using hb.symm)
    · obtain ⟨rfl, -⟩ := List.cons.inj hrest
      rw [openMarker_eq_append] at hb
      have hl := (List.append_inj' hb rfl).2
      cases hl
    · obtain ⟨rfl, hd⟩ := List.cons.inj hrest
      obtain ⟨rfl, -⟩ := List.cons.inj hd
      have hm : '\x7d' ∈ Delimiters.standard.openMarker name := by
        rw [hb]
        simp
      have hn : '\x7d' ∉ name := notMem_of_isWord (by decide) hw
      rw [openMarker_eq_append] at hm
      simp [hn] at hm

theorem unmarked_spanTail (hw : ∀ name ∈ names, isWord name = true)
    (hc : ∀ name ∈ names, Text.contains (Delimiters.standard.openMarker name) inside = false) :
    Unmarked names (spanTail inside) := by
  intro back hb hback name hn rest
  rcases List.suffix_cons_iff.mp hback with rfl | hback
  · exact not_openMarker_of_ne (by decide) name _
  · obtain ⟨front, hf⟩ := hback
    rcases List.append_eq_append_iff.mp hf with ⟨between, hi, hb'⟩ | ⟨between, -, hb'⟩
    · rw [hb']
      exact not_openMarker_inside (hw name hn) (hc name hn) hi rest
    · have hstop : Unmarked names "%\x7d" := unmarked_of_notMem (by decide) names
      exact hstop back hb ⟨between, hb'.symm⟩ name hn rest

private theorem openMarker_isPrefixOf_span (hn : '%' ∉ name) (inside rest : Text) :
    (Delimiters.standard.openMarker name).isPrefixOf (span inside ++ rest) =
      begins inside name := by
  have hb : '%' ∉ (" " ++ name ++ " " : Text) := by
    have hs : '%' ∉ (" " : Text) := by decide
    simp only [List.mem_append, not_or]
    exact ⟨⟨hs, hn⟩, hs⟩
  have hstop : ("%\x7d" : Text) = ['%', '\x7d'] := by decide
  rw [openMarker_eq_cons, span_eq_cons, spanTail, begins, hstop]
  simp only [List.cons_append, List.isPrefixOf, beq_self_eq_true, Bool.true_and,
    List.append_assoc, List.nil_append]
  rw [← List.append_assoc]
  exact Text.isPrefixOf_append_cons hb inside _

theorem unmarked_span (ht : Unmarked names (spanTail inside))
    (hw : ∀ name ∈ names, isWord name = true)
    (hb : ∀ name ∈ names, begins inside name = false) : Unmarked names (span inside) := by
  intro back hne hback name hn rest
  rw [span_eq_cons] at hback
  rcases List.suffix_cons_iff.mp hback with rfl | hback
  · rw [← span_eq_cons, openMarker_isPrefixOf_span (notMem_of_isWord (by decide) (hw name hn))]
    exact hb name hn
  · exact ht back hne hback name hn rest

theorem Unmarked.passes (h : Unmarked [name] s) {marker : Text}
    (hm : Delimiters.standard.openMarker name <+: marker) (rest : Text) :
    Text.Passes marker s rest := by
  induction s with
  | nil => exact Text.passes_nil marker rest
  | cons c s ih =>
    refine Text.passes_cons ?_ (ih (h.of_suffix (List.suffix_cons c s)))
    rw [Bool.eq_false_iff]
    intro hp
    have hopen := h (c :: s) (List.cons_ne_nil c s) (List.suffix_refl _) name (by simp) rest
    rw [Bool.eq_false_iff] at hopen
    exact hopen (List.isPrefixOf_iff_prefix.mpr (hm.trans (List.isPrefixOf_iff_prefix.mp hp)))

/-! ### Walks over tags -/

/-- The walk for the end of a block. -/
def closingWalk (name : Text) : Nat → Text → Verdict :=
  closingVerdict (Delimiters.standard.openMarker name) (Delimiters.standard.closeMarker name)

/-- The walk for the `else` of a branch. -/
def elseWalk : Nat → Text → Verdict :=
  topLevelVerdict (Delimiters.standard.openMarker "if") (Delimiters.standard.closeMarker "if")
    (Delimiters.standard.bareMarker "else")

/-- What the markers begin with that mean something to a walk over blocks of this name. -/
def markers (name : Text) : List Text := [name, "end-" ++ name, "else"]

/-- Where no marker begins the walk goes on by one character. -/
def Steps (name : Text) (verdict : Nat → Text → Verdict) : Prop :=
  ∀ t, (∀ marker ∈ markers name, (Delimiters.standard.openMarker marker).isPrefixOf t = false) →
    ∀ depth, verdict depth t = .stepOver 1 depth

namespace Steps

variable {verdict : Nat → Text → Verdict} (h : Steps name verdict)

include h

private theorem crosses (hs : Unmarked (markers name) s) (depth : Nat) :
    Crosses verdict s depth depth :=
  crosses_of_steps fun back hb hback rest =>
    h _ (fun marker hm => hs back hb hback marker hm rest) depth

private theorem crosses_span (ht : Unmarked (markers name) (spanTail inside))
    {length before after : Nat} (hl : length ≤ (span inside).length)
    (hv : ∀ rest, verdict before (span inside ++ rest) = .stepOver length after) :
    Crosses verdict (span inside) before after := by
  rw [span_eq_cons] at hv hl ⊢
  rw [List.length_cons] at hl
  exact crosses_of_front hv (by omega) fun back hb hback rest =>
    h _ (fun marker hm => ht back hb hback marker hm rest) after

end Steps

/-- The walk counts the blocks of this name and crosses everything else. -/
structure Counts (name : Text) (verdict : Nat → Text → Verdict) : Prop where
  isWord : isWord name = true
  steps : Steps name verdict
  opensSpan {inside : Text} : Unmarked (markers name) (spanTail inside) →
    begins inside name = true → ∀ depth, Crosses verdict (span inside) depth (depth + 1)
  closes : ∀ depth, Crosses verdict (tag ("end-" ++ name)) (depth + 1) depth
  strayElse : ∀ depth, (name = "if" → 0 < depth) → Crosses verdict (tag "else") depth depth

theorem isWord_of_mem_markers (h : isWord name = true) :
    ∀ marker ∈ markers name, isWord marker = true := by
  intro marker hm
  simp only [markers, List.mem_cons, List.not_mem_nil, or_false] at hm
  rcases hm with rfl | rfl | rfl
  · exact h
  · exact isWord_end h
  · decide

namespace Counts

variable {verdict : Nat → Text → Verdict} (hc : Counts name verdict)

include hc

theorem otherSpan (ht : Unmarked (markers name) (spanTail inside))
    (hb : ∀ marker ∈ markers name, begins inside marker = false) (depth : Nat) :
    Crosses verdict (span inside) depth depth :=
  hc.steps.crosses (unmarked_span ht (isWord_of_mem_markers hc.isWord) hb) depth

theorem plain (hs : '\x7b' ∉ s) (depth : Nat) : Crosses verdict s depth depth :=
  hc.steps.crosses (unmarked_of_notMem hs _) depth

end Counts

/-! ### The walk for the end of a block -/

private theorem openMarker_length_le (h : begins inside name = true) :
    (Delimiters.standard.openMarker name).length ≤ (span inside).length := by
  have hl := (List.isPrefixOf_iff_prefix.mp h).length_le
  have h1 : (" " : Text).length = 1 := by decide
  have h3 : ("\x7b% " : Text).length = 3 := by decide
  rw [List.length_append, List.length_append, h1] at hl
  rw [openMarker_standard, span_eq_cons, List.length_cons, spanTail_length, List.length_append,
    List.length_append, h1, h3]
  omega

private theorem begins_of_tag_isPrefixOf (hn : '%' ∉ name)
    (h : (tag name).isPrefixOf (span inside ++ rest) = true) : begins inside name = true := by
  rw [← openMarker_isPrefixOf_span hn inside rest]
  rw [tag_eq_openMarker, List.isPrefixOf_iff_prefix] at h
  exact List.isPrefixOf_iff_prefix.mpr ((List.prefix_append _ _).trans h)

private theorem not_tag_isPrefixOf
    (h : (Delimiters.standard.openMarker name).isPrefixOf t = false) :
    (tag name).isPrefixOf t = false := by
  rw [Bool.eq_false_iff] at h ⊢
  intro hp
  rw [tag_eq_openMarker, List.isPrefixOf_iff_prefix] at hp
  exact h (List.isPrefixOf_iff_prefix.mpr ((List.prefix_append _ _).trans hp))

private theorem closingWalk_steps (name : Text) : Steps name (closingWalk name) := by
  intro t h depth
  have hopen := h name (by simp [markers])
  have hclose := not_tag_isPrefixOf (h ("end-" ++ name) (by simp [markers]))
  simp only [closingWalk, closingVerdict, closeMarker_standard, opensHere, hopen, hclose,
    Bool.false_and, Bool.false_eq_true, if_false]

private theorem not_close_isPrefixOf (hw : isWord name = true) (hb : begins inside name = true)
    (rest : Text) : (tag ("end-" ++ name)).isPrefixOf (span inside ++ rest) = false := by
  have hend := isWord_end hw
  rw [Bool.eq_false_iff]
  intro h
  have hclose := begins_of_tag_isPrefixOf (notMem_of_isWord (by decide) hend) h
  exact ne_end name (begins_unique (notMem_of_isWord (by decide) hw)
    (notMem_of_isWord (by decide) hend) hb hclose)

private theorem opensHere_span (hw : isWord name = true)
    (ht : Unmarked (markers name) (spanTail inside)) (hb : begins inside name = true)
    (rest : Text) :
    opensHere (Delimiters.standard.openMarker name) (tag ("end-" ++ name))
      (span inside ++ rest) = true := by
  -- The next closing marker stands behind the tag, if there is one at all.
  have hpasses : Text.Passes (tag ("end-" ++ name)) (span inside) rest := by
    have htail : Unmarked ["end-" ++ name] (spanTail inside) :=
      ht.of_subset (by simp [markers])
    have hfront := not_close_isPrefixOf hw hb rest
    rw [span_eq_cons] at hfront ⊢
    refine Text.passes_cons hfront (htail.passes ?_ rest)
    rw [tag_eq_openMarker]
    exact List.prefix_append _ _
  have hopen := (openMarker_isPrefixOf_span (notMem_of_isWord (by decide) hw) inside rest).trans hb
  have hl := openMarker_length_le hb
  rw [opensHere, hopen, hpasses]
  cases Text.breakOn? (tag ("end-" ++ name)) rest with
  | none => rfl
  | some found =>
    simp only [Option.map_some, Option.all_some, Bool.true_and, decide_eq_true_eq,
      List.length_append]
    omega

theorem closingWalk_end (name rest : Text) :
    walk (closingWalk name) 0 0 (tag ("end-" ++ name) ++ rest) = some ([], rest) := by
  have hself := isPrefixOf_self_append (tag ("end-" ++ name)) rest
  refine walk_found (tag_ne_nil _) ?_
  rw [closingWalk, closingVerdict, closeMarker_standard, if_pos hself]

private theorem closingWalk_opens (hw : isWord name = true)
    (ht : Unmarked (markers name) (spanTail inside)) (hb : begins inside name = true)
    (depth : Nat) : Crosses (closingWalk name) (span inside) depth (depth + 1) := by
  refine (closingWalk_steps name).crosses_span ht (openMarker_length_le hb) fun rest => ?_
  have hclose := not_close_isPrefixOf hw hb rest
  have hopen := opensHere_span hw ht hb rest
  simp only [closingWalk, closingVerdict, closeMarker_standard, hclose, hopen, Bool.false_eq_true,
    if_false, if_true]

private theorem closingWalk_closes (hw : isWord name = true) (depth : Nat) :
    Crosses (closingWalk name) (tag ("end-" ++ name)) (depth + 1) depth := by
  have hself (rest : Text) := isPrefixOf_self_append (tag ("end-" ++ name)) rest
  have hbrace : '\x7b' ∉ ("end-" ++ name : Text) :=
    notMem_of_isWord (by decide) (isWord_end hw)
  rw [tag_eq_span] at hself ⊢
  refine (closingWalk_steps name).crosses_span
    (unmarked_of_notMem (brace_notMem_spanTail (brace_notMem_blanks hbrace)) _) (Nat.le_refl _)
    fun rest => ?_
  rw [closingWalk, closingVerdict, closeMarker_standard, tag_eq_span, if_pos (hself rest)]

private theorem end_ne_else (name : Text) : ("end-" ++ name : Text) ≠ "else" := by
  intro h
  have h2 : ("else" : Text).take 2 = "el" := by decide
  have h2' : ("end-" ++ name : Text).take 2 = "en" := rfl
  rw [← h, h2'] at h2
  exact absurd h2 (by decide)

theorem closingWalk_else (hw : isWord name = true) (he : name ≠ "else") (depth : Nat) :
    Crosses (closingWalk name) (tag "else") depth depth := by
  have hword : word ("else" : Text) = "else" := by decide
  have hspace (marker : Text) (hm : isWord marker = true)
      (hb : begins (" " ++ "else" ++ " ") marker = true) : marker = "else" :=
    (word_of_begins (notMem_of_isWord (by decide) hm) hb).symm.trans hword
  have hopen (rest : Text) :
      (Delimiters.standard.openMarker name).isPrefixOf (tag "else" ++ rest) = false := by
    rw [tag_eq_span, openMarker_isPrefixOf_span (notMem_of_isWord (by decide) hw),
      Bool.eq_false_iff]
    exact fun hb => he (hspace name hw hb)
  have hclose (rest : Text) : (tag ("end-" ++ name)).isPrefixOf (tag "else" ++ rest) = false := by
    apply not_tag_isPrefixOf
    have hend := isWord_end hw
    rw [tag_eq_span, openMarker_isPrefixOf_span (notMem_of_isWord (by decide) hend),
      Bool.eq_false_iff]
    exact fun hb => end_ne_else name (hspace _ hend hb)
  have hbrace : '\x7b' ∉ (" " ++ "else" ++ " " : Text) := by decide
  have hv (rest : Text) : closingWalk name depth (tag "else" ++ rest) = .stepOver 1 depth := by
    simp only [closingWalk, closingVerdict, closeMarker_standard, opensHere, hopen, hclose,
      Bool.false_and, Bool.false_eq_true, if_false]
  rw [tag_eq_span] at hv ⊢
  exact (closingWalk_steps name).crosses_span
    (unmarked_of_notMem (brace_notMem_spanTail hbrace) _) (by decide) hv

/-- The walk for the end of a block counts the blocks of its name. -/
theorem closingWalk_counts (hw : isWord name = true) (he : name ≠ "else") :
    Counts name (closingWalk name) where
  isWord := hw
  steps := closingWalk_steps name
  opensSpan := closingWalk_opens hw
  closes := closingWalk_closes hw
  strayElse depth _ := closingWalk_else hw he depth

/-! ### The walk for an `else` -/

private theorem elseWalk_steps : Steps "if" elseWalk := by
  intro t h depth
  have hopen := h "if" (by decide)
  have hclose := not_tag_isPrefixOf (h ("end-" ++ "if") (by decide))
  have helse := not_tag_isPrefixOf (h "else" (by decide))
  simp only [elseWalk, topLevelVerdict, closeMarker_standard, bareMarker_standard, hopen, hclose,
    helse, Bool.false_eq_true, and_false, if_false]

private theorem elseWalk_opens (ht : Unmarked (markers "if") (spanTail inside))
    (hb : begins inside "if" = true) (depth : Nat) :
    Crosses elseWalk (span inside) depth (depth + 1) := by
  refine elseWalk_steps.crosses_span ht (openMarker_length_le hb) fun rest => ?_
  have hname : '%' ∉ ("if" : Text) := by decide
  have hopen := (openMarker_isPrefixOf_span hname inside rest).trans hb
  have hn := Delimiters.openMarker_ne_nil .standard "if"
  simp only [elseWalk, topLevelVerdict]
  rw [if_pos ⟨hn, hopen⟩]

private theorem not_if_isPrefixOf (contents : Text) (h : word contents ≠ "if") (rest : Text) :
    ¬ (Delimiters.standard.openMarker "if" ≠ [] ∧
      (Delimiters.standard.openMarker "if").isPrefixOf (tag contents ++ rest) = true) := by
  rintro ⟨-, hp⟩
  rw [tag_eq_span, openMarker_isPrefixOf_span (by decide)] at hp
  exact h (word_of_begins (by decide) hp)

private theorem elseWalk_closes (depth : Nat) :
    Crosses elseWalk (tag ("end-" ++ "if")) (depth + 1) depth := by
  have hopen (rest : Text) := not_if_isPrefixOf ("end-" ++ "if") (by decide) rest
  have hself (rest : Text) := isPrefixOf_self_append (tag ("end-" ++ "if")) rest
  have hbrace : '\x7b' ∉ (" " ++ ("end-" ++ "if") ++ " " : Text) := by decide
  have hv (rest : Text) : elseWalk (depth + 1) (tag ("end-" ++ "if") ++ rest) =
      .stepOver (tag ("end-" ++ "if")).length depth := by
    rw [elseWalk, topLevelVerdict, if_neg (hopen rest), closeMarker_standard,
      if_pos ⟨tag_ne_nil _, hself rest⟩]
    rfl
  rw [tag_eq_span] at hv ⊢
  exact elseWalk_steps.crosses_span (unmarked_of_notMem (brace_notMem_spanTail hbrace) _)
    (Nat.le_refl _) hv

private theorem elseWalk_at_else (depth : Nat) (rest : Text) :
    elseWalk depth (tag "else" ++ rest) =
      if depth = 0 then .found (tag "else").length else .stepOver (tag "else").length depth := by
  have hclose : ¬ (tag ("end-" ++ "if") ≠ [] ∧
      (tag ("end-" ++ "if")).isPrefixOf (tag "else" ++ rest) = true) := by
    rintro ⟨-, hp⟩
    rw [tag_eq_span "else"] at hp
    have hb := begins_of_tag_isPrefixOf (by decide) hp
    exact absurd (word_of_begins (by decide) hb) (by decide)
  rw [elseWalk, topLevelVerdict, if_neg (not_if_isPrefixOf _ (by decide) rest),
    closeMarker_standard, if_neg hclose, bareMarker_standard,
    if_pos ⟨tag_ne_nil _, isPrefixOf_self_append _ rest⟩]

/-- The walk for an `else` counts the branches. -/
theorem elseWalk_counts : Counts "if" elseWalk where
  isWord := by decide
  steps := elseWalk_steps
  opensSpan := elseWalk_opens
  closes := elseWalk_closes
  strayElse depth h := by
    have hd : depth ≠ 0 := Nat.pos_iff_ne_zero.mp (h rfl)
    have hv (rest : Text) := elseWalk_at_else depth rest
    simp only [if_neg hd] at hv
    have hbrace : '\x7b' ∉ (" " ++ "else" ++ " " : Text) := by decide
    rw [tag_eq_span] at hv ⊢
    exact elseWalk_steps.crosses_span (unmarked_of_notMem (brace_notMem_spanTail hbrace) _)
      (Nat.le_refl _) hv

theorem elseWalk_else (rest : Text) :
    walk elseWalk 0 0 (tag "else" ++ rest) = some ([], rest) := by
  refine walk_found (tag_ne_nil _) ?_
  rw [elseWalk_at_else, if_pos rfl]

end Stencil.Spelling
