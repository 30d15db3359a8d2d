import Stencil.Proofs.Pipeline
/-!
# Tokens

There is one way to cut a text into tokens with blanks around them, if no token has a blank outside
of its quotes and at most the last one leaves a quote open. Splitting finds it. So tokens that are
written with blanks between them are read as they are, and a text is read on its own up to a blank
behind closed quotes.
-/
namespace Stencil.Arguments

variable {quote : Option Char} {backwards a b gap token : Text}

/-- Blanks, or nothing. -/
def IsGap (gap : Text) : Prop := ∀ c ∈ gap, Text.isAsciiBlank c = true

instance (gap : Text) : Decidable (IsGap gap) :=
  List.decidableBAll (fun c => Text.isAsciiBlank c = true) gap

private theorem isGap_nil : IsGap [] := fun _ hc => nomatch hc

private theorem isGap_of_all (h : gap.all Text.isAsciiBlank = true) : IsGap gap :=
  List.all_eq_true.mp h

/-- Where the text has a blank, a quote that was opened in front of it is not closed. -/
def BlanksQuoted (t : Text) : Prop :=
  ∀ front c, front ++ [c] <+: t → Text.isAsciiBlank c = true → ¬ Closed front

structure IsToken (token : Text) : Prop where
  ne_nil : token ≠ []
  blanks_quoted : BlanksQuoted token

/-- Tokens, each with the gap behind it, and the gap in front of them. -/
structure Cut where
  front : Text
  pieces : List (Text × Text)

namespace Cut

def text (cut : Cut) : Text := cut.front ++ cut.pieces.flatMap fun piece => piece.1 ++ piece.2

def tokens (cut : Cut) : List Text := cut.pieces.map Prod.fst

/-- Every token but the last one is closed and has blanks behind it. The last one has none behind it
if it is open. -/
structure Proper (cut : Cut) : Prop where
  front : IsGap cut.front
  pieces : ∀ piece ∈ cut.pieces, IsToken piece.1 ∧ IsGap piece.2
  inner : ∀ piece ∈ cut.pieces.dropLast, Closed piece.1 ∧ piece.2 ≠ []
  last : ∀ piece ∈ cut.pieces.getLast?, Closed piece.1 ∨ piece.2 = []

end Cut

/-! ### Reading a cut -/

private theorem quoteAfter_blank {c : Char} (hc : Text.isAsciiBlank c = true) :
    quoteAfter none c = none :=
  closed_append_blank (s := []) (Text.isBlank_of_isAsciiBlank hc) rfl

private theorem splitFrom_of_quoted {t : Text} (h : ∀ front c, front ++ [c] <+: t →
    Text.isAsciiBlank c = true → front.foldl quoteAfter quote ≠ none) :
    splitFrom quote backwards t = Arguments.token (t.reverse ++ backwards) := by
  induction t generalizing quote backwards with
  | nil => rfl
  | cons c t ih =>
    have hc : ¬ (quote.isNone && Text.isAsciiBlank c) = true := by
      intro hb
      obtain ⟨hnone, hblank⟩ := Bool.and_eq_true_iff.mp hb
      exact h [] c ⟨t, rfl⟩ hblank (Option.isNone_iff_eq_none.mp hnone)
    have ht : ∀ front d, front ++ [d] <+: t → Text.isAsciiBlank d = true →
        front.foldl quoteAfter (quoteAfter quote c) ≠ none := fun front d hd =>
      h (c :: front) d (List.cons_prefix_cons.mpr ⟨rfl, hd⟩)
    rw [splitFrom, if_neg hc, ih ht, List.reverse_cons, List.append_assoc]
    rfl

theorem IsToken.split (h : IsToken token) : split token = [token] := by
  have hne : ¬ token.reverse.isEmpty = true := by simpa using h.ne_nil
  rw [Arguments.split, splitFrom_of_quoted h.blanks_quoted, List.append_nil, Arguments.token,
    if_neg hne, List.reverse_reverse]

private theorem splitFrom_append_blank {c : Char} (hc : Text.isAsciiBlank c = true)
    (ha : a.foldl quoteAfter quote = none) :
    splitFrom quote backwards (a ++ c :: b) = splitFrom quote backwards a ++ split b := by
  induction a generalizing quote backwards with
  | nil =>
    obtain rfl : quote = none := ha
    simp [splitFrom, hc, Arguments.split]
  | cons d a ih =>
    rw [List.foldl_cons] at ha
    rw [List.cons_append, splitFrom, splitFrom]
    split
    · next hd =>
      obtain ⟨hnone, hblank⟩ := Bool.and_eq_true_iff.mp hd
      obtain rfl := Option.isNone_iff_eq_none.mp hnone
      rw [quoteAfter_blank hblank] at ha
      rw [ih ha, List.append_assoc]
    · exact ih ha

private theorem split_gap_append (hg : IsGap gap) (b : Text) : split (gap ++ b) = split b := by
  induction gap with
  | nil => rfl
  | cons c gap ih =>
    have hc := hg c List.mem_cons_self
    have hfirst : split ([] ++ c :: (gap ++ b)) = split [] ++ split (gap ++ b) :=
      splitFrom_append_blank hc rfl
    exact hfirst.trans (ih fun d hd => hg d (List.mem_cons_of_mem c hd))

private theorem split_append (ha : Closed a) (hg : IsGap gap) (hne : gap ≠ []) (b : Text) :
    split (a ++ gap ++ b) = split a ++ split b := by
  obtain ⟨c, gap, rfl⟩ := List.exists_cons_of_ne_nil hne
  have hgap : IsGap gap := fun d hd => hg d (List.mem_cons_of_mem c hd)
  have hfirst : split (a ++ c :: (gap ++ b)) = split a ++ split (gap ++ b) :=
    splitFrom_append_blank (hg c List.mem_cons_self) ha
  rw [List.append_assoc, List.cons_append, hfirst, split_gap_append hgap]

private theorem IsToken.split_append_gap (h : IsToken token) (hg : IsGap gap)
    (hc : Closed token ∨ gap = []) : Arguments.split (token ++ gap) = [token] := by
  by_cases hne : gap = []
  · rw [hne, List.append_nil, h.split]
  · have hall := split_append (hc.resolve_right hne) hg hne []
    rw [List.append_nil, h.split] at hall
    exact hall

namespace Cut

variable {front : Text} {piece next : Text × Text} {pieces : List (Text × Text)}

private theorem Proper.tail (h : Proper ⟨front, piece :: next :: pieces⟩) :
    Proper ⟨[], next :: pieces⟩ where
  front := isGap_nil
  pieces p hp := h.pieces p (List.mem_cons_of_mem piece hp)
  inner p hp := h.inner p (List.mem_cons_of_mem piece hp)
  last p hp := h.last p hp

/-- A text is split in the way that it is cut. -/
theorem Proper.split_text {cut : Cut} (h : cut.Proper) : split cut.text = cut.tokens := by
  obtain ⟨front, pieces⟩ := cut
  rw [text, split_gap_append h.front]
  induction pieces generalizing front with
  | nil => rfl
  | cons piece pieces ih =>
    obtain ⟨htoken, hgap⟩ := h.pieces piece List.mem_cons_self
    cases pieces with
    | nil =>
      have hlast := htoken.split_append_gap hgap (h.last piece rfl)
      simpa [tokens] using hlast
    | cons next pieces =>
      obtain ⟨hclosed, hne⟩ := h.inner piece List.mem_cons_self
      rw [List.flatMap_cons, split_append hclosed hgap hne, htoken.split, ih [] h.tail]
      rfl

private theorem Proper.isToken {cut : Cut} (h : cut.Proper) : ∀ token ∈ cut.tokens, IsToken token :=
  List.forall_mem_map.mpr fun piece hp => (h.pieces piece hp).1

private theorem Proper.closed {cut : Cut} (h : cut.Proper) :
    ∀ token ∈ cut.tokens.dropLast, Closed token := by
  rw [tokens, ← List.map_dropLast]
  exact List.forall_mem_map.mpr fun piece hp => (h.inner piece hp).1

/-! ### Cutting a text -/

private theorem proper_nil : Proper ⟨[], []⟩ where
  front := isGap_nil
  pieces _ hp := nomatch hp
  inner _ hp := nomatch hp
  last _ hp := nomatch hp

private theorem proper_singleton (ht : IsToken token) : Proper ⟨[], [(token, [])]⟩ where
  front := isGap_nil
  pieces := List.forall_mem_singleton.mpr ⟨ht, isGap_nil⟩
  inner _ hp := nomatch hp
  last := by
    rintro piece ⟨⟩
    exact .inr rfl

private theorem Proper.cons {cut : Cut} {c : Char} (h : cut.Proper) (ht : IsToken token)
    (hclosed : Closed token) (hc : Text.isAsciiBlank c = true) :
    Proper ⟨[], (token, c :: cut.front) :: cut.pieces⟩ := by
  obtain ⟨front, pieces⟩ := cut
  have hgap : IsGap (c :: front) := List.forall_mem_cons.mpr ⟨hc, h.front⟩
  refine ⟨isGap_nil, List.forall_mem_cons.mpr ⟨⟨ht, hgap⟩, h.pieces⟩, ?_, ?_⟩
  · cases pieces with
    | nil => exact fun piece hp => nomatch hp
    | cons next pieces =>
      exact List.forall_mem_cons.mpr ⟨⟨hclosed, List.cons_ne_nil c front⟩, h.inner⟩
  · cases pieces with
    | nil =>
      rintro piece ⟨⟩
      exact .inl hclosed
    | cons next pieces => exact h.last

end Cut

theorem BlanksQuoted.concat {s : Text} {c : Char} (hs : BlanksQuoted s)
    (hc : Text.isAsciiBlank c = true → ¬ Closed s) : BlanksQuoted (s ++ [c]) := by
  intro front d hp
  rcases List.prefix_concat_iff.mp hp with he | hp
  · obtain ⟨rfl, hd⟩ := List.append_inj' he rfl
    obtain rfl := List.singleton_inj.mp hd
    exact hc
  · exact hs front d hp

theorem blanksQuoted_nil : BlanksQuoted [] := by
  intro front c hp
  simp at hp

theorem exists_cut (backwards t : Text) (hb : BlanksQuoted backwards.reverse) :
    ∃ cut : Cut, cut.Proper ∧ cut.text = backwards.reverse ++ t ∧
      cut.tokens = splitFrom (backwards.reverse.foldl quoteAfter none) backwards t := by
  induction t generalizing backwards with
  | nil =>
    by_cases hne : backwards = []
    · subst hne
      exact ⟨⟨[], []⟩, Cut.proper_nil, rfl, rfl⟩
    · have htoken : IsToken backwards.reverse := ⟨by simpa using hne, hb⟩
      refine ⟨_, Cut.proper_singleton htoken, by simp [Cut.text], ?_⟩
      rw [splitFrom, Arguments.token, if_neg (by simpa using hne)]
      rfl
  | cons c t ih =>
    rw [splitFrom]
    split
    · next hc =>
      obtain ⟨hnone, hblank⟩ := Bool.and_eq_true_iff.mp hc
      obtain ⟨cut, hproper, htext, htokens⟩ := ih [] blanksQuoted_nil
      by_cases hne : backwards = []
      · subst hne
        refine ⟨⟨c :: cut.front, cut.pieces⟩, ⟨List.forall_mem_cons.mpr ⟨hblank, hproper.front⟩,
          hproper.pieces, hproper.inner, hproper.last⟩, congrArg (c :: ·) htext, htokens⟩
      · have htoken : IsToken backwards.reverse := ⟨by simpa using hne, hb⟩
        have hclosed : Closed backwards.reverse := Option.isNone_iff_eq_none.mp hnone
        refine ⟨_, hproper.cons htoken hclosed hblank, ?_, ?_⟩
        · have hrest :
              cut.front ++ cut.pieces.flatMap (fun piece => piece.1 ++ piece.2) = t := htext
          simp [Cut.text, hrest]
        · rw [Arguments.token, if_neg (by simpa using hne)]
          exact congrArg (backwards.reverse :: ·) htokens
    · next hc =>
      have hopen : Text.isAsciiBlank c = true → ¬ Closed backwards.reverse := fun hblank hclosed =>
        hc (Bool.and_eq_true_iff.mpr ⟨Option.isNone_iff_eq_none.mpr hclosed, hblank⟩)
      have hcons := ih (c :: backwards) (List.reverse_cons ▸ hb.concat hopen)
      simpa only [List.reverse_cons, List.append_assoc, List.singleton_append, List.foldl_append,
        List.foldl_cons, List.foldl_nil] using hcons

/-! ### The law of splitting -/

/-- Tokens with single blanks between them are read as they are. -/
theorem split_join {tokens : List Text} (ht : ∀ token ∈ tokens, IsToken token)
    (hc : ∀ token ∈ tokens.dropLast, Closed token) : split (Text.join " " tokens) = tokens := by
  induction tokens with
  | nil => rfl
  | cons token tokens ih =>
    have htoken := ht token List.mem_cons_self
    cases tokens with
    | nil => exact (congrArg split (Text.join_singleton _ _)).trans htoken.split
    | cons next tokens =>
      have hblank : IsGap (" " : Text) := isGap_of_all (by decide)
      rw [Text.join_cons_cons, split_append (hc token List.mem_cons_self) hblank (by decide),
        htoken.split, ih (fun token hm => ht token (List.mem_cons_of_mem _ hm))
          (fun token hm => hc token (List.mem_cons_of_mem _ hm))]
      rfl

/-- The tokens of a text are those of the one way to cut it. They are read again with single blanks
between them, and behind closed quotes and blanks a text is read as if it began there. -/
theorem split_eq_iff_cut (t : Text) :
    (∀ tokens, split t = tokens ↔
      ∃ cut : Cut, cut.Proper ∧ cut.text = t ∧ cut.tokens = tokens) ∧
    split (Text.join " " (split t)) = split t ∧
    ∀ gap b, Closed t → IsGap gap → gap ≠ [] → split (t ++ gap ++ b) = split t ++ split b := by
  obtain ⟨cut, hproper, htext, htokens⟩ := exists_cut [] t blanksQuoted_nil
  have hcut : cut.tokens = split t := htokens
  refine ⟨fun tokens => ⟨?_, ?_⟩, ?_, fun gap b hc hg hne => split_append hc hg hne b⟩
  · rintro rfl
    exact ⟨cut, hproper, htext, hcut⟩
  · rintro ⟨other, hother, rfl, rfl⟩
    exact hother.split_text
  · rw [← hcut]
    exact split_join hproper.isToken hproper.closed

/-- A quote that stays open keeps the blanks behind it, one that is closed lets the text go on. -/
theorem split_eq_iff_cut_open :
    let t : Text := " if x=\"a b\"c\t 'd "
    let front : Text := "k='1\" 2'"
    let gap : Text := "\n "
    (∃ cut : Cut, cut.Proper ∧ cut.text = t ∧
      cut.tokens = [("if" : Text), "x=\"a b\"c", "'d "]) ∧
      Closed front ∧ IsGap gap ∧ gap ≠ [] ∧
      split (front ++ gap ++ t) = [("k='1\" 2'" : Text), "if", "x=\"a b\"c", "'d "] := by
  intro t front gap
  have ht : split t = [("if" : Text), "x=\"a b\"c", "'d "] := by decide
  have hfront : split front = [("k='1\" 2'" : Text)] := by decide
  have hclosed : Closed front := by rw [Closed]; decide
  have hgap : IsGap gap := isGap_of_all (by decide)
  have hne : gap ≠ [] := by decide
  refine ⟨((split_eq_iff_cut t).1 _).mp ht, hclosed, hgap, hne, ?_⟩
  rw [(split_eq_iff_cut front).2.2 gap t hclosed hgap hne, hfront, ht]
  rfl

end Stencil.Arguments
