import Stencil.Proofs.Tokens
import Mathlib.Data.List.Induction
/-!
# Option lists

Options that are written with their values in double quotes and with blanks between them are read
back as they are, in their order, whatever else the values hold. The two ways to read options differ
in one flag: what one takes for the positional value comes first among the flags of the other.
-/
namespace Stencil

namespace Text

theorem breakAt?_append {p : Char → Bool} {front : Text} {c : Char}
    (hfront : ∀ d ∈ front, p d = false) (hc : p c = true) (back : Text) :
    breakAt? p (front ++ c :: back) = some (front, back) := by
  induction front with
  | nil => simp [breakAt?, hc]
  | cons d front ih =>
    have hd := hfront d List.mem_cons_self
    have hrest := ih fun e he => hfront e (List.mem_cons_of_mem d he)
    simp [breakAt?, hd, hrest]

private theorem breakAt?_eq_none_of_forall {p : Char → Bool} {t : Text} (h : ∀ c ∈ t, p c = false) :
    breakAt? p t = none := by
  induction t with
  | nil => rfl
  | cons c t ih =>
    have hc := h c List.mem_cons_self
    have hrest := ih fun d hd => h d (List.mem_cons_of_mem c hd)
    simp [breakAt?, hc, hrest]

end Text

namespace Arguments

variable {front inner name : Text} {tokens : List Text}

/-! ### Quoted values -/

/-- A text in double quotes. -/
def quoted (inner : Text) : Text := '"' :: inner ++ ['"']

private theorem unquote_quoted (inner : Text) : unquote (quoted inner) = inner := by
  have hlast : (inner ++ ['"']).getLast? = some '"' := List.getLast?_concat
  rw [quoted, List.cons_append, unquote, hlast, List.dropLast_concat]
  rfl

private theorem unquote_of_no_quote (h : ∀ c ∈ name, isQuote c = false) : unquote name = name := by
  cases name with
  | nil => rfl
  | cons c name =>
    have hc := h c List.mem_cons_self
    simp [unquote, hc]

private theorem foldl_quoteAfter_outside (h : ∀ c ∈ front, isQuote c = false) :
    front.foldl quoteAfter none = none := by
  induction front with
  | nil => rfl
  | cons c front ih =>
    have hc := h c List.mem_cons_self
    rw [List.foldl_cons, quoteAfter, hc]
    exact ih fun d hd => h d (List.mem_cons_of_mem c hd)

private theorem foldl_quoteAfter_inside {q : Char} (h : q ∉ inner) :
    inner.foldl quoteAfter (some q) = some q := by
  induction inner with
  | nil => rfl
  | cons c inner ih =>
    rw [List.foldl_cons, quoteAfter, if_neg (Ne.symm (List.ne_of_not_mem_cons h))]
    exact ih (List.not_mem_of_not_mem_cons h)

/-- Characters without quotes and blanks. -/
def Bare (t : Text) : Prop := ∀ c ∈ t, isQuote c = false ∧ Text.isAsciiBlank c = false

instance (t : Text) : Decidable (Bare t) :=
  List.decidableBAll (fun c => isQuote c = false ∧ Text.isAsciiBlank c = false) t

private theorem Bare.closed (h : Bare name) : Closed name :=
  foldl_quoteAfter_outside fun c hc => (h c hc).1

private theorem Bare.blanksQuoted (h : Bare name) : BlanksQuoted name := by
  intro front c hp hblank
  have hc : c ∈ name := hp.subset (List.mem_append_right front List.mem_cons_self)
  rw [(h c hc).2] at hblank
  cases hblank

private theorem Bare.isToken (h : Bare name) (hne : name ≠ []) : IsToken name :=
  ⟨hne, h.blanksQuoted⟩

private theorem foldl_quoteAfter_open (hf : Bare front) (hi : '"' ∉ inner) :
    (front ++ '"' :: inner).foldl quoteAfter none = some '"' := by
  rw [List.foldl_append, hf.closed, List.foldl_cons]
  exact foldl_quoteAfter_inside hi

private theorem closed_append_quoted (hf : Bare front) (hi : '"' ∉ inner) :
    Closed (front ++ quoted inner) := by
  rw [Closed, quoted, ← List.append_assoc, List.foldl_append, foldl_quoteAfter_open hf hi]
  rfl

private theorem isToken_append_quoted (hf : Bare front) (hi : '"' ∉ inner) :
    IsToken (front ++ quoted inner) := by
  have hopen : BlanksQuoted (front ++ '"' :: inner) := by
    induction inner using List.reverseRecOn with
    | nil => exact hf.blanksQuoted.concat fun hb => absurd hb (by decide)
    | append_singleton inner c ih =>
      have hshorter : '"' ∉ inner := fun hm => hi (List.mem_append_left [c] hm)
      rw [← List.cons_append, ← List.append_assoc]
      refine (ih hshorter).concat fun _ hclosed => ?_
      rw [Closed, foldl_quoteAfter_open hf hshorter] at hclosed
      cases hclosed
  have hall := hopen.concat fun hb : Text.isAsciiBlank '"' = true => absurd hb (by decide)
  refine ⟨by simp [quoted], ?_⟩
  rwa [List.append_assoc] at hall

/-! ### Tokens with blanks between them -/

/-- The text is the tokens in their order, with blanks between them and maybe around them. -/
def Spaced (tokens : List Text) (t : Text) : Prop :=
  ∃ cut : Cut, cut.tokens = tokens ∧ cut.text = t ∧ IsGap cut.front ∧
    (∀ piece ∈ cut.pieces, IsGap piece.2) ∧ ∀ piece ∈ cut.pieces.dropLast, piece.2 ≠ []

private theorem Spaced.split {t : Text} (h : Spaced tokens t)
    (ht : ∀ token ∈ tokens, IsToken token ∧ Closed token) : split t = tokens := by
  obtain ⟨cut, rfl, rfl, hfront, hgaps, hapart⟩ := h
  have hpieces : ∀ piece ∈ cut.pieces, IsToken piece.1 ∧ Closed piece.1 :=
    List.forall_mem_map.mp ht
  refine Cut.Proper.split_text ⟨hfront, ?_, ?_, ?_⟩
  · intro piece hp
    exact ⟨(hpieces piece hp).1, hgaps piece hp⟩
  · intro piece hp
    exact ⟨(hpieces piece (List.dropLast_subset _ hp)).2, hapart piece hp⟩
  · intro piece hp
    exact .inl (hpieces piece (List.mem_of_getLast? hp)).2

/-! ### Written options -/

/-- A key or a flag: characters without quotes, equals signs and blanks. -/
structure OptionName where
  text : Text
  ne_nil : text ≠ []
  bare : Bare text
  no_equals : '=' ∉ text

/-- A text that can stand in double quotes. -/
structure QuotableText where
  text : Text
  no_quote : '"' ∉ text

/-- A pair or a flag to be written. -/
inductive WrittenOption where
  | pair (key : OptionName) (value : QuotableText)
  | flag (name : OptionName)

namespace WrittenOption

/-- A pair is written as `key="value"`, a flag as it is. -/
def token : WrittenOption → Text
  | pair key value => key.text ++ '=' :: quoted value.text
  | flag name => name.text

def pair? : WrittenOption → Option (Text × Text)
  | pair key value => some (key.text, value.text)
  | flag _ => none

def flag? : WrittenOption → Option Text
  | pair _ _ => none
  | flag name => some name.text

end WrittenOption

def pairsOf (options : List WrittenOption) : List (Text × Text) :=
  options.filterMap WrittenOption.pair?

def flagsOf (options : List WrittenOption) : List Text := options.filterMap WrittenOption.flag?

private theorem QuotableText.isToken_quoted (value : QuotableText) :
    IsToken (quoted value.text) ∧ Closed (quoted value.text) := by
  have hnone : Bare [] := fun c hc => nomatch hc
  exact ⟨isToken_append_quoted hnone value.no_quote, closed_append_quoted hnone value.no_quote⟩

private theorem WrittenOption.isToken_token (option : WrittenOption) :
    IsToken option.token ∧ Closed option.token := by
  cases option with
  | pair key value =>
    have hfront : Bare (key.text ++ ['=']) := by
      intro c hc
      rcases List.mem_append.mp hc with hc | hc
      · exact key.bare c hc
      · obtain rfl := List.mem_singleton.mp hc
        decide
    have htoken := isToken_append_quoted hfront value.no_quote
    have hclosed := closed_append_quoted hfront value.no_quote
    rw [List.append_assoc] at htoken hclosed
    exact ⟨htoken, hclosed⟩
  | flag name => exact ⟨name.bare.isToken name.ne_nil, name.bare.closed⟩

private theorem pair?_pair (key : OptionName) (value : Text) :
    Arguments.pair? (key.text ++ '=' :: value) = some (key.text, value) := by
  have hfront : ∀ c ∈ key.text, (c == '=') = false := by
    intro c hc
    refine beq_eq_false_iff_ne.mpr ?_
    rintro rfl
    exact key.no_equals hc
  have hquotes : key.text.any isQuote = false := by
    simpa using fun c hc => (key.bare c hc).1
  have hne : key.text.isEmpty = false := by simpa using key.ne_nil
  rw [Arguments.pair?, Text.breakAt?_append hfront (beq_self_eq_true '='), Option.filter_some]
  simp only [hne, hquotes]
  rfl

private theorem pair?_flag (name : OptionName) : Arguments.pair? name.text = none := by
  have hnone : ∀ c ∈ name.text, (c == '=') = false := by
    intro c hc
    refine beq_eq_false_iff_ne.mpr ?_
    rintro rfl
    exact name.no_equals hc
  rw [Arguments.pair?, Text.breakAt?_eq_none_of_forall hnone]
  rfl

private theorem pair?_quoted (inner : Text) : Arguments.pair? (quoted inner) = none := by
  rw [quoted, List.cons_append, Arguments.pair?, Text.breakAt?, if_neg (by decide)]
  cases Text.breakAt? (· == '=') (inner ++ ['"']) with
  | none => rfl
  | some found => rfl

end Arguments

namespace Options

open Arguments

variable {options flat : Options}

/-! ### Reading what is written -/

private theorem add_pair (takesPositional : Bool) (options : Options) (key : OptionName)
    (value : QuotableText) :
    options.add takesPositional (WrittenOption.pair key value).token =
      { options with pairs := options.pairs ++ [(key.text, value.text)] } := by
  rw [add, WrittenOption.token, pair?_pair]
  simp only [unquote_quoted]

private theorem add_flag {takesPositional : Bool}
    (h : (takesPositional && options.positional.isNone) = false) (name : OptionName) :
    options.add takesPositional (WrittenOption.flag name).token =
      { options with flags := options.flags ++ [name.text] } := by
  have hname : unquote name.text = name.text := unquote_of_no_quote fun c hc => (name.bare c hc).1
  rw [add, WrittenOption.token, pair?_flag]
  simp only [h, hname]
  rfl

private theorem add_positional (h : options.positional = none) (value : QuotableText) :
    options.add true (quoted value.text) = { options with positional := some value.text } := by
  rw [add, pair?_quoted, h]
  simp only [unquote_quoted]
  rfl

private theorem foldl_add_written {takesPositional : Bool} {written : List WrittenOption}
    (options : Options)
    (h : flagsOf written = [] ∨ (takesPositional && options.positional.isNone) = false) :
    (written.map WrittenOption.token).foldl (add takesPositional) options =
      { options with
        pairs := options.pairs ++ pairsOf written
        flags := options.flags ++ flagsOf written } := by
  induction written generalizing options with
  | nil => simp [pairsOf, flagsOf]
  | cons first written ih =>
    rw [List.map_cons, List.foldl_cons]
    cases first with
    | pair key value =>
      rw [add_pair, ih { options with pairs := options.pairs ++ [(key.text, value.text)] } h]
      simp [pairsOf, flagsOf, List.filterMap_cons, WrittenOption.pair?, WrittenOption.flag?]
    | flag name =>
      have hdue := h.resolve_left (by simp [flagsOf, WrittenOption.flag?])
      rw [add_flag hdue, ih { options with flags := options.flags ++ [name.text] } (.inr hdue)]
      simp [pairsOf, flagsOf, List.filterMap_cons, WrittenOption.pair?, WrittenOption.flag?]

/-! ### With and without a positional value -/

/-- The positional value as one more flag, in front of the others. -/
def flattened (options : Options) : Options where
  pairs := options.pairs
  flags := options.positional.toList ++ options.flags

/-- Flags come behind the positional value. -/
def FlagsBehind (options : Options) : Prop := options.positional = none → options.flags = []

private theorem add_flattened (h : options.FlagsBehind) (token : Text) :
    (options.add true token).FlagsBehind ∧
      options.flattened.add false token = (options.add true token).flattened := by
  obtain ⟨positional, pairs, flags⟩ := options
  unfold add
  cases pair? token with
  | some found => exact ⟨h, rfl⟩
  | none =>
    cases positional with
    | none =>
      obtain rfl : flags = [] := h rfl
      exact ⟨nofun, rfl⟩
    | some value => exact ⟨nofun, rfl⟩

private theorem ofFlags_eq_flattened (tokens : List Text) :
    ofFlags tokens = (ofTokens tokens).flattened := by
  suffices h : ∀ options : Options, options.FlagsBehind →
      tokens.foldl (add false) options.flattened = (tokens.foldl (add true) options).flattened from
    h {} fun _ => rfl
  induction tokens with
  | nil => exact fun _ _ => rfl
  | cons token tokens ih =>
    intro options h
    obtain ⟨hnext, heq⟩ := add_flattened h token
    rw [List.foldl_cons, List.foldl_cons, heq]
    exact ih _ hnext

/-! ### The law of option lists -/

/-- A positional value with pairs around it and flags behind it, and pairs and flags on their own,
are read as they are written. The two ways to read any tokens differ in the positional value only,
which is the first flag without it. -/
theorem read_written :
    (∀ (before after : List WrittenOption) (positional : QuotableText) (t : Text),
      flagsOf before = [] →
      Spaced (before.map WrittenOption.token ++ quoted positional.text ::
        after.map WrittenOption.token) t →
      ofTokens (split t) = ⟨some positional.text, pairsOf (before ++ after), flagsOf after⟩) ∧
    (∀ (written : List WrittenOption) (t : Text), Spaced (written.map WrittenOption.token) t →
      ofFlags (split t) = ⟨none, pairsOf written, flagsOf written⟩) ∧
    ∀ tokens, (ofFlags tokens).pairs = (ofTokens tokens).pairs ∧
      (ofFlags tokens).flags = (ofTokens tokens).positional.toList ++ (ofTokens tokens).flags := by
  have hwritten (written : List WrittenOption) :
      ∀ token ∈ written.map WrittenOption.token, IsToken token ∧ Closed token :=
    List.forall_mem_map.mpr fun option _ => option.isToken_token
  refine ⟨?_, ?_, ?_⟩
  · intro before after positional t hbefore ht
    have htokens : split t = before.map WrittenOption.token ++ quoted positional.text ::
        after.map WrittenOption.token :=
      ht.split (List.forall_mem_append.mpr ⟨hwritten before,
        List.forall_mem_cons.mpr ⟨positional.isToken_quoted, hwritten after⟩⟩)
    rw [htokens, ofTokens, List.foldl_append, foldl_add_written _ (.inl hbefore), List.foldl_cons,
      add_positional rfl, foldl_add_written _ (.inr rfl), hbefore]
    simp [pairsOf]
  · intro written t ht
    rw [ht.split (hwritten written), ofFlags, foldl_add_written _ (.inr rfl)]
    rfl
  · intro tokens
    rw [ofFlags_eq_flattened]
    exact ⟨rfl, rfl⟩

/-- Values with blanks, equals signs and single quotes, and one that is empty. -/
theorem read_written_spaced :
    let media : OptionName := ⟨"media", by decide, by decide, by decide⟩
    let order : OptionName := ⟨"priority", by decide, by decide, by decide⟩
    let inOrder : OptionName := ⟨"defer", by decide, by decide, by decide⟩
    let before : List WrittenOption := [.pair media ⟨"a = 'b", by decide⟩]
    let path : QuotableText := ⟨"it's here.js", by decide⟩
    let after : List WrittenOption := [.flag inOrder, .pair order ⟨[], by decide⟩]
    let t : Text := " media=\"a = 'b\" \"it's here.js\"\n\tdefer priority=\"\""
    let flagged : Text := "defer  priority=\"\"\n"
    (flagsOf before = [] ∧ Spaced (before.map WrittenOption.token ++ quoted path.text ::
        after.map WrittenOption.token) t ∧
      ofTokens (split t) =
        ⟨some "it's here.js", [("media", "a = 'b"), ("priority", [])], ["defer"]⟩) ∧
    Spaced (after.map WrittenOption.token) flagged ∧
      ofFlags (split flagged) = ⟨none, [("priority", [])], ["defer"]⟩ := by
  intro media order inOrder before path after t flagged
  have hbefore : flagsOf before = [] := rfl
  have ht : Spaced (before.map WrittenOption.token ++ quoted path.text ::
      after.map WrittenOption.token) t :=
    ⟨⟨" ", [("media=\"a = 'b\"", " "), ("\"it's here.js\"", "\n\t"), ("defer", " "),
      ("priority=\"\"", [])]⟩, by decide, by decide, by decide, by decide, by decide⟩
  have hflagged : Spaced (after.map WrittenOption.token) flagged :=
    ⟨⟨[], [("defer", "  "), ("priority=\"\"", "\n")]⟩, by decide, by decide, by decide, by decide,
      by decide⟩
  obtain ⟨hread, hflags, -⟩ := read_written
  exact ⟨⟨hbefore, ht, hread before after path t hbefore ht⟩, hflagged,
    hflags after flagged hflagged⟩

end Options
end Stencil
