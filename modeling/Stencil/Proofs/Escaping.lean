import Stencil.Head
import Stencil.Proofs.OptionLists
/-!
# Escaped text

In an escaped text no quote and no angle bracket is left, and every ampersand starts an entity. So
decoding, which replaces the entities from left to right, gives the text back, whatever entities it
looked like before. A value that stands in an attribute is read back up to the next quote.
-/
namespace Stencil

namespace Html

variable {c : Char} {entity t : Text}

/-- The characters that are escaped, each with its entity. -/
def entities : List (Char × Text) :=
  [('&', "&amp;"), ('<', "&lt;"), ('>', "&gt;"), ('"', "&quot;"), ('\'', "&#39;")]

/-- Replaces the entities from left to right. -/
def unescape : Text → Text
  | [] => []
  | c :: t =>
    match entities.find? fun entity => entity.2.isPrefixOf (c :: t) with
    | some (replaced, entity) => replaced :: unescape (t.drop (entity.length - 1))
    | none => c :: unescape t
termination_by t => t.length
decreasing_by
  all_goals
    simp only [List.length_cons, List.length_drop]
    omega

/-! ### One character -/

private theorem escapeChar_cases (c : Char) :
    (c, escapeChar c) ∈ entities ∨ c ∉ entities.map Prod.fst ∧ escapeChar c = [c] := by
  unfold escapeChar
  split
  case h_6 hamp hlt hgt hquote hapostrophe =>
    refine .inr ⟨?_, rfl⟩
    simp only [entities, List.map_cons, List.map_nil, List.mem_cons, List.not_mem_nil, or_false,
      not_or]
    exact ⟨hamp, hlt, hgt, hquote, hapostrophe⟩
  all_goals exact .inl (by decide)

private theorem exists_entity_eq (h : (c, entity) ∈ entities) :
    ∃ tail, entity = '&' :: tail ∧ '&' ∉ tail := by
  have hall : ∀ written ∈ entities, written.2.head? = some '&' ∧ '&' ∉ written.2.tail := by decide
  obtain ⟨hhead, htail⟩ := hall _ h
  obtain ⟨tail, rfl⟩ := List.head?_eq_some_iff.mp hhead
  exact ⟨tail, rfl, htail⟩

private theorem escapeChar_eq_append {front inside : Text}
    (h : escapeChar c = front ++ '&' :: inside) :
    front = [] ∧ (c, escapeChar c) ∈ entities := by
  have hin : '&' ∈ front ++ '&' :: inside := List.mem_append_right front List.mem_cons_self
  rcases escapeChar_cases c with hm | ⟨hplain, he⟩
  · obtain ⟨tail, htail, hno⟩ := exists_entity_eq hm
    refine ⟨?_, hm⟩
    cases front with
    | nil => rfl
    | cons d front =>
      rw [htail, List.cons_append] at h
      obtain ⟨-, rfl⟩ := List.cons.inj h
      exact absurd (List.mem_append_right front List.mem_cons_self) hno
  · rw [← h, he] at hin
    rw [← List.mem_singleton.mp hin] at hplain
    exact absurd (by decide) hplain

private theorem escape_cons (c : Char) (t : Text) : escape (c :: t) = escapeChar c ++ escape t :=
  List.flatMap_cons

/-! ### What is left in an escaped text -/

theorem notMem_escape (h : c ∈ ['<', '>', '"', '\'']) (t : Text) : c ∉ escape t := by
  rw [escape, List.mem_flatMap]
  rintro ⟨d, -, hd⟩
  rcases escapeChar_cases d with hm | ⟨hplain, he⟩
  · have hall : ∀ written ∈ entities,
        (written.2.all fun c => !List.contains ['<', '>', '"', '\''] c) = true := by decide
    have hc := List.all_eq_true.mp (hall _ hm) c hd
    rw [List.contains_iff_mem.mpr h] at hc
    cases hc
  · rw [he, List.mem_singleton] at hd
    subst hd
    exact hplain (List.mem_cons_of_mem '&' h)

private theorem entity_of_ampersand {front back : Text} (h : escape t = front ++ '&' :: back) :
    ∃ written ∈ entities, written.2 <+: '&' :: back := by
  induction t generalizing front with
  | nil => cases front <;> cases h
  | cons c t ih =>
    rw [escape_cons] at h
    -- The ampersand stands behind what is written for `c`, or in it.
    rcases List.append_eq_append_iff.mp h with ⟨between, -, hrest⟩ | ⟨inside, hfirst, hrest⟩
    · exact ih hrest
    · cases inside with
      | nil =>
        have hwhole : escape t = [] ++ '&' :: back := hrest.symm
        exact ih hwhole
      | cons d inside =>
        rw [List.cons_append] at hrest
        obtain ⟨rfl, hback⟩ := List.cons.inj hrest
        obtain ⟨rfl, hm⟩ := escapeChar_eq_append hfirst
        refine ⟨_, hm, escape t, ?_⟩
        rw [hfirst, hback]
        rfl

/-! ### Decoding -/

private theorem unescape_entity (h : (c, entity) ∈ entities) (t : Text) :
    unescape (entity ++ t) = c :: unescape t := by
  have hfind : entities.find? (fun written => written.2.isPrefixOf (entity ++ t)) =
      some (c, entity) := by
    simp only [entities, List.mem_cons, List.not_mem_nil, or_false, Prod.mk.injEq] at h
    rcases h with ⟨rfl, rfl⟩ | ⟨rfl, rfl⟩ | ⟨rfl, rfl⟩ | ⟨rfl, rfl⟩ | ⟨rfl, rfl⟩ <;> rfl
  obtain ⟨tail, rfl, -⟩ := exists_entity_eq h
  rw [List.cons_append] at hfind ⊢
  rw [unescape, hfind]
  simp

private theorem unescape_cons (h : c ≠ '&') (t : Text) : unescape (c :: t) = c :: unescape t := by
  have hfind : entities.find? (fun written => written.2.isPrefixOf (c :: t)) = none := by
    rw [List.find?_eq_none]
    intro written hm hp
    obtain ⟨tail, he, -⟩ := exists_entity_eq hm
    rw [he, List.isPrefixOf_iff_prefix] at hp
    exact h (List.cons_prefix_cons.mp hp).1.symm
  rw [unescape, hfind]

private theorem unescape_escape (t : Text) : unescape (escape t) = t := by
  induction t with
  | nil => rw [escape, List.flatMap_nil, unescape]
  | cons c t ih =>
    rw [escape_cons]
    rcases escapeChar_cases c with hm | ⟨hplain, he⟩
    · rw [unescape_entity hm, ih]
    · have hne : c ≠ '&' := by
        rintro rfl
        exact hplain (by decide)
      rw [he, List.singleton_append, unescape_cons hne, ih]

/-! ### Values in attributes -/

/-- Reads a quoted value: what stands in front of the opening quote, the decoded text up to the next
quote, and what follows that one. -/
def readValue? (t : Text) : Option (Text × Text × Text) :=
  (Text.breakAt? (· == '"') t).bind fun (front, inside) =>
    (Text.breakAt? (· == '"') inside).map fun (written, back) => (front, unescape written, back)

private theorem breakAt?_quote {front : Text} (h : '"' ∉ front) (back : Text) :
    Text.breakAt? (· == '"') (front ++ '"' :: back) = some (front, back) := by
  apply Text.breakAt?_append
  · intro d hd
    rw [beq_eq_false_iff_ne]
    rintro rfl
    exact h hd
  · rfl

private theorem readValue?_valueAttribute {name : Text} (h : '"' ∉ name) (value back : Text) :
    readValue? (valueAttribute name value ++ back) = some (name ++ "=", value, back) := by
  have hname : '"' ∉ name ++ ("=" : Text) := by
    rw [List.mem_append, not_or]
    exact ⟨h, by decide⟩
  have hvalue : '"' ∉ escape value := notMem_escape (by decide) value
  have hwritten : valueAttribute name value ++ back =
      name ++ "=" ++ '"' :: (escape value ++ '"' :: back) := by
    simp [valueAttribute]
  rw [readValue?, hwritten, breakAt?_quote hname, Option.bind_some]
  dsimp only
  rw [breakAt?_quote hvalue, Option.map_some, unescape_escape]

end Html

namespace HeadElement

variable {element : HeadElement}

/-- Attributes as they stand in an element. -/
def spaced (attributes : List Text) : Text := attributes.flatMap fun text => " " ++ text

private theorem spaced_append (earlier later : List Text) :
    spaced (earlier ++ later) = spaced earlier ++ spaced later := List.flatMap_append

private theorem spaced_cons (first : Text) (rest : List Text) :
    spaced (first :: rest) = " " ++ first ++ spaced rest := List.flatMap_cons

private theorem foldl_withFlag (element : HeadElement) (flags : List Text) :
    flags.foldl withFlag element =
      { element with attributes := element.attributes ++ flags } := by
  induction flags generalizing element with
  | nil => simp
  | cons flag flags ih => simp [ih, withFlag]

private theorem html_of_void (h : element.name ∈ voidNames) (flags : List Text) :
    (flags.foldl withFlag element).html =
      "<" ++ element.name ++ spaced (element.attributes ++ flags) ++ ">" := by
  rw [foldl_withFlag]
  exact if_pos (List.elem_iff.mpr h)

private theorem html_of_title (h : element.name = "title") (flags : List Text) :
    (flags.foldl withFlag element).html =
      "<title" ++ spaced (element.attributes ++ flags) ++ ">" ++
        Html.escape (element.body.getD []) ++ "</title>" := by
  have hv : voidNames.contains element.name ≠ true := by
    rw [h]
    decide
  rw [foldl_withFlag]
  exact (if_neg hv).trans (if_pos h)

/-- An attribute stands in the element as it is written, between parts that do not depend on it. -/
theorem exists_html_around (element : HeadElement) (later : List Text)
    (h : element.name ∈ voidNames ∨ element.name = "title") :
    ∃ front back, ∀ written,
      (later.foldl withFlag (element.withFlag written)).html = front ++ (written ++ back) := by
  rcases h with hv | ht
  · refine ⟨"<" ++ element.name ++ spaced element.attributes ++ " ", spaced later ++ ">", ?_⟩
    intro written
    refine (html_of_void hv (written :: later)).trans ?_
    simp only [spaced_append, spaced_cons, List.append_assoc]
  · refine ⟨"<title" ++ spaced element.attributes ++ " ",
      spaced later ++ ">" ++ Html.escape (element.body.getD []) ++ "</title>", ?_⟩
    intro written
    refine (html_of_title ht (written :: later)).trans ?_
    simp only [spaced_append, spaced_cons, List.append_assoc]

end HeadElement

namespace Html

/-- An escaped text has no quotes and no angle brackets, every ampersand in it starts an entity, and
decoding gives the text back. A text is escaped character by character, and no two texts alike. So a
value is read back from its attribute up to the next quote, and whatever the value is, it ends
neither the attribute nor the element: nothing else in what is written depends on it. -/
theorem escaped_then_read :
    (∀ t : Text,
      (∀ c ∈ ['<', '>', '"', '\''], c ∉ escape t) ∧
      (∀ front back, escape t = front ++ '&' :: back →
        ∃ written ∈ entities, written.2 <+: '&' :: back) ∧
      unescape (escape t) = t) ∧
    (∀ s t : Text, escape (s ++ t) = escape s ++ escape t) ∧
    Function.Injective escape ∧
    ∀ (element : HeadElement) (later : List Text) (name : Text), '"' ∉ name →
      (∀ value back,
        readValue? (valueAttribute name value ++ back) = some (name ++ "=", value, back)) ∧
      (element.name ∈ HeadElement.voidNames ∨ element.name = "title" →
        ∃ front back, ∀ value,
          (later.foldl HeadElement.withFlag (element.withValue name value)).html =
            front ++ (valueAttribute name value ++ back)) := by
  refine ⟨fun t => ⟨?_, ?_, unescape_escape t⟩, ?_, ?_, ?_⟩
  · intro c hc
    exact notMem_escape hc t
  · intro front back h
    exact entity_of_ampersand h
  · intro s t
    exact List.flatMap_append
  · exact Function.LeftInverse.injective unescape_escape
  · intro element later name hname
    refine ⟨readValue?_valueAttribute hname, fun hshown => ?_⟩
    obtain ⟨front, back, hhtml⟩ := element.exists_html_around later hshown
    exact ⟨front, back, fun value => hhtml (valueAttribute name value)⟩

/-- A value that looks like the end of its element, and like an entity. -/
theorem escaped_then_read_markup :
    let name : Text := "content"
    let value : Text := "\"><b>'&quot;"
    let element : HeadElement := { name := "meta", attributes := ["hidden"] }
    '"' ∉ name ∧ (element.name ∈ HeadElement.voidNames ∨ element.name = "title") ∧
      (element.withValue name value).html =
        "<meta hidden content=\"&quot;&gt;&lt;b&gt;&#39;&amp;quot;\">" ∧
      readValue? "content=\"&quot;&gt;&lt;b&gt;&#39;&amp;quot;\">" =
        some (("content=" : Text), value, (">" : Text)) ∧
      ∃ front back, ∀ value,
        (element.withValue name value).html = front ++ (valueAttribute name value ++ back) := by
  intro name value element
  have hname : '"' ∉ name := by decide
  have hshown : element.name ∈ HeadElement.voidNames ∨ element.name = "title" := by decide
  obtain ⟨hread, hhtml⟩ := escaped_then_read.2.2.2 element [] name hname
  have hwritten : valueAttribute name value ++ (">" : Text) =
      "content=\"&quot;&gt;&lt;b&gt;&#39;&amp;quot;\">" := by decide
  refine ⟨hname, hshown, by decide, ?_, hhtml hshown⟩
  rw [← hwritten]
  exact hread value ">"

end Html
end Stencil
