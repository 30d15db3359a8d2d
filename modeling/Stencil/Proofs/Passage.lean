import Stencil.Proofs.Reading
/-!
# Passages

Templates as sequences of complete constructs: text, tags that stand alone, blocks of any tag with
a body, branches with an `else`, and text that is commented out. A search that pairs markers crosses
a passage that is written out if it crosses what is commented out in it.
-/
namespace Stencil

/-- Text that holds no start of a tag. -/
structure PlainText where
  text : Text
  no_brace : '\x7b' ∉ text

namespace BuiltIn

/-- The tags with a body. -/
def withBody : List BuiltIn :=
  [branch, loop, comment, layout, extend, slot, define, block, css, js]

end BuiltIn

/-- A tag with a body. -/
structure BodyTag where
  builtIn : BuiltIn
  has_body : builtIn ∈ BuiltIn.withBody

namespace Spelling

open Balance

/-- The words that mean something to a search for markers. -/
def reserved : List Text :=
  "else" :: BuiltIn.withBody.flatMap fun builtIn => [builtIn.name, "end-" ++ builtIn.name]

private theorem isWord_of_mem_reserved : ∀ name ∈ reserved, isWord name = true := by decide

theorem name_mem_reserved : ∀ builtIn ∈ BuiltIn.withBody, builtIn.name ∈ reserved := by decide

private theorem markers_subset_reserved :
    ∀ builtIn ∈ BuiltIn.withBody, ∀ name ∈ markers builtIn.name, name ∈ reserved := by decide

theorem isBlank_of_mem_reserved : ∀ name ∈ reserved, ∀ c ∈ name, Text.isBlank c = false := by
  have hall : ∀ name ∈ reserved, (name.all fun c => !Text.isBlank c) = true := by decide
  intro name hn c hc
  simpa using List.all_eq_true.mp (hall name hn) c hc

theorem ne_nil_of_mem_reserved : ∀ name ∈ reserved, name ≠ [] := by decide

theorem isWord_name : ∀ builtIn ∈ BuiltIn.withBody, isWord builtIn.name = true := by decide

private theorem name_ne_else : ∀ builtIn ∈ BuiltIn.withBody, builtIn.name ≠ "else" := by decide

private theorem markers_ne : ∀ builtIn ∈ BuiltIn.withBody, ∀ other ∈ BuiltIn.withBody,
    builtIn.name ≠ other.name →
      ∀ name ∈ markers builtIn.name, name ≠ other.name ∧ name ≠ "end-" ++ other.name := by
  decide

/-- What stands between the delimiters of a tag. It holds no marker of a block. -/
structure Inside where
  text : Text
  no_stop : Text.contains "%\x7d" text = false
  no_marker : ∀ name ∈ reserved, Text.contains (Delimiters.standard.openMarker name) text = false

namespace Inside

/-- The name that a tag with these contents is read with. -/
def name (inside : Inside) : Text := (TagSpan.mk (Text.trim inside.text) 0 0).nameAndArguments.1

theorem unmarked_spanTail (inside : Inside) : Unmarked reserved (spanTail inside.text) :=
  Spelling.unmarked_spanTail isWord_of_mem_reserved inside.no_marker

end Inside

/-- A tag that is no marker of a block: an expression, a tag without a body or an unknown one. -/
structure LeafTag extends Inside where
  not_reserved : toInside.name ∉ reserved

theorem LeafTag.not_begins (tag : LeafTag) : ∀ name ∈ reserved, begins tag.text name = false := by
  intro name hn
  rw [Bool.eq_false_iff]
  intro hb
  obtain ⟨rest, hr⟩ := List.isPrefixOf_iff_prefix.mp hb
  have hname := nameAndArguments_opening (isBlank_of_mem_reserved name hn)
    (ne_nil_of_mem_reserved name hn) rest 0 0
  rw [hr] at hname
  have hread : tag.name = name := congrArg Prod.fst hname
  exact tag.not_reserved (hread ▸ hn)

theorem unmarked_opening {name : Text} (hn : '\x7b' ∉ name) (arguments : Inside) :
    Unmarked reserved (spanTail (" " ++ name ++ " " ++ arguments.text)) := by
  refine Spelling.unmarked_spanTail isWord_of_mem_reserved fun marker hm => ?_
  have hfront : '\x7b' ∉ (" " ++ name ++ " " : Text) := brace_notMem_blanks hn
  have hargs := arguments.no_marker marker hm
  rw [openMarker_eq_cons] at hargs ⊢
  rw [contains_append_of_notMem hfront]
  exact hargs

/-- Text that is commented out. -/
structure Commented where
  text : Text
  no_open : Text.contains (Delimiters.standard.openMarker "comment") text = false
  no_close : Text.contains (Delimiters.standard.closeMarker "comment") text = false

def Commented.written (commented : Commented) : Text :=
  tag "comment" ++ commented.text ++ tag "end-comment"

/-- A tag without arguments. -/
def Inside.empty : Inside := ⟨[], by decide, by decide⟩

theorem tag_eq_opening (name : Text) : tag name = opening name Inside.empty.text := by
  rw [tag_eq_span, opening]
  simp [Inside.empty]

private theorem not_openMarker_of_contains {name t back : Text} (hw : isWord name = true)
    (h : Text.contains (Delimiters.standard.openMarker name) t = false) (hne : back ≠ [])
    (hback : back <:+ t) (inside rest : Text) :
    (Delimiters.standard.openMarker name).isPrefixOf (back ++ (span inside ++ rest)) = false := by
  have hbrace : '\x7b' ∉ '%' :: (" " ++ name ++ " ") := by
    rw [List.mem_cons, not_or]
    exact ⟨by decide, brace_notMem_blanks (notMem_of_isWord (by decide) hw)⟩
  rw [openMarker_eq_cons] at h ⊢
  rw [span_eq_cons]
  exact Text.not_isPrefixOf_of_contains hbrace h hne hback _

theorem Commented.encloses (commented : Commented) : Encloses "comment" commented.text := by
  refine encloses_of_walk fun rest => walk_of_steps fun back hne hback => ?_
  have hopen : (Delimiters.standard.openMarker "comment").isPrefixOf
      (back ++ (tag ("end-" ++ "comment") ++ rest)) = false := by
    rw [tag_eq_span]
    exact not_openMarker_of_contains (by decide) commented.no_open hne hback _ rest
  have hclose : (Delimiters.standard.closeMarker "comment").isPrefixOf
      (back ++ (tag ("end-" ++ "comment") ++ rest)) = false := by
    have hcons : Delimiters.standard.closeMarker "comment" =
        '\x7b' :: ("% end-comment %\x7d" : Text) := by decide
    have hno := commented.no_close
    rw [hcons] at hno ⊢
    rw [tag_eq_span, span_eq_cons]
    exact Text.not_isPrefixOf_of_contains (by decide) hno hne hback _
  simp only [closingWalk, closingVerdict, opensHere, hopen, hclose, Bool.false_and,
    Bool.false_eq_true, if_false]

end Spelling

open Balance Spelling

/-- Each construct of a template with what follows it. -/
inductive Passage where
  | done
  | text (t : PlainText) (rest : Passage)
  | leaf (tag : LeafTag) (rest : Passage)
  | block (tag : BodyTag) (arguments : Inside) (body rest : Passage)
  | choice (condition : Inside) (yes no rest : Passage)
  | comment (commented : Commented) (rest : Passage)
  /-- A child that is not closed, whose body is all that follows. -/
  | child (arguments : Inside) (body : Passage)

namespace Passage

/-- The passage in its canonical spelling. -/
def written : Passage → Text
  | done => []
  | text t rest => t.text ++ rest.written
  | leaf tag rest => span tag.text ++ rest.written
  | block tag arguments body rest =>
    opening tag.builtIn.name arguments.text ++ body.written ++
      Spelling.tag ("end-" ++ tag.builtIn.name) ++ rest.written
  | choice condition yes no rest =>
    opening "if" condition.text ++ (yes.written ++ tag "else" ++ no.written) ++ tag "end-if" ++
      rest.written
  | comment commented rest => commented.written ++ rest.written
  | child arguments body => opening "extends" arguments.text ++ body.written

/-- The walk over blocks of this name, from this depth on, crosses what is commented out, and none
of these blocks is left open. -/
def CommentsCrossed (name : Text) (verdict : Nat → Text → Verdict) : Nat → Passage → Prop
  | _, done => True
  | depth, text _ rest | depth, leaf _ rest => rest.CommentsCrossed name verdict depth
  | depth, block tag _ body rest =>
    body.CommentsCrossed name verdict (if tag.builtIn.name = name then depth + 1 else depth) ∧
      rest.CommentsCrossed name verdict depth
  | depth, choice _ yes no rest =>
    yes.CommentsCrossed name verdict (if "if" = name then depth + 1 else depth) ∧
      no.CommentsCrossed name verdict (if "if" = name then depth + 1 else depth) ∧
      rest.CommentsCrossed name verdict depth
  | depth, comment commented rest =>
    Crosses verdict commented.written depth depth ∧ rest.CommentsCrossed name verdict depth
  | depth, child _ body => "extends" ≠ name ∧ body.CommentsCrossed name verdict depth

section Crossing

variable {name : Text} {verdict : Nat → Text → Verdict} (hc : Counts name verdict)
  (hsub : ∀ marker ∈ markers name, marker ∈ reserved)

include hc hsub

private theorem crosses_leaf (tag : LeafTag) (depth : Nat) :
    Crosses verdict (span tag.text) depth depth :=
  hc.otherSpan (tag.unmarked_spanTail.of_subset hsub)
    (fun marker hm => tag.not_begins marker (hsub marker hm)) depth

private theorem crosses_opening (builtIn : BuiltIn) (hb : builtIn ∈ BuiltIn.withBody)
    (hne : builtIn.name ≠ name → ∀ marker ∈ markers name, marker ≠ builtIn.name)
    (arguments : Inside) (depth : Nat) :
    Crosses verdict (opening builtIn.name arguments.text) depth
      (if builtIn.name = name then depth + 1 else depth) := by
  have hword := isWord_name builtIn hb
  have htail := (unmarked_opening (notMem_of_isWord (by decide) hword) arguments).of_subset hsub
  have hfirst : begins (" " ++ builtIn.name ++ " " ++ arguments.text) builtIn.name = true :=
    isPrefixOf_self_append _ _
  by_cases h : builtIn.name = name
  · rw [if_pos h, opening]
    exact hc.opensSpan htail (h ▸ hfirst) depth
  · rw [if_neg h]
    refine hc.otherSpan htail (fun marker hm => ?_) depth
    have hmarker := isWord_of_mem_reserved marker (hsub marker hm)
    rw [Bool.eq_false_iff]
    intro hbegins
    exact hne h marker hm (begins_unique (notMem_of_isWord (by decide) hmarker)
      (notMem_of_isWord (by decide) hword) hbegins hfirst)

private theorem crosses_close (builtIn : BuiltIn) (hb : builtIn ∈ BuiltIn.withBody)
    (hne : builtIn.name ≠ name → ∀ marker ∈ markers name, marker ≠ "end-" ++ builtIn.name)
    (depth : Nat) :
    Crosses verdict (Spelling.tag ("end-" ++ builtIn.name))
      (if builtIn.name = name then depth + 1 else depth) depth := by
  by_cases h : builtIn.name = name
  · rw [if_pos h, h]
    exact hc.closes depth
  · have hend := isWord_end (isWord_name builtIn hb)
    have hbrace : '\x7b' ∉ ("end-" ++ builtIn.name : Text) := notMem_of_isWord (by decide) hend
    rw [if_neg h, tag_eq_span]
    refine hc.otherSpan
      (unmarked_of_notMem (brace_notMem_spanTail (brace_notMem_blanks hbrace)) _)
      (fun marker hm => ?_) depth
    have hmarker := isWord_of_mem_reserved marker (hsub marker hm)
    rw [Bool.eq_false_iff]
    intro hbegins
    exact hne h marker hm (begins_unique (notMem_of_isWord (by decide) hmarker)
      (notMem_of_isWord (by decide) hend) hbegins
      (List.isPrefixOf_iff_prefix.mpr (List.prefix_refl _)))

private theorem crosses_block (builtIn : BuiltIn) (hb : builtIn ∈ BuiltIn.withBody)
    (hne : builtIn.name ≠ name → ∀ marker ∈ markers name,
      marker ≠ builtIn.name ∧ marker ≠ "end-" ++ builtIn.name)
    (arguments : Inside) {body : Text} {depth : Nat}
    (hbody : Crosses verdict body (if builtIn.name = name then depth + 1 else depth)
      (if builtIn.name = name then depth + 1 else depth)) :
    Crosses verdict (opening builtIn.name arguments.text ++ body ++
      Spelling.tag ("end-" ++ builtIn.name)) depth depth := by
  -- Its markers are counted by the walk or mean nothing to it.
  have hopen := crosses_opening hc hsub builtIn hb (fun h m hm => (hne h m hm).1) arguments depth
  have hclose := crosses_close hc hsub builtIn hb (fun h m hm => (hne h m hm).2) depth
  exact (hopen.append hbody).append hclose

end Crossing

/-- A passage is crossed at every depth at which what is commented out in it is crossed. -/
theorem crosses_written (walker : BuiltIn) (hw : walker ∈ BuiltIn.withBody)
    {verdict : Nat → Text → Verdict} (hc : Counts walker.name verdict) (p : Passage) (depth : Nat)
    (h : p.CommentsCrossed walker.name verdict depth) : Crosses verdict p.written depth depth := by
  have hsub := markers_subset_reserved walker hw
  have hne (builtIn : BuiltIn) (hb : builtIn ∈ BuiltIn.withBody) (h : builtIn.name ≠ walker.name) :=
    markers_ne walker hw builtIn hb h.symm
  induction p generalizing depth with
  | done => exact crosses_nil verdict depth
  | text t rest ih => exact (hc.plain t.no_brace depth).append (ih depth h)
  | leaf tag rest ih => exact (crosses_leaf hc hsub tag depth).append (ih depth h)
  | block tag arguments body rest ihb ih =>
    have hblock := crosses_block hc hsub tag.builtIn tag.has_body (hne _ tag.has_body) arguments
      (ihb _ h.1)
    exact hblock.append (ih depth h.2)
  | choice condition yes no rest ihy ihn ih =>
    obtain ⟨hyes, hno, hrest⟩ := h
    have helse := hc.strayElse (if "if" = walker.name then depth + 1 else depth) (by
      intro he
      rw [he, if_pos rfl]
      exact Nat.succ_pos depth)
    have hblock := crosses_block hc hsub .branch (by decide) (hne _ (by decide)) condition
      (((ihy _ hyes).append helse).append (ihn _ hno))
    exact hblock.append (ih depth hrest)
  | comment commented rest ih => exact h.1.append (ih depth h.2)
  | child arguments body ih =>
    have hopen := crosses_opening hc hsub .extend (by decide)
      (fun h marker hm => (hne _ (by decide) h marker hm).1) arguments depth
    have hname : BuiltIn.extend.name ≠ walker.name := h.1
    rw [if_neg hname] at hopen
    exact hopen.append (ih depth h.2)

theorem crosses_closing (tag : BuiltIn) (hb : tag ∈ BuiltIn.withBody) {p : Passage} {depth : Nat}
    (h : p.CommentsCrossed tag.name (closingWalk tag.name) depth) :
    Crosses (closingWalk tag.name) p.written depth depth :=
  crosses_written tag hb (closingWalk_counts (isWord_name tag hb) (name_ne_else tag hb)) p depth h

theorem crosses_else {p : Passage} {depth : Nat} (h : p.CommentsCrossed "if" elseWalk depth) :
    Crosses elseWalk p.written depth depth :=
  crosses_written .branch (by decide) elseWalk_counts p depth h

theorem crosses_commented (walker : BuiltIn) (hw : walker ∈ BuiltIn.withBody)
    {verdict : Nat → Text → Verdict} (hc : Counts walker.name verdict) (commented : Commented)
    (hm : ∀ marker ∈ markers walker.name,
      Text.contains (Delimiters.standard.openMarker marker) commented.text = false) (depth : Nat) :
    Crosses verdict commented.written depth depth := by
  have hsub := markers_subset_reserved walker hw
  have hne (h : BuiltIn.comment.name ≠ walker.name) :=
    markers_ne walker hw .comment (by decide) h.symm
  have hopen := crosses_opening hc hsub .comment (by decide) (fun h m hm => (hne h m hm).1)
    .empty depth
  have hclose := crosses_close hc hsub .comment (by decide) (fun h m hm => (hne h m hm).2) depth
  rw [← tag_eq_opening] at hopen
  refine hopen.around (fun rest => walk_of_steps fun back hb hback => ?_) hclose
  refine hc.steps _ (fun marker hmarker => ?_) _
  rw [tag_eq_span]
  exact not_openMarker_of_contains (isWord_of_mem_markers hc.isWord marker hmarker)
    (hm marker hmarker) hb hback _ rest

end Passage
end Stencil
