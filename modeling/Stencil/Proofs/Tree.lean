import Stencil.Proofs.Passage
/-!
# Template trees

Templates as trees of text, expressions, branches, loops, comments and assignments. A tree can be
written out and it can be evaluated by itself, with one more render around each body. It is a
passage as well, so the searches that pair the markers of a text cross a tree that is written out,
whatever is nested in it.
-/
namespace Stencil

/-- What can be written behind the name of a tag. -/
structure Words where
  text : Text
  ne_nil : text ≠ []
  trimmed : Text.trim text = text
  no_brace : '\x7b' ∉ text
  no_stop : Text.contains "%\x7d" text = false

structure ShownValue extends Words where
  dotted : Text.startsWith "." text = true

/-- Each part of a template with what follows it. -/
inductive TemplateTree where
  | done
  | text (t : PlainText) (rest : TemplateTree)
  | expression (shown : ShownValue) (rest : TemplateTree)
  | branch (condition : Words) (yes rest : TemplateTree)
  | choice (condition : Words) (yes no rest : TemplateTree)
  | loop (arguments : Words) (body rest : TemplateTree)
  | comment (body rest : TemplateTree)
  | assign (arguments : Words) (rest : TemplateTree)

namespace TemplateTree

open Spelling Balance

/-- The template in its canonical spelling. -/
def written : TemplateTree → Text
  | done => []
  | text t rest => t.text ++ rest.written
  | expression shown rest => tag shown.text ++ rest.written
  | branch condition yes rest =>
    tag ("if " ++ condition.text) ++ yes.written ++ tag "end-if" ++ rest.written
  | choice condition yes no rest =>
    tag ("if " ++ condition.text) ++ (yes.written ++ tag "else" ++ no.written) ++ tag "end-if" ++
      rest.written
  | loop arguments body rest =>
    tag ("each " ++ arguments.text) ++ body.written ++ tag "end-each" ++ rest.written
  | comment body rest => tag "comment" ++ body.written ++ tag "end-comment" ++ rest.written
  | assign arguments rest => tag ("assign " ++ arguments.text) ++ rest.written

/-- What a tag with this name and these arguments says, wherever it stands. -/
def said (name arguments : Text) : Call := ⟨name, arguments, 0, 0, []⟩

/-- One more render around a body, if the limit allows it. -/
def within (limit : Nat) (body : Draft → Draft) (draft : Draft) : Draft :=
  if limit ≤ draft.context.depth then
    draft.report (.depthExceeded limit draft.context.templateLabel)
  else (body (draft.mapContext (·.deeper))).mapContext (·.shallower)

/-- One of two parts, as the condition says. -/
def choose (condition : Text) (yes no : Draft → Draft) (draft : Draft) : Draft :=
  match Condition.evaluate draft.context condition with
  | .ok true => yes draft
  | .ok false => no draft
  | .error problem => draft.report problem

/-- The body for one item, in a scope that holds it. -/
def forItem (name : Text) (body : Draft → Draft) (draft : Draft) (item : Value) : Draft :=
  (body (draft.mapContext (·.pushScope [(name, item)]))).mapContext (·.popScope)

/-- The body once per item, in order. -/
def forEach (arguments : Text) (body : Draft → Draft) (draft : Draft) : Draft :=
  match (do
    let (name, path) ← Loop.head (said "each" arguments)
    pure (name, ← Loop.items draft.context path)) with
  | .ok (name, items) => items.foldl (forItem name body) draft
  | .error problem => draft.report problem

def store (filters : Table Filter) (arguments : Text) (draft : Draft) : Draft :=
  match Assignment.assigned filters (said "assign" arguments) draft.context with
  | .ok context => { draft with context }
  | .error problem => draft.report problem

/-- What a template does, read off its tree. -/
def evaluate (settings : Settings) : TemplateTree → Draft → Draft
  | done, draft => draft
  | text t rest, draft => rest.evaluate settings (draft.write t.text)
  | expression shown rest, draft =>
    rest.evaluate settings (draft.writeOrReport
      ((Expression.evaluate settings.filters draft.context shown.text).map Value.toText))
  | branch condition yes rest, draft =>
    rest.evaluate settings (choose condition.text
      (within settings.config.maxDepth (yes.evaluate settings)) id draft)
  | choice condition yes no rest, draft =>
    rest.evaluate settings (choose condition.text
      (within settings.config.maxDepth (yes.evaluate settings))
      (within settings.config.maxDepth (no.evaluate settings)) draft)
  | loop arguments body rest, draft =>
    rest.evaluate settings (forEach arguments.text
      (within settings.config.maxDepth (body.evaluate settings)) draft)
  | comment _ rest, draft => rest.evaluate settings draft
  | assign arguments rest, draft =>
    rest.evaluate settings (store settings.filters arguments.text draft)

end TemplateTree

/-! ### Trees as passages -/

open Spelling Balance

namespace Words

/-- What stands in a tag with these words behind what is written in front of them. -/
def inside (words : Words) (front : Text) (hb : '\x7b' ∉ front) (hs : '%' ∉ front) : Inside where
  text := front ++ (words.text ++ " ")
  no_stop := (contains_append_of_notMem hs _).trans (contains_stop_append_blank words.no_stop)
  no_marker name _ := by
    have hblank : '\x7b' ∉ (" " : Text) := by decide
    refine not_contains_openMarker name ?_
    simp only [List.mem_append, not_or]
    exact ⟨hb, words.no_brace, hblank⟩

/-- The words behind the name of a tag that opens a block. -/
def arguments (words : Words) : Inside := words.inside [] List.not_mem_nil List.not_mem_nil

def assignment (words : Words) : LeafTag where
  toInside := words.inside " assign " (by decide) (by decide)
  not_reserved := by
    have hall : ("assign" : Text).all (!Text.isBlank ·) = true := by decide
    have hblank (c : Char) (hc : c ∈ ("assign" : Text)) : Text.isBlank c = false := by
      simpa using List.all_eq_true.mp hall c hc
    have hread := nameAndArguments_opening hblank (by decide) (words.text ++ " ") 0 0
    have hname : (words.inside " assign " (by decide) (by decide)).name = "assign" :=
      congrArg Prod.fst hread
    rw [hname]
    decide

end Words

def ShownValue.leaf (shown : ShownValue) : LeafTag where
  toInside := shown.inside " " (by decide) (by decide)
  not_reserved := by
    obtain ⟨path, hp⟩ := List.isPrefixOf_iff_prefix.mp shown.dotted
    have htrim : Text.trim (" " ++ (shown.text ++ " ")) = '.' :: path := by
      rw [← List.append_assoc, trim_blanks, shown.trimmed, ← hp]
      rfl
    have hname : (shown.inside " " (by decide) (by decide)).name.head? = some '.' := by
      rw [Inside.name, Words.inside, htrim]
      rfl
    intro hm
    have hall : ∀ name ∈ reserved, name.head? ≠ some '.' := by decide
    exact hall _ hm hname

namespace TemplateTree

/-- The tree as a passage. -/
def passage : TemplateTree → Passage
  | done => .done
  | text t rest => .text t rest.passage
  | expression shown rest => .leaf shown.leaf rest.passage
  | branch condition yes rest =>
    .block ⟨.branch, by decide⟩ condition.arguments yes.passage rest.passage
  | choice condition yes no rest =>
    .choice condition.arguments yes.passage no.passage rest.passage
  | loop arguments body rest =>
    .block ⟨.loop, by decide⟩ arguments.arguments body.passage rest.passage
  | comment body rest => .block ⟨.comment, by decide⟩ .empty body.passage rest.passage
  | assign arguments rest => .leaf arguments.assignment rest.passage

private theorem opening_arguments (name : Text) (words : Words) :
    opening name words.arguments.text = tag (name ++ " " ++ words.text) := by
  rw [opening, tag_eq_span]
  simp [Words.arguments, Words.inside]

private theorem written_passage (tree : TemplateTree) : tree.passage.written = tree.written := by
  induction tree with
  | done => rfl
  | text t rest ih => exact congrArg (t.text ++ ·) ih
  | expression shown rest ih =>
    have hspan : span shown.leaf.text = tag shown.text := by
      rw [tag_eq_span, List.append_assoc]
      rfl
    rw [passage, Passage.written, written, ih, hspan]
  | branch condition yes rest ihy ih =>
    rw [passage, Passage.written, written, ih, ihy, opening_arguments]
    rfl
  | choice condition yes no rest ihy ihn ih =>
    rw [passage, Passage.written, written, ih, ihy, ihn, opening_arguments]
    rfl
  | loop arguments body rest ihb ih =>
    rw [passage, Passage.written, written, ih, ihb, opening_arguments]
    rfl
  | comment body rest ihb ih =>
    rw [passage, Passage.written, written, ih, ihb, ← tag_eq_opening]
    rfl
  | assign arguments rest ih =>
    have hspan : span arguments.assignment.text = tag ("assign " ++ arguments.text) := by
      rw [tag_eq_span, List.append_assoc, List.append_assoc]
      rfl
    rw [passage, Passage.written, written, ih, hspan]

private theorem commentsCrossed (tree : TemplateTree) (name : Text)
    (verdict : Nat → Text → Verdict) (depth : Nat) :
    tree.passage.CommentsCrossed name verdict depth := by
  induction tree generalizing depth with
  | done => trivial
  | text t rest ih => exact ih depth
  | expression shown rest ih => exact ih depth
  | branch condition yes rest ihy ih => exact ⟨ihy _, ih depth⟩
  | choice condition yes no rest ihy ihn ih => exact ⟨ihy _, ihn _, ih depth⟩
  | loop arguments body rest ihb ih => exact ⟨ihb _, ih depth⟩
  -- What is commented out is a tree as well, which is searched like any other body.
  | comment body rest ihb ih => exact ⟨ihb _, ih depth⟩
  | assign arguments rest ih => exact ih depth

theorem crosses_closing (tree : TemplateTree) (tag : BuiltIn) (hb : tag ∈ BuiltIn.withBody) :
    Crosses (closingWalk tag.name) tree.written 0 0 := by
  rw [← written_passage]
  exact Passage.crosses_closing tag hb (tree.commentsCrossed _ _ 0)

theorem crosses_else (tree : TemplateTree) : Crosses elseWalk tree.written 0 0 := by
  rw [← written_passage]
  exact Passage.crosses_else (tree.commentsCrossed _ _ 0)

end TemplateTree
end Stencil
