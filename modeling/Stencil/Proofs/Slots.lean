import Stencil.Proofs.Effect
/-!
# Slots of a passage

A child body is cut at the opening markers of slots, wherever in it they stand. Of a passage the
slots are taken out with their content, and what is left is the passage without them.
-/
namespace Stencil

open Balance Spelling

namespace Slot

variable {delimiters : Delimiters} {body before inside written following content rest : Text}

private theorem pieces_of_none (ho : Text.breakOn? (openMarker delimiters) body = none) :
    pieces delimiters body = [.kept body] := by
  rw [pieces]
  split
  · rfl
  · next h => rw [h] at ho; cases ho

private theorem pieces_of_unended
    (ho : Text.breakOn? (openMarker delimiters) body = some (before, inside))
    (hs : Text.breakOn? delimiters.stop inside = none) :
    pieces delimiters body = [.kept body] := by
  rw [pieces]
  split
  · rfl
  · next h =>
    rw [h] at ho
    cases ho
    split
    · rfl
    · next h => rw [h] at hs; cases hs

theorem pieces_of_filled (ho : Text.breakOn? (openMarker delimiters) body = some (before, inside))
    (hs : Text.breakOn? delimiters.stop inside = some (written, following))
    (hc : Balance.closing (openMarker delimiters) (closeMarker delimiters) 0 0 following =
      some (content, rest)) :
    pieces delimiters body =
      .kept before :: .filled written content :: pieces delimiters rest := by
  rw [pieces]
  split
  · next h => rw [h] at ho; cases ho
  · next h =>
    rw [h] at ho
    cases ho
    split
    · next h => rw [h] at hs; cases hs
    · next h =>
      rw [h] at hs
      cases hs
      split
      · next h => rw [h] at hc; cases hc; rfl
      · next h => rw [h] at hc; cases hc

theorem pieces_of_dropped (ho : Text.breakOn? (openMarker delimiters) body = some (before, inside))
    (hs : Text.breakOn? delimiters.stop inside = some (written, following))
    (hc : Balance.closing (openMarker delimiters) (closeMarker delimiters) 0 0 following = none) :
    pieces delimiters body = .kept before :: .dropped written :: pieces delimiters following := by
  rw [pieces]
  split
  · next h => rw [h] at ho; cases ho
  · next h =>
    rw [h] at ho
    cases ho
    split
    · next h => rw [h] at hs; cases hs
    · next h =>
      rw [h] at hs
      cases hs
      split
      · next h => rw [h] at hc; cases hc
      · rfl

theorem keptText_pieces_append
    (hp : Text.Passes (openMarker delimiters) before rest) :
    keptText (pieces delimiters (before ++ rest)) = before ++ keptText (pieces delimiters rest) ∧
      ∀ draft, (pieces delimiters (before ++ rest)).foldl (takePiece delimiters) draft =
        (pieces delimiters rest).foldl (takePiece delimiters) draft := by
  cases ho : Text.breakOn? (openMarker delimiters) rest with
  | none =>
    have hall : Text.breakOn? (openMarker delimiters) (before ++ rest) = none := by rw [hp, ho]; rfl
    rw [pieces_of_none ho, pieces_of_none hall]
    exact ⟨by simp [keptText], fun _ => rfl⟩
  | some found =>
    obtain ⟨first, inside⟩ := found
    have hall : Text.breakOn? (openMarker delimiters) (before ++ rest) =
        some (before ++ first, inside) := by rw [hp, ho]; rfl
    cases hs : Text.breakOn? delimiters.stop inside with
    | none =>
      rw [pieces_of_unended ho hs, pieces_of_unended hall hs]
      exact ⟨by simp [keptText], fun _ => rfl⟩
    | some found =>
      obtain ⟨written, following⟩ := found
      cases hc : Balance.closing (openMarker delimiters) (closeMarker delimiters) 0 0
          following with
      | none =>
        rw [pieces_of_dropped ho hs hc, pieces_of_dropped hall hs hc]
        exact ⟨by simp [keptText], fun _ => rfl⟩
      | some found =>
        obtain ⟨content, after⟩ := found
        rw [pieces_of_filled ho hs hc, pieces_of_filled hall hs hc]
        exact ⟨by simp [keptText], fun _ => rfl⟩

theorem collect_nil (draft : Draft) : collect .standard [] draft = ([], draft) := by
  rw [collect, pieces_of_none rfl]
  rfl

end Slot

/-- Stores slots in order, so the first content of a name stays. -/
def Context.storeBlocks (context : Context) (slots : List (Text × Text)) : Context :=
  slots.foldl (fun context slot => context.storeBlock slot.1 slot.2) context

/-- Collecting the slots of a text keeps this part of it and stores these, whatever follows. -/
def Sheds (t kept : Text) (slots : List (Text × Text)) : Prop :=
  ∀ rest draft, Slot.collect .standard (t ++ rest) draft =
    (kept ++ (Slot.collect .standard rest (draft.mapContext (·.storeBlocks slots))).1,
      (Slot.collect .standard rest (draft.mapContext (·.storeBlocks slots))).2)

private theorem sheds_of_passes {t : Text}
    (h : ∀ rest, Text.Passes (Delimiters.standard.openMarker "slot") t rest) : Sheds t t [] := by
  intro rest draft
  obtain ⟨hk, hd⟩ := Slot.keptText_pieces_append (h rest)
  exact Prod.ext hk (hd draft)

private theorem Sheds.append {s t kept kept' : Text} {slots slots' : List (Text × Text)}
    (hs : Sheds s kept slots) (ht : Sheds t kept' slots') :
    Sheds (s ++ t) (kept ++ kept') (slots ++ slots') := by
  intro rest draft
  have hstore : (draft.mapContext (·.storeBlocks slots)).mapContext (·.storeBlocks slots') =
      draft.mapContext (·.storeBlocks (slots ++ slots')) := by
    simp only [Draft.mapContext, Context.storeBlocks, List.foldl_append]
  rw [List.append_assoc, hs, ht, hstore, List.append_assoc]

theorem Sheds.collect {t kept : Text} {slots : List (Text × Text)} (h : Sheds t kept slots)
    (draft : Draft) :
    Slot.collect .standard t draft = (kept, draft.mapContext (·.storeBlocks slots)) := by
  have hall := h [] draft
  rw [List.append_nil, Slot.collect_nil, List.append_nil] at hall
  exact hall

theorem sheds_slot {arguments body : Text} (hs : Text.contains "%\x7d" arguments = false)
    (hb : Encloses "slot" body) :
    Sheds (opening "slot" arguments ++ body ++ tag "end-slot") []
      [(Arguments.unquote (Text.trim arguments), body)] := by
  intro rest draft
  have hopening : opening "slot" arguments =
      Slot.openMarker .standard ++ (arguments ++ "%\x7d") := by
    have h : ("\x7b% " : Text) = ("\x7b%" : Text) ++ (" " : Text) := by decide
    simp only [opening, span, Slot.openMarker, openMarker_standard, h, List.append_assoc]
  have ho : Text.breakOn? (Slot.openMarker .standard)
      (opening "slot" arguments ++ body ++ tag "end-slot" ++ rest) =
        some ([], arguments ++ "%\x7d" ++ (body ++ tag "end-slot" ++ rest)) := by
    rw [hopening]
    simp only [List.append_assoc]
    exact Scanner.breakOn?_self (Delimiters.openMarker_ne_nil _ _) _
  have hstop : Text.breakOn? Delimiters.standard.stop
      (arguments ++ "%\x7d" ++ (body ++ tag "end-slot" ++ rest)) =
        some (arguments, body ++ tag "end-slot" ++ rest) := breakOn?_stop hs _
  have hclose : Balance.closing (Slot.openMarker .standard) (Slot.closeMarker .standard) 0 0
      (body ++ tag "end-slot" ++ rest) = some (body, rest) := hb rest
  rw [Slot.collect, Slot.pieces_of_filled ho hstop hclose]
  rfl

namespace Passage

/-- The slots of a passage with their content, in order. -/
def slots : Passage → List (Text × Text)
  | done => []
  | text _ rest | leaf _ rest | comment _ rest => rest.slots
  | block tag arguments body rest =>
    if tag.builtIn = .slot then
      (Arguments.unquote (Text.trim arguments.text), body.written) :: rest.slots
    else body.slots ++ rest.slots
  | choice _ yes no rest => yes.slots ++ no.slots ++ rest.slots
  | child _ body => body.slots

/-- What is left of a passage without its slots. -/
def withoutSlots : Passage → Passage
  | done => done
  | text t rest => text t rest.withoutSlots
  | leaf tag rest => leaf tag rest.withoutSlots
  | block tag arguments body rest =>
    if tag.builtIn = .slot then rest.withoutSlots
    else block tag arguments body.withoutSlots rest.withoutSlots
  | choice condition yes no rest =>
    choice condition yes.withoutSlots no.withoutSlots rest.withoutSlots
  | comment commented rest => comment commented rest.withoutSlots
  | child arguments body => child arguments body.withoutSlots

/-- No slot begins in what is commented out, and the slots of the passage are closed. -/
def SlotsApart : Passage → Prop
  | done => True
  | text _ rest | leaf _ rest => rest.SlotsApart
  | block tag _ body rest =>
    (if tag.builtIn = .slot then body.CommentsCrossed "slot" (closingWalk "slot") 0
      else body.SlotsApart) ∧ rest.SlotsApart
  | choice _ yes no rest => yes.SlotsApart ∧ no.SlotsApart ∧ rest.SlotsApart
  | comment commented rest =>
    Text.contains (Delimiters.standard.openMarker "slot") commented.text = false ∧ rest.SlotsApart
  | child _ body => body.SlotsApart

private theorem openMarker_slot :
    Delimiters.standard.openMarker "slot" = '\x7b' :: ("% slot " : Text) := by decide

private theorem passes_span {inside : Text} (ht : Unmarked reserved (spanTail inside))
    (hb : begins inside "slot" = false) (rest : Text) :
    Text.Passes (Delimiters.standard.openMarker "slot") (span inside) rest := by
  have hone {P : Text → Prop} (h : P "slot") : ∀ name ∈ (["slot"] : List Text), P name := by
    intro name hn
    rw [List.mem_singleton.mp hn]
    exact h
  have htail : Unmarked ["slot"] (spanTail inside) := ht.of_subset (hone (by decide))
  have hu : Unmarked ["slot"] (span inside) := unmarked_span htail (hone (by decide)) (hone hb)
  exact hu.passes (List.prefix_refl _) rest

private theorem passes_tag {contents : Text} (hs : '\x7b' ∉ contents) (hw : word contents ≠ "slot")
    (rest : Text) : Text.Passes (Delimiters.standard.openMarker "slot") (tag contents) rest := by
  rw [tag_eq_span]
  refine passes_span (unmarked_of_notMem (brace_notMem_spanTail (brace_notMem_blanks hs)) _) ?_ rest
  rw [Bool.eq_false_iff]
  exact fun hb => hw (word_of_begins (by decide) hb)

private theorem passes_comment {commented : Commented}
    (h : Text.contains (Delimiters.standard.openMarker "slot") commented.text = false)
    (rest : Text) :
    Text.Passes (Delimiters.standard.openMarker "slot") commented.written rest := by
  have hfirst (rest : Text) :
      Text.Passes (Delimiters.standard.openMarker "slot") (tag "comment") rest :=
    passes_tag (by decide) (by decide) rest
  have hlast : Text.Passes (Delimiters.standard.openMarker "slot") (tag "end-comment") rest :=
    passes_tag (by decide) (by decide) rest
  have htext : Text.Passes (Delimiters.standard.openMarker "slot") commented.text
      (tag "end-comment" ++ rest) := by
    rw [openMarker_slot] at h ⊢
    rw [tag_eq_span, span_eq_cons]
    exact Text.passes_of_contains (by decide) h _
  exact ((hfirst _).append htext).append hlast

private theorem sheds_opening (builtIn : BuiltIn) (hb : builtIn ∈ BuiltIn.withBody)
    (hne : builtIn ≠ .slot) (arguments : Inside) :
    Sheds (opening builtIn.name arguments.text) (opening builtIn.name arguments.text) [] := by
  have hword := isWord_name builtIn hb
  have hname : builtIn.name ≠ "slot" :=
    (by decide : ∀ b ∈ BuiltIn.withBody, b ≠ .slot → b.name ≠ "slot") builtIn hb hne
  have hbegins : begins (" " ++ builtIn.name ++ " " ++ arguments.text) "slot" = false := by
    rw [Bool.eq_false_iff]
    intro h
    exact hname (begins_unique (notMem_of_isWord (by decide) hword) (by decide)
      (isPrefixOf_self_append _ _) h)
  exact sheds_of_passes
    (passes_span (unmarked_opening (notMem_of_isWord (by decide) hword) arguments) hbegins)

private theorem sheds_block (builtIn : BuiltIn) (hb : builtIn ∈ BuiltIn.withBody)
    (hne : builtIn ≠ .slot) (arguments : Inside) {body kept : Text} {slots : List (Text × Text)}
    (hbody : Sheds body kept slots) :
    Sheds (opening builtIn.name arguments.text ++ body ++ Spelling.tag ("end-" ++ builtIn.name))
      (opening builtIn.name arguments.text ++ kept ++ Spelling.tag ("end-" ++ builtIn.name))
      slots := by
  have hend : word ("end-" ++ builtIn.name) ≠ "slot" :=
    (by decide : ∀ b ∈ BuiltIn.withBody, word ("end-" ++ b.name) ≠ "slot") builtIn hb
  have hclose : Sheds (Spelling.tag ("end-" ++ builtIn.name))
      (Spelling.tag ("end-" ++ builtIn.name)) [] :=
    sheds_of_passes
      (passes_tag (notMem_of_isWord (by decide) (isWord_end (isWord_name builtIn hb))) hend)
  have hall := ((sheds_opening builtIn hb hne arguments).append hbody).append hclose
  rw [List.nil_append, List.append_nil] at hall
  exact hall

/-- Collecting the slots of a passage leaves the passage without them. -/
theorem sheds_written (p : Passage) (h : p.SlotsApart) :
    Sheds p.written p.withoutSlots.written p.slots := by
  induction p with
  | done => exact sheds_of_passes fun rest => Text.passes_nil _ rest
  | text t rest ih =>
    have hfirst : Sheds t.text t.text [] := by
      refine sheds_of_passes fun rest => ?_
      rw [openMarker_slot]
      exact Text.passes_of_notMem t.no_brace rest
    exact hfirst.append (ih h)
  | leaf tag rest ih =>
    have hfirst : Sheds (span tag.text) (span tag.text) [] :=
      sheds_of_passes (passes_span tag.unmarked_spanTail (tag.not_begins "slot" (by decide)))
    exact hfirst.append (ih h)
  | block tag arguments body rest ihb ih =>
    obtain ⟨hbody, hrest⟩ := h
    by_cases hs : tag.builtIn = .slot
    · rw [if_pos hs] at hbody
      have hcross : Crosses (closingWalk "slot") body.written 0 0 :=
        crosses_closing .slot (by decide) hbody
      have hslot := sheds_slot arguments.no_stop (encloses_of_crosses hcross)
      simp only [written, slots, withoutSlots, hs]
      exact hslot.append (ih hrest)
    · rw [if_neg hs] at hbody
      simp only [written, slots, withoutSlots, if_neg hs]
      exact (sheds_block tag.builtIn tag.has_body hs arguments (ihb hbody)).append (ih hrest)
  | choice condition yes no rest ihy ihn ih =>
    obtain ⟨hyes, hno, hrest⟩ := h
    have helse : Sheds (Spelling.tag "else") (Spelling.tag "else") [] :=
      sheds_of_passes (passes_tag (by decide) (by decide))
    have hparts := ((ihy hyes).append helse).append (ihn hno)
    rw [List.append_nil] at hparts
    have hblock := sheds_block .branch (by decide) (by decide) condition hparts
    exact hblock.append (ih hrest)
  | comment commented rest ih =>
    exact (sheds_of_passes (passes_comment h.1)).append (ih h.2)
  | child arguments body ih =>
    exact (sheds_opening .extend (by decide) (by decide) arguments).append (ih h)

end Passage
end Stencil
