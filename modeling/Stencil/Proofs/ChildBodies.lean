import Stencil.Proofs.Sections
import Stencil.Proofs.SlotRanges
import Stencil.Proofs.Slicing
/-!
# Child bodies in pieces

A child body is cut into text that is kept, slots with the markers around them, and opening tags
that are dropped. The pieces make up the body, each of them stands where the searches for the ends
of tags and slots put it, and what is collected is read off them.
-/
namespace Stencil.Slot

variable {delimiters : Delimiters}

/-! ### Pieces and the body they are cut out of -/

/-- The opening tag of a slot. -/
def openingTag (delimiters : Delimiters) (written : Text) : Text :=
  openMarker delimiters ++ written ++ delimiters.stop

namespace Piece

/-- What a piece takes up of the body. -/
def source (delimiters : Delimiters) : Piece → Text
  | kept text => text
  | filled written content => openingTag delimiters written ++ content ++ closeMarker delimiters
  | dropped written => openingTag delimiters written

def isDropped : Piece → Bool
  | dropped _ => true
  | _ => false

/-- The content of a slot under its name. -/
def content? : Piece → Option (Text × Text)
  | filled written content => some (nameWithin written, content)
  | _ => none

end Piece

def sourceOf (delimiters : Delimiters) (pieces : List Piece) : Text :=
  pieces.flatMap (Piece.source delimiters)

private theorem sourceOf_cons (piece : Piece) (pieces : List Piece) :
    sourceOf delimiters (piece :: pieces) = piece.source delimiters ++ sourceOf delimiters pieces :=
  List.flatMap_cons

private theorem sourceOf_kept (text : Text) : sourceOf delimiters [.kept text] = text :=
  List.append_nil text

/-- The pieces make up the body in their order. -/
theorem sourceOf_pieces (delimiters : Delimiters) (body : Text) :
    sourceOf delimiters (pieces delimiters body) = body := by
  fun_induction pieces delimiters body with
  | case1 body ho => exact sourceOf_kept body
  | case2 body before inside ho hs => exact sourceOf_kept body
  | case3 body before inside ho written following hs content rest hc ih =>
    rw [sourceOf_cons, sourceOf_cons, ih, Text.eq_append_of_breakOn? ho,
      Text.eq_append_of_breakOn? hs, Balance.eq_append_of_closing hc]
    simp only [Piece.source, openingTag, List.append_assoc]
  | case4 body before inside ho written following hs hc ih =>
    rw [sourceOf_cons, sourceOf_cons, ih, Text.eq_append_of_breakOn? ho,
      Text.eq_append_of_breakOn? hs]
    simp only [Piece.source, openingTag, List.append_assoc]

/-! ### Where the pieces stand -/

/-- An opening tag that has an end begins in the text, where `back` follows. -/
def OpensIn (delimiters : Delimiters) (text back : Text) : Prop :=
  ∃ front inside, text ++ back = front ++ openMarker delimiters ++ inside ∧
    front.length < text.length ∧ delimiters.stop <:+: inside

/-- Between these parts of the body the piece is what the searches find: no opening tag begins in
what is kept, a tag goes up to the first delimiter that ends it, and a slot up to the marker that is
paired with its tag, while a tag without such a marker is dropped. -/
def Piece.Fits (delimiters : Delimiters) (front back : Text) : Piece → Prop
  | kept text => ¬ OpensIn delimiters text back
  | filled written content =>
    let opened := front ++ openingTag delimiters written
    let closed := opened ++ content ++ closeMarker delimiters
    Text.IsFirst delimiters.stop written (content ++ closeMarker delimiters ++ back) ∧
      Balance.findClosing? (closed ++ back) (openMarker delimiters) (closeMarker delimiters)
        (Text.bytes opened) = some ⟨Text.bytes (opened ++ content), Text.bytes closed⟩
  | dropped written =>
    let opened := front ++ openingTag delimiters written
    Text.IsFirst delimiters.stop written back ∧
      Balance.findClosing? (opened ++ back) (openMarker delimiters) (closeMarker delimiters)
        (Text.bytes opened) = none

/-- Each piece fits between what is in front of it and what follows. -/
def Placed (delimiters : Delimiters) : (front : Text) → List Piece → Prop
  | _, [] => True
  | front, piece :: rest =>
    piece.Fits delimiters front (sourceOf delimiters rest) ∧
      Placed delimiters (front ++ piece.source delimiters) rest

variable {text body before inside written following content rest : Text}

private theorem first_of_opensIn {back : Text} (h : OpensIn delimiters text back) :
    ∃ before inside, Text.breakOn? (openMarker delimiters) (text ++ back) = some (before, inside) ∧
      before.length < text.length ∧ delimiters.stop <:+: inside := by
  obtain ⟨front, later, hcut, hfront, hstop⟩ := h
  have hsome := Text.breakOn?_isSome (openMarker delimiters) front later
  rw [← hcut] at hsome
  obtain ⟨⟨before, inside⟩, hb⟩ := Option.isSome_iff_exists.mp hsome
  have hle : before.length ≤ front.length := Text.length_le_of_breakOn? hb hcut
  -- So what ends the tag behind a later marker stands behind the first marker too.
  have hsuffix : later <:+ inside := by
    have hbody := Text.eq_append_of_breakOn? hb
    apply List.suffix_of_suffix_length_le
      (List.suffix_append (front ++ openMarker delimiters) later)
    · rw [← hcut, hbody]
      exact List.suffix_append _ _
    · have hlength := congrArg List.length (hcut.symm.trans hbody)
      simp only [List.length_append] at hlength
      omega
  exact ⟨before, inside, hb, Nat.lt_of_le_of_lt hle hfront, hstop.trans hsuffix.isInfix⟩

private theorem kept_fits_of_none (front : Text)
    (ho : Text.breakOn? (openMarker delimiters) text = none) :
    (Piece.kept text).Fits delimiters front [] := by
  intro h
  obtain ⟨before, inside, hb, -⟩ := first_of_opensIn h
  rw [List.append_nil, ho] at hb
  cases hb

private theorem kept_fits_of_unended (front : Text)
    (ho : Text.breakOn? (openMarker delimiters) text = some (before, inside))
    (hs : Text.breakOn? delimiters.stop inside = none) :
    (Piece.kept text).Fits delimiters front [] := by
  intro h
  obtain ⟨_, _, hb, -, hstop⟩ := first_of_opensIn h
  rw [List.append_nil, ho] at hb
  cases hb
  exact Text.breakOn?_eq_none_iff.mp hs hstop

private theorem kept_fits_before (front : Text)
    (ho : Text.breakOn? (openMarker delimiters) (before ++ rest) = some (before, inside)) :
    (Piece.kept before).Fits delimiters front rest := by
  intro h
  obtain ⟨_, _, hb, hlt, -⟩ := first_of_opensIn h
  rw [ho] at hb
  cases hb
  exact Nat.lt_irrefl _ hlt

private theorem findClosing?_opened (delimiters : Delimiters) (opened following : Text) :
    Balance.findClosing? (opened ++ following) (openMarker delimiters) (closeMarker delimiters)
        (Text.bytes opened) =
      (Balance.closing (openMarker delimiters) (closeMarker delimiters) 0 0 following).map
        (Balance.spanFrom (Text.bytes opened) (closeMarker delimiters)) := by
  have hopen : openMarker delimiters ≠ [] := delimiters.openMarker_ne_nil "slot"
  have hclose : closeMarker delimiters ≠ [] := delimiters.closeMarker_ne_nil "slot"
  have hfound := Balance.findClosingInBytes_behind hopen hclose opened following
  rw [Balance.findClosingInBytes_eq] at hfound
  exact Option.some.inj hfound

private theorem filled_fits (front : Text)
    (hs : Text.breakOn? delimiters.stop inside = some (written, following))
    (hc : Balance.closing (openMarker delimiters) (closeMarker delimiters) 0 0 following =
      some (content, rest)) :
    (Piece.filled written content).Fits delimiters front rest := by
  have hfollowing := Balance.eq_append_of_closing hc
  constructor
  · rw [← hfollowing]
    exact Text.isFirst_of_breakOn? hs
  · have hfound := findClosing?_opened delimiters (front ++ openingTag delimiters written) following
    rw [hc, hfollowing] at hfound
    simpa only [Option.map_some, Balance.spanFrom, Text.bytes_append, List.append_assoc,
      Nat.add_assoc] using hfound

private theorem dropped_fits (front : Text)
    (hs : Text.breakOn? delimiters.stop inside = some (written, following))
    (hc : Balance.closing (openMarker delimiters) (closeMarker delimiters) 0 0 following = none) :
    (Piece.dropped written).Fits delimiters front following := by
  constructor
  · exact Text.isFirst_of_breakOn? hs
  · rw [findClosing?_opened, hc]
    rfl

/-- The cut goes on behind what is cut off, so each piece fits whatever stands in front. -/
theorem placed_pieces (delimiters : Delimiters) (front body : Text) :
    Placed delimiters front (pieces delimiters body) := by
  fun_induction pieces delimiters body generalizing front with
  | case1 body ho => exact ⟨kept_fits_of_none front ho, trivial⟩
  | case2 body before inside ho hs => exact ⟨kept_fits_of_unended front ho hs, trivial⟩
  | case3 body before inside ho written following hs content rest hc ih =>
    have hbody := sourceOf_pieces delimiters body
    rw [pieces_of_filled ho hs hc, sourceOf_cons] at hbody
    rw [← hbody] at ho
    refine ⟨kept_fits_before front ho, ?_, ih _⟩
    rw [sourceOf_pieces]
    exact filled_fits _ hs hc
  | case4 body before inside ho written following hs hc ih =>
    have hbody := sourceOf_pieces delimiters body
    rw [pieces_of_dropped ho hs hc, sourceOf_cons] at hbody
    rw [← hbody] at ho
    refine ⟨kept_fits_before front ho, ?_, ih _⟩
    rw [sourceOf_pieces]
    exact dropped_fits _ hs hc

/-! ### What is collected -/

private theorem foldl_takePiece (pieces : List Piece) (draft : Draft) :
    pieces.foldl (takePiece delimiters) draft =
      { draft with
        context := draft.context.storeBlocks (pieces.filterMap Piece.content?)
        problems := draft.problems ++ List.replicate (pieces.countP Piece.isDropped)
          (.unclosedBlock "slot" (closeMarker delimiters)) } := by
  induction pieces generalizing draft with
  | nil => simp [Context.storeBlocks]
  | cons piece pieces ih =>
    rw [List.foldl_cons, ih]
    cases piece with
    | kept text => rfl
    | filled written content => rfl
    | dropped written =>
      have hslots : (Piece.dropped written :: pieces).filterMap Piece.content? =
          pieces.filterMap Piece.content? := rfl
      have hcount : (Piece.dropped written :: pieces).countP Piece.isDropped =
          pieces.countP Piece.isDropped + 1 := List.countP_cons_of_pos rfl
      rw [hslots, hcount, List.replicate_succ, takePiece]
      simp only [Draft.report, List.append_assoc, List.singleton_append]

/-- A child body is the text that is kept, the slots and the dropped opening tags, in order and with
nothing lost or doubled. The text outside is what is kept. Each dropped tag is noted once, each name
that was free has the content of the first slot of that name, and all else stays as it was. The loop
over offsets ends, in range, with the same. -/
theorem collect_partitions (delimiters : Delimiters) (body : Text) (draft : Draft) :
    ∃ (cut : List Piece) (blocks : Table Text),
      let after : Draft := { draft with
        context := { draft.context with blocks }
        problems := draft.problems ++ List.replicate (cut.countP Piece.isDropped)
          (.unclosedBlock "slot" (closeMarker delimiters)) }
      sourceOf delimiters cut = body ∧ Placed delimiters [] cut ∧
      collect delimiters body draft = (keptText cut, after) ∧
      collectInBytes delimiters body draft = some (keptText cut, after) ∧
      ∀ name, blocks.get? name =
        (draft.context.blocks.get? name).or (Table.get? name (cut.filterMap Piece.content?)) := by
  let cut := pieces delimiters body
  let blocks := (draft.context.storeBlocks (cut.filterMap Piece.content?)).blocks
  refine ⟨cut, blocks, sourceOf_pieces _ _, placed_pieces _ _ _, ?_⟩
  have hcollect : collect delimiters body draft = (keptText cut, { draft with
      context := { draft.context with blocks }
      problems := draft.problems ++ List.replicate (cut.countP Piece.isDropped)
        (.unclosedBlock "slot" (closeMarker delimiters)) }) := by
    rw [collect, foldl_takePiece, Context.storeBlocks_eq]
  refine ⟨hcollect, ?_, Context.get?_storeBlocks _ _⟩
  rw [collectInBytes_eq, hcollect]

end Stencil.Slot
