import Stencil.Proofs.MarkerRanges
import Stencil.Proofs.Slots
import Stencil.Proofs.TokenRanges
/-!
# Cutting slots out by offsets

The slots of a child body are cut out at an offset that moves from slot to slot. Every cut is in
range, wherever in the body markers and delimiters stand, and the slots are those of the body.
-/
namespace Stencil.Slot

/-- What is cut at an offset, and where the next cut is made. -/
inductive Cut where
  | last (kept : Text)
  | filled (kept name content : Text) (next : Nat)
  | dropped (kept : Text) (next : Nat)

def Cut.next? : Cut → Option Nat
  | last _ => none
  | filled _ _ _ next => some next
  | dropped _ next => some next

def cutAt (delimiters : Delimiters) (body : Text) (cursor : Nat) : Option Cut := do
  let ahead ← Text.slice? body cursor (Text.bytes body)
  match Text.find? (openMarker delimiters) ahead with
  | none => some (.last ahead)
  | some tagAt =>
    let tagStart := cursor + tagAt
    let nameStart := tagStart + Text.bytes (openMarker delimiters)
    let inside ← Text.slice? body nameStart (Text.bytes body)
    match Text.find? delimiters.stop inside with
    | none => some (.last ahead)
    | some nameLength =>
      let kept ← Text.slice? body cursor tagStart
      let written ← Text.slice? body nameStart (nameStart + nameLength)
      let name ← Arguments.unquoteInBytes (Text.trim written)
      let tagEnd := nameStart + nameLength + Text.bytes delimiters.stop
      let closing ← Balance.findClosingInBytes body (openMarker delimiters)
        (closeMarker delimiters) tagEnd
      match closing with
      | some span =>
        let content ← Text.slice? body tagEnd span.start
        some (.filled kept name content span.stop)
      | none => some (.dropped kept tagEnd)

variable {delimiters : Delimiters} {body : Text} {cursor next : Nat} {cut : Cut}

private theorem cutAt_advances (h : cutAt delimiters body cursor = some cut)
    (hn : cut.next? = some next) :
    cursor < next ∧ cursor ≤ Text.bytes body := by
  obtain ⟨ahead, hahead, h⟩ := Option.bind_eq_some_iff.mp h
  have hin := Text.le_of_slice? hahead
  split at h
  · cases h
    cases hn
  obtain ⟨inside, -, h⟩ := Option.bind_eq_some_iff.mp h
  split at h
  · cases h
    cases hn
  have hstop := Text.bytes_pos delimiters.stop_ne_nil
  obtain ⟨kept, -, h⟩ := Option.bind_eq_some_iff.mp h
  obtain ⟨written, -, h⟩ := Option.bind_eq_some_iff.mp h
  obtain ⟨name, -, h⟩ := Option.bind_eq_some_iff.mp h
  obtain ⟨closing, hclosing, h⟩ := Option.bind_eq_some_iff.mp h
  split at h
  · obtain ⟨content, -, h⟩ := Option.bind_eq_some_iff.mp h
    cases h
    cases hn
    rw [Balance.findClosingInBytes_eq] at hclosing
    have hspan := Balance.le_start_of_findClosing? (Option.some.inj hclosing)
    omega
  · cases h
    cases hn
    omega

def collectLoop (delimiters : Delimiters) (body kept : Text) (draft : Draft) (cursor : Nat) :
    Option (Text × Draft) :=
  match _h : cutAt delimiters body cursor with
  | none => none
  | some (.last text) => some (kept ++ text, draft)
  | some (.filled text name content next) =>
    collectLoop delimiters body (kept ++ text) (draft.mapContext (·.storeBlock name content)) next
  | some (.dropped text next) =>
    collectLoop delimiters body (kept ++ text)
      (draft.report (.unclosedBlock "slot" (closeMarker delimiters))) next
termination_by Text.bytes body + 1 - cursor
decreasing_by
  all_goals
    have hnext := cutAt_advances _h rfl
    omega

private theorem collectLoop_of_cutAt (kept : Text) (draft : Draft) :
    cutAt delimiters body cursor = some cut →
    collectLoop delimiters body kept draft cursor =
      match cut with
      | .last text => some (kept ++ text, draft)
      | .filled text name content next =>
        collectLoop delimiters body (kept ++ text) (draft.mapContext (·.storeBlock name content))
          next
      | .dropped text next =>
        collectLoop delimiters body (kept ++ text)
          (draft.report (.unclosedBlock "slot" (closeMarker delimiters))) next := by
  intro h
  rw [collectLoop]
  split
  · next h' => rw [h] at h'; cases h'
  all_goals
    next h' =>
      rw [h] at h'
      cases h'
      rfl

/-! ### The cuts at an offset -/

section Cuts

variable {t before inside written following content rest : Text} (front : Text)

private theorem cutAt_of_none (ho : Text.breakOn? (openMarker delimiters) t = none) :
    cutAt delimiters (front ++ t) (Text.bytes front) = some (.last t) := by
  simp only [cutAt, Text.slice?_suffix, Text.find?_eq_none ho, Option.bind_eq_bind,
    Option.bind_some]

private theorem slice?_inside
    (ho : Text.breakOn? (openMarker delimiters) t = some (before, inside)) :
    Text.slice? (front ++ t)
      (Text.bytes front + Text.bytes before + Text.bytes (openMarker delimiters))
      (Text.bytes (front ++ t)) = some inside := by
  refine Text.slice?_eq_some_iff.mpr ⟨front ++ before ++ openMarker delimiters, [], ?_, ?_, ?_⟩
  · simp [Text.eq_append_of_breakOn? ho]
  · simp only [Text.bytes_append]
  · simp [Text.eq_append_of_breakOn? ho]

private theorem cutAt_of_unended
    (ho : Text.breakOn? (openMarker delimiters) t = some (before, inside))
    (hs : Text.breakOn? delimiters.stop inside = none) :
    cutAt delimiters (front ++ t) (Text.bytes front) = some (.last t) := by
  simp only [cutAt, Text.slice?_suffix, Text.find?_eq_some ho, slice?_inside front ho,
    Text.find?_eq_none hs, Option.bind_eq_bind, Option.bind_some]

private theorem cutAt_of_named
    (ho : Text.breakOn? (openMarker delimiters) t = some (before, inside))
    (hs : Text.breakOn? delimiters.stop inside = some (written, following)) :
    let opened := front ++ before ++ openMarker delimiters ++ written ++ delimiters.stop
    front ++ t = opened ++ following ∧
      cutAt delimiters (front ++ t) (Text.bytes front) =
        some (match Balance.closing (openMarker delimiters) (closeMarker delimiters) 0 0
          following with
        | some (content, _) => .filled before (Arguments.unquote (Text.trim written)) content
            (Text.bytes (opened ++ content ++ closeMarker delimiters))
        | none => .dropped before (Text.bytes opened)) := by
  intro opened
  have hbody : front ++ t = opened ++ following := by
    rw [Text.eq_append_of_breakOn? ho, Text.eq_append_of_breakOn? hs]
    simp only [opened, List.append_assoc]
  refine ⟨hbody, ?_⟩
  have hkept : Text.slice? (front ++ t) (Text.bytes front) (Text.bytes front + Text.bytes before) =
      some before := by
    rw [Text.eq_append_of_breakOn? ho, List.append_assoc before, ← List.append_assoc front]
    exact Text.slice?_append front before _
  have hwritten : Text.slice? (front ++ t)
      (Text.bytes front + Text.bytes before + Text.bytes (openMarker delimiters))
      (Text.bytes front + Text.bytes before + Text.bytes (openMarker delimiters) +
        Text.bytes written) = some written := by
    refine Text.slice?_eq_some_iff.mpr
      ⟨front ++ before ++ openMarker delimiters, delimiters.stop ++ following, ?_, ?_, ?_⟩
    · rw [hbody]
      simp only [opened, List.append_assoc]
    · simp only [Text.bytes_append]
    · simp only [Text.bytes_append]
  have hopened : Text.bytes front + Text.bytes before + Text.bytes (openMarker delimiters) +
      Text.bytes written + Text.bytes delimiters.stop = Text.bytes opened := by
    simp only [opened, Text.bytes_append]
  have hclosing : Balance.findClosingInBytes (front ++ t) (openMarker delimiters)
      (closeMarker delimiters) (Text.bytes opened) =
        some ((Balance.closing (openMarker delimiters) (closeMarker delimiters) 0 0
          following).map (Balance.spanFrom (Text.bytes opened) (closeMarker delimiters))) := by
    have hopen : openMarker delimiters ≠ [] := delimiters.openMarker_ne_nil "slot"
    have hclose : closeMarker delimiters ≠ [] := delimiters.closeMarker_ne_nil "slot"
    rw [hbody, Balance.findClosingInBytes_behind hopen hclose]
  simp only [cutAt, Text.slice?_suffix, Text.find?_eq_some ho, slice?_inside front ho,
    Text.find?_eq_some hs, hkept, hwritten, hopened, hclosing, Arguments.unquoteInBytes_eq,
    Option.bind_eq_bind, Option.bind_some]
  cases hc : Balance.closing (openMarker delimiters) (closeMarker delimiters) 0 0 following with
  | none => rfl
  | some found =>
    have hcontent : Text.slice? (front ++ t) (Text.bytes opened)
        (Text.bytes opened + Text.bytes found.1) = some found.1 := by
      rw [hbody]
      exact Balance.slice?_of_closing hc opened
    simp only [Option.map_some, Balance.spanFrom, hcontent, Option.bind_some, Text.bytes_append]

end Cuts

private theorem collectLoop_eq (front t kept : Text) (draft : Draft) :
    collectLoop delimiters (front ++ t) kept draft (Text.bytes front) =
      some (kept ++ keptText (pieces delimiters t),
        (pieces delimiters t).foldl (takePiece delimiters) draft) := by
  fun_induction pieces delimiters t generalizing front kept draft with
  | case1 t ho =>
    rw [collectLoop_of_cutAt _ _ (cutAt_of_none front ho)]
    simp [keptText, takePiece]
  | case2 t before inside ho hs =>
    rw [collectLoop_of_cutAt _ _ (cutAt_of_unended front ho hs)]
    simp [keptText, takePiece]
  | case3 t before inside ho written following hs content rest hc ih =>
    obtain ⟨hbody, hcut⟩ := cutAt_of_named front ho hs
    rw [hc] at hcut
    rw [collectLoop_of_cutAt _ _ hcut, hbody, Balance.eq_append_of_closing hc]
    dsimp only
    simp only [← List.append_assoc]
    rw [ih]
    simp [keptText, takePiece]
  | case4 t before inside ho written following hs hc ih =>
    obtain ⟨hbody, hcut⟩ := cutAt_of_named front ho hs
    rw [hc] at hcut
    rw [collectLoop_of_cutAt _ _ hcut, hbody]
    dsimp only
    rw [ih]
    simp [keptText, takePiece]

/-- The slots of a child body and the text outside of them, cut out of it by offsets. -/
def collectInBytes (delimiters : Delimiters) (body : Text) (draft : Draft) :
    Option (Text × Draft) := collectLoop delimiters body [] draft 0

theorem collectInBytes_eq (delimiters : Delimiters) (body : Text) (draft : Draft) :
    collectInBytes delimiters body draft = some (collect delimiters body draft) :=
  collectLoop_eq [] body [] draft

end Stencil.Slot
