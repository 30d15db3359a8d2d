import Stencil.Proofs.Search
/-!
# Searches as walks

Both searches for markers walk over a text with the number of open blocks. A stretch that a walk
crosses is passed over whatever follows it, so stretches can be crossed one after another. Whatever
starts with no brace is passed character by character, and a tag is decided on at its brace.
-/
namespace Stencil.Balance

/-- What a walk makes of the text in front of it. -/
inductive Verdict where
  | found (length : Nat)
  | stepOver (length depth : Nat)

def walk (verdict : Nat → Text → Verdict) : (skip depth : Nat) → Text → Option (Text × Text)
  | _, _, [] => none
  | skip + 1, depth, c :: t => (walk verdict skip depth t).map (after c)
  | 0, depth, c :: t => match verdict depth (c :: t) with
    | .found length => some ([], (c :: t).drop length)
    | .stepOver length depth => (walk verdict (length - 1) depth t).map (after c)

def closingVerdict (opening close : Text) (depth : Nat) (t : Text) : Verdict :=
  if close.isPrefixOf t then
    match depth with
    | 0 => .found close.length
    | depth + 1 => .stepOver close.length depth
  else if opensHere opening close t then .stepOver opening.length (depth + 1)
  else .stepOver 1 depth

def topLevelVerdict (opening close marker : Text) (depth : Nat) (t : Text) : Verdict :=
  if opening ≠ [] ∧ opening.isPrefixOf t then .stepOver opening.length (depth + 1)
  else if close ≠ [] ∧ close.isPrefixOf t then .stepOver close.length (depth - 1)
  else if marker ≠ [] ∧ marker.isPrefixOf t then
    if depth = 0 then .found marker.length else .stepOver marker.length depth
  else .stepOver 1 depth

theorem closing_eq_walk (opening close : Text) (skip depth : Nat) (t : Text) :
    closing opening close skip depth t = walk (closingVerdict opening close) skip depth t := by
  induction t generalizing skip depth with
  | nil => cases skip <;> rfl
  | cons c t ih =>
    cases skip with
    | succ skip => simp only [closing, walk, ih]
    | zero =>
      simp only [closing, walk, closingVerdict]
      split
      · cases depth with
        | zero => rfl
        | succ depth => simp only [ih]
      · split
        · simp only [ih]
        · simp only [ih]

theorem topLevel_eq_walk (opening close marker : Text) (skip depth : Nat) (t : Text) :
    topLevel opening close marker skip depth t =
      walk (topLevelVerdict opening close marker) skip depth t := by
  induction t generalizing skip depth with
  | nil => cases skip <;> rfl
  | cons c t ih =>
    cases skip with
    | succ skip => simp only [topLevel, walk, ih]
    | zero =>
      simp only [topLevel, walk, topLevelVerdict]
      split
      · simp only [ih]
      · split
        · simp only [ih]
        · split
          · split
            · rfl
            · simp only [ih]
          · simp only [ih]

def prepend (s : Text) (found : Text × Text) : Text × Text := (s ++ found.1, found.2)

/-- Walks over the text from one depth come out behind it at another one, whatever follows. -/
def Crosses (verdict : Nat → Text → Verdict) (s : Text) (before after : Nat) : Prop :=
  ∀ rest, walk verdict 0 before (s ++ rest) = (walk verdict 0 after rest).map (prepend s)

variable {verdict : Nat → Text → Verdict} {s t : Text} {c : Char} {a b d : Nat}

theorem map_prepend_append (found : Option (Text × Text)) (s t : Text) :
    (found.map (prepend t)).map (prepend s) = found.map (prepend (s ++ t)) := by
  rw [Option.map_map]
  congr 1
  funext found
  simp [prepend]

private theorem map_after_prepend (found : Option (Text × Text)) (c : Char) (s : Text) :
    (found.map (prepend s)).map (after c) = found.map (prepend (c :: s)) := by
  rw [Option.map_map]
  rfl

theorem crosses_nil (verdict : Nat → Text → Verdict) (depth : Nat) :
    Crosses verdict [] depth depth := by
  intro rest
  rw [List.nil_append]
  cases walk verdict 0 depth rest <;> rfl

theorem Crosses.append (hs : Crosses verdict s a b) (ht : Crosses verdict t b d) :
    Crosses verdict (s ++ t) a d := by
  intro rest
  rw [List.append_assoc, hs, ht, map_prepend_append]

theorem Crosses.around {middle : Text} {e : Nat} (hs : Crosses verdict s a b)
    (hm : ∀ rest, walk verdict 0 b (middle ++ (t ++ rest)) =
      (walk verdict 0 e (t ++ rest)).map (prepend middle)) (ht : Crosses verdict t e d) :
    Crosses verdict (s ++ middle ++ t) a d := by
  intro rest
  rw [List.append_assoc, List.append_assoc, hs, hm, ht, map_prepend_append, map_prepend_append,
    List.append_assoc]

private theorem walk_skip (verdict : Nat → Text → Verdict) (depth : Nat) (s rest : Text) :
    walk verdict s.length depth (s ++ rest) = (walk verdict 0 depth rest).map (prepend s) := by
  induction s with
  | nil => exact crosses_nil verdict depth rest
  | cons c s ih =>
    simp only [List.length_cons, List.cons_append, walk]
    rw [ih, map_after_prepend]

private theorem crosses_of_verdict {length : Nat}
    (hv : ∀ rest, verdict a (c :: s ++ rest) = .stepOver length b)
    (hl : length - 1 ≤ s.length) (hr : Crosses verdict (s.drop (length - 1)) b d) :
    Crosses verdict (c :: s) a d := by
  intro rest
  have hvr : verdict a (c :: (s ++ rest)) = .stepOver length b := hv rest
  have ht : (s.take (length - 1)).length = length - 1 := List.length_take_of_le hl
  have hskip := walk_skip verdict b (s.take (length - 1)) (s.drop (length - 1) ++ rest)
  rw [ht, ← List.append_assoc, List.take_append_drop, hr, map_prepend_append,
    List.take_append_drop] at hskip
  simp only [List.cons_append, walk, hvr]
  rw [hskip, map_after_prepend]

theorem walk_of_steps {rest : Text}
    (hv : ∀ back, back ≠ [] → back <:+ s → verdict d (back ++ rest) = .stepOver 1 d) :
    walk verdict 0 d (s ++ rest) = (walk verdict 0 d rest).map (prepend s) := by
  induction s with
  | nil => exact crosses_nil verdict d rest
  | cons c s ih =>
    have hhead := hv (c :: s) (List.cons_ne_nil c s) (List.suffix_refl _)
    have htail := ih fun back hb hs => hv back hb (hs.trans (List.suffix_cons c s))
    rw [List.cons_append] at hhead ⊢
    simp only [walk, hhead]
    rw [htail, map_after_prepend]

theorem crosses_of_steps
    (hv : ∀ back, back ≠ [] → back <:+ s → ∀ rest, verdict d (back ++ rest) = .stepOver 1 d) :
    Crosses verdict s d d :=
  fun rest => walk_of_steps fun back hb hs => hv back hb hs rest

theorem crosses_of_front {length : Nat}
    (hv : ∀ rest, verdict a (c :: s ++ rest) = .stepOver length b) (hl : length - 1 ≤ s.length)
    (hs : ∀ back, back ≠ [] → back <:+ s → ∀ rest, verdict b (back ++ rest) = .stepOver 1 b) :
    Crosses verdict (c :: s) a b := by
  refine crosses_of_verdict hv hl (crosses_of_steps fun back hb hback => hs back hb ?_)
  exact hback.trans (List.drop_suffix _ _)

theorem walk_found (hs : s ≠ []) {rest : Text} (hv : verdict d (s ++ rest) = .found s.length) :
    walk verdict 0 d (s ++ rest) = some ([], rest) := by
  obtain ⟨c, t, rfl⟩ := List.exists_cons_of_ne_nil hs
  rw [List.cons_append] at hv ⊢
  simp only [walk, hv]
  rw [← List.cons_append, List.drop_left]

theorem walk_stepOver (hs : s ≠ []) {rest : Text}
    (hv : verdict a (s ++ rest) = .stepOver s.length b) :
    walk verdict 0 a (s ++ rest) = (walk verdict 0 b rest).map (prepend s) := by
  obtain ⟨c, t, rfl⟩ := List.exists_cons_of_ne_nil hs
  rw [List.cons_append] at hv ⊢
  have hl : (c :: t).length - 1 = t.length := rfl
  simp only [walk, hv, hl]
  rw [walk_skip, map_after_prepend]

end Stencil.Balance
