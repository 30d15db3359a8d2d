import Stencil.Proofs.Ranges
/-!
# Occurrences

The offsets at which a pattern starts in a text, and how many of them lie between two offsets.
Between the ends of a stretch they are the places of the stretch at which the pattern begins.
-/
namespace Stencil.Text

variable {pattern t : Text} {offset : Nat}

/-- The pattern starts at the byte offset. -/
def startsAt (pattern t : Text) (offset : Nat) : Bool :=
  (dropBytes? offset t).any pattern.isPrefixOf

/-- How many times the pattern starts from the offset `start` on and in front of `stop`. -/
def occurrences (pattern t : Text) (start stop : Nat) : Nat :=
  (List.range' start (stop - start)).countP (startsAt pattern t)

theorem startsAt_iff : startsAt pattern t offset = true ↔
    ∃ front back, t = front ++ pattern ++ back ∧ bytes front = offset := by
  rw [startsAt, Option.any_eq_true]
  constructor
  · rintro ⟨rest, hd, hp⟩
    obtain ⟨front, rfl, hf⟩ := dropBytes?_eq_some_iff.mp hd
    obtain ⟨back, rfl⟩ := List.isPrefixOf_iff_prefix.mp hp
    exact ⟨front, back, (List.append_assoc _ _ _).symm, hf⟩
  · rintro ⟨front, back, rfl, rfl⟩
    rw [List.append_assoc]
    exact ⟨pattern ++ back, dropBytes?_append _ _,
      List.isPrefixOf_iff_prefix.mpr (List.prefix_append _ _)⟩

private theorem startsAt_behind (pattern front rest : Text) :
    startsAt pattern (front ++ rest) (bytes front) = pattern.isPrefixOf rest := by
  rw [startsAt, dropBytes?_append]
  rfl

private theorem dropBytes?_behind (front rest : Text) (n : Nat) :
    dropBytes? (bytes front + n) (front ++ rest) = dropBytes? n rest := by
  induction front with
  | nil => simp [bytes]
  | cons c front ih =>
    obtain ⟨m, hm, hle, hf⟩ := bytes_cons_eq c front
    have hn : bytes (c :: front) + n = m + n + 1 := by omega
    have hr : m + n + 1 - c.utf8Size = bytes front + n := by omega
    rw [hn, List.cons_append, dropBytes?, if_pos (by omega), hr, ih]

private theorem startsAt_inside (pattern front rest : Text) {c : Char} {n : Nat} (hpos : 0 < n)
    (hlt : n < c.utf8Size) : startsAt pattern (front ++ c :: rest) (bytes front + n) = false := by
  obtain ⟨n, rfl⟩ := Nat.exists_eq_add_one_of_ne_zero (Nat.ne_of_gt hpos)
  rw [startsAt, dropBytes?_behind, dropBytes?, if_neg (by omega)]
  rfl

/-- How many times the pattern begins in a stretch of text in front of `rest`. -/
def begins (pattern : Text) : (stretch rest : Text) → Nat
  | [], _ => 0
  | c :: s, rest => (if pattern.isPrefixOf (c :: (s ++ rest)) then 1 else 0) + begins pattern s rest

theorem begins_append (pattern s other rest : Text) :
    begins pattern (s ++ other) rest =
      begins pattern s (other ++ rest) + begins pattern other rest := by
  induction s with
  | nil => simp [begins]
  | cons c s ih => simp only [List.cons_append, begins, ih, List.append_assoc, Nat.add_assoc]

theorem begins_eq_zero {s rest : Text}
    (h : ∀ back, back ≠ [] → back <:+ s → pattern.isPrefixOf (back ++ rest) = false) :
    begins pattern s rest = 0 := by
  induction s with
  | nil => rfl
  | cons c s ih =>
    have hhead := h (c :: s) (List.cons_ne_nil c s) (List.suffix_refl _)
    rw [List.cons_append] at hhead
    rw [begins, hhead, ih fun back hne hback => h back hne (hback.trans (List.suffix_cons c s))]
    rfl

private theorem countP_char (pattern front rest : Text) (c : Char) :
    (List.range' (bytes front) c.utf8Size).countP (startsAt pattern (front ++ c :: rest)) =
      if pattern.isPrefixOf (c :: rest) then 1 else 0 := by
  obtain ⟨n, hn⟩ := Nat.exists_eq_add_one_of_ne_zero (Nat.ne_of_gt c.utf8Size_pos)
  have hinside : (List.range' (bytes front + 1) n).countP
      (startsAt pattern (front ++ c :: rest)) = 0 := by
    rw [List.countP_eq_zero]
    intro offset hm
    rw [List.mem_range'_1] at hm
    obtain ⟨k, rfl⟩ := Nat.exists_eq_add_of_le hm.1
    rw [Nat.add_assoc, startsAt_inside pattern front rest (by omega) (by omega)]
    exact Bool.false_ne_true
  rw [hn, List.range'_succ, List.countP_cons, hinside, startsAt_behind, Nat.zero_add]

theorem occurrences_eq_begins (pattern front s rest : Text) :
    occurrences pattern (front ++ s ++ rest) (bytes front) (bytes (front ++ s)) =
      begins pattern s rest := by
  rw [occurrences, bytes_append, Nat.add_sub_cancel_left]
  induction s generalizing front with
  | nil => rfl
  | cons c s ih =>
    have hfront : bytes (front ++ [c]) = bytes front + c.utf8Size := by simp [bytes]
    have ht : front ++ c :: s ++ rest = front ++ [c] ++ s ++ rest := by simp
    have htail := ih (front ++ [c])
    rw [← ht, hfront] at htail
    rw [bytes, ← List.range'_append_1, List.countP_append, htail, begins, List.append_assoc,
      List.cons_append, countP_char]

theorem occurrences_front (pattern s rest : Text) :
    occurrences pattern (s ++ rest) 0 (bytes s) = begins pattern s rest :=
  occurrences_eq_begins pattern [] s rest

end Stencil.Text
