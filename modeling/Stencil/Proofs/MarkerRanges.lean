import Stencil.Proofs.Ranges
import Stencil.Proofs.Walk
/-!
# Searches for markers by offsets

The two searches for markers as loops over a byte offset, which find the next marker in the rest of
the text and go on behind it. Every range they cut is in range, no count of open blocks goes below
zero, and they find what the walks over the text find.
-/
namespace Stencil.Balance

variable {opening close marker t before after rest : Text}

/-! ### The steps of a walk from marker to marker -/

private theorem closing_of_no_close (hb : Text.breakOn? close t = none) (skip depth : Nat) :
    closing opening close skip depth t = none := by
  cases h : closing opening close skip depth t with
  | none => rfl
  | some found =>
    exact absurd ⟨found.1, found.2, (eq_append_of_closing h).symm⟩ (Text.breakOn?_eq_none_iff.mp hb)

private theorem walk_to_marker (hb : Text.breakOn? close t = some (before, after)) {plain : Text}
    {inner : Text} (hplain : before = plain ++ inner)
    (ho : ∀ back, back ≠ [] → back <:+ plain → opening.isPrefixOf (back ++ inner) = false)
    (depth : Nat) :
    walk (closingVerdict opening close) 0 depth t =
      (walk (closingVerdict opening close) 0 depth (inner ++ close ++ after)).map
        (prepend plain) := by
  have ht : t = plain ++ (inner ++ close ++ after) := by
    rw [Text.eq_append_of_breakOn? hb, hplain]
    simp only [List.append_assoc]
  rw [ht]
  refine walk_of_steps fun back hne hback => ?_
  have hsuffix : back ++ inner <:+ before := by
    rw [hplain]
    obtain ⟨front, rfl⟩ := hback
    exact ⟨front, (List.append_assoc _ _ _).symm⟩
  have hne' : back ++ inner ≠ [] := by simp [hne]
  have hclose := Text.not_isPrefixOf_of_breakOn? hb hne' hsuffix
  have hfound := Text.breakOn?_suffix hb hsuffix
  have hopen : opensHere opening close (back ++ inner ++ close ++ after) = false := by
    rw [Bool.eq_false_iff]
    intro h
    simp only [opensHere, hfound, Option.all_some, Bool.and_eq_true, decide_eq_true_eq] at h
    rw [List.append_assoc (back ++ inner), Text.isPrefixOf_append_of_le h.2, ho back hne hback] at h
    exact absurd h.1 Bool.false_ne_true
  have happend : back ++ (inner ++ close ++ after) = back ++ inner ++ close ++ after := by
    simp only [List.append_assoc]
  simp only [happend, closingVerdict, hclose, hopen, Bool.false_eq_true, if_false]

private theorem closing_of_close (hclose : close ≠ [])
    (hb : Text.breakOn? close t = some (before, after))
    (ho : Text.breakOn? opening before = none) (depth : Nat) :
    closing opening close 0 depth t =
      match depth with
      | 0 => some (before, after)
      | depth + 1 => (closing opening close 0 depth after).map (prepend (before ++ close)) := by
  have hplain : before = before ++ [] := (List.append_nil _).symm
  have hno (back : Text) (hback : back <:+ before) : opening.isPrefixOf (back ++ []) = false := by
    rw [List.append_nil]
    exact Text.not_isPrefixOf_of_breakOn?_eq_none ho hback
  have hwalk := walk_to_marker hb hplain (fun back _ hback => hno back hback) depth
  have hp : close.isPrefixOf (close ++ after) = true :=
    List.isPrefixOf_iff_prefix.mpr (List.prefix_append _ _)
  rw [closing_eq_walk, hwalk, List.nil_append]
  cases depth with
  | zero =>
    have hv : closingVerdict opening close 0 (close ++ after) = .found close.length := by
      rw [closingVerdict, if_pos hp]
    rw [walk_found hclose hv]
    simp [prepend]
  | succ depth =>
    have hv : closingVerdict opening close (depth + 1) (close ++ after) =
        .stepOver close.length depth := by
      rw [closingVerdict, if_pos hp]
    rw [walk_stepOver hclose hv, map_prepend_append]
    simp only [closing_eq_walk]

private theorem closing_of_open (hopen : opening ≠ [])
    (hb : Text.breakOn? close t = some (before, after))
    {plain inner : Text} (ho : Text.breakOn? opening before = some (plain, inner)) (depth : Nat) :
    closing opening close 0 depth t =
      (closing opening close 0 (depth + 1) (inner ++ close ++ after)).map
        (prepend (plain ++ opening)) := by
  have hbefore := Text.eq_append_of_breakOn? ho
  rw [List.append_assoc] at hbefore
  have hwalk := walk_to_marker hb hbefore (fun back hne hback => by
    have hno := Text.not_isPrefixOf_of_breakOn? ho hne hback
    rwa [List.append_assoc] at hno) depth
  have hsuffix : opening ++ inner <:+ before := by
    rw [hbefore]
    exact List.suffix_append plain (opening ++ inner)
  have hno := Text.not_isPrefixOf_of_breakOn? hb (List.append_ne_nil_of_left_ne_nil hopen inner)
    hsuffix
  have hfound := Text.breakOn?_suffix hb hsuffix
  have hp : opening.isPrefixOf (opening ++ inner ++ close ++ after) = true := by
    rw [List.isPrefixOf_iff_prefix, List.append_assoc, List.append_assoc]
    exact List.prefix_append _ _
  have hle : opening.length ≤ (opening ++ inner).length := by
    rw [List.length_append]
    omega
  have hv : closingVerdict opening close depth (opening ++ (inner ++ close ++ after)) =
      .stepOver opening.length (depth + 1) := by
    simp only [List.append_assoc] at hno hfound hp ⊢
    simp only [closingVerdict, hno, opensHere, hp, hfound, Option.all_some, hle, decide_true,
      Bool.and_self, Bool.false_eq_true, if_false, if_true]
  have happend : opening ++ inner ++ close ++ after = opening ++ (inner ++ close ++ after) := by
    simp only [List.append_assoc]
  rw [closing_eq_walk, hwalk, happend, walk_stepOver hopen hv, map_prepend_append]
  simp only [closing_eq_walk]

/-! ### The search for a closing marker -/

/-- Where the closing marker stands that balances `depth` open blocks and the one around them. -/
def closingLoop (raw opening close : Text) (hopen : opening ≠ []) (hclose : close ≠ [])
    (depth cursor : Nat) : Option (Option Span) :=
  match _hd : Text.dropBytes? cursor raw with
  | none => some none
  | some rest =>
    match Text.find? close rest with
    | none => some none
    | some closeAt =>
      let candidate := cursor + closeAt
      match Text.slice? raw cursor candidate with
      | none => none
      | some between =>
        match Text.find? opening between with
        | some openAt =>
          closingLoop raw opening close hopen hclose (depth + 1)
            (cursor + openAt + Text.bytes opening)
        | none =>
          if depth = 0 then some (some ⟨candidate, candidate + Text.bytes close⟩)
          else match lower? depth with
            | none => none
            | some depth =>
              closingLoop raw opening close hopen hclose depth (candidate + Text.bytes close)
termination_by Text.bytes raw + 1 - cursor
decreasing_by
  all_goals
    obtain ⟨front, ht, hf⟩ := Text.dropBytes?_eq_some_iff.mp _hd
    have hle : cursor ≤ Text.bytes raw := by
      rw [ht, Text.bytes_append]
      omega
  · have hpos := Text.bytes_pos hopen
    omega
  · have hpos := Text.bytes_pos hclose
    omega

private theorem spanFrom_prepend (position : Nat) (marker s : Text) (found : Option (Text × Text)) :
    (found.map (prepend s)).map (spanFrom position marker) =
      found.map (spanFrom (position + Text.bytes s) marker) := by
  rw [Option.map_map]
  congr 1
  funext found
  simp only [Function.comp_apply, spanFrom, prepend, Text.bytes_append, Nat.add_assoc]

section ClosingLoop

variable (hopen : opening ≠ []) (hclose : close ≠ []) (front : Text) (depth : Nat)

private theorem closingLoop_behind (rest : Text) :
    closingLoop (front ++ rest) opening close hopen hclose depth (Text.bytes front) =
      match Text.find? close rest with
      | none => some none
      | some closeAt =>
        let candidate := Text.bytes front + closeAt
        match Text.slice? (front ++ rest) (Text.bytes front) candidate with
        | none => none
        | some between =>
          match Text.find? opening between with
          | some openAt =>
            closingLoop (front ++ rest) opening close hopen hclose (depth + 1)
              (Text.bytes front + openAt + Text.bytes opening)
          | none =>
            if depth = 0 then some (some ⟨candidate, candidate + Text.bytes close⟩)
            else match lower? depth with
              | none => none
              | some depth => closingLoop (front ++ rest) opening close hopen hclose depth
                  (candidate + Text.bytes close) := by
  have hd := Text.dropBytes?_append front rest
  rw [closingLoop]
  split
  · next h =>
    rw [hd] at h
    cases h
  · next h =>
    obtain rfl := Option.some.inj (hd.symm.trans h)
    rfl

private theorem slice?_before (hb : Text.breakOn? close rest = some (before, after)) :
    Text.slice? (front ++ rest) (Text.bytes front) (Text.bytes front + Text.bytes before) =
      some before := by
  rw [Text.eq_append_of_breakOn? hb, List.append_assoc before, ← List.append_assoc front]
  exact Text.slice?_append front before _

private theorem closingLoop_of_open (hb : Text.breakOn? close rest = some (before, after))
    {plain inner : Text} (ho : Text.breakOn? opening before = some (plain, inner)) :
    closingLoop (front ++ rest) opening close hopen hclose depth (Text.bytes front) =
      closingLoop (front ++ (plain ++ opening) ++ (inner ++ close ++ after)) opening close hopen
        hclose (depth + 1) (Text.bytes (front ++ (plain ++ opening))) := by
  have hraw : front ++ rest = front ++ (plain ++ opening) ++ (inner ++ close ++ after) := by
    rw [Text.eq_append_of_breakOn? hb, Text.eq_append_of_breakOn? ho]
    simp only [List.append_assoc]
  rw [closingLoop_behind]
  simp only [Text.find?_eq_some hb, slice?_before front hb, Text.find?_eq_some ho]
  rw [← hraw, Text.bytes_append front, Text.bytes_append plain, Nat.add_assoc]

private theorem closingLoop_of_close (hb : Text.breakOn? close rest = some (before, after))
    (ho : Text.breakOn? opening before = none) :
    closingLoop (front ++ rest) opening close hopen hclose depth (Text.bytes front) =
      match depth with
      | 0 => some (some (spanFrom (Text.bytes front) close (before, after)))
      | depth + 1 =>
        closingLoop (front ++ (before ++ close) ++ after) opening close hopen hclose depth
          (Text.bytes (front ++ (before ++ close))) := by
  have hraw : front ++ rest = front ++ (before ++ close) ++ after := by
    rw [Text.eq_append_of_breakOn? hb]
    simp only [List.append_assoc]
  rw [closingLoop_behind]
  simp only [Text.find?_eq_some hb, slice?_before front hb, Text.find?_eq_none ho]
  cases depth with
  | zero => rfl
  | succ depth =>
    rw [← hraw, Text.bytes_append front, Text.bytes_append before, ← Nat.add_assoc]
    rfl

private theorem closingLoop_eq (rest : Text) :
    closingLoop (front ++ rest) opening close hopen hclose depth (Text.bytes front) =
      some ((closing opening close 0 depth rest).map (spanFrom (Text.bytes front) close)) := by
  induction hn : rest.length using Nat.strongRecOn generalizing front rest depth with
  | ind n ih =>
    cases hb : Text.breakOn? close rest with
    | none =>
      rw [closingLoop_behind, Text.find?_eq_none hb, closing_of_no_close hb]
      rfl
    | some found =>
      obtain ⟨before, after⟩ := found
      have hrest := congrArg List.length (Text.eq_append_of_breakOn? hb)
      cases ho : Text.breakOn? opening before with
      | some found =>
        obtain ⟨plain, inner⟩ := found
        have hshorter : (inner ++ close ++ after).length < n := by
          have hbefore := congrArg List.length (Text.eq_append_of_breakOn? ho)
          have hpos := List.length_pos_iff.mpr hopen
          simp only [List.length_append] at hrest hbefore ⊢
          omega
        rw [closingLoop_of_open hopen hclose front depth hb ho, ih _ hshorter _ _ _ rfl,
          closing_of_open hopen hb ho, spanFrom_prepend, Text.bytes_append front]
      | none =>
        have hshorter : after.length < n := by
          have hpos := List.length_pos_iff.mpr hclose
          simp only [List.length_append] at hrest
          omega
        rw [closingLoop_of_close hopen hclose front depth hb ho, closing_of_close hclose hb ho]
        cases depth with
        | zero => rfl
        | succ depth =>
          dsimp only
          rw [ih _ hshorter _ _ _ rfl, spanFrom_prepend, Text.bytes_append front]

end ClosingLoop

/-- Where the closing marker stands that balances an opening one before `position`. -/
def findClosingInBytes (raw opening close : Text) (position : Nat) : Option (Option Span) :=
  if h : Text.bytes raw < position ∨ opening = [] ∨ close = [] then some none
  else closingLoop raw opening close (fun e => h (.inr (.inl e))) (fun e => h (.inr (.inr e))) 0
    position

/-- The search is in range from any offset, one that is no part of the text included. -/
theorem findClosingInBytes_eq (raw opening close : Text) (position : Nat) :
    findClosingInBytes raw opening close position =
      some (findClosing? raw opening close position) := by
  simp only [findClosingInBytes]
  split
  · next h =>
    rw [findClosing?]
    split
    · rfl
    · next hne =>
      have hd : Text.dropBytes? position raw = none := by
        cases hd : Text.dropBytes? position raw with
        | none => rfl
        | some rest =>
          obtain ⟨front, rfl, rfl⟩ := Text.dropBytes?_eq_some_iff.mp hd
          rcases h with h | h
          · rw [Text.bytes_append] at h
            omega
          · exact absurd h hne
      rw [hd]
      rfl
  · next h =>
    have hne : ¬ (opening = [] ∨ close = []) := fun he => h (.inr he)
    rw [findClosing?, if_neg hne]
    cases hd : Text.dropBytes? position raw with
    | none =>
      rw [closingLoop]
      split
      · rfl
      · next hs =>
        rw [hd] at hs
        cases hs
    | some rest =>
      obtain ⟨front, rfl, rfl⟩ := Text.dropBytes?_eq_some_iff.mp hd
      exact closingLoop_eq _ _ front 0 rest

theorem findClosingInBytes_behind (hopen : opening ≠ []) (hclose : close ≠ [])
    (front rest : Text) :
    findClosingInBytes (front ++ rest) opening close (Text.bytes front) =
      some ((closing opening close 0 0 rest).map (spanFrom (Text.bytes front) close)) := by
  rw [findClosingInBytes_eq, findClosing?, if_neg (not_or.mpr ⟨hopen, hclose⟩),
    Text.dropBytes?_append, Option.bind_some]

theorem slice?_of_closing {body : Text} (h : closing opening close 0 0 rest = some (body, after))
    (front : Text) :
    Text.slice? (front ++ rest) (Text.bytes front) (Text.bytes front + Text.bytes body) =
      some body := by
  rw [eq_append_of_closing h, List.append_assoc body, ← List.append_assoc]
  exact Text.slice?_append front body _

theorem le_start_of_findClosing? {raw : Text} {position : Nat} {span : Span}
    (h : findClosing? raw opening close position = some span) :
    position ≤ span.start ∧ span.start ≤ span.stop := by
  rw [findClosing?] at h
  split at h
  · cases h
  · obtain ⟨rest, -, h⟩ := Option.bind_eq_some_iff.mp h
    obtain ⟨found, -, rfl⟩ := Option.map_eq_some_iff.mp h
    exact ⟨Nat.le_add_right _ _, Nat.le_add_right _ _⟩

/-! ### The search for a marker outside every block -/

inductive Hit.Kind where
  | opens
  | closes
  | sought

/-- The first occurrence of one of the three markers. -/
structure Hit where
  start : Nat
  marker : Text
  marker_ne_nil : marker ≠ []
  kind : Hit.Kind

namespace Hit

/-- The hit that starts first, the left one of two that start together. -/
def earlier (left right : Hit) : Hit := if right.start < left.start then right else left

/-- The hit as it stands in a text with `n` bytes more in front. -/
def behind (n : Nat) (hit : Hit) : Hit := { hit with start := n + hit.start }

def stop (hit : Hit) : Nat := hit.start + Text.bytes hit.marker

private theorem earlier_behind (n : Nat) (left right : Hit) :
    earlier (left.behind n) (right.behind n) = (earlier left right).behind n := by
  simp only [earlier, behind, Nat.add_lt_add_iff_left]
  split <;> rfl

end Hit

def hit? (kind : Hit.Kind) (marker t : Text) : Option Hit :=
  if h : marker = [] then none else (Text.find? marker t).map fun start => ⟨start, marker, h, kind⟩

/-- Of markers that start together an opening one comes first, then a closing one. -/
def firstHit? (opening close marker t : Text) : Option Hit :=
  ((hit? .opens opening t).merge Hit.earlier (hit? .closes close t)).merge Hit.earlier
    (hit? .sought marker t)

def topLevelLoop (raw opening close marker : Text) (depth cursor : Nat) : Option (Option Span) :=
  if cursor < Text.bytes raw then
    match Text.slice? raw cursor (Text.bytes raw) with
    | none => none
    | some rest =>
      match firstHit? opening close marker rest with
      | none => some none
      | some hit =>
        match hit.kind with
        | .opens => topLevelLoop raw opening close marker (depth + 1) (cursor + hit.stop)
        | .closes => topLevelLoop raw opening close marker (depth - 1) (cursor + hit.stop)
        | .sought =>
          if depth = 0 then some (some ⟨cursor + hit.start, cursor + hit.stop⟩)
          else topLevelLoop raw opening close marker depth (cursor + hit.stop)
  else some none
termination_by Text.bytes raw - cursor
decreasing_by
  all_goals
    have hpos := Text.bytes_pos hit.marker_ne_nil
    simp only [Hit.stop]
    omega

section Hits

variable {kind : Hit.Kind} {c : Char}

private theorem hit?_here (h : marker ≠ [] ∧ marker.isPrefixOf (c :: t) = true) :
    hit? kind marker (c :: t) = some ⟨0, marker, h.1, kind⟩ := by
  rw [hit?, dif_neg h.1, Text.find?_cons, if_pos h.2]
  rfl

private theorem hit?_further (h : ¬ (marker ≠ [] ∧ marker.isPrefixOf (c :: t) = true)) :
    hit? kind marker (c :: t) = (hit? kind marker t).map (Hit.behind c.utf8Size) := by
  simp only [hit?]
  split
  · rfl
  · next hne =>
    rw [Text.find?_cons, if_neg fun hp => h ⟨hne, hp⟩, Option.map_map, Option.map_map]
    rfl

private theorem merge_earlier_here {hit : Hit} (h : hit.start = 0) (found : Option Hit) :
    (some hit).merge Hit.earlier found = some hit := by
  cases found with
  | none => rfl
  | some other =>
    have hno : ¬ other.start < hit.start := by
      rw [h]
      exact Nat.not_lt_zero _
    simp only [Option.merge, Hit.earlier, if_neg hno]

private theorem merge_earlier_further {hit : Hit} (h : hit.start = 0) {n : Nat} (hn : 0 < n)
    (found : Option Hit) : (found.map (Hit.behind n)).merge Hit.earlier (some hit) = some hit := by
  cases found with
  | none => rfl
  | some other =>
    have hlt : hit.start < (other.behind n).start := by
      simp only [Hit.behind]
      omega
    simp only [Option.map_some, Option.merge, Hit.earlier, if_pos hlt]

private theorem merge_earlier_behind (n : Nat) (left right : Option Hit) :
    (left.map (Hit.behind n)).merge Hit.earlier (right.map (Hit.behind n)) =
      (left.merge Hit.earlier right).map (Hit.behind n) := by
  cases left with
  | none => cases right <;> rfl
  | some left =>
    cases right with
    | none => rfl
    | some right => exact congrArg some (Hit.earlier_behind n left right)

variable (opening close marker t c)

private theorem firstHit?_cons :
    firstHit? opening close marker (c :: t) =
      if h : opening ≠ [] ∧ opening.isPrefixOf (c :: t) = true then
        some ⟨0, opening, h.1, .opens⟩
      else if h : close ≠ [] ∧ close.isPrefixOf (c :: t) = true then some ⟨0, close, h.1, .closes⟩
      else if h : marker ≠ [] ∧ marker.isPrefixOf (c :: t) = true then
        some ⟨0, marker, h.1, .sought⟩
      else (firstHit? opening close marker t).map (Hit.behind c.utf8Size) := by
  have hc := c.utf8Size_pos
  simp only [firstHit?]
  split
  · next ho => rw [hit?_here ho, merge_earlier_here rfl, merge_earlier_here rfl]
  next ho =>
  rw [hit?_further ho]
  split
  · next hx => rw [hit?_here hx, merge_earlier_further rfl hc, merge_earlier_here rfl]
  next hx =>
  rw [hit?_further hx, merge_earlier_behind]
  split
  · next hm => rw [hit?_here hm, merge_earlier_further rfl hc]
  · next hm => rw [hit?_further hm, merge_earlier_behind]

private theorem firstHit?_nil : firstHit? opening close marker [] = none := by
  have h (kind : Hit.Kind) (marker : Text) : hit? kind marker [] = none := by
    simp only [hit?]
    split
    · rfl
    · next hne =>
      have hb : Text.breakOn? marker [] = none := by
        rw [Text.breakOn?, if_neg (by simpa using hne)]
      rw [Text.find?_eq_none hb]
      rfl
  simp only [firstHit?, h, Option.merge]

end Hits

section Loop

variable (opening close marker) (front : Text)

private theorem topLevelLoop_further {c : Char}
    (h : firstHit? opening close marker (c :: t) =
      (firstHit? opening close marker t).map (Hit.behind c.utf8Size)) (depth : Nat) :
    topLevelLoop (front ++ c :: t) opening close marker depth (Text.bytes front) =
      topLevelLoop (front ++ [c] ++ t) opening close marker depth (Text.bytes (front ++ [c])) := by
  have hraw : front ++ [c] ++ t = front ++ c :: t := by simp
  have hsize : Text.bytes (front ++ [c]) = Text.bytes front + c.utf8Size := by
    simp [Text.bytes]
  have hlt : Text.bytes front < Text.bytes (front ++ c :: t) := by
    have hc := c.utf8Size_pos
    simp only [Text.bytes_append, Text.bytes]
    omega
  rw [topLevelLoop, if_pos hlt, Text.slice?_suffix]
  simp only [h]
  cases t with
  | nil =>
    rw [topLevelLoop, if_neg (by simp), firstHit?_nil]
    rfl
  | cons d t =>
    have hlt : Text.bytes (front ++ [c]) < Text.bytes (front ++ [c] ++ d :: t) := by
      have hpos := Text.bytes_pos (List.cons_ne_nil d t)
      rw [Text.bytes_append (front ++ [c])]
      omega
    rw [topLevelLoop.eq_def (front ++ [c] ++ d :: t), if_pos hlt, Text.slice?_suffix, hraw, hsize]
    cases hf : firstHit? opening close marker (d :: t) with
    | none => simp only [hf, Option.map_none]
    | some hit => simp only [hf, Option.map_some, Hit.behind, Hit.stop, Nat.add_assoc]

private theorem topLevelLoop_here {hit : Hit} (h : firstHit? opening close marker t = some hit)
    (hs : hit.start = 0) {rest : Text} (ht : t = hit.marker ++ rest) (depth : Nat) :
    topLevelLoop (front ++ t) opening close marker depth (Text.bytes front) =
      match hit.kind with
      | .opens => topLevelLoop (front ++ hit.marker ++ rest) opening close marker (depth + 1)
          (Text.bytes (front ++ hit.marker))
      | .closes => topLevelLoop (front ++ hit.marker ++ rest) opening close marker (depth - 1)
          (Text.bytes (front ++ hit.marker))
      | .sought =>
        if depth = 0 then some (some ⟨Text.bytes front, Text.bytes (front ++ hit.marker)⟩)
        else topLevelLoop (front ++ hit.marker ++ rest) opening close marker depth
          (Text.bytes (front ++ hit.marker)) := by
  have hraw : front ++ hit.marker ++ rest = front ++ t := by rw [ht, List.append_assoc]
  have hlt : Text.bytes front < Text.bytes (front ++ t) := by
    have hpos := Text.bytes_pos hit.marker_ne_nil
    rw [ht, Text.bytes_append, Text.bytes_append]
    omega
  rw [topLevelLoop, if_pos hlt, Text.slice?_suffix, hraw]
  simp only [h, Hit.stop, hs, Nat.zero_add, Nat.add_zero, Text.bytes_append]

private theorem topLevelLoop_eq (rest : Text) (depth : Nat) :
    topLevelLoop (front ++ rest) opening close marker depth (Text.bytes front) =
      some ((topLevel opening close marker 0 depth rest).map
        (spanFrom (Text.bytes front) marker)) := by
  induction hn : rest.length using Nat.strongRecOn generalizing front rest depth with
  | ind n ih =>
    have step {m rest' : Text} {d : Nat} (hm : m ≠ []) (ht : rest = m ++ rest')
        (hv : topLevelVerdict opening close marker depth rest = .stepOver m.length d) :
        topLevelLoop (front ++ m ++ rest') opening close marker d (Text.bytes (front ++ m)) =
          some ((topLevel opening close marker 0 depth rest).map
            (spanFrom (Text.bytes front) marker)) := by
      have hpos := List.length_pos_iff.mpr hm
      have hshorter : rest'.length < n := by
        rw [← hn, ht, List.length_append]
        omega
      subst ht
      rw [ih _ hshorter (front ++ m) rest' d rfl, topLevel_eq_walk, topLevel_eq_walk,
        walk_stepOver hm hv, spanFrom_prepend, Text.bytes_append]
    cases rest with
    | nil =>
      rw [topLevelLoop, if_neg (by simp), topLevel]
      rfl
    | cons c t =>
      have hit := firstHit?_cons opening close marker t c
      by_cases ho : opening ≠ [] ∧ opening.isPrefixOf (c :: t) = true
      · rw [dif_pos ho] at hit
        have ht := Text.eq_append_of_isPrefixOf ho.2
        rw [topLevelLoop_here _ _ _ front hit rfl ht]
        exact step ho.1 ht (by rw [topLevelVerdict, if_pos ho])
      by_cases hx : close ≠ [] ∧ close.isPrefixOf (c :: t) = true
      · rw [dif_neg ho, dif_pos hx] at hit
        have ht := Text.eq_append_of_isPrefixOf hx.2
        rw [topLevelLoop_here _ _ _ front hit rfl ht]
        exact step hx.1 ht (by rw [topLevelVerdict, if_neg ho, if_pos hx])
      by_cases hm : marker ≠ [] ∧ marker.isPrefixOf (c :: t) = true
      · rw [dif_neg ho, dif_neg hx, dif_pos hm] at hit
        have ht := Text.eq_append_of_isPrefixOf hm.2
        rw [topLevelLoop_here _ _ _ front hit rfl ht]
        dsimp only
        split
        · next hd =>
          have hv : topLevelVerdict opening close marker depth (c :: t) =
              .found marker.length := by
            rw [topLevelVerdict, if_neg ho, if_neg hx, if_pos hm, if_pos hd]
          rw [ht] at hv ⊢
          rw [topLevel_eq_walk, walk_found hm.1 hv, Text.bytes_append]
          rfl
        · next hd =>
          exact step hm.1 ht (by rw [topLevelVerdict, if_neg ho, if_neg hx, if_pos hm, if_neg hd])
      · rw [dif_neg ho, dif_neg hx, dif_neg hm] at hit
        rw [topLevelLoop_further _ _ _ front hit]
        exact step (List.cons_ne_nil c []) rfl
          (by rw [topLevelVerdict, if_neg ho, if_neg hx, if_neg hm]; rfl)

end Loop

theorem eq_append_of_topLevel {skip depth : Nat}
    (h : topLevel opening close marker skip depth t = some (before, after)) :
    t = before ++ marker ++ after := by
  induction t generalizing skip depth before with
  | nil => cases skip <;> cases h
  | cons c t ih =>
    have step {skip depth : Nat}
        (h : (topLevel opening close marker skip depth t).map (Balance.after c) =
          some (before, after)) : c :: t = before ++ marker ++ after := by
      obtain ⟨found, hf, he⟩ := Option.map_eq_some_iff.mp h
      cases he
      rw [ih hf]
      rfl
    cases skip with
    | succ skip => exact step h
    | zero =>
      simp only [topLevel] at h
      split at h
      · exact step h
      split at h
      · exact step h
      split at h
      · next hm =>
        split at h
        · cases h
          exact Text.eq_append_of_isPrefixOf hm.2
        · exact step h
      · exact step h

private theorem topLevel_no_marker (opening close : Text) (skip depth : Nat) (t : Text) :
    topLevel opening close [] skip depth t = none := by
  induction t generalizing skip depth with
  | nil => cases skip <;> rfl
  | cons c t ih => cases skip <;> simp [topLevel, ih]

/-- Where the first `marker` stands that no pair of the other two encloses. -/
def findTopLevelInBytes (raw opening close marker : Text) : Option (Option Span) :=
  if marker = [] then some none else topLevelLoop raw opening close marker 0 0

theorem findTopLevelInBytes_eq (raw opening close marker : Text) :
    findTopLevelInBytes raw opening close marker =
      some (findTopLevel? raw opening close marker) := by
  rw [findTopLevelInBytes]
  split
  · next h =>
    rw [h, findTopLevel?, topLevel_no_marker]
    rfl
  · exact topLevelLoop_eq opening close marker [] raw 0

end Stencil.Balance
