import Stencil.Proofs.Margin
import Stencil.Proofs.Scan
import Stencil.Proofs.Spelling
/-!
# Reading a tag

Between the standard delimiters stands what a tag says, up to the first stop delimiter. A tag that
opens a block is read with the name of the block and its trimmed arguments.
-/
namespace Stencil
namespace Spelling

open Balance

variable {inside contents name : Text}

private theorem passes_stop (h : Text.contains "%\x7d" inside = false) (rest : Text) :
    Text.Passes "%\x7d" inside ("%\x7d" ++ rest) := by
  induction inside with
  | nil => exact Text.passes_nil _ _
  | cons c t ih =>
    simp only [Text.contains, Text.breakOn?] at h
    split at h
    · cases h
    · next hp =>
      rw [Option.isSome_map] at h
      refine Text.passes_cons ?_ (ih h)
      -- Behind the last character stands the delimiter, whose second character is another one.
      cases t with
      | nil => simp [List.isPrefixOf]
      | cons d t => simpa [List.isPrefixOf] using hp

theorem breakOn?_stop (h : Text.contains "%\x7d" inside = false) (rest : Text) :
    Text.breakOn? "%\x7d" (inside ++ "%\x7d" ++ rest) = some (inside, rest) := by
  rw [List.append_assoc, passes_stop h, Scanner.breakOn?_self (by decide)]
  simp

theorem contains_stop_append_blank (h : Text.contains "%\x7d" contents = false) :
    Text.contains "%\x7d" (contents ++ [' ']) = false := by
  induction contents with
  | nil => decide
  | cons c t ih =>
    simp only [Text.contains, Text.breakOn?] at h
    split at h
    · cases h
    · next hp =>
      rw [Option.isSome_map] at h
      have hn : ¬ ("%\x7d" : Text).isPrefixOf (c :: (t ++ [' '])) = true := by
        cases t with
        | nil => simp [List.isPrefixOf]
        | cons d t => simpa [List.isPrefixOf] using hp
      rw [List.cons_append, Text.contains, Text.breakOn?, if_neg hn, Option.isSome_map]
      exact ih h

theorem contains_append_of_notMem {c : Char} {pattern front : Text} (h : c ∉ front) (t : Text) :
    Text.contains (c :: pattern) (front ++ t) = Text.contains (c :: pattern) t := by
  have hp : Text.Passes (c :: pattern) front t := Text.passes_of_notMem h t
  rw [Text.contains, hp, Option.isSome_map]
  rfl

theorem not_contains_openMarker (name : Text) (h : '\x7b' ∉ contents) :
    Text.contains (Delimiters.standard.openMarker name) contents = false := by
  rw [openMarker_eq_cons, ← List.append_nil contents, contains_append_of_notMem h]
  rfl

theorem contains_stop_blanks (h : Text.contains "%\x7d" contents = false) :
    Text.contains "%\x7d" (" " ++ contents ++ " ") = false := by
  have hb : (" " : Text) = [' '] := by decide
  have hs : ("%\x7d" : Text) = '%' :: ("\x7d" : Text) := by decide
  have hl := contains_stop_append_blank h
  rw [hs] at hl ⊢
  rw [hb, List.append_assoc, contains_append_of_notMem (by decide)]
  exact hl

theorem trim_blanks (contents : Text) :
    Text.trim (" " ++ contents ++ " ") = Text.trim contents := by
  have hb : (" " : Text) = [' '] := by decide
  rw [hb, Text.trim_append_blank (by decide), List.singleton_append,
    Text.trim_cons_blank (by decide)]

/-- A scanner with the standard delimiters. -/
def scanner (position : Nat) (rest : Text) : Scanner := ⟨.standard, rest, position, false⟩

theorem next?_span (h : Text.contains "%\x7d" inside = false) (position : Nat) (rest : Text) :
    (scanner position (span inside ++ rest)).next? =
      some (.tag ⟨Text.trim inside, position, position + Text.bytes (span inside)⟩,
        scanner (position + Text.bytes (span inside)) rest) := by
  have hf : (scanner position rest).finished = false := rfl
  exact Scanner.next?_tag hf (breakOn?_stop h rest) position

private theorem trim_opening (hn : ∀ c ∈ name, Text.isBlank c = false) (hne : name ≠ [])
    (arguments : Text) :
    Text.trim (" " ++ name ++ " " ++ arguments) =
      if Text.trimEnd arguments = [] then name else name ++ ' ' :: Text.trimEnd arguments := by
  have hb : (" " : Text) = [' '] := by decide
  have hblank : Text.isBlank ' ' = true := by decide
  have hstart : Text.trimStart (name ++ ' ' :: arguments) = name ++ ' ' :: arguments := by
    obtain ⟨c, t, rfl⟩ := List.exists_cons_of_ne_nil hne
    exact Text.trimStart_of_head (hn c List.mem_cons_self) _
  have hw : (" " : Text) ++ name ++ " " ++ arguments = ' ' :: (name ++ ' ' :: arguments) := by
    rw [hb]
    simp
  rw [hw, Text.trim_cons_blank hblank, Text.trim, hstart, Text.trimEnd_append, Text.trimEnd_cons,
    if_pos hblank, Text.trimEnd_of_all hn]
  by_cases h : Text.trimEnd arguments = []
  · rw [if_pos h, if_pos h, if_pos rfl]
  · rw [if_neg h, if_neg h, if_neg (List.cons_ne_nil _ _)]

theorem nameAndArguments_opening (hn : ∀ c ∈ name, Text.isBlank c = false) (hne : name ≠ [])
    (arguments : Text) (start stop : Nat) :
    (TagSpan.mk (Text.trim (" " ++ name ++ " " ++ arguments)) start stop).nameAndArguments =
      (name, Text.trim arguments) := by
  have hblank : Text.isBlank ' ' = true := by decide
  have hname : ∀ c ∈ name, (!Text.isBlank c) = true := fun c hc => by simp [hn c hc]
  rw [trim_opening hn hne, Text.trim_eq]
  by_cases h : Text.trimEnd arguments = []
  · rw [if_pos h, h]
    have htake : (name ++ []).takeWhile (!Text.isBlank ·) =
        name ++ [].takeWhile (!Text.isBlank ·) :=
      List.takeWhile_append_of_pos hname
    have hdrop : (name ++ []).dropWhile (!Text.isBlank ·) = [].dropWhile (!Text.isBlank ·) :=
      List.dropWhile_append_of_pos hname
    rw [List.append_nil] at htake hdrop
    simp only [TagSpan.nameAndArguments, htake, hdrop, List.takeWhile_nil, List.dropWhile_nil,
      List.append_nil]
  · rw [if_neg h]
    simp only [TagSpan.nameAndArguments, List.takeWhile_append_of_pos hname,
      List.dropWhile_append_of_pos hname]
    simp [hblank, Text.trimStart_cons]

/-! ### The end of a block -/

/-- The end of a block of this name is found behind this body, whatever follows. -/
def Encloses (name body : Text) : Prop :=
  ∀ rest, closing (Delimiters.standard.openMarker name) (Delimiters.standard.closeMarker name) 0 0
    (body ++ tag ("end-" ++ name) ++ rest) = some (body, rest)

theorem encloses_of_walk {body : Text} (h : ∀ rest,
    walk (closingWalk name) 0 0 (body ++ (tag ("end-" ++ name) ++ rest)) =
      (walk (closingWalk name) 0 0 (tag ("end-" ++ name) ++ rest)).map (prepend body)) :
    Encloses name body := by
  intro rest
  have hw := h rest
  rw [closingWalk_end, ← List.append_assoc] at hw
  rw [closing_eq_walk]
  refine hw.trans ?_
  simp [prepend]

theorem encloses_of_crosses {body : Text} (h : Crosses (closingWalk name) body 0 0) :
    Encloses name body :=
  encloses_of_walk fun _ => h _

theorem block?_of_encloses {call : Call} {body rest : Text}
    (hf : call.following = body ++ tag ("end-" ++ call.name) ++ rest)
    (hb : Encloses call.name body) :
    call.block? .standard =
      some ⟨body, call.stop + Text.bytes (body ++ tag ("end-" ++ call.name))⟩ := by
  simp only [Call.block?]
  rw [hf, hb]
  simp only [Option.map_some, closeMarker_standard, Text.bytes_append, Nat.add_assoc]

theorem closing_of_crosses {body : Text} {depth : Nat}
    (h : Crosses (closingWalk name) body 0 depth) :
    closing (Delimiters.standard.openMarker name) (Delimiters.standard.closeMarker name) 0 0 body =
      none := by
  have hw := h []
  rw [List.append_nil] at hw
  rw [closing_eq_walk]
  exact hw

/-! ### The parts of a branch -/

theorem splitAtElse_of_crosses {body : Text} (h : Crosses elseWalk body 0 0) :
    Branch.splitAtElse .standard "if" body = (body, none) := by
  have hw := h []
  rw [List.append_nil] at hw
  have hn : topLevel (Delimiters.standard.openMarker "if") (Delimiters.standard.closeMarker "if")
      (Delimiters.standard.bareMarker "else") 0 0 body = none := by
    rw [topLevel_eq_walk]
    exact hw
  rw [Branch.splitAtElse, hn]

theorem splitAtElse_else {yes : Text} (h : Crosses elseWalk yes 0 0) (no : Text) :
    Branch.splitAtElse .standard "if" (yes ++ tag "else" ++ no) = (yes, some no) := by
  have hw := h (tag "else" ++ no)
  have hs : topLevel (Delimiters.standard.openMarker "if") (Delimiters.standard.closeMarker "if")
      (Delimiters.standard.bareMarker "else") 0 0 (yes ++ tag "else" ++ no) = some (yes, no) := by
    rw [elseWalk_else, ← List.append_assoc] at hw
    rw [topLevel_eq_walk]
    refine hw.trans ?_
    simp [prepend]
  rw [Branch.splitAtElse, hs]

end Spelling

namespace Engine

open Spelling

/-- The engine that knows the built-in tags only, with the standard delimiters. -/
abbrev ofStandard (settings : Settings) : Engine :=
  ofSettings { settings with delimiters := .standard }

theorem scan_span (settings : Settings) (scene : Scene) {inside : Text}
    (h : Text.contains "%\x7d" inside = false) {position stop : Nat} {following : Text}
    {draft turned : Draft}
    (ht : (ofStandard settings).runTag scene
      ⟨Text.trim inside, position, position + Text.bytes (span inside)⟩ following draft =
        (turned, stop)) :
    (ofStandard settings).scan scene (scanner position (span inside ++ following)) draft =
      (ofStandard settings).scan scene
        ((scanner (position + Text.bytes (span inside)) following).seek stop) turned := by
  have hs := scan_of_tag (ofStandard settings) scene draft (next?_span h position following)
  have hr : (scanner (position + Text.bytes (span inside)) following).rest = following := rfl
  rw [hr, ht] at hs
  exact hs

end Engine
end Stencil
