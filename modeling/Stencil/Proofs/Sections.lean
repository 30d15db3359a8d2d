import Stencil.Proofs.Chain
import Stencil.Proofs.Tokens
/-!
# Slot sections

A slot section is read in two ways. In a child body its content is stored for all that its tag says,
without the quotes around it. Elsewhere it is stored for the first token, and a tag that names
nothing is a problem. Both readings come to the same for a tag that says one token.
-/
namespace Stencil

namespace Text

private theorem isBlank_of_trim_concat {t rest : Text} {c : Char} (h : trim t = rest ++ [c]) :
    isBlank c = false := by
  have hr : (trimStart t).reverse.dropWhile isBlank = c :: rest.reverse := by
    have hrev := congrArg List.reverse h
    rwa [trim, trimEnd, List.reverse_reverse, List.reverse_concat] at hrev
  have hhead := List.head?_dropWhile_not isBlank (trimStart t).reverse
  rw [hr] at hhead
  exact hhead

private theorem contains_eq_false_of_prefix {front pattern t : Text} (hp : front <+: pattern)
    (h : contains front t = false) : contains pattern t = false := by
  rw [Bool.eq_false_iff, Ne, contains_iff_infix] at h ⊢
  exact fun hc => h (hp.isInfix.trans hc)

end Text

namespace Arguments

/-! ### The quotes around a name -/

private theorem unquote_cases (t : Text) :
    unquote t = t ∨ ∃ q, isQuote q = true ∧ t = q :: unquote t ++ [q] := by
  cases t with
  | nil => exact .inl rfl
  | cons q t =>
    rw [unquote]
    split
    · next h =>
      obtain ⟨hq, hlast⟩ := Bool.and_eq_true_iff.mp h
      obtain ⟨inner, rfl⟩ := List.getLast?_eq_some_iff.mp (beq_iff_eq.mp hlast)
      refine .inr ⟨q, hq, ?_⟩
      rw [List.dropLast_concat]
      rfl
    · exact .inl rfl

private theorem length_unquote_le (t : Text) : (unquote t).length ≤ t.length := by
  rcases unquote_cases t with ht | ⟨q, -, ht⟩
  · exact Nat.le_of_eq (congrArg List.length ht)
  · have hl := congrArg List.length ht
    simp only [List.length_append, List.length_cons] at hl
    omega

private theorem unquote_of_length_le {t : Text} (h : t.length ≤ (unquote t).length) :
    unquote t = t := by
  rcases unquote_cases t with ht | ⟨q, -, ht⟩
  · exact ht
  · have hl := congrArg List.length ht
    simp only [List.length_append, List.length_cons] at hl
    omega

private theorem isQuote_of_isAsciiBlank {c : Char} (hc : Text.isAsciiBlank c = true) :
    isQuote c = false := by
  simp only [Text.isAsciiBlank, Bool.or_eq_true, beq_iff_eq] at hc
  rcases hc with (((rfl | rfl) | rfl) | rfl) | rfl <;> decide

private theorem unquote_ne_append {token back : Text} {c : Char} (hc : Text.isAsciiBlank c = true)
    (hback : back ≠ []) : unquote token ≠ unquote (token ++ c :: back) := by
  intro he
  have hpos := List.length_pos_iff.mpr hback
  have hle := length_unquote_le token
  rcases unquote_cases (token ++ c :: back) with hall | ⟨q, hq, hall⟩
  · have hl := congrArg List.length (he.trans hall)
    simp only [List.length_append, List.length_cons] at hl
    omega
  · rw [← he] at hall
    have hl := congrArg List.length hall
    simp only [List.length_append, List.length_cons, List.length_nil] at hl
    -- The lengths leave room for one quote on either side, so the blank is the quote in front.
    have htoken : unquote token = token := unquote_of_length_le (by omega)
    obtain ⟨x, rfl⟩ : ∃ x, back = [x] := List.length_eq_one_iff.mp (by omega)
    have hshift : token ++ [c] = q :: token := by
      have hsame : (token ++ [c]) ++ [x] = (q :: token) ++ [q] := by simpa [htoken] using hall
      exact (List.append_inj' hsame rfl).1
    have hcount := congrArg (List.count c) hshift
    by_cases hqc : q = c
    · rw [hqc, isQuote_of_isAsciiBlank hc] at hq
      cases hq
    · rw [List.count_append, List.count_singleton_self, List.count_cons_of_ne hqc] at hcount
      omega

private theorem split_trim_cases (t : Text) :
    (Text.trim t = [] ∨ IsToken (Text.trim t)) ∨
      ∃ token others c back, split (Text.trim t) = token :: others ∧
        Text.trim t = token ++ c :: back ∧ Text.isAsciiBlank c = true ∧ back ≠ [] := by
  obtain ⟨⟨front, pieces⟩, hproper, htext, htokens⟩ := exists_cut [] (Text.trim t) blanksQuoted_nil
  have ht : front ++ pieces.flatMap (fun piece => piece.1 ++ piece.2) = Text.trim t := htext
  have hfront : front = [] := by
    cases front with
    | nil => rfl
    | cons c front =>
      have hblank := Text.isBlank_of_isAsciiBlank (hproper.front c List.mem_cons_self)
      rw [Text.isBlank_of_trim ht.symm] at hblank
      cases hblank
  subst hfront
  cases pieces with
  | nil => exact .inl (.inl ht.symm)
  | cons piece pieces =>
    obtain ⟨token, gap⟩ := piece
    obtain ⟨htoken, hgap⟩ := hproper.pieces _ List.mem_cons_self
    cases pieces with
    | nil =>
      have hnone : gap = [] := by
        rcases List.eq_nil_or_concat gap with rfl | ⟨gap, c, rfl⟩
        · rfl
        · have hblank := Text.isBlank_of_isAsciiBlank (hgap c (by simp))
          have hlast : Text.trim t = (token ++ gap) ++ [c] := by simpa using ht.symm
          rw [Text.isBlank_of_trim_concat hlast] at hblank
          cases hblank
      have hall : token = Text.trim t := by simpa [hnone] using ht
      exact .inl (.inr (hall ▸ htoken))
    | cons next pieces =>
      obtain ⟨-, hne⟩ := hproper.inner _ List.mem_cons_self
      obtain ⟨c, gap, rfl⟩ := List.exists_cons_of_ne_nil hne
      have hnext := (hproper.pieces next (by simp)).1.ne_nil
      have hblank := hgap c List.mem_cons_self
      refine .inr ⟨token, _, c, _, htokens.symm, by simpa using ht.symm, hblank, ?_⟩
      simp [hnext]

end Arguments

/-! ### What is stored -/

namespace Context

private theorem has_storeBlock (context : Context) (name content other : Text) :
    (context.storeBlock name content).blocks.has other = true ↔
      name = other ∨ context.blocks.has other = true := by
  have hget : (context.storeBlock name content).blocks.get? other =
      (context.blocks.get? other).or (Table.get? other [(name, content)]) :=
    get?_storeBlocks context [(name, content)] other
  rw [Table.has, hget, Option.isSome_or, Bool.or_eq_true, or_comm, Table.has]
  refine or_congr_left ?_
  by_cases h : name = other <;> simp [Table.get?, h]

private theorem storeBlock_eq_iff {context : Context} {name other : Text} (hne : name ≠ other)
    (content : Text) : context.storeBlock name content = context.storeBlock other content ↔
      context.blocks.has name = true ∧ context.blocks.has other = true := by
  constructor
  · intro he
    have hn := (context.has_storeBlock name content name).mpr (.inl rfl)
    have ho := (context.has_storeBlock other content other).mpr (.inl rfl)
    rw [he, has_storeBlock] at hn
    rw [← he, has_storeBlock] at ho
    exact ⟨hn.resolve_left hne.symm, ho.resolve_left hne⟩
  · rintro ⟨hn, ho⟩
    rw [storeBlock, storeBlock, if_pos hn, if_pos ho]

end Context

namespace Slot

open Spelling

/-- The name that a section has in a child body. -/
def nameWithin (written : Text) : Text := Arguments.unquote (Text.trim written)

/-- The name that a section has elsewhere, if it has one. -/
def nameElsewhere? (written : Text) : Option Text :=
  (Call.mk "slot" (Text.trim written) 0 0 []).firstName?

def storeWithin (written body : Text) (draft : Draft) : Draft :=
  draft.mapContext (·.storeBlock (nameWithin written) body)

def storeElsewhere (written body : Text) (draft : Draft) : Draft :=
  match nameElsewhere? written with
  | some name => draft.mapContext (·.storeBlock name body)
  | none => draft.report (.misuse "slot" (.missing .name))

/-- The tag says one token, and more than quotes. -/
structure OneName (written : Text) : Prop where
  isToken : Arguments.IsToken (Text.trim written)
  ne_nil : nameWithin written ≠ []

variable {written body : Text}

private theorem nameElsewhere?_eq_iff :
    nameElsewhere? written = some (nameWithin written) ↔ OneName written := by
  rw [nameElsewhere?, Call.firstName?, Call.tokens, Option.filter_eq_some_iff]
  constructor
  · rintro ⟨hfirst, hne⟩
    have hname : nameWithin written ≠ [] := by simpa using hne
    rcases Arguments.split_trim_cases written with
      (hnil | htoken) | ⟨token, others, c, back, hsplit, htrim, hc, hback⟩
    · rw [nameWithin, hnil] at hname
      exact absurd rfl hname
    · exact ⟨htoken, hname⟩
    · rw [hsplit] at hfirst
      have he := Option.some.inj hfirst
      rw [nameWithin, htrim] at he
      exact absurd he (Arguments.unquote_ne_append hc hback)
  · rintro ⟨htoken, hne⟩
    refine ⟨?_, by simpa using hne⟩
    rw [htoken.split]
    rfl

private theorem storeElsewhere_eq_iff (draft : Draft) :
    storeElsewhere written body draft = storeWithin written body draft ↔
      OneName written ∨ ∃ name, nameElsewhere? written = some name ∧
        draft.context.blocks.has name = true ∧
          draft.context.blocks.has (nameWithin written) = true := by
  rw [← nameElsewhere?_eq_iff, storeElsewhere]
  cases hname : nameElsewhere? written with
  | none =>
    constructor
    · intro he
      have hproblems := congrArg (List.length ∘ Draft.problems) he
      simp [Draft.report, storeWithin, Draft.mapContext] at hproblems
    · rintro (h | ⟨name, h, -⟩) <;> cases h
  | some name =>
    dsimp only
    by_cases hsame : name = nameWithin written
    · subst hsame
      exact ⟨fun _ => .inl rfl, fun _ => rfl⟩
    · have hstore : draft.mapContext (·.storeBlock name body) = storeWithin written body draft ↔
          draft.context.storeBlock name body =
            draft.context.storeBlock (nameWithin written) body :=
        ⟨congrArg Draft.context, fun h => congrArg (fun context => { draft with context }) h⟩
      rw [hstore, Context.storeBlock_eq_iff hsame]
      constructor
      · rintro ⟨hn, hw⟩
        exact .inr ⟨name, rfl, hn, hw⟩
      · rintro (h | ⟨_, ⟨⟩, hn, hw⟩)
        · exact absurd (Option.some.inj h) hsame
        · exact ⟨hn, hw⟩

/-! ### Both ways to read a section -/

private theorem slot_mem_withBody : BuiltIn.slot ∈ BuiltIn.withBody := by decide

def slotTag : BodyTag := ⟨.slot, slot_mem_withBody⟩

private theorem run_slotTag {scene : Scene} (hscene : scene.delimiters = .standard)
    (hb : Encloses "slot" body) (draft : Draft) :
    (BuiltIn.slot.run scene (slotTag.call written body) draft).1 =
      storeElsewhere written body draft := by
  have hblock := slotTag.block?_call written hb
  rw [← hscene] at hblock
  have hname : (slotTag.call written body).firstName? = nameElsewhere? written := rfl
  change (store scene _ draft).1 = _
  simp only [store, TagAction.ofBlock, Call.block, hblock, hname, storeElsewhere]
  cases nameElsewhere? written <;> rfl

/-- A slot section stores its content for its first token where it is scanned, and for all that its
tag says where slots are collected. It does the same in both places just if it has one name, or if
each of its two names is taken. -/
theorem section_alike_iff (settings : Settings) {scene : Scene}
    (hscene : scene.delimiters = .standard)
    (hstart : Text.contains "\x7b%" written = false)
    (hstop : Text.contains "%\x7d" written = false) (hb : Encloses "slot" body) :
    let text := opening "slot" written ++ body ++ tag "end-slot"
    Engine.Effects settings scene text (storeElsewhere written body) ∧
      (∀ front rest draft, Text.Passes (openMarker .standard) front (text ++ rest) →
        collect .standard (front ++ text ++ rest) draft =
          (front ++ (collect .standard rest (storeWithin written body draft)).1,
            (collect .standard rest (storeWithin written body draft)).2)) ∧
      ∀ draft, storeElsewhere written body draft = storeWithin written body draft ↔
        OneName written ∨ ∃ name, nameElsewhere? written = some name ∧
          draft.context.blocks.has name = true ∧
            draft.context.blocks.has (nameWithin written) = true := by
  intro text
  refine ⟨?_, fun front rest draft hfront => ?_, storeElsewhere_eq_iff⟩
  · have hmarker : ∀ name ∈ reserved,
        Text.contains (Delimiters.standard.openMarker name) written = false := by
      intro name _
      refine Text.contains_eq_false_of_prefix ?_ hstart
      rw [Delimiters.openMarker, List.append_assoc]
      exact List.prefix_append _ _
    have heffects := Engine.effects_block settings scene hscene slotTag ⟨written, hstop, hmarker⟩ hb
    have hrun : (fun draft => (slotTag.builtIn.run scene (slotTag.call written body) draft).1) =
        storeElsewhere written body :=
      funext fun draft => run_slotTag hscene hb draft
    rw [hrun] at heffects
    exact heffects
  · obtain ⟨hkept, hstored⟩ := keptText_pieces_append hfront
    have hslot : collect .standard (text ++ rest) draft =
        collect .standard rest (storeWithin written body draft) :=
      sheds_slot hstop hb rest draft
    rw [List.append_assoc, ← hslot]
    exact Prod.ext hkept (hstored draft)

/-- A name in quotes is one token, blanks and all. -/
theorem section_alike_iff_quoted :
    let settings := Engine.standard.toSettings
    let scene := Engine.standard.sceneWithin (.ofKnown []) 0
    let draft : Draft := { context := { site := "." } }
    let written : Text := "'side bar' "
    let text : Text := opening "slot" written ++ "A" ++ tag "end-slot"
    OneName written ∧ (Engine.ofStandard settings).scan scene (scanner 0 text) draft =
      (collect .standard text draft).2 := by
  intro settings scene draft written text
  have hb : Encloses "slot" "A" :=
    encloses_of_crosses ((closingWalk_counts (by decide) (by decide)).plain (by decide) 0)
  have hname : OneName written := nameElsewhere?_eq_iff.mp (by decide)
  obtain ⟨hscan, hcollect, halike⟩ :=
    @section_alike_iff written "A" settings scene rfl (by decide) (by decide) hb
  have hend : (scanner (0 + Text.bytes text) []).next? = none := Scanner.next?_of_nil rfl
  have hscanned := hscan 0 [] draft
  have hcollected := hcollect [] [] draft (Text.passes_nil _ _)
  rw [List.append_nil, Engine.scan_of_none _ _ _ hend, (halike draft).mpr (.inl hname)] at hscanned
  rw [List.append_nil, List.nil_append, collect_nil] at hcollected
  refine ⟨hname, ?_⟩
  rw [hscanned, hcollected]

/-- Of two words only the first one is the name where the section is scanned, and where slots are
collected even no name is one. -/
theorem section_two_words :
    let scene := Engine.standard.sceneWithin (.ofKnown []) 0
    let draft : Draft := { context := { site := "." } }
    let two : Text := "\x7b% slot a b %\x7dA\x7b% end-slot %\x7d"
    let nameless : Text := "\x7b% slot %\x7dA\x7b% end-slot %\x7d"
    (Engine.standard.scan scene (scanner 0 two) draft).context.blocks.get? "a" = some "A" ∧
      (collect .standard two draft).2.context.blocks.get? "a" = none ∧
      (collect .standard two draft).2.context.blocks.get? "a b" = some "A" ∧
      (Engine.standard.scan scene (scanner 0 nameless) draft).problems =
        [.misuse "slot" (.missing .name)] ∧
      (collect .standard nameless draft).2.problems = [] := by
  decide +kernel

end Slot
end Stencil
