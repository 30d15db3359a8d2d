import Stencil.Expression
import Stencil.Proofs.Margin
/-!
# Pipelines

The stages of an expression are applied from left to right to the value in front of them, and the
first one that fails ends the expression. Three readers take an expression apart: one cuts it at the
bars, one cuts a stage into a filter and its arguments, one looks for the filter for defaults. They
agree as long as no filter has a blank in its name.
-/
namespace Stencil

namespace Text

theorem isBlank_of_trim {t rest : Text} {c : Char} (h : trim t = c :: rest) :
    isBlank c = false := by
  rw [trim_eq, trimStart] at h
  have hhead := List.head?_dropWhile_not isBlank (trimEnd t)
  rw [h] at hhead
  exact hhead

private theorem firstWord_cons_blank {c : Char} (hc : isBlank c = true) (t : Text) :
    firstWord (c :: t) = firstWord t := by
  rw [firstWord, trimStart_cons, if_pos hc, firstWord]

private theorem firstWord_append {word t : Text} (hw : ∀ c ∈ word, isBlank c = false)
    (hne : word ≠ [])
    (ht : ∀ c rest, t = c :: rest → isBlank c = true) : firstWord (word ++ t) = word := by
  obtain ⟨c, word, rfl⟩ := List.exists_cons_of_ne_nil hne
  have hkeep : ∀ d ∈ c :: word, (!isBlank d) = true := fun d hd => by
    rw [hw d hd]
    rfl
  have hstop : t.takeWhile (fun c => !isBlank c) = [] := by
    cases t with
    | nil => rfl
    | cons c rest => exact List.takeWhile_cons_of_neg (by simp [ht c rest rfl])
  rw [firstWord, List.cons_append, trimStart_of_head (hw c List.mem_cons_self), ← List.cons_append,
    List.takeWhile_append_of_pos hkeep, hstop, List.append_nil]

end Text

namespace Arguments

variable {separator : Char} {quote : Option Char} {s t backwards name : Text} {others : List Text}

/-- Every quote that is opened is closed. -/
def Closed (t : Text) : Prop := t.foldl quoteAfter none = none

/-! ### Tokens -/

private theorem exists_of_splitFrom (hb : backwards ≠ [])
    (h : splitFrom quote backwards t = name :: others) :
    ∃ word rest, name = backwards.reverse ++ word ∧ t = word ++ rest ∧
      ∀ c after, rest = c :: after → Text.isAsciiBlank c = true := by
  have htoken : token backwards = [backwards.reverse] := by
    rw [token, if_neg (by simpa using hb)]
  induction t generalizing quote backwards with
  | nil =>
    rw [splitFrom, htoken] at h
    cases h
    exact ⟨[], [], (List.append_nil _).symm, rfl, fun _ _ he => by cases he⟩
  | cons c t ih =>
    rw [splitFrom] at h
    split at h
    · next hc =>
      rw [htoken] at h
      cases h
      refine ⟨[], c :: t, (List.append_nil _).symm, rfl, ?_⟩
      rintro _ _ ⟨⟩
      exact (Bool.and_eq_true_iff.mp hc).2
    · have hcons : c :: backwards ≠ [] := List.cons_ne_nil c backwards
      obtain ⟨word, rest, rfl, rfl, hrest⟩ :=
        ih hcons h (by rw [token, if_neg (by simp)])
      exact ⟨c :: word, rest, by simp, rfl, hrest⟩

private theorem firstWord_of_split (h : split t = name :: others)
    (hname : ∀ c ∈ name, Text.isBlank c = false) : Text.firstWord t = name := by
  induction t with
  | nil => cases h
  | cons c t ih =>
    rw [split, splitFrom] at h
    by_cases hc : Text.isAsciiBlank c = true
    · rw [if_pos (by simpa using hc)] at h
      rw [Text.firstWord_cons_blank (Text.isBlank_of_isAsciiBlank hc)]
      exact ih h
    · rw [if_neg (by simpa using hc)] at h
      obtain ⟨word, rest, rfl, rfl, hrest⟩ := exists_of_splitFrom (List.cons_ne_nil c []) h
      exact Text.firstWord_append hname (by simp) fun c after he =>
        Text.isBlank_of_isAsciiBlank (hrest c after he)

private theorem splitFrom_ne_nil (hb : backwards ≠ []) : splitFrom quote backwards t ≠ [] := by
  induction t generalizing quote backwards with
  | nil => simp [splitFrom, token, hb]
  | cons c t ih =>
    rw [splitFrom]
    split
    · simp [token, hb]
    · exact ih (List.cons_ne_nil c backwards)

/-! ### Pieces -/

private theorem trim_of_mem_splitAtFrom {piece : Text}
    (h : piece ∈ splitAtFrom separator quote backwards t) : ∃ s, piece = Text.trim s := by
  induction t generalizing quote backwards with
  | nil => exact ⟨_, List.mem_singleton.mp h⟩
  | cons c t ih =>
    rw [splitAtFrom] at h
    split at h
    · rcases List.mem_cons.mp h with rfl | h
      · exact ⟨_, rfl⟩
      · exact ih h
    · exact ih h

private theorem eq_nil_of_split_eq_nil {piece : Text} (h : piece ∈ splitAt separator t)
    (hs : split piece = []) : piece = [] := by
  obtain ⟨s, rfl⟩ := trim_of_mem_splitAtFrom h
  cases htrim : Text.trim s with
  | nil => rfl
  | cons c rest =>
    have hblank := Text.isBlank_of_trim htrim
    have hc : Text.isAsciiBlank c = false := by
      rw [Bool.eq_false_iff]
      intro hc
      rw [Text.isBlank_of_isAsciiBlank hc] at hblank
      cases hblank
    rw [htrim, split, splitFrom, if_neg (by simp [hc])] at hs
    exact absurd hs (splitFrom_ne_nil (List.cons_ne_nil c []))

private theorem splitAt_ne_nil (separator : Char) (t : Text) : splitAt separator t ≠ [] := by
  suffices h : ∀ quote backwards, splitAtFrom separator quote backwards t ≠ [] from h none []
  induction t with
  | nil => exact fun _ _ => List.cons_ne_nil _ _
  | cons c t ih =>
    intro quote backwards
    rw [splitAtFrom]
    split
    · exact List.cons_ne_nil _ _
    · exact ih _ _

private theorem quoteAfter_separator {c : Char}
    (h : (quote.isNone && !isQuote c && c == separator) = true) :
    quote = none ∧ quoteAfter quote c = none := by
  simp only [Bool.and_eq_true, Option.isNone_iff_eq_none, Bool.not_eq_true'] at h
  obtain ⟨⟨rfl, hq⟩, -⟩ := h
  exact ⟨rfl, by simp [quoteAfter, hq]⟩

private theorem splitAtFrom_append_blank {c : Char} (hc : Text.isBlank c = true)
    (hs : Text.isBlank separator = false) (h : s.foldl quoteAfter quote = none) :
    splitAtFrom separator quote backwards (s ++ [c]) = splitAtFrom separator quote backwards s := by
  induction s generalizing quote backwards with
  | nil =>
    obtain rfl : quote = none := h
    have hne : (c == separator) = false := by
      rw [beq_eq_false_iff_ne]
      rintro rfl
      rw [hc] at hs
      cases hs
    simp [splitAtFrom, hne, Text.trim_append_blank hc]
  | cons d s ih =>
    rw [List.foldl_cons] at h
    rw [List.cons_append, splitAtFrom, splitAtFrom]
    split
    · next hd =>
      obtain ⟨-, hnone⟩ := quoteAfter_separator hd
      rw [ih (hnone ▸ h)]
    · exact ih h

theorem closed_append_blank {c : Char} (hc : Text.isBlank c = true) (h : Closed s) :
    Closed (s ++ [c]) := by
  have hq : isQuote c = false := by
    rw [isQuote, Bool.or_eq_false_iff, beq_eq_false_iff_ne, beq_eq_false_iff_ne]
    constructor <;> rintro rfl <;> revert hc <;> decide
  rw [Closed, List.foldl_append, h]
  simp [quoteAfter, hq]

private theorem splitAt_append_blanks {gap : Text} (hgap : ∀ c ∈ gap, Text.isBlank c = true)
    (hs : Text.isBlank separator = false) (h : Closed s) :
    Closed (s ++ gap) ∧ splitAt separator (s ++ gap) = splitAt separator s := by
  induction gap generalizing s with
  | nil => rw [List.append_nil]; exact ⟨h, rfl⟩
  | cons c gap ih =>
    have hc := hgap c List.mem_cons_self
    have hrest := ih (fun c hc => hgap c (List.mem_cons_of_mem _ hc)) (closed_append_blank hc h)
    rw [List.append_assoc, List.singleton_append] at hrest
    exact ⟨hrest.1, hrest.2.trans (splitAtFrom_append_blank hc hs h)⟩

private theorem splitAtFrom_append (hs : isQuote separator = false)
    (h : s.foldl quoteAfter quote = none) :
    splitAtFrom separator quote backwards (s ++ separator :: t) =
      splitAtFrom separator quote backwards s ++ splitAt separator t := by
  induction s generalizing quote backwards with
  | nil =>
    obtain rfl : quote = none := h
    simp [splitAtFrom, splitAt, hs]
  | cons c s ih =>
    rw [List.foldl_cons] at h
    rw [List.cons_append, splitAtFrom, splitAtFrom]
    split
    · next hc =>
      obtain ⟨-, hnone⟩ := quoteAfter_separator hc
      rw [ih (hnone ▸ h), List.cons_append]
    · exact ih h

private theorem splitAt_append (hs : isQuote separator = false) (h : Closed s) (t : Text) :
    splitAt separator (s ++ separator :: t) = splitAt separator s ++ splitAt separator t :=
  splitAtFrom_append hs h

end Arguments

namespace Expression

variable {filters others : Table Filter} {context : Context} {expression head : Text}
  {stages : List Text} {start input output value : Value} {stage : Text} {problem : Problem}

/-! ### Stages -/

/-- The stage names a filter, which turns the value into another with the arguments written. -/
def StageGives (filters : Table Filter) (input : Value) (stage : Text) (output : Value) : Prop :=
  ∃ name arguments filter, Arguments.split stage = name :: arguments ∧
    filters.get? name = some filter ∧
    filter input (arguments.map Arguments.unquote) = .ok output

/-- The stage is empty, names no filter, or names one that fails. -/
inductive StageFails (filters : Table Filter) (input : Value) : Text → Problem → Prop
  | empty : StageFails filters input [] (.misuse "|" .emptyStage)
  | unknown {stage name : Text} {arguments : List Text} :
    Arguments.split stage = name :: arguments → filters.get? name = none →
    StageFails filters input stage (.unknownFilter name)
  | failed {stage name message : Text} {arguments : List Text} {filter : Filter} :
    Arguments.split stage = name :: arguments → filters.get? name = some filter →
    filter input (arguments.map Arguments.unquote) = .error message →
    StageFails filters input stage (.filterFailed name message)

/-- The stages take the value to another, one after another. -/
inductive Runs (filters : Table Filter) : Value → List Text → Value → Prop
  | done (value : Value) : Runs filters value [] value
  | stage {input value output : Value} {stage : Text} {stages : List Text} :
    StageGives filters input stage value → Runs filters value stages output →
    Runs filters input (stage :: stages) output

/-- The stages name the same filters in both tables, or none. -/
def AgreeOn (filters others : Table Filter) (stages : List Text) : Prop :=
  ∀ stage ∈ stages, ∀ name ∈ (Arguments.split stage).head?, others.get? name = filters.get? name

private theorem applyStage_eq_ok_iff :
    applyStage filters input stage = .ok output ↔ StageGives filters input stage output := by
  constructor
  · intro h
    unfold applyStage at h
    split at h
    · cases h
    next name arguments hsplit =>
    split at h
    · cases h
    next filter hget =>
    split at h
    · next hfilter =>
      cases h
      exact ⟨name, arguments, filter, hsplit, hget, hfilter⟩
    · cases h
  · rintro ⟨name, arguments, filter, hsplit, hget, hfilter⟩
    simp [applyStage, hsplit, hget, hfilter]

private theorem StageFails.applyStage (h : StageFails filters input stage problem) :
    applyStage filters input stage = .error problem := by
  cases h with
  | empty => rfl
  | unknown hsplit hget => simp [Expression.applyStage, hsplit, hget]
  | failed hsplit hget hfilter => simp [Expression.applyStage, hsplit, hget, hfilter]

private theorem stage_cases (hs : stage ∈ Arguments.splitAt '|' expression) (filters : Table Filter)
    (input : Value) :
    (∃ output, StageGives filters input stage output) ∨
      ∃ problem, StageFails filters input stage problem := by
  cases hsplit : Arguments.split stage with
  | nil =>
    obtain rfl := Arguments.eq_nil_of_split_eq_nil hs hsplit
    exact .inr ⟨_, .empty⟩
  | cons name arguments =>
    cases hget : filters.get? name with
    | none => exact .inr ⟨_, .unknown hsplit hget⟩
    | some filter =>
      cases hfilter : filter input (arguments.map Arguments.unquote) with
      | ok output => exact .inl ⟨output, name, arguments, filter, hsplit, hget, hfilter⟩
      | error message => exact .inr ⟨_, .failed hsplit hget hfilter⟩

private theorem Runs.foldlM (h : Runs filters start stages value) :
    stages.foldlM (Expression.applyStage filters) start = .ok value := by
  induction h with
  | done => rfl
  | stage hgives _ ih =>
    rw [List.foldlM_cons, applyStage_eq_ok_iff.mpr hgives]
    exact ih

private theorem Runs.foldlM_error {later : List Text} (h : Runs filters start stages value)
    (hs : StageFails filters value stage problem) :
    (stages ++ stage :: later).foldlM (Expression.applyStage filters) start = .error problem := by
  rw [List.foldlM_append, h.foldlM]
  change List.foldlM _ _ _ = _
  rw [List.foldlM_cons, hs.applyStage]
  rfl

private theorem runs_or_fails (hs : ∀ stage ∈ stages, stage ∈ Arguments.splitAt '|' expression)
    (filters : Table Filter) (start : Value) :
    (∃ value, Runs filters start stages value) ∨
      ∃ earlier stage later value problem, stages = earlier ++ stage :: later ∧
        Runs filters start earlier value ∧ StageFails filters value stage problem := by
  induction stages generalizing start with
  | nil => exact .inl ⟨start, .done start⟩
  | cons stage stages ih =>
    rcases stage_cases (hs stage List.mem_cons_self) filters start with
      ⟨output, hgives⟩ | ⟨problem, hfails⟩
    · rcases ih (fun s hmem => hs s (List.mem_cons_of_mem _ hmem)) output with
        ⟨value, hruns⟩ | ⟨earlier, failing, later, value, problem, rfl, hruns, hfails⟩
      · exact .inl ⟨value, .stage hgives hruns⟩
      · exact .inr ⟨stage :: earlier, failing, later, value, problem, rfl, .stage hgives hruns,
          hfails⟩
    · exact .inr ⟨[], stage, stages, start, problem, rfl, .done start, hfails⟩

/-! ### Filters that are not asked for -/

private theorem AgreeOn.stageGives (h : AgreeOn filters others [stage])
    (hs : StageGives filters input stage output) : StageGives others input stage output := by
  obtain ⟨name, arguments, filter, hsplit, hget, hfilter⟩ := hs
  have hagree := h stage (List.mem_singleton_self _) name (by simp [hsplit])
  exact ⟨name, arguments, filter, hsplit, hagree.trans hget, hfilter⟩

private theorem AgreeOn.stageFails (h : AgreeOn filters others [stage])
    (hs : StageFails filters input stage problem) : StageFails others input stage problem := by
  have hstage := h stage (List.mem_singleton_self _)
  cases hs with
  | empty => exact .empty
  | unknown hsplit hget => exact .unknown hsplit ((hstage _ (by simp [hsplit])).trans hget)
  | failed hsplit hget hfilter =>
    exact .failed hsplit ((hstage _ (by simp [hsplit])).trans hget) hfilter

private theorem Runs.of_agreeOn (h : Runs filters start stages value)
    (ha : AgreeOn filters others stages) :
    Runs others start stages value := by
  induction h with
  | done value => exact .done value
  | @stage _ _ _ stage stages hgives _ ih =>
    have hfirst : AgreeOn filters others [stage] := fun s hs =>
      ha s (List.mem_singleton.mp hs ▸ List.mem_cons_self)
    exact .stage (hfirst.stageGives hgives) (ih fun s hs => ha s (List.mem_cons_of_mem _ hs))

/-! ### The filter for defaults -/

/-- No filter has a blank in its name. -/
def BlankFree (filters : Table Filter) : Prop :=
  ∀ name filter, filters.get? name = some filter → ∀ c ∈ name, Text.isBlank c = false

private theorem blankFree_builtIns : BlankFree Filter.builtIns := by
  intro name filter h
  have hall : (Filter.builtIns.keys.all fun name => name.all fun c => !Text.isBlank c) = true := by
    decide
  have hname := List.all_eq_true.mp hall name (List.mem_map_of_mem (Table.mem_of_get? h))
  exact fun c hc => by simpa using List.all_eq_true.mp hname c hc

private theorem isDefaultStage_iff (hf : BlankFree filters)
    (h : StageGives filters input stage output) :
    isDefaultStage stage = true ↔ (Arguments.split stage).head? = some ("default" : Text) := by
  obtain ⟨name, arguments, filter, hsplit, hget, -⟩ := h
  rw [isDefaultStage, Arguments.firstWord_of_split hsplit (hf name filter hget), hsplit,
    List.head?_cons, Option.some_inj, beq_iff_eq]

private theorem Runs.any_isDefaultStage_iff (hf : BlankFree filters)
    (h : Runs filters start stages value) :
    stages.any isDefaultStage = true ↔
      ∃ stage ∈ stages, (Arguments.split stage).head? = some ("default" : Text) := by
  induction h with
  | done => simp
  | stage hgives _ ih =>
    rw [List.any_cons, Bool.or_eq_true, ih, isDefaultStage_iff hf hgives]
    simp

/-! ### Expressions -/

private theorem evaluate_of_split (hs : Arguments.splitAt '|' expression = head :: stages)
    (filters : Table Filter) (context : Context) :
    evaluate filters context expression =
      (stages.foldlM (applyStage filters) ((value? context head).getD .null)).bind fun result =>
        if (value? context head).isNone && !stages.any isDefaultStage then
          .error (.notFound (Text.trim head))
        else .ok result := by
  rw [evaluate, hs]
  rfl

private theorem evaluate_of_found (hs : Arguments.splitAt '|' expression = head :: stages)
    (hv : value? context head = some value) (filters : Table Filter) :
    evaluate filters context expression = stages.foldlM (applyStage filters) value := by
  rw [evaluate_of_split hs, hv, Option.getD_some]
  cases stages.foldlM (applyStage filters) value with
  | error problem => rfl
  | ok result => rfl

private theorem evaluate_append {gap : Text}
    (hs : Arguments.splitAt '|' expression = head :: stages)
    (hv : value? context head = some value) (hc : Arguments.Closed expression)
    (hgap : ∀ c ∈ gap, Text.isBlank c = true) (filters : Table Filter) (more : Text) :
    evaluate filters context (expression ++ gap ++ '|' :: more) =
      (evaluate filters context expression).bind fun result =>
        (Arguments.splitAt '|' more).foldlM (applyStage filters) result := by
  obtain ⟨hclosed, hsame⟩ : Arguments.Closed (expression ++ gap) ∧
      Arguments.splitAt '|' (expression ++ gap) = Arguments.splitAt '|' expression :=
    Arguments.splitAt_append_blanks hgap (by decide) hc
  have hpieces : Arguments.splitAt '|' (expression ++ gap ++ '|' :: more) =
      head :: (stages ++ Arguments.splitAt '|' more) := by
    rw [Arguments.splitAt_append (by decide) hclosed, hsame, hs, List.cons_append]
  rw [evaluate_of_found hpieces hv, evaluate_of_found hs hv, List.foldlM_append]
  rfl

/-- An expression is a left fold of its stages over its value, which is null in place of a variable
that is missing. The first stage that fails says what the problem is, whatever the filters behind it
are. A variable that is missing is a problem behind stages none of which names the filter for
defaults. More stages behind an expression go on from its value. -/
theorem evaluate_folds (filters : Table Filter) (hf : BlankFree filters) (context : Context)
    (expression : Text) :
    ∃ head stages, Arguments.splitAt '|' expression = head :: stages ∧
      let found := value? context head
      let start := found.getD .null
      ((∃ value, Runs filters start stages value) ∨
        ∃ earlier stage later value problem, stages = earlier ++ stage :: later ∧
          Runs filters start earlier value ∧ StageFails filters value stage problem) ∧
      (∀ earlier stage later value problem, stages = earlier ++ stage :: later →
        Runs filters start earlier value → StageFails filters value stage problem →
          ∀ others, AgreeOn filters others (earlier ++ [stage]) →
            evaluate others context expression = .error problem) ∧
      (∀ value, Runs filters start stages value →
        (found.isSome ∨ (∃ stage ∈ stages,
            (Arguments.split stage).head? = some ("default" : Text)) →
          evaluate filters context expression = .ok value) ∧
        (found = none → (∀ stage ∈ stages,
            (Arguments.split stage).head? ≠ some ("default" : Text)) →
          evaluate filters context expression = .error (.notFound (Text.trim head)))) ∧
      (found.isSome → Arguments.Closed expression →
        ∀ gap more, (∀ c ∈ gap, Text.isBlank c = true) →
          evaluate filters context (expression ++ gap ++ '|' :: more) =
            (evaluate filters context expression).bind fun value =>
              (Arguments.splitAt '|' more).foldlM (applyStage filters) value) := by
  obtain ⟨head, stages, hs⟩ :=
    List.exists_cons_of_ne_nil (Arguments.splitAt_ne_nil '|' expression)
  have hmem : ∀ stage ∈ stages, stage ∈ Arguments.splitAt '|' expression := fun stage hstage =>
    hs ▸ List.mem_cons_of_mem head hstage
  refine ⟨head, stages, hs, runs_or_fails hmem filters _, ?_, fun value hruns => ⟨?_, ?_⟩, ?_⟩
  · rintro earlier stage later value problem rfl hruns hfails others hagree
    have hearlier : AgreeOn filters others earlier := fun s hmem =>
      hagree s (List.mem_append_left _ hmem)
    have hstage : AgreeOn filters others [stage] := fun s hmem =>
      hagree s (List.mem_append_right _ hmem)
    rw [evaluate_of_split hs,
      (hruns.of_agreeOn hearlier).foldlM_error (hstage.stageFails hfails)]
    rfl
  · intro h
    have hkept : ((value? context head).isNone && !stages.any isDefaultStage) = false := by
      rcases h with hfound | hdefault
      · rw [Option.isNone_eq_false_iff.mpr hfound, Bool.false_and]
      · rw [(hruns.any_isDefaultStage_iff hf).mpr hdefault, Bool.not_true, Bool.and_false]
    rw [evaluate_of_split hs, hruns.foldlM, Except.bind, hkept]
    rfl
  · intro hmissing hno
    have hnone : stages.any isDefaultStage = false := by
      rw [Bool.eq_false_iff]
      intro hany
      obtain ⟨stage, hstage, hdefault⟩ := (hruns.any_isDefaultStage_iff hf).mp hany
      exact hno stage hstage hdefault
    rw [evaluate_of_split hs, hruns.foldlM, Except.bind, hmissing, hnone]
    rfl
  · intro hfound hclosed gap more hgap
    obtain ⟨value, hv⟩ := Option.isSome_iff_exists.mp hfound
    exact evaluate_append hs hv hclosed hgap filters more

/-- The default stands in for a missing variable, and an unknown filter comes before the miss. -/
theorem evaluate_folds_missing :
    let context : Context := { site := "site" }
    let filled : Text := ".title | default \"a|b\" | size"
    let refused : Text := ".title | size | shout | default 'x'"
    BlankFree Filter.builtIns ∧
      evaluate Filter.builtIns context filled = .ok (.int 3) ∧
      evaluate Filter.builtIns context refused = .error (.unknownFilter "shout") := by
  intro context filled refused
  have hmissing : value? context ".title" = none := rfl
  have hsize (input : Value) :
      StageGives Filter.builtIns input "size" (.int (Filter.sizeOf input)) :=
    ⟨"size", [], Filter.size, by decide, rfl, rfl⟩
  refine ⟨blankFree_builtIns, ?_, ?_⟩
  · obtain ⟨head, stages, hs, -, -, hruns, -⟩ :=
      evaluate_folds Filter.builtIns blankFree_builtIns context filled
    have hsplit : Arguments.splitAt '|' filled =
        [(".title" : Text), "default \"a|b\"", "size"] := by decide
    obtain ⟨rfl, rfl⟩ := List.cons.inj (hs.symm.trans hsplit)
    have hdefault : StageGives Filter.builtIns .null "default \"a|b\"" (.text "a|b") :=
      ⟨"default", ["\"a|b\""], Filter.default, by decide, rfl, rfl⟩
    refine (hruns (.int 3) ?_).1 (.inr ⟨"default \"a|b\"", List.mem_cons_self, by decide⟩)
    rw [hmissing]
    exact .stage hdefault (.stage (hsize _) (.done _))
  · obtain ⟨head, stages, hs, -, hfails, -⟩ :=
      evaluate_folds Filter.builtIns blankFree_builtIns context refused
    have hsplit : Arguments.splitAt '|' refused =
        [(".title" : Text), "size", "shout", "default 'x'"] := by decide
    obtain ⟨rfl, rfl⟩ := List.cons.inj (hs.symm.trans hsplit)
    have hshout : Arguments.split "shout" = [("shout" : Text)] := by decide
    refine hfails ["size"] "shout" ["default 'x'"] (.int 0) _ rfl ?_ ?_ _ fun _ _ _ _ => rfl
    · rw [hmissing]
      exact .stage (hsize .null) (.done _)
    · exact .unknown hshout rfl

end Expression
end Stencil
