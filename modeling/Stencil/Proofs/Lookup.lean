import Stencil.Context
/-!
# Looking up variables

A variable is searched in the arguments of the partial, in the loop scopes from the innermost on
and in the page data, and the first of these that has the whole path gives the value. One that has
only a part of it is passed over, but for the loop scopes: of those that have the first segment only
the innermost is searched.
-/
namespace Stencil

theorem Fields.at?_of_not_has {fields : Fields} {first : Text} (h : fields.has first = false)
    (rest : List Text) : fields.at? (first :: rest) = none := by
  have hn : fields.get? first = none := by simpa [Table.has] using h
  rw [Fields.at?, hn, Option.bind_none]

namespace Context

/-- The scopes from the innermost on, up to the first that has the name. -/
def reach (name : Text) : List Fields → List Fields
  | [] => []
  | scope :: outer => if scope.has name then [scope] else scope :: reach name outer

/-- Where a path that begins with the name is searched, in this order. -/
def sources (context : Context) (name : Text) : List Fields :=
  [context.props] ++ reach name context.scopes ++ [context.data]

section

variable {context : Context} {path first : Text} {rest : List Text} {scopes : List Fields}

private theorem findSome?_reach (first : Text) (rest : List Text) (scopes : List Fields) :
    (reach first scopes).findSome? (fun scope => scope.at? (first :: rest)) =
      (scopes.findSome? fun scope => scope.get? first).bind fun value => value.at? rest := by
  induction scopes with
  | nil => rfl
  | cons scope outer ih =>
    cases hh : scope.has first with
    | true =>
      obtain ⟨value, hv⟩ : ∃ value, scope.get? first = some value :=
        Option.isSome_iff_exists.mp hh
      simp only [reach, hh, if_true, List.findSome?_cons, List.findSome?_nil, Fields.at?, hv,
        Option.bind_some]
      cases value.at? rest <;> rfl
    | false =>
      have hn : scope.get? first = none := by simpa [Table.has] using hh
      simp only [reach, hh, Bool.false_eq_true, if_false, List.findSome?_cons,
        Fields.at?_of_not_has hh, hn, ih]

private theorem lookup?_eq_findSome? (h : segments path = first :: rest) :
    context.lookup? path =
      (context.sources first).findSome? fun source => source.at? (first :: rest) := by
  simp only [lookup?, h, sources, binding?, List.findSome?_append, List.findSome?_singleton,
    findSome?_reach, Option.orElse_eq_orElse, Option.orElse_eq_or, Option.or_assoc]

/-! ### What a scope hides -/

theorem bound_or_unbound (first : Text) (scopes : List Fields) :
    (∃ inner scope outer, scopes = inner ++ scope :: outer ∧
      (∀ passed ∈ inner, passed.has first = false) ∧ scope.has first = true) ∨
    ∀ scope ∈ scopes, scope.has first = false := by
  induction scopes with
  | nil => exact .inr (List.forall_mem_nil _)
  | cons scope outer ih =>
    cases hs : scope.has first with
    | true => exact .inl ⟨[], scope, outer, rfl, List.forall_mem_nil _, hs⟩
    | false =>
      rcases ih with ⟨inner, found, others, rfl, hi, hf⟩ | ho
      · exact .inl ⟨scope :: inner, found, others, rfl, List.forall_mem_cons.mpr ⟨hs, hi⟩, hf⟩
      · exact .inr (List.forall_mem_cons.mpr ⟨hs, ho⟩)

private theorem reach_of_bound {inner outer : List Fields} {scope : Fields}
    (hi : ∀ passed ∈ inner, passed.has first = false) (hs : scope.has first = true) :
    reach first (inner ++ scope :: outer) = inner ++ [scope] := by
  induction inner with
  | nil => simp [reach, hs]
  | cons passed inner ih =>
    obtain ⟨hp, hi⟩ := List.forall_mem_cons.mp hi
    simp [reach, hp, ih hi]

private theorem reach_of_unbound (h : ∀ scope ∈ scopes, scope.has first = false) :
    reach first scopes = scopes := by
  induction scopes with
  | nil => rfl
  | cons scope outer ih =>
    obtain ⟨hs, ho⟩ := List.forall_mem_cons.mp h
    simp [reach, hs, ih ho]

private theorem exists_hidden (name : Text) (scopes : List Fields) :
    ∃ hidden, scopes = reach name scopes ++ hidden ∧ (hidden ≠ [] →
      ∃ inner shadow, reach name scopes = inner ++ [shadow] ∧ shadow.has name = true) := by
  rcases bound_or_unbound name scopes with ⟨inner, scope, outer, rfl, hi, hs⟩ | hn
  · rw [reach_of_bound hi hs]
    exact ⟨outer, by simp, fun _ => ⟨inner, scope, rfl, hs⟩⟩
  · rw [reach_of_unbound hn]
    exact ⟨[], (List.append_nil _).symm, fun h => absurd rfl h⟩

private theorem findSome?_of_unbound (h : ∀ scope ∈ scopes, scope.has first = false)
    (rest : List Text) : scopes.findSome? (fun scope => scope.at? (first :: rest)) = none :=
  List.findSome?_eq_none_iff.mpr fun scope hs => Fields.at?_of_not_has (h scope hs) rest

private theorem findSome?_reach_of_single (h : scopes.countP (Table.has first) ≤ 1)
    (rest : List Text) : (reach first scopes).findSome? (fun scope => scope.at? (first :: rest)) =
      scopes.findSome? fun scope => scope.at? (first :: rest) := by
  induction scopes with
  | nil => rfl
  | cons scope outer ih =>
    cases hh : scope.has first with
    | true =>
      have ho : outer.findSome? (fun scope => scope.at? (first :: rest)) = none := by
        apply findSome?_of_unbound
        simpa [hh, List.countP_eq_zero] using h
      simp [reach, hh, List.findSome?_cons, ho]
    | false =>
      have ho := ih (by simpa [hh] using h)
      simp [reach, hh, List.findSome?_cons, ho]

theorem lookup?_of_bound (h : segments path = first :: rest) {inner outer : List Fields}
    {scope : Fields} (hc : context.scopes = inner ++ scope :: outer)
    (hi : ∀ passed ∈ inner, passed.has first = false) (hs : scope.has first = true) :
    context.lookup? path = (Fields.at? context.props (first :: rest) <|>
      Fields.at? scope (first :: rest) <|> Fields.at? context.data (first :: rest)) := by
  rw [lookup?_eq_findSome? h, sources, hc, reach_of_bound hi hs]
  simp only [List.findSome?_append, List.findSome?_singleton, findSome?_of_unbound hi,
    Option.none_or, Option.orElse_eq_orElse, Option.orElse_eq_or, Option.or_assoc]

theorem lookup?_of_unbound (h : segments path = first :: rest)
    (hs : ∀ scope ∈ context.scopes, scope.has first = false) :
    context.lookup? path = (Fields.at? context.props (first :: rest) <|>
      Fields.at? context.data (first :: rest)) := by
  rw [lookup?_eq_findSome? h, sources, reach_of_unbound hs]
  simp only [List.findSome?_append, List.findSome?_singleton, findSome?_of_unbound hs,
    Option.or_none, Option.orElse_eq_orElse, Option.orElse_eq_or]

end

/-- A lookup gives the value from the first source that has the whole path, and fails only where
none has it. No source is missing but the loop scopes outside of one that has the first segment. -/
theorem lookup_in_order (context : Context) {path first : Text} {rest : List Text}
    (h : segments path = first :: rest) :
    (∀ value, context.lookup? path = some value ↔
      ∃ (before : List Fields) (source : Fields) (after : List Fields),
        context.sources first = before ++ source :: after ∧
        source.at? (first :: rest) = some value ∧
        ∀ earlier ∈ before, Fields.at? earlier (first :: rest) = none) ∧
    (context.lookup? path = none ↔
      ∀ source ∈ context.sources first, Fields.at? source (first :: rest) = none) ∧
    (∃ hidden, context.scopes = reach first context.scopes ++ hidden ∧ (hidden ≠ [] →
      ∃ inner shadow, reach first context.scopes = inner ++ [shadow] ∧
        shadow.has first = true)) ∧
    (context.scopes.countP (Table.has first) ≤ 1 → context.lookup? path =
      ([context.props] ++ context.scopes ++ [context.data]).findSome? fun source =>
        Fields.at? source (first :: rest)) := by
  refine ⟨fun value => ?_, ?_, exists_hidden first context.scopes, fun hone => ?_⟩
  · rw [lookup?_eq_findSome? h, List.findSome?_eq_some_iff]
  · rw [lookup?_eq_findSome? h, List.findSome?_eq_none_iff]
  · rw [lookup?_eq_findSome? h, sources]
    simp only [List.findSome?_append, findSome?_reach_of_single hone rest]

/-- The arguments and the inner of two loops over `x` have only a part of the path, and the outer
loop is hidden by the inner one. -/
theorem lookup_in_order_nested :
    let inner : Fields := [("x", .object [("b", .int 2)])]
    let outer : Fields := [("x", .object [("a", .int 1)])]
    let context : Context :=
      { site := ".", props := [("x", .null)], scopes := [inner, outer]
        data := [("x", .object [("a", .int 3)])] }
    segments ".x.a" = [("x" : Text), ("a" : Text)] ∧ context.lookup? ".x.a" = some (.int 3) := by
  intro inner outer context
  have hs : segments ".x.a" = [("x" : Text), ("a" : Text)] := by decide
  refine ⟨hs, ((lookup_in_order context hs).1 _).mpr ⟨[context.props, inner], _, [], rfl, rfl, ?_⟩⟩
  simp only [List.mem_cons, List.not_mem_nil, or_false]
  rintro earlier (rfl | rfl)
  · rfl
  · rfl

/-- The outer of two loops over `x` has the path and is not asked, and so nothing is found. -/
theorem shadowed_scope_not_searched :
    let inner : Fields := [("x", .object [("b", .int 2)])]
    let outer : Fields := [("x", .object [("a", .int 1)])]
    let context : Context := { site := ".", scopes := [inner, outer] }
    let segments : List Text := [("x" : Text), ("a" : Text)]
    Context.segments ".x.a" = segments ∧ inner.at? segments = none ∧
      outer.at? segments = some (.int 1) ∧ context.lookup? ".x.a" = none := by
  intro inner outer context segments
  exact ⟨by decide, rfl, rfl, rfl⟩

end Context
end Stencil
