import Stencil.Proofs.Pages
/-!
# Grouped query parameters

The object of a query has the keys of its parameters, each of them once. A value that comes alone
stands as a text, the values of a repeated key stand in an array as they came, whatever parameters
stand between them. So the values of every key are read back from the object.
-/
namespace Stencil

namespace Value

/-- The values of one key as they stand in an object. -/
def grouped? : List Text → Option Value
  | [] => none
  | [value] => some (.text value)
  | values => some (.array (values.map .text))

/-- The texts of an array, or else the one text that there is. -/
def listed : Value → List Text
  | .array items => items.map toText
  | value => [value.toText]

private theorem grouped?_concat (values : List Text) (value : Text) :
    grouped? (values ++ [value]) = some (Request.grown (grouped? values) value) := by
  match values with
  | [] => rfl
  | [first] => rfl
  | first :: second :: rest => simp [grouped?, Request.grown]

private theorem listed_grouped? (values : List Text) :
    (grouped? values).elim [] listed = values := by
  match values with
  | [] => rfl
  | [value] => simp [grouped?, listed, toText]
  | first :: second :: rest => simp [grouped?, listed, toText, Function.comp_def]

private theorem grouped?_eq_none_iff {values : List Text} :
    grouped? values = none ↔ values = [] := by
  match values with
  | [] => simp [grouped?]
  | [value] => simp [grouped?]
  | first :: second :: rest => simp [grouped?]

end Value

namespace Request

/-- The values of a key in their order. -/
def valuesOf (key : Text) (parameters : List (Text × Text)) : List Text :=
  (parameters.filter fun parameter => parameter.1 = key).map Prod.snd

private theorem valuesOf_concat_self (key value : Text) (parameters : List (Text × Text)) :
    valuesOf key (parameters ++ [(key, value)]) = valuesOf key parameters ++ [value] := by
  simp [valuesOf]

private theorem valuesOf_concat_of_ne {key other : Text} (h : other ≠ key) (value : Text)
    (parameters : List (Text × Text)) :
    valuesOf key (parameters ++ [(other, value)]) = valuesOf key parameters := by
  simp [valuesOf, h]

private theorem valuesOf_eq_nil_iff {key : Text} {parameters : List (Text × Text)} :
    valuesOf key parameters = [] ↔ key ∉ parameters.map Prod.fst := by
  rw [valuesOf, List.map_eq_nil_iff, List.filter_eq_nil_iff, List.mem_map]
  constructor
  · rintro h ⟨parameter, hm, he⟩
    exact h parameter hm (decide_eq_true he)
  · intro h parameter hm he
    exact h ⟨parameter, hm, of_decide_eq_true he⟩

/-- The object of the parameters so far, with one more parameter. -/
def addParameter (fields : Fields) (parameter : Text × Text) : Fields :=
  fields.set parameter.1 (grown (fields.get? parameter.1) parameter.2)

private theorem queryObject_eq (request : Request) :
    request.queryObject = request.query.foldl addParameter [] := rfl

/-- The object holds the values of every key as they stand in an object. -/
structure Groups (parameters : List (Text × Text)) (fields : Fields) : Prop where
  ascending : Table.Ascending fields
  get?_eq (key : Text) : Table.get? key fields = Value.grouped? (valuesOf key parameters)

private theorem Groups.addParameter {parameters : List (Text × Text)} {fields : Fields}
    (h : Groups parameters fields) (parameter : Text × Text) :
    Groups (parameters ++ [parameter]) (addParameter fields parameter) where
  ascending := h.ascending.set _ _
  get?_eq key := by
    obtain ⟨other, value⟩ := parameter
    rw [Request.addParameter]
    by_cases hk : key = other
    · subst hk
      rw [Table.get?_set_self, valuesOf_concat_self, Value.grouped?_concat, h.get?_eq]
    · rw [Table.get?_set_of_ne hk, valuesOf_concat_of_ne (Ne.symm hk), h.get?_eq]

private theorem Groups.foldl {seen : List (Text × Text)} {fields : Fields} (h : Groups seen fields)
    (parameters : List (Text × Text)) :
    Groups (seen ++ parameters) (parameters.foldl Request.addParameter fields) := by
  induction parameters generalizing seen fields with
  | nil => rwa [List.append_nil]
  | cons parameter parameters ih =>
    have hrest := ih (h.addParameter parameter)
    rwa [List.append_assoc] at hrest

private theorem groups_queryObject (request : Request) :
    Groups request.query request.queryObject := by
  have hstart : Groups [] [] := ⟨.nil, fun _ => rfl⟩
  rw [queryObject_eq]
  exact hstart.foldl request.query

/-- The keys of the object are those of the parameters. Each leads to its values, from which they
are read back. -/
theorem queryObject_grouped (request : Request) :
    Table.Ascending request.queryObject ∧
    (∀ key, key ∈ Table.keys request.queryObject ↔ key ∈ request.query.map Prod.fst) ∧
    (∀ key, Table.get? key request.queryObject = Value.grouped? (valuesOf key request.query)) ∧
    ∀ key, (Table.get? key request.queryObject).elim [] Value.listed =
      valuesOf key request.query := by
  have hgroups := groups_queryObject request
  refine ⟨hgroups.ascending, fun key => ?_, hgroups.get?_eq, fun key => ?_⟩
  · rw [← Table.has_iff_mem_keys, Table.has, hgroups.get?_eq, Option.isSome_iff_ne_none, Ne,
      Value.grouped?_eq_none_iff, valuesOf_eq_nil_iff, not_not]
  · rw [hgroups.get?_eq, Value.listed_grouped?]

example :
    queryObject { query := [("tag", "a"), ("page", "2"), ("tag", "b"), ("tag", "c")] } =
      ([("page", .text "2"), ("tag", .array [.text "a", .text "b", .text "c"])] :
        List (Text × Value)) := rfl

end Request
end Stencil
