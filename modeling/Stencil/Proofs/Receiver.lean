import Stencil.Proofs.Lookup
/-!
# Where an assignment goes

An assignment writes into one scope, or into the page data if there is no scope. Which one it is and
what the write finds there is said here once; all that is known about a context behind an assignment
follows from it.
-/
namespace Stencil.Context

/-- What the innermost scope holds when a write begins and no scope has the first segment: a write
below a page value goes on in a copy of that value. -/
def withCopy (context : Context) (scope : Fields) (first : Text) (rest : List Text) : Fields :=
  match rest, context.data.get? first with
  | _ :: _, some existing => scope.set first existing
  | _, _ => scope

/-- A write at the path goes into the scope of this number, counted from the innermost one on, or
into the page data; these are the fields that it finds there. -/
inductive Receives (context : Context) (first : Text) (rest : List Text) :
    Option Nat → Fields → Prop
  /-- The innermost scope that has the first segment. -/
  | bound {inner outer : List Fields} {scope : Fields} :
    context.scopes = inner ++ scope :: outer → (∀ passed ∈ inner, passed.has first = false) →
    scope.has first = true → Receives context first rest (some inner.length) scope
  /-- The innermost scope of all, if none has the first segment. -/
  | innermost {scope : Fields} {outer : List Fields} : context.scopes = scope :: outer →
    (∀ passed ∈ scope :: outer, passed.has first = false) →
    Receives context first rest (some 0) (context.withCopy scope first rest)
  /-- The page data, if there is no scope. -/
  | page : context.scopes = [] → Receives context first rest none context.data

/-- The context with these fields in the place of a scope or of the page data. -/
def replace (context : Context) (target : Option Nat) (fields : Fields) : Context :=
  match target with
  | some number => { context with scopes := context.scopes.set number fields }
  | none => { context with data := fields }

variable {context : Context} {path first : Text} {rest : List Text} {target : Option Nat}
  {fields : Fields}

private theorem writeWhereBound?_of_bound {write : Fields → Fields} {inner outer : List Fields}
    {scope : Fields} (hi : ∀ passed ∈ inner, passed.has first = false)
    (hs : scope.has first = true) :
    writeWhereBound? first write (inner ++ scope :: outer) =
      some (inner ++ write scope :: outer) := by
  induction inner with
  | nil => simp [writeWhereBound?, hs]
  | cons passed inner ih =>
    obtain ⟨hp, hi⟩ := List.forall_mem_cons.mp hi
    simp [writeWhereBound?, hp, ih hi]

private theorem writeWhereBound?_of_unbound {write : Fields → Fields} {scopes : List Fields}
    (h : ∀ scope ∈ scopes, scope.has first = false) :
    writeWhereBound? first write scopes = none := by
  induction scopes with
  | nil => rfl
  | cons scope outer ih =>
    obtain ⟨hs, ho⟩ := List.forall_mem_cons.mp h
    simp [writeWhereBound?, hs, ih ho]

theorem scopes_replace {inner outer : List Fields} {scope : Fields}
    (h : context.scopes = inner ++ scope :: outer) (written : Fields) :
    (context.replace (some inner.length) written).scopes = inner ++ written :: outer := by
  simp [replace, h]

/-- A write at a path with a segment has one place that it goes into. -/
theorem exists_receives (context : Context) (hs : segments path = first :: rest) (value : Value) :
    ∃ target fields, context.Receives first rest target fields ∧
      context.assign? path value =
        some (context.replace target (Fields.insertAt value (first :: rest) fields)) := by
  rcases bound_or_unbound first context.scopes with ⟨inner, scope, outer, hc, hi, hb⟩ | hn
  · refine ⟨_, _, .bound hc hi hb, ?_⟩
    simp [assign?, hs, hc, writeWhereBound?_of_bound hi hb, replace]
  · cases hc : context.scopes with
    | nil =>
      refine ⟨_, _, .page hc, ?_⟩
      simp only [assign?, hs, hc, writeWhereBound?, replace]
    | cons scope outer =>
      rw [hc] at hn
      refine ⟨_, _, .innermost hc hn, ?_⟩
      simp only [assign?, hs, hc, writeWhereBound?_of_unbound hn, replace, List.set_cons_zero]
      rfl

/-- A context behind an assignment is the one in front of it with one write in one place. -/
theorem receives_of_assign? {value : Value} {after : Context}
    (h : context.assign? path value = some after) : ∃ first rest target fields,
      context.Receives first rest target fields ∧
        after = context.replace target (Fields.insertAt value (first :: rest) fields) := by
  cases hs : segments path with
  | nil =>
    rw [assign?, hs] at h
    cases h
  | cons first rest =>
    obtain ⟨target, fields, hr, ha⟩ := exists_receives context hs value
    exact ⟨first, rest, target, fields, hr, Option.some.inj (h.symm.trans ha)⟩

end Stencil.Context
