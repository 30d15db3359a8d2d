import Stencil.Proofs.Lookup
import Stencil.Proofs.Receiver
/-!
# Assigned variables

What is assigned to a path is found at it, unless the arguments of the partial have the path. The
write goes into one scope, or into the page data if no scope is there. As long as it takes no other
value for an object on its way, every path that goes another way leads to the same value as before.
-/
namespace Stencil

namespace Value

private theorem at?_object (members : Fields) {path : List Text} (h : path ≠ []) :
    (object members).at? path = members.at? path := by
  cases path with
  | nil => exact absurd rfl h
  | cons segment rest => simp only [at?, Fields.at?]

end Value

namespace Fields

variable {fields : Fields} {path other : List Text}

/-- On its way to the end the path meets objects only. -/
def OpenAlong (fields : Fields) (path : List Text) : Prop :=
  ∀ front back value, path = front ++ back → back ≠ [] → fields.at? front = some value →
    ∃ members, value = .object members

/-! ### One write -/

private theorem get?_insertAt_of_ne {first name : Text} (h : name ≠ first) (value : Value)
    (rest : List Text) (fields : Fields) :
    (insertAt value (first :: rest) fields).get? name = fields.get? name := by
  cases rest with
  | nil => exact Table.get?_set_of_ne h _ _
  | cons second rest => exact Table.get?_set_of_ne h _ _

private theorem get?_insertAt_below (h : path ≠ []) (value : Value) (segment : Text)
    (fields : Fields) :
    (insertAt value (segment :: path) fields).get? segment =
      some (.object (insertAt value path (Value.membersOrNone (fields.get? segment)))) := by
  cases path with
  | nil => exact absurd rfl h
  | cons next rest => exact Table.get?_set_self _ _ _

private theorem at?_insertAt_self (value : Value) (h : path ≠ []) (fields : Fields) :
    (insertAt value path fields).at? path = some value := by
  induction path generalizing fields with
  | nil => exact absurd rfl h
  | cons segment rest ih =>
    by_cases hr : rest = []
    · subst hr
      simp only [insertAt, at?, Table.get?_set_self, Option.bind_some, Value.at?]
    · rw [at?, get?_insertAt_below hr, Option.bind_some, Value.at?_object _ hr, ih hr]

private theorem OpenAlong.below {segment : Text} (h : fields.OpenAlong (segment :: path))
    (hp : path ≠ []) :
    OpenAlong (Value.membersOrNone (fields.get? segment)) path ∧ ∀ others : List Text, others ≠ [] →
      fields.at? (segment :: others) =
        at? (Value.membersOrNone (fields.get? segment)) others := by
  cases hf : fields.get? segment with
  | none =>
    refine ⟨?_, fun others ho => ?_⟩
    · intro front back value _ _ hv
      cases front <;> cases hv
    · rw [at?, hf, Option.bind_none]
      cases others <;> rfl
  | some found =>
    obtain ⟨members, rfl⟩ := h [segment] path found rfl hp (by rw [at?, hf]; rfl)
    have hm (others : List Text) (ho : others ≠ []) :
        fields.at? (segment :: others) = at? members others := by
      rw [at?, hf, Option.bind_some, Value.at?_object members ho]
    refine ⟨?_, hm⟩
    intro front back value he hb hv
    cases front with
    | nil => cases hv
    | cons next front =>
      exact h (segment :: next :: front) back value (congrArg (segment :: ·) he) hb
        ((hm _ (List.cons_ne_nil _ _)).trans hv)

private theorem at?_insertAt_apart (ho : fields.OpenAlong path) (h : ¬ path <+: other)
    (h' : ¬ other <+: path) (value : Value) :
    (insertAt value path fields).at? other = fields.at? other := by
  induction path generalizing fields other with
  | nil => exact absurd List.nil_prefix h
  | cons segment rest ih =>
    cases other with
    | nil => exact absurd List.nil_prefix h'
    | cons name others =>
      by_cases hn : name = segment
      · subst hn
        rw [List.cons_prefix_cons] at h h'
        have hr : ¬ rest <+: others := fun hp => h ⟨rfl, hp⟩
        have hr' : ¬ others <+: rest := fun hp => h' ⟨rfl, hp⟩
        have hrest : rest ≠ [] := fun he => hr (he ▸ List.nil_prefix)
        have hothers : others ≠ [] := fun he => hr' (he ▸ List.nil_prefix)
        obtain ⟨hopen, hat⟩ := ho.below hrest
        rw [at?, get?_insertAt_below hrest, Option.bind_some, Value.at?_object _ hothers,
          ih hopen hr hr', hat others hothers]
      · rw [at?, at?, get?_insertAt_of_ne hn]

end Fields

namespace Context

variable {context : Context} {path first : Text} {rest : List Text} {target : Option Nat}
  {fields : Fields}

/-! ### What is found behind a write -/

private theorem has_insertAt (value : Value) (first : Text) (rest : List Text) (fields : Fields) :
    (Fields.insertAt value (first :: rest) fields).has first = true := by
  have ha := Fields.at?_insertAt_self value (List.cons_ne_nil first rest) fields
  rw [Fields.at?] at ha
  obtain ⟨found, hf, -⟩ := Option.bind_eq_some_iff.mp ha
  rw [Table.has, hf, Option.isSome_some]

private theorem lookup?_written (hs : segments path = first :: rest) {scope written : Fields}
    {outer : List Fields} (hc : context.scopes = scope :: outer)
    (hw : written.has first = true) :
    (context.replace (some 0) written).lookup? path =
      (Fields.at? context.props (first :: rest) <|> Fields.at? written (first :: rest) <|>
        Fields.at? context.data (first :: rest)) := by
  have ho : (context.replace (some 0) written).scopes = [] ++ written :: outer := by
    simp [replace, hc]
  exact lookup?_of_bound hs ho (List.forall_mem_nil _) hw

private theorem Receives.lookup?_self (h : context.Receives first rest target fields)
    (hs : segments path = first :: rest) (hp : Fields.at? context.props (first :: rest) = none)
    (value : Value) :
    (context.replace target (Fields.insertAt value (first :: rest) fields)).lookup? path =
      some value := by
  have hwritten := Fields.at?_insertAt_self value (List.cons_ne_nil first rest) fields
  have hhas := has_insertAt value first rest fields
  cases h with
  | bound hc hi _ =>
    rw [lookup?_of_bound hs (scopes_replace hc _) hi hhas, hwritten]
    simp [replace, hp]
  | innermost hc hn =>
    rw [lookup?_written hs hc hhas, hwritten]
    simp [hp]
  | page hc =>
    rw [lookup?_of_unbound hs (by simp [replace, hc])]
    simp [replace, hp, hwritten]

/-! ### Paths that go another way -/

private theorem lookup?_congr {after : Context} {other name : Text} {others : List Text}
    (ho : segments other = name :: others) (hp : after.props = context.props)
    (hb : after.binding? name = context.binding? name)
    (hd : after.data.get? name = context.data.get? name) :
    after.lookup? other = context.lookup? other := by
  simp only [lookup?, ho, hp, hb, Fields.at?, hd]

private theorem Receives.lookup?_of_ne (h : context.Receives first rest target fields)
    {other name : Text} {others : List Text} (ho : segments other = name :: others)
    (hn : name ≠ first) (value : Value) :
    (context.replace target (Fields.insertAt value (first :: rest) fields)).lookup? other =
      context.lookup? other := by
  have hw := Fields.get?_insertAt_of_ne hn value rest fields
  cases h with
  | bound hc _ _ =>
    refine lookup?_congr ho rfl ?_ rfl
    simp only [binding?, scopes_replace hc, hc, List.findSome?_append, List.findSome?_cons, hw]
  | @innermost scope outer hc _ =>
    have hcopy : (context.withCopy scope first rest).get? name = scope.get? name := by
      unfold withCopy
      split
      · exact Table.get?_set_of_ne hn _ _
      · rfl
    refine lookup?_congr ho rfl ?_ rfl
    simp only [binding?, replace, hc, List.set_cons_zero, List.findSome?_cons, hw, hcopy]
  | page hc => exact lookup?_congr ho rfl (by simp only [binding?, replace]) hw

private theorem at?_withCopy (context : Context) {scope : Fields} {others : List Text}
    (hs : scope.has first = false) (hp : ¬ rest <+: others) :
    (context.withCopy scope first rest).at? (first :: others) =
      context.data.at? (first :: others) := by
  cases rest with
  | nil => exact absurd List.nil_prefix hp
  | cons second rest =>
    cases hd : context.data.get? first with
    | none =>
      simp only [withCopy, hd, Fields.at?_of_not_has hs]
      rw [Fields.at?, hd, Option.bind_none]
    | some existing => simp only [withCopy, hd, Fields.at?, Table.get?_set_self]

private theorem Receives.lookup?_of_apart (h : context.Receives first rest target fields)
    (hopen : fields.OpenAlong (first :: rest)) {other : Text} {others : List Text}
    (ho : segments other = first :: others) (hp : ¬ rest <+: others) (hp' : ¬ others <+: rest)
    (value : Value) :
    (context.replace target (Fields.insertAt value (first :: rest) fields)).lookup? other =
      context.lookup? other := by
  have hat : (Fields.insertAt value (first :: rest) fields).at? (first :: others) =
      fields.at? (first :: others) := by
    apply Fields.at?_insertAt_apart hopen
    · exact fun hpre => hp (List.cons_prefix_cons.mp hpre).2
    · exact fun hpre => hp' (List.cons_prefix_cons.mp hpre).2
  have hhas := has_insertAt value first rest fields
  cases h with
  | bound hc hi hb =>
    rw [lookup?_of_bound ho (scopes_replace hc _) hi hhas, lookup?_of_bound ho hc hi hb, hat]
    rfl
  | @innermost scope outer hc hn =>
    -- No scope led anywhere, and what is copied leads where the page data lead.
    have hcopy := at?_withCopy context (List.forall_mem_cons.mp hn).1 hp
    rw [lookup?_written ho hc hhas, lookup?_of_unbound ho (hc ▸ hn), hat, hcopy]
    cases Fields.at? context.data (first :: others) <;> simp
  | page hc =>
    rw [lookup?_of_unbound ho (by simp [replace, hc]), lookup?_of_unbound ho (by simp [hc])]
    simp [replace, hat]

/-- What is assigned to a path is found at it unless the arguments have the path. One scope takes
the write, or the page data if there is none, and everything else stays. If the write meets objects
only, every path that is neither in front of the written one nor below it leads where it led. -/
theorem assign_then_lookup (context : Context) (path : Text) (value : Value) :
    (segments path = [] → context.assign? path value = none) ∧
    ∀ first rest, segments path = first :: rest → ∃ target fields after,
      context.Receives first rest target fields ∧
      context.assign? path value = some after ∧
      (Fields.at? context.props (first :: rest) = none → after.lookup? path = some value) ∧
      after = { context with scopes := after.scopes, data := after.data } ∧
      after.scopes.length = context.scopes.length ∧
      (∀ number, target ≠ some number → after.scopes[number]? = context.scopes[number]?) ∧
      (context.scopes ≠ [] → after.data = context.data) ∧
      (fields.OpenAlong (first :: rest) → ∀ other, ¬ segments path <+: segments other →
        ¬ segments other <+: segments path → after.lookup? other = context.lookup? other) := by
  refine ⟨fun hs => by rw [assign?, hs], fun first rest hs => ?_⟩
  obtain ⟨target, fields, hr, ha⟩ := exists_receives context hs value
  refine ⟨target, fields, _, hr, ha, fun hp => hr.lookup?_self hs hp value, ?_, ?_, ?_, ?_, ?_⟩
  · cases target <;> rfl
  · cases target with
    | none => rfl
    | some number => exact List.length_set
  · intro number hn
    cases target with
    | none => rfl
    | some written => exact List.getElem?_set_ne fun he => hn (congrArg some he)
  · intro hne
    cases hr with
    | bound | innermost => rfl
    | page hc => exact absurd hc hne
  · intro hopen other hp hp'
    rw [hs] at hp hp'
    cases ho : segments other with
    | nil => exact absurd (ho ▸ List.nil_prefix) hp'
    | cons name others =>
      rw [ho] at hp hp'
      by_cases hn : name = first
      · subst hn
        rw [List.cons_prefix_cons] at hp hp'
        exact hr.lookup?_of_apart hopen ho (fun h => hp ⟨rfl, h⟩) (fun h => hp' ⟨rfl, h⟩) value
      · exact hr.lookup?_of_ne ho hn value

/-- A write below a page value from within a loop, with a sibling of what is written. -/
theorem assign_then_lookup_copied :
    let site : Value := .object [("lang", .text "en"), ("name", .text "S")]
    let context : Context :=
      { site := ".", data := [("site", site)], props := [("site", .null)]
        scopes := [[("y", .int 2)], [("x", .int 1)]] }
    let first : Text := "site"
    let rest : List Text := [("name" : Text)]
    segments ".site.name" = first :: rest ∧ Fields.at? context.props (first :: rest) = none ∧
      ∃ fields after, context.Receives first rest (some 0) fields ∧
        fields.OpenAlong (first :: rest) ∧
        context.assign? ".site.name" (.text "T") = some after ∧
        after.lookup? ".site.name" = some (.text "T") ∧
        after.lookup? "site.lang" = some (.text "en") ∧ after.data = context.data := by
  intro site context first rest
  have hs : segments ".site.name" = first :: rest := by decide
  have hp : Fields.at? context.props (first :: rest) = none := rfl
  obtain ⟨target, fields, after, hr, ha, hself, -, -, -, hdata, happart⟩ :=
    (assign_then_lookup context ".site.name" (.text "T")).2 first rest hs
  have hother : segments "site.lang" = [first, ("lang" : Text)] := by decide
  have hnone : ∀ scope ∈ context.scopes, scope.has first = false := by decide
  cases hr with
  | page hc => cases hc
  | bound hc _ hb =>
    have hmem : fields ∈ context.scopes := hc ▸ List.mem_append_right _ List.mem_cons_self
    rw [hnone fields hmem] at hb
    cases hb
  | innermost hc _ =>
    have hscope := (List.cons.inj hc).1
    subst hscope
    have hopen :
        Fields.OpenAlong (context.withCopy [("y", .int 2)] first rest) (first :: rest) := by
      intro front back found he hb hv
      rcases front with _ | ⟨name, _ | ⟨next, front⟩⟩
      · cases hv
      · obtain rfl := (List.cons.inj he).1
        exact ⟨_, (Option.some.inj hv).symm⟩
      · cases front with
        | nil => exact absurd (List.cons.inj (List.cons.inj he).2).2.symm hb
        | cons third front => cases (List.cons.inj (List.cons.inj he).2).2
    refine ⟨hs, hp, _, after, .innermost rfl hnone, hopen, ha, hself hp, ?_, hdata nofun⟩
    rw [happart hopen "site.lang" (by rw [hs, hother]; decide) (by rw [hs, hother]; decide)]
    rfl

end Context
end Stencil
