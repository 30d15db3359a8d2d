import Stencil.Context
import Mathlib.Data.Option.Basic
/-!
# Pieces of what is written

Page values of one shape may differ in their texts. Of two outputs that come from such values it can
be said that they are the same pieces in the same order: literal texts, and the values that each
side has at the same paths.
-/
namespace Stencil

/-! ### Values that differ in their texts -/

namespace Value

mutual

/-- The values have one shape. They differ in texts at most, which are no keys. -/
def Alike : Value → Value → Prop
  | text _, text _ => True
  | array vs, array ws => ItemsAlike vs ws
  | object as, object bs => MembersAlike as bs
  | v, w => v = w

def ItemsAlike : List Value → List Value → Prop
  | [], [] => True
  | v :: vs, w :: ws => v.Alike w ∧ ItemsAlike vs ws
  | _, _ => False

def MembersAlike : List (Text × Value) → List (Text × Value) → Prop
  | [], [] => True
  | (k, v) :: as, (l, w) :: bs => k = l ∧ v.Alike w ∧ MembersAlike as bs
  | _, _ => False

end

private theorem get?_alike {as bs : Fields} (h : MembersAlike as bs) (key : Text) :
    Option.Rel Alike (as.get? key) (bs.get? key) := by
  induction as generalizing bs with
  | nil =>
    cases bs with
    | nil => exact .none
    | cons => exact h.elim
  | cons entry as ih =>
    cases bs with
    | nil => exact h.elim
    | cons other bs =>
      obtain ⟨k, v⟩ := entry
      obtain ⟨l, w⟩ := other
      obtain ⟨rfl, hv, hrest⟩ := h
      simp only [Table.get?]
      split
      · exact .some hv
      · exact ih hrest

private theorem getElem?_alike {vs ws : List Value} (h : ItemsAlike vs ws) (i : Nat) :
    Option.Rel Alike vs[i]? ws[i]? := by
  induction vs generalizing ws i with
  | nil =>
    cases ws with
    | nil => exact .none
    | cons => exact h.elim
  | cons v vs ih =>
    cases ws with
    | nil => exact h.elim
    | cons w ws =>
      cases i with
      | zero => exact .some h.1
      | succ i => exact ih h.2 i

private theorem at?_alike {v w : Value} (h : v.Alike w) (path : List Text) :
    Option.Rel Alike (v.at? path) (w.at? path) := by
  induction path generalizing v w with
  | nil => exact .some h
  | cons segment rest ih =>
    have hbind {a b : Option Value} (hab : Option.Rel Alike a b) :
        Option.Rel Alike (a.bind (·.at? rest)) (b.bind (·.at? rest)) := by
      cases hab with
      | none => exact .none
      | some hv => exact ih hv
    cases v with
    | object as =>
      cases w with
      | object bs => exact hbind (get?_alike h segment)
      | _ => cases h
    | array vs =>
      cases w with
      | array ws =>
        simp only [at?]
        cases Text.readNat? Text.largestCount segment with
        | none => exact .none
        | some i => exact hbind (getElem?_alike h i)
      | _ => cases h
    | text t =>
      cases w with
      | text u => exact .none
      | _ => cases h
    | null | bool _ | number _ => cases w <;> first | exact .none | cases h

end Value

theorem Fields.at?_alike {data other : Fields} (h : Value.MembersAlike data other)
    (path : List Text) : Option.Rel Value.Alike (data.at? path) (other.at? path) := by
  cases path with
  | nil => exact .none
  | cons first rest =>
    have hg := Value.get?_alike h first
    simp only [Fields.at?]
    generalize data.get? first = found at hg ⊢
    generalize other.get? first = found' at hg ⊢
    cases hg with
    | none => exact .none
    | some hv => exact Value.at?_alike hv rest

/-! ### Pieces -/

/-- A piece of what a render writes. -/
inductive Piece where
  | literal (text : Text)
  /-- The value at a dotted path. -/
  | value (path : Text)

/-- The text is what the pieces give with these page values, which have a value at every path. -/
inductive Fills (data : Fields) : List Piece → Text → Prop
  | nil : Fills data [] []
  | literal (t : Text) {pieces : List Piece} {text : Text} :
    Fills data pieces text → Fills data (.literal t :: pieces) (t ++ text)
  | value {path : Text} {value : Value} {pieces : List Piece} {text : Text} :
    Fields.at? data (Context.segments path) = some value → Fills data pieces text →
    Fills data (.value path :: pieces) (value.toText ++ text)

private theorem Fills.append {data : Fields} {pieces more : List Piece} {s t : Text}
    (hs : Fills data pieces s) (ht : Fills data more t) : Fills data (pieces ++ more) (s ++ t) := by
  induction hs with
  | nil => exact ht
  | literal u _ ih =>
    rw [List.append_assoc]
    exact .literal u ih
  | value hv _ ih =>
    rw [List.append_assoc]
    exact .value hv ih

/-- The texts are the same pieces, each filled from its own page values. -/
def Mirrored (data other : Fields) (s t : Text) : Prop :=
  ∃ pieces, Fills data pieces s ∧ Fills other pieces t

namespace Mirrored

variable {data other : Fields} {s t s' t' : Text}

theorem nil : Mirrored data other [] [] := ⟨[], .nil, .nil⟩

theorem literal (t : Text) : Mirrored data other t t := by
  have hfills (values : Fields) : Fills values [.literal t] t := by
    simpa using Fills.literal t (.nil : Fills values [] [])
  exact ⟨_, hfills data, hfills other⟩

theorem value {path : Text} {v w : Value}
    (hv : Fields.at? data (Context.segments path) = some v)
    (hw : Fields.at? other (Context.segments path) = some w) :
    Mirrored data other v.toText w.toText := by
  have hfills {values : Fields} {v : Value}
      (hv : Fields.at? values (Context.segments path) = some v) :
      Fills values [.value path] v.toText := by
    simpa using Fills.value hv .nil
  exact ⟨_, hfills hv, hfills hw⟩

theorem append (h : Mirrored data other s t) (h' : Mirrored data other s' t') :
    Mirrored data other (s ++ s') (t ++ t') := by
  obtain ⟨pieces, hs, ht⟩ := h
  obtain ⟨more, hs', ht'⟩ := h'
  exact ⟨pieces ++ more, hs.append hs', ht.append ht'⟩

end Mirrored

end Stencil
