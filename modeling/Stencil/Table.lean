import Stencil.Text.Basic
/-!
# Tables

A table lists its entries in ascending order of their keys. Writing a key replaces its entry, so
the value read back is the last one written and no other entry changes.
-/
namespace Stencil

abbrev Table (α : Type) := List (Text × α)

namespace Table

variable {α β : Type}

def get? (key : Text) : Table α → Option α
  | [] => none
  | (k, v) :: rest => if k = key then some v else get? key rest

def has (key : Text) (table : Table α) : Bool := (table.get? key).isSome

def set (key : Text) (value : α) : Table α → Table α
  | [] => [(key, value)]
  | (k, v) :: rest =>
    if k = key then (key, value) :: rest
    else if key < k then (key, value) :: (k, v) :: rest
    else (k, v) :: set key value rest

def keys (table : Table α) : List Text := table.map Prod.fst

def values (table : Table α) : List α := table.map Prod.snd

/-- Writes the entries one after another, so the last one of a key stays. -/
def setAll (table : Table α) (entries : List (Text × α)) : Table α :=
  entries.foldl (fun t (k, v) => t.set k v) table

def ofEntries (entries : List (Text × α)) : Table α := setAll [] entries

theorem get?_set_self (key : Text) (value : α) (table : Table α) :
    (table.set key value).get? key = some value := by
  induction table with
  | nil => simp [set, get?]
  | cons entry rest ih =>
    obtain ⟨k, v⟩ := entry
    simp only [set]
    split
    · simp [get?]
    · next hk =>
      split
      · simp [get?]
      · simp [get?, hk, ih]

theorem get?_set_of_ne {key other : Text} (h : other ≠ key) (value : α) (table : Table α) :
    (table.set key value).get? other = table.get? other := by
  induction table with
  | nil => simp [set, get?, Ne.symm h]
  | cons entry rest ih =>
    obtain ⟨k, v⟩ := entry
    simp only [set]
    split
    · next hk => subst hk; simp [get?, Ne.symm h]
    · split
      · simp [get?, Ne.symm h]
      · simp [get?, ih]

theorem mem_of_get? {key : Text} {value : α} {table : Table α}
    (h : table.get? key = some value) : (key, value) ∈ table := by
  induction table with
  | nil => simp [get?] at h
  | cons entry rest ih =>
    obtain ⟨k, v⟩ := entry
    simp only [get?] at h
    split at h
    · next hk => cases h; subst hk; exact List.mem_cons_self
    · exact List.mem_cons_of_mem _ (ih h)

theorem eq_or_mem_of_mem_set {key : Text} {value : α} {entry : Text × α}
    {table : Table α} (h : entry ∈ table.set key value) : entry = (key, value) ∨ entry ∈ table := by
  induction table with
  | nil => simpa [set] using h
  | cons first rest ih =>
    obtain ⟨k, v⟩ := first
    simp only [set] at h
    split at h
    · rcases List.mem_cons.mp h with rfl | h
      · exact .inl rfl
      · exact .inr (List.mem_cons_of_mem _ h)
    · split at h
      · rcases List.mem_cons.mp h with rfl | h
        · exact .inl rfl
        · exact .inr h
      · rcases List.mem_cons.mp h with rfl | h
        · exact .inr List.mem_cons_self
        · exact (ih h).imp_right (List.mem_cons_of_mem _)

theorem mem_or_mem_of_mem_setAll {entry : Text × α} {entries : List (Text × α)}
    {table : Table α} (h : entry ∈ table.setAll entries) : entry ∈ entries ∨ entry ∈ table := by
  induction entries generalizing table with
  | nil => exact .inr h
  | cons first rest ih =>
    rcases ih h with hr | ht
    · exact .inl (List.mem_cons_of_mem _ hr)
    · rcases eq_or_mem_of_mem_set ht with rfl | ht
      · exact .inl List.mem_cons_self
      · exact .inr ht

theorem get?_setAll_of_forall_ne {key : Text} {entries : List (Text × α)}
    {table : Table α} (h : ∀ entry ∈ entries, key ≠ entry.1) :
    (table.setAll entries).get? key = table.get? key := by
  induction entries generalizing table with
  | nil => rfl
  | cons first rest ih =>
    have hr : ∀ entry ∈ rest, key ≠ entry.1 := fun entry he => h entry (List.mem_cons_of_mem _ he)
    exact (ih hr).trans (get?_set_of_ne (h first List.mem_cons_self) _ _)

/-- Of entries with different keys none is lost. -/
theorem get?_ofEntries {key : Text} {value : α} {entries : List (Text × α)}
    (hp : entries.Pairwise fun a b => a.1 ≠ b.1) (hm : (key, value) ∈ entries) :
    (ofEntries entries).get? key = some value := by
  suffices h : ∀ table : Table α, (table.setAll entries).get? key = some value from h []
  induction entries with
  | nil => cases hm
  | cons first rest ih =>
    intro table
    obtain ⟨hfirst, hrest⟩ := List.pairwise_cons.mp hp
    rcases List.mem_cons.mp hm with rfl | hm
    · exact (get?_setAll_of_forall_ne hfirst).trans (get?_set_self _ _ _)
    · exact ih hrest hm _

end Table
end Stencil
