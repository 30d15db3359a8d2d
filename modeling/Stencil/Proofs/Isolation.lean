import Stencil.Proofs.Frame
import Mathlib.Data.List.Forall2
/-!
# Isolation of loops

Every turn of a loop finds the page data and the arguments as the loop found them, the same scopes
around it with the same keys, and a scope of its own that holds the item and nothing else. What a
turn writes goes into its own scope or replaces a value that a scope around the loop has.
-/
namespace Stencil

namespace Table

variable {α : Type}

/-- Which keys a table has. -/
def keySet (table : Table α) : Text → Bool := fun key => table.has key

/-- The keys are in order and none comes twice. -/
def Ascending (table : Table α) : Prop := table.Pairwise fun a b => a.1 < b.1

private theorem keySet_set {key : Text} {table : Table α} (h : table.has key = true) (value : α) :
    (table.set key value).keySet = table.keySet := by
  funext other
  by_cases ho : other = key
  · subst ho
    rw [keySet, keySet, h, has, get?_set_self]
    rfl
  · rw [keySet, keySet, has, has, get?_set_of_ne ho]

theorem Ascending.get?_of_mem {table : Table α} (h : table.Ascending) {key : Text} {value : α}
    (hm : (key, value) ∈ table) : table.get? key = some value := by
  induction table with
  | nil => cases hm
  | cons entry rest ih =>
    obtain ⟨hfirst, hrest⟩ := List.pairwise_cons.mp h
    obtain ⟨k, v⟩ := entry
    rcases List.mem_cons.mp hm with he | hm
    · cases he
      simp [get?]
    · have hne : k ≠ key := by
        rintro rfl
        exact List.lt_irrefl k (hfirst _ hm)
      rw [get?, if_neg hne, ih hrest hm]

theorem has_iff_mem_keys {key : Text} {table : Table α} :
    table.has key = true ↔ key ∈ table.keys := by
  induction table with
  | nil => simp [has, get?, keys]
  | cons entry rest ih =>
    obtain ⟨k, v⟩ := entry
    simp only [has, keys] at ih
    by_cases hk : k = key
    · simp [has, get?, keys, hk]
    · simp [has, get?, keys, hk, ih, Ne.symm hk]

end Table

/-- The items as they stand in an array, or what an object holds by ascending key. -/
def Value.Lists : Value → List Value → Prop
  | .array all, items => items = all
  | .object members, items => Table.Ascending members → ∃ keys : List Text,
      keys.Pairwise (· < ·) ∧ (∀ key, key ∈ keys ↔ Table.has key members = true) ∧
      keys.map (fun key => Table.get? key members) = items.map some
  | _, items => items = []

private theorem Loop.lists_of_itemsOf? {value : Value} {items : List Value}
    (h : Loop.itemsOf? value = some items) : value.Lists items := by
  cases value with
  | null => cases h; rfl
  | array all => cases h; rfl
  | object members =>
    cases h
    intro ha
    refine ⟨Table.keys members, List.pairwise_map.mpr ha, fun key => Table.has_iff_mem_keys.symm,
      ?_⟩
    rw [Table.keys, Table.values, List.map_map, List.map_map]
    exact List.map_congr_left fun entry he => ha.get?_of_mem he
  | bool _ | number _ | text _ => cases h

/-! ### The keys of the scopes around a loop -/

/-- Only the innermost scope may get new keys, and none is lost there either. -/
structure Context.KeepsKeys (before after : Context) : Prop where
  depth : after.depth = before.depth
  number : after.scopes.length = before.scopes.length
  outer : (after.scopes.map Table.keySet).tail = (before.scopes.map Table.keySet).tail

namespace Context.KeepsKeys

private theorem of_eq {a b : Context} (hd : b.depth = a.depth)
    (hs : b.scopes.map Table.keySet = a.scopes.map Table.keySet) : a.KeepsKeys b where
  depth := hd
  number := by simpa using congrArg List.length hs
  outer := by rw [hs]

private theorem keySet_insertAt {first : Text} {scope : Fields} (h : scope.has first = true)
    (rest : List Text) (value : Value) :
    (Fields.insertAt value (first :: rest) scope).keySet = scope.keySet := by
  cases rest with
  | nil => exact Table.keySet_set h _
  | cons second rest => exact Table.keySet_set h _

private theorem assign {a b : Context} {path : Text} {value : Value}
    (h : a.assign? path value = some b) : a.KeepsKeys b := by
  obtain ⟨first, rest, target, fields, hr, rfl⟩ := receives_of_assign? h
  cases hr with
  | bound hs _ hf =>
    refine of_eq rfl ?_
    rw [scopes_replace hs, hs]
    simp only [List.map_append, List.map_cons, keySet_insertAt hf rest value]
  | innermost hs _ => exact ⟨rfl, List.length_set, by simp [replace, hs]⟩
  | page hs => exact of_eq rfl rfl

private theorem inScope {c c' : Context} (scope : Fields) (h : (c.pushScope scope).KeepsKeys c') :
    c'.popScope.scopes.map Table.keySet = c.scopes.map Table.keySet := by
  have ho := h.outer
  rw [← List.map_tail, ← List.map_tail] at ho
  exact ho

private theorem law : ContextLaw KeepsKeys where
  depth_eq := depth
  refl _ := of_eq rfl rfl
  trans h h' := ⟨h'.depth.trans h.depth, h'.number.trans h.number, h'.outer.trans h.outer⟩
  assign := assign
  place _ := of_eq rfl rfl
  storeBlock c name content := by
    simp only [Context.storeBlock]
    split <;> exact of_eq rfl rfl
  register _ := of_eq rfl rfl
  addElement _ _ := of_eq rfl rfl
  inScope scope h := of_eq h.depth (inScope scope h)
  withProps _ h := ⟨h.depth, h.number, h.outer⟩
  withPassed _ h := ⟨h.depth, h.number, h.outer⟩
  inTemplate _ h := ⟨h.depth, h.number, h.outer⟩
  deeper h := ⟨by
    have hd := h.depth
    simp only [Context.deeper, Context.shallower] at hd ⊢
    omega, h.number, h.outer⟩

end Context.KeepsKeys

/-! ### The turns of a loop -/

/-- The renders that a program asks for, if its requests are answered by `answer`. -/
def Program.requests (answer : Text → Draft → Draft) : Program → List (Text × Draft)
  | done _ => []
  | render text draft next => (text, draft) :: (next (answer text draft)).requests answer

namespace Loop

/-- What a loop leaves as it found it. -/
structure Leaves (entry after : Context) : Prop where
  data : after.data = entry.data
  props : after.props = entry.props
  scopes : after.scopes.map Table.keySet = entry.scopes.map Table.keySet

/-- How a turn finds the context: as the loop found it, with the item in a scope of its own. -/
structure Enters (entry : Context) (name : Text) (item : Value) (inside : Context) : Prop where
  data : inside.data = entry.data
  props : inside.props = entry.props
  scopes : ∃ outer, inside.scopes = [(name, item)] :: outer ∧
    outer.map Table.keySet = entry.scopes.map Table.keySet

private theorem Leaves.lookup? {entry after : Context} (h : Leaves entry after)
    (hs : entry.scopes = []) (path : Text) : after.lookup? path = entry.lookup? path := by
  have hn : after.scopes = [] := by
    have hm := h.scopes
    rwa [hs, List.map_nil, List.map_eq_nil_iff] at hm
  simp only [Context.lookup?, Context.binding?, h.data, h.props, hs, hn]

variable (settings : Settings) (files : Files) (levels : Nat)

private theorem leaves_turn {entry : Context} {draft : Draft} (h : Leaves entry draft.context)
    (name body : Text) (item : Value) :
    let asked := draft.mapContext (·.pushScope [(name, item)])
    Enters entry name item asked.context ∧
      Leaves entry ((((Engine.ofSettings settings).renderWithin files levels body
        asked).mapContext (·.popScope)).context) := by
  intro asked
  have hframe := Context.Framed.law.renderWithin settings files levels body asked
  have hkeys := Context.KeepsKeys.law.renderWithin settings files levels body asked
  refine ⟨⟨h.data, h.props, draft.context.scopes, rfl, h.scopes⟩, ?_, ?_, ?_⟩
  · exact (hframe.data (List.cons_ne_nil _ _)).trans h.data
  · exact hframe.props.trans h.props
  · exact (Context.KeepsKeys.inScope _ hkeys).trans h.scopes

private theorem iterations_isolated (name body : Text) {entry : Context} (items : List Value)
    {draft : Draft} (h : Leaves entry draft.context) :
    let answer := (Engine.ofSettings settings).renderWithin files levels
    let program := TagProgram.iterations name body items draft
    List.Forall₂ (fun item request => request.1 = body ∧ Enters entry name item request.2.context)
        items (program.requests answer) ∧
      Leaves entry (program.run answer).context := by
  induction items generalizing draft with
  | nil => exact ⟨.nil, h⟩
  | cons item items ih =>
    obtain ⟨henter, hleave⟩ := leaves_turn settings files levels h name body item
    obtain ⟨hrest, hlast⟩ := ih hleave
    exact ⟨.cons ⟨rfl, henter⟩ hrest, hlast⟩

private theorem program_eq_iterations {call : Call} {draft : Draft} {block : Block}
    {name path : Text} {value : Value} {items : List Value}
    (hb : call.block settings.delimiters = .ok block) (hh : head call = .ok (name, path))
    (hv : Expression.value draft.context path = .ok value) (hi : itemsOf? value = some items) :
    (BuiltIn.loop.program settings files call draft).1 =
      TagProgram.iterations name block.body items draft := by
  have hitems : Loop.items draft.context path = .ok items := by
    simp only [Loop.items, hv, bind, Except.bind, hi]
    rfl
  simp only [BuiltIn.program, TagProgram.loop, TagProgram.ofBlock, hb, hh, bind, Except.bind,
    hitems, pure, Except.pure]

/-- The turns of a loop are isolated from one another and from what comes after the loop. -/
theorem run_isolated {call : Call} {draft : Draft} {block : Block} {name path : Text}
    {value : Value} {items : List Value} (hb : call.block settings.delimiters = .ok block)
    (hh : head call = .ok (name, path)) (hv : Expression.value draft.context path = .ok value)
    (hi : itemsOf? value = some items) :
    let scene := (Engine.ofSettings settings).sceneWithin files levels
    let program := (BuiltIn.loop.program settings files call draft).1
    let after := (BuiltIn.loop.run scene call draft).1
    after = program.run scene.render ∧
      List.Forall₂
        (fun item request => request.1 = block.body ∧
          Enters draft.context name item request.2.context)
        items (program.requests scene.render) ∧
      value.Lists items ∧ Leaves draft.context after.context ∧
      (draft.context.scopes = [] →
        ∀ path, after.context.lookup? path = draft.context.lookup? path) := by
  intro scene program after
  have hrun : after = program.run scene.render :=
    congrArg Prod.fst (BuiltIn.run_eq_program scene call draft .loop)
  have hprogram : program = TagProgram.iterations name block.body items draft :=
    program_eq_iterations settings files hb hh hv hi
  have hleaves : Leaves draft.context draft.context := ⟨rfl, rfl, rfl⟩
  obtain ⟨hrequests, hafter⟩ :=
    iterations_isolated settings files levels name block.body items hleaves
  rw [← hprogram] at hrequests hafter
  have hlast : Leaves draft.context after.context := hrun ▸ hafter
  exact ⟨hrun, hrequests, lists_of_itemsOf? hi, hlast, hlast.lookup?⟩

/-- What a turn assigns is not found behind the loop. -/
theorem run_isolated_assigned :
    let members : Fields := [("a", .int 1), ("b", .text "t")]
    let draft : Draft := { context := { site := ".", data := [("xs", .object members)] } }
    let body : Text := "\x7b% assign y = x %\x7d"
    let call : Call := ⟨"each", "x in xs", 0, 0, body ++ "\x7b% end-each %\x7d"⟩
    let settings := Engine.standard.toSettings
    let scene := (Engine.ofSettings settings).sceneWithin (.ofKnown []) 1
    let after := (BuiltIn.loop.run scene call draft).1
    call.block .standard = .ok ⟨body, 32⟩ ∧ head call = .ok ("x", "xs") ∧
      Expression.value draft.context "xs" = .ok (.object members) ∧
      itemsOf? (.object members) = some [.int 1, .text "t"] ∧
      Leaves draft.context after.context ∧
      after.context.lookup? "y" = none := by
  intro members draft body call settings scene after
  have hclosing : Balance.closing (Delimiters.standard.openMarker "each")
      (Delimiters.standard.closeMarker "each") 0 0 (body ++ "\x7b% end-each %\x7d") =
        some (body, []) := by decide +kernel
  have hb : call.block .standard = .ok ⟨body, 32⟩ := by
    rw [Call.block, Call.block?, hclosing]
    rfl
  have hh : head call = .ok ("x", "xs") := by rfl
  have hv : Expression.value draft.context "xs" = .ok (.object members) := by rfl
  have hi : itemsOf? (.object members) = some [.int 1, .text "t"] := by rfl
  obtain ⟨-, -, -, hleaves, hlookup⟩ := run_isolated settings (.ofKnown []) 1 hb hh hv hi
  exact ⟨hb, hh, hv, hi, hleaves, (hlookup rfl "y").trans rfl⟩

end Loop
end Stencil
