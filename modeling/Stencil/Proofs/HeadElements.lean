import Stencil.Tag.Head
import Stencil.Proofs.Escaping
import Stencil.Proofs.Search
/-!
# Runs of the head registry

The registry tells elements apart by a text that joins their name and their attributes with colons.
Where colons stand in quoted values only, as in every attribute that is written as a name without a
colon and a value, that text says which element it is of: each name with its attributes is accepted
once and emitted once, in the order of the first additions. Elsewhere two elements can have one key.
-/
namespace Stencil

namespace HeadElement

/-- Of one name, with the same attributes in the same order. -/
def SameIdentity (a b : HeadElement) : Prop := a.name = b.name ∧ a.attributes = b.attributes

/-- Colons stand inside double quotes only, and each quote is closed; `inside` says whether one is
open in front of the text. -/
def quotesColons (inside : Bool) : Text → Bool
  | [] => !inside
  | c :: t =>
    if c = '"' then quotesColons (!inside) t else (inside || c != ':') && quotesColons inside t

/-- The element can be told from its key. -/
structure Legible (element : HeadElement) : Prop where
  name : ':' ∉ element.name
  attributes : ∀ written ∈ element.attributes, quotesColons false written = true
  /-- One empty flag would look like no attribute. -/
  shown : element.attributes ≠ [[]]

/-! ### What is written as a name with a value, or as a flag -/

private theorem quotesColons_append {inside : Bool} {s : Text} (hq : '"' ∉ s)
    (hc : inside = true ∨ ':' ∉ s) (t : Text) :
    quotesColons inside (s ++ t) = quotesColons inside t := by
  induction s with
  | nil => rfl
  | cons c s ih =>
    obtain ⟨hne, hq⟩ := not_or.mp (mt List.mem_cons.mpr hq)
    have hs : inside = true ∨ ':' ∉ s := hc.imp_right fun h hm => h (List.mem_cons_of_mem _ hm)
    have hcolon : (inside || c != ':') = true := by
      rcases hc with rfl | hc
      · rfl
      · have hne : c ≠ ':' := fun he => hc (he ▸ List.mem_cons_self)
        simp [hne]
    rw [List.cons_append, quotesColons, if_neg (Ne.symm hne), hcolon, Bool.true_and, ih hq hs]

private theorem Legible.ofName {name : Text} (h : ':' ∉ name) : Legible { name } :=
  ⟨h, List.forall_mem_nil _, nofun⟩

private theorem Legible.withFlag {element : HeadElement} (h : element.Legible) {flag : Text}
    (hf : quotesColons false flag = true) (hne : flag ≠ []) : (element.withFlag flag).Legible where
  name := h.name
  attributes := by
    intro written hm
    rcases List.mem_append.mp hm with hm | hm
    · exact h.attributes written hm
    · exact List.mem_singleton.mp hm ▸ hf
  shown := by
    intro he
    have hl := congrArg List.getLast? he
    simp [HeadElement.withFlag] at hl
    exact hne hl

private theorem Legible.withValue {element : HeadElement} (h : element.Legible) {name : Text}
    (hq : '"' ∉ name) (hc : ':' ∉ name) (value : Text) :
    (element.withValue name value).Legible := by
  apply h.withFlag
  · have hopen : ("=\"" : Text) = ['=', '"'] := by decide
    have hclose : ("\"" : Text) = ['"'] := by decide
    rw [Html.valueAttribute, hopen, hclose, List.append_assoc, List.append_assoc,
      quotesColons_append hq (.inr hc)]
    change quotesColons true (Html.escape value ++ ['"']) = true
    rw [quotesColons_append (Html.notMem_escape (by decide) value) (.inl rfl)]
    rfl
  · simp [Html.valueAttribute]

/-! ### Keys -/

private theorem cut_unique {inside : Bool} {s t u v : Text} (hs : quotesColons inside s = true)
    (ht : quotesColons inside t = true) (hu : ∀ c ∈ u.head?, c = ':') (hv : ∀ c ∈ v.head?, c = ':')
    (h : s ++ u = t ++ v) : s = t ∧ u = v := by
  induction s generalizing inside t with
  | nil =>
    cases t with
    | nil => exact ⟨rfl, h⟩
    | cons d t =>
      obtain rfl : inside = false := by simpa [quotesColons] using hs
      rw [List.nil_append] at h
      obtain rfl : d = ':' := hu d (by simp [h])
      cases ht
  | cons c s ih =>
    cases t with
    | nil =>
      obtain rfl : inside = false := by simpa [quotesColons] using ht
      rw [List.nil_append] at h
      obtain rfl : c = ':' := hv c (by simp [← h])
      cases hs
    | cons d t =>
      rw [List.cons_append, List.cons_append] at h
      obtain ⟨rfl, hrest⟩ := List.cons.inj h
      rw [quotesColons] at hs ht
      split at hs
      · next hq =>
        rw [if_pos hq] at ht
        obtain ⟨rfl, rfl⟩ := ih hs ht hrest
        exact ⟨rfl, rfl⟩
      · next hq =>
        rw [if_neg hq] at ht
        obtain ⟨rfl, rfl⟩ := ih (Bool.and_eq_true_iff.mp hs).2 (Bool.and_eq_true_iff.mp ht).2 hrest
        exact ⟨rfl, rfl⟩

/-- The attributes behind the first one, as they stand in a key. -/
private def joinTail (attributes : List Text) : Text := attributes.flatMap fun text => ':' :: text

private theorem join_cons (first : Text) (rest : List Text) :
    Text.join ":" (first :: rest) = first ++ joinTail rest := by
  induction rest generalizing first with
  | nil => simp [Text.join_singleton, joinTail]
  | cons second rest ih =>
    rw [Text.join_cons_cons, ih, List.append_assoc]
    rfl

private theorem head?_joinTail (attributes : List Text) :
    ∀ c ∈ (joinTail attributes).head?, c = ':' := by
  cases attributes with
  | nil => nofun
  | cons first rest =>
    intro c hc
    exact (Option.some.inj hc).symm

private theorem joinTail_inj {as bs : List Text}
    (ha : ∀ written ∈ as, quotesColons false written = true)
    (hb : ∀ written ∈ bs, quotesColons false written = true) (h : joinTail as = joinTail bs) :
    as = bs := by
  induction as generalizing bs with
  | nil =>
    cases bs with
    | nil => rfl
    | cons b bs => cases h
  | cons a as ih =>
    cases bs with
    | nil => cases h
    | cons b bs =>
      obtain ⟨ha, has⟩ := List.forall_mem_cons.mp ha
      obtain ⟨hb, hbs⟩ := List.forall_mem_cons.mp hb
      have hab : a ++ joinTail as = b ++ joinTail bs := (List.cons.inj h).2
      obtain ⟨rfl, hrest⟩ := cut_unique ha hb (head?_joinTail as) (head?_joinTail bs) hab
      rw [ih has hbs hrest]

private theorem join_inj {as bs : List Text}
    (ha : ∀ written ∈ as, quotesColons false written = true) (ha' : as ≠ [[]])
    (hb : ∀ written ∈ bs, quotesColons false written = true) (hb' : bs ≠ [[]])
    (h : Text.join ":" as = Text.join ":" bs) : as = bs := by
  have hempty {rest : List Text} {first : Text} (hj : [] = first ++ joinTail rest) :
      first :: rest = [[]] := by
    obtain ⟨rfl, ht⟩ := List.append_eq_nil_iff.mp hj.symm
    cases rest with
    | nil => rfl
    | cons second rest => cases ht
  cases as with
  | nil =>
    cases bs with
    | nil => rfl
    | cons b bs => exact absurd (hempty (h.trans (join_cons b bs))) hb'
  | cons a as =>
    cases bs with
    | nil => exact absurd (hempty (h.symm.trans (join_cons a as))) ha'
    | cons b bs =>
      rw [join_cons, join_cons] at h
      exact joinTail_inj ha hb (congrArg (':' :: ·) h)

private theorem breakOn?_name {name : Text} (h : ':' ∉ name) (rest : Text) :
    Text.breakOn? ":" (name ++ ":" ++ rest) = some (name, rest) :=
  Text.breakOn?_of_notMem h rest

private theorem SameIdentity.key_eq {a b : HeadElement} (h : a.SameIdentity b) : a.key = b.key := by
  rw [key, key, h.1, h.2]

/-- The keys of legible elements say whether they are the same. -/
theorem key_eq_iff {a b : HeadElement} (ha : a.Legible) (hb : b.Legible) :
    a.key = b.key ↔ a.SameIdentity b := by
  constructor
  · intro h
    have hcut := congrArg (Text.breakOn? ":") h
    rw [key, key, breakOn?_name ha.name, breakOn?_name hb.name] at hcut
    obtain ⟨hn, hj⟩ := Prod.ext_iff.mp (Option.some.inj hcut)
    exact ⟨hn, join_inj ha.attributes ha.shown hb.attributes hb.shown hj⟩
  · exact SameIdentity.key_eq

end HeadElement

namespace HeadTag

open HeadElement

private theorem quote_notMem_key {token key written : Text}
    (h : Arguments.pair? token = some (key, written)) : '"' ∉ key := by
  have hkey := (Option.filter_eq_some_iff.mp h).2
  intro hm
  have hq : key.any Arguments.isQuote = true := List.any_eq_true.mpr ⟨'"', hm, rfl⟩
  simp [hq] at hkey

/-- What is written in pairs can be told from its key, whatever its values are. -/
theorem legible_of_pairs {context : Context} {tokens : List Text} {element next : HeadElement}
    (h : tokens.foldlM (addToken context) element = .ok next) (he : element.Legible)
    (hp : ∀ token ∈ tokens, ∃ key written,
      Arguments.pair? token = some (key, written) ∧ ':' ∉ key) : next.Legible := by
  induction tokens generalizing element with
  | nil =>
    cases h
    exact he
  | cons token tokens ih =>
    obtain ⟨⟨key, written, hpair, hcolon⟩, hp⟩ := List.forall_mem_cons.mp hp
    have hadd : addToken context element token =
        (valueText context written).map fun value => element.withValue key value := by
      rw [addToken, hpair]
    rw [List.foldlM_cons, hadd] at h
    cases hv : valueText context written with
    | error problem =>
      rw [hv] at h
      cases h
    | ok value =>
      rw [hv] at h
      exact ih h (he.withValue (quote_notMem_key hpair) hcolon value) hp

end HeadTag

namespace HeadRegistry

variable {registry : HeadRegistry} {element : HeadElement}

/-! ### One addition -/

/-- The registry has the key of the element. -/
def Knows (registry : HeadRegistry) (element : HeadElement) : Prop :=
  ∃ old ∈ registry.elements, old.key = element.key

private theorem knows_iff :
    (registry.elements.any fun old => old.key == element.key) = true ↔ registry.Knows element := by
  simp [Knows]

private theorem add_of_knows (h : registry.Knows element) :
    registry.add element = (false, registry) := by
  rw [add, if_pos (knows_iff.mpr h)]

private theorem add_of_new (h : ¬ registry.Knows element) :
    registry.add element = (true, ⟨registry.elements ++ [element]⟩) := by
  rw [add, if_neg (mt knows_iff.mp h)]

private theorem add_eq_false_iff : (registry.add element).1 = false ↔ registry.Knows element := by
  by_cases h : registry.Knows element
  · simp [add_of_knows h, h]
  · simp [add_of_new h, h]

private theorem knows_add {added : HeadElement}
    (h : registry.Knows element ∨ added.key = element.key) :
    (registry.add added).2.Knows element := by
  by_cases hk : registry.Knows added
  · rw [add_of_knows hk]
    refine h.elim id fun he => ?_
    obtain ⟨old, hm, ho⟩ := hk
    exact ⟨old, hm, ho.trans he⟩
  · rw [add_of_new hk]
    rcases h with ⟨old, hm, ho⟩ | he
    · exact ⟨old, List.mem_append_left _ hm, ho⟩
    · exact ⟨added, List.mem_append_right _ List.mem_cons_self, he⟩

/-! ### Runs -/

/-- The registry behind a run of additions. -/
def afterAll (registry : HeadRegistry) (run : List HeadElement) : HeadRegistry :=
  run.foldl (fun registry element => (registry.add element).2) registry

/-- The elements of a run whose addition is not refused. -/
def accepted (registry : HeadRegistry) : List HeadElement → List HeadElement
  | [] => []
  | element :: rest =>
    let others := accepted (registry.add element).2 rest
    if (registry.add element).1 then element :: others else others

private theorem afterAll_cons (registry : HeadRegistry) (element : HeadElement)
    (rest : List HeadElement) :
    registry.afterAll (element :: rest) = (registry.add element).2.afterAll rest := rfl

private theorem elements_afterAll (registry : HeadRegistry) (run : List HeadElement) :
    (registry.afterAll run).elements = registry.elements ++ registry.accepted run := by
  induction run generalizing registry with
  | nil => exact (List.append_nil _).symm
  | cons element rest ih =>
    rw [afterAll_cons, ih, accepted]
    by_cases hk : registry.Knows element
    · simp [add_of_knows hk]
    · simp [add_of_new hk]

private theorem accepted_sublist (registry : HeadRegistry) (run : List HeadElement) :
    (registry.accepted run).Sublist run := by
  induction run generalizing registry with
  | nil => exact .slnil
  | cons element rest ih =>
    rw [accepted]
    split
    · exact (ih _).cons_cons element
    · exact (ih _).cons element

private theorem pairwise_afterAll {run : List HeadElement}
    (h : registry.elements.Pairwise fun a b => a.key ≠ b.key) :
    (registry.afterAll run).elements.Pairwise fun a b => a.key ≠ b.key := by
  induction run generalizing registry with
  | nil => exact h
  | cons element rest ih =>
    rw [afterAll_cons]
    apply ih
    by_cases hk : registry.Knows element
    · rw [add_of_knows hk]
      exact h
    · rw [add_of_new hk]
      refine List.pairwise_append.mpr ⟨h, List.pairwise_singleton _ _, ?_⟩
      intro old hm added ha he
      obtain rfl := List.mem_singleton.mp ha
      exact hk ⟨old, hm, he⟩

private theorem knows_afterAll {run : List HeadElement}
    (h : registry.Knows element ∨ element ∈ run) :
    (registry.afterAll run).Knows element := by
  induction run generalizing registry with
  | nil => exact h.resolve_right List.not_mem_nil
  | cons first rest ih =>
    rw [afterAll_cons]
    apply ih
    rcases h with hk | hm
    · exact .inl (knows_add (.inl hk))
    · rcases List.mem_cons.mp hm with rfl | hm
      · exact .inl (knows_add (.inr rfl))
      · exact .inr hm

/-! ### The law of the registry -/

/-- Behind any run the registry holds what was accepted, in order and no name with its attributes
twice, and emits it so. An addition is refused and changes nothing, or is appended, and what was
accepted before is refused. If all elements are legible nothing else is refused, so that each of
them was accepted once. -/
theorem added_once (run : List HeadElement) (next : HeadElement) :
    let registry := afterAll {} run
    let kept := accepted {} run
    let known := ∃ old ∈ kept, old.SameIdentity next
    registry.elements = kept ∧ kept.Sublist run ∧
    kept.Pairwise (fun a b => ¬ a.SameIdentity b) ∧
    registry.html = Text.join "\n" (kept.map HeadElement.html) ∧
    (registry.add next = (false, registry) ∨
      registry.add next = (true, ⟨kept ++ [next]⟩)) ∧
    (known → (registry.add next).1 = false) ∧
    ((∀ element ∈ next :: run, element.Legible) →
      ((registry.add next).1 = false ↔ known) ∧
      ∀ element ∈ run, ∃ old ∈ kept, old.SameIdentity element) := by
  intro registry kept known
  have helements : registry.elements = kept := elements_afterAll {} run
  have hsub : kept.Sublist run := accepted_sublist {} run
  have hkeys : kept.Pairwise fun a b => a.key ≠ b.key := by
    rw [← helements]
    exact pairwise_afterAll .nil
  have hknown (element : HeadElement) (hsame : ∃ old ∈ kept, old.SameIdentity element) :
      registry.Knows element := by
    obtain ⟨old, hm, hs⟩ := hsame
    exact ⟨old, helements ▸ hm, hs.key_eq⟩
  refine ⟨helements, hsub, hkeys.imp fun hne hs => hne hs.key_eq, ?_, ?_,
    fun hk => add_eq_false_iff.mpr (hknown next hk), fun h => ?_⟩
  · rw [html, helements]
  · by_cases hk : registry.Knows next
    · exact .inl (add_of_knows hk)
    · exact .inr (helements ▸ add_of_new hk)
  · obtain ⟨hnext, hrun⟩ := List.forall_mem_cons.mp h
    have hlegible {element : HeadElement} (he : element.Legible) (hk : registry.Knows element) :
        ∃ old ∈ kept, old.SameIdentity element := by
      obtain ⟨old, hm, ho⟩ := hk
      rw [helements] at hm
      exact ⟨old, hm, (HeadElement.key_eq_iff (hrun old (hsub.subset hm)) he).mp ho⟩
    refine ⟨add_eq_false_iff.trans ⟨hlegible hnext, hknown next⟩, fun element hm => ?_⟩
    exact hlegible (hrun element hm) (knows_afterAll (.inr hm))

/-- A title, a property whose values hold colons and quotes, and the property once more. -/
theorem added_once_property :
    let title (body : Text) : HeadElement := { name := "title", body := some body }
    let property : HeadElement := (HeadElement.withValue { name := "meta" } "property" "og:url")
      |>.withValue "content" "a:\"b:\""
    let run : List HeadElement := [title "A", property, title "B"]
    (∀ element ∈ property :: run, element.Legible) ∧ accepted {} run = [title "A", property] ∧
      ((afterAll {} run).add property).1 = false := by
  intro title property run
  have hcolon : ':' ∉ ("title" : Text) := by decide
  have htitle (body : Text) : (title body).Legible := ⟨hcolon, List.forall_mem_nil _, nofun⟩
  have hproperty : property.Legible :=
    ((HeadElement.Legible.ofName (by decide)).withValue (by decide) (by decide) _).withValue
      (by decide) (by decide) _
  have hrun : ∀ element ∈ property :: run, element.Legible := by
    simp [run, htitle, hproperty]
  have haccepted : accepted {} run = [title "A", property] := rfl
  obtain ⟨-, -, -, -, -, -, hlaw⟩ := added_once run property
  refine ⟨hrun, haccepted, (hlaw hrun).1.mpr ⟨property, ?_, rfl, rfl⟩⟩
  rw [haccepted]
  exact List.mem_cons_of_mem _ List.mem_cons_self

/-- Two flags are taken for the one flag that joins them with a colon. -/
theorem flags_merged :
    let joined : HeadElement := { name := "meta", attributes := [("a:b" : Text)] }
    let apart : HeadElement := { name := "meta", attributes := [("a" : Text), ("b" : Text)] }
    (∀ old ∈ accepted {} [joined], ¬ old.SameIdentity apart) ∧
      ((afterAll {} [joined]).add apart).1 = false ∧
      (afterAll {} [joined, apart]).html = ("<meta a:b>" : String).toList := by
  intro joined apart
  refine ⟨?_, rfl, rfl⟩
  intro old hm hsame
  obtain rfl : old = joined := by
    have haccepted : accepted {} [joined] = [joined] := rfl
    rw [haccepted] at hm
    exact List.mem_singleton.mp hm
  exact absurd (congrArg List.length hsame.2) (by decide)

end HeadRegistry
end Stencil
