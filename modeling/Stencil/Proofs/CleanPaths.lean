import Stencil.Path
import Stencil.Proofs.Search
import Mathlib.Data.List.Infix
/-!
# Clean paths

A path leads from a directory to a directory, one segment after another. A clean path spells a
route: steps up and then names, where none leads up from the root. It leads where the path led that
was cleaned, and routes that lead to the same directory from everywhere are one route. So a clean
path is a normal form, and cleaning it again changes nothing.
-/
namespace Stencil

namespace Path

/-- A segment that leads into a directory. -/
def IsName (segment : Text) : Prop :=
  segment ≠ [] ∧ segment ≠ "." ∧ segment ≠ ".." ∧ '/' ∉ segment

instance (segment : Text) : Decidable (IsName segment) :=
  inferInstanceAs (Decidable (_ ∧ _ ∧ _ ∧ _))

/-- The path is no URL. -/
def IsLocal (p : Path) : Prop := ¬ ("://" : Text) <:+: p ∧ ¬ ("//" : Text) <+: p

instance (p : Path) : Decidable (IsLocal p) := inferInstanceAs (Decidable (_ ∧ _))

private theorem isIdle_iff {segment : Text} :
    isIdle segment = true ↔ segment = [] ∨ segment = "." := by
  simp [isIdle]

end Path

/-- A directory by the names that lead to it from the root, innermost first. -/
@[ext]
structure Directory where
  names : List Text
  isName : ∀ name ∈ names, Path.IsName name

namespace Directory

def root : Directory := ⟨[], nofun⟩

/-- One step up; the root stays where it is. -/
def parent (directory : Directory) : Directory :=
  ⟨directory.names.tail, fun name hm => directory.isName name (List.mem_of_mem_tail hm)⟩

/-- An empty segment and a dot lead nowhere else. -/
def enter (directory : Directory) (segment : Text) : Directory :=
  if segment = ".." then directory.parent
  else if h : Path.IsName segment then
    ⟨segment :: directory.names, List.forall_mem_cons.mpr ⟨h, directory.isName⟩⟩
  else directory

/-- Where a path leads from here. A rooted path starts at the root, wherever it is met. -/
def resolve (directory : Directory) (p : Path) : Directory :=
  (Path.segments p).foldl enter (if Path.isRooted p then root else directory)

@[simp] theorem names_root : root.names = [] := rfl

@[simp] theorem names_parent (directory : Directory) :
    directory.parent.names = directory.names.tail := rfl

private theorem enter_up (directory : Directory) : directory.enter ".." = directory.parent :=
  if_pos rfl

private theorem enter_name (directory : Directory) {name : Text} (h : Path.IsName name) :
    (directory.enter name).names = name :: directory.names := by
  rw [enter, if_neg h.2.2.1, dif_pos h]

private theorem enter_idle (directory : Directory) {segment : Text}
    (h : Path.isIdle segment = true) :
    directory.enter segment = directory := by
  rcases Path.isIdle_iff.mp h with rfl | rfl <;> rfl

end Directory

namespace Path

variable {p : Path} {segment : Text}

/-! ### Segments -/

private theorem IsName.not_isIdle (h : IsName segment) : isIdle segment = false := by
  rw [Bool.eq_false_iff, Ne, isIdle_iff]
  exact not_or.mpr ⟨h.1, h.2.1⟩

private theorem segment_cases (h : '/' ∉ segment) :
    isIdle segment = true ∨ segment = ".." ∨ IsName segment := by
  by_cases hidle : isIdle segment = true
  · exact .inl hidle
  · by_cases hup : segment = ".."
    · exact .inr (.inl hup)
    · rw [isIdle_iff, not_or] at hidle
      exact .inr (.inr ⟨hidle.1, hidle.2, hup, h⟩)

private theorem notMem_of_mem_segments (h : segment ∈ segments p) : '/' ∉ segment := by
  induction p generalizing segment with
  | nil => simp_all [segments]
  | cons c p ih =>
    obtain ⟨first, rest, hs⟩ := List.exists_cons_of_ne_nil (List.splitOn_ne_nil '/' p)
    simp only [segments, hs, List.mem_cons] at ih
    rw [segments, List.splitOn_cons_eq_if_modifyHead, hs] at h
    by_cases hc : c = '/'
    · simp only [hc, BEq.rfl, if_true, List.mem_cons] at h
      rcases h with rfl | hm
      · simp
      · exact ih hm
    · simp only [beq_iff_eq, hc, if_false, List.modifyHead_cons, List.mem_cons] at h
      rcases h with rfl | hm
      · have hfirst := ih (.inl rfl)
        simp [hfirst, Ne.symm hc]
      · exact ih (.inr hm)

private theorem segments_cons_slash (p : Path) : segments ('/' :: p) = [] :: segments p := by
  rw [segments, List.splitOn_cons_eq_if_modifyHead]
  rfl

private theorem nil_mem_tail_segments (h : ("//" : Text) <:+: p) : [] ∈ (segments p).tail := by
  obtain ⟨front, back, rfl⟩ := h
  have hsplit : segments (front ++ "//" ++ back) = segments front ++ [] :: segments back := by
    have hslashes : front ++ "//" ++ back = front ++ '/' :: '/' :: back := List.append_assoc _ _ _
    rw [hslashes, segments, List.splitOn_append_cons_self]
    exact congrArg (segments front ++ ·) (segments_cons_slash back)
  obtain ⟨first, rest, hfront⟩ := List.exists_cons_of_ne_nil (List.splitOn_ne_nil '/' front)
  rw [hsplit, segments, hfront]
  exact List.mem_append_right rest List.mem_cons_self

private theorem isUrl_eq_false_iff : isUrl p = false ↔ IsLocal p := by
  rw [isUrl, Bool.or_eq_false_iff, IsLocal, ← Text.contains_iff_infix, Text.startsWith,
    ← List.isPrefixOf_iff_prefix, Bool.not_eq_true, Bool.not_eq_true]

private theorem isRooted_eq_true_iff : isRooted p = true ↔ ∃ rest, p = '/' :: rest := by
  rw [isRooted, Text.startsWith, List.isPrefixOf_iff_prefix]
  constructor <;> rintro ⟨rest, rfl⟩ <;> exact ⟨rest, rfl⟩

/-! ### One segment of a path that is cleaned -/

section

variable {within : List Text} (rooted : Bool)

private theorem descend_idle (h : isIdle segment = true) : descend rooted within segment = within :=
  if_pos h

private theorem descend_name (h : IsName segment) :
    descend rooted within segment = segment :: within :=
  (if_neg (Bool.eq_false_iff.mp h.not_isIdle)).trans (if_neg h.2.2.1)

private theorem descend_out_of {name : Text} (h : IsName name) :
    descend rooted (name :: within) ".." = within := if_pos h.2.2.1

private theorem descend_up (ups : Nat) :
    descend false (List.replicate ups (".." : Text)) ".." =
      List.replicate (ups + 1) (".." : Text) := by
  cases ups with
  | zero => rfl
  | succ ups => rfl

end

end Path

/-- Steps up and then names, as a clean path spells them. Names stand innermost first, and none of
the steps leads up from the root. -/
structure Route where
  isRooted : Bool
  ups : Nat
  names : List Text
  isName : ∀ name ∈ names, Path.IsName name
  ups_eq_zero : isRooted = true → ups = 0

namespace Route

/-- The segments of the route, innermost first. -/
def steps (route : Route) : List Text := route.names ++ List.replicate route.ups (".." : Text)

/-- The path that spells the route. -/
def path (route : Route) : Path :=
  let joined := Text.join "/" route.steps.reverse
  if route.isRooted then "/" ++ joined
  else if joined.isEmpty then "."
  else joined

/-- The directory that a route leads to. -/
def target (route : Route) (start : Directory) : Directory where
  names := route.names ++ if route.isRooted then [] else start.names.drop route.ups
  isName := by
    intro name hm
    rcases List.mem_append.mp hm with hm | hm
    · exact route.isName name hm
    · split at hm
      · cases hm
      · exact start.isName name (List.mem_of_mem_drop hm)

variable {route other : Route}

private theorem names_target (route : Route) (start : Directory) : (route.target start).names =
    route.names ++ if route.isRooted then [] else start.names.drop route.ups := rfl

private theorem of_mem_steps {step : Text} (h : step ∈ route.steps) : step ≠ [] ∧ '/' ∉ step := by
  rcases List.mem_append.mp h with hm | hm
  · exact ⟨(route.isName step hm).1, (route.isName step hm).2.2.2⟩
  · rw [List.eq_of_mem_replicate hm]
    decide

private theorem nil_notMem_reverse_steps (route : Route) : [] ∉ route.steps.reverse := fun hm =>
  (of_mem_steps (List.mem_reverse.mp hm)).1 rfl

/-! ### The route of a path -/

private theorem exists_descend (route : Route) {segment : Text} (h : '/' ∉ segment) :
    ∃ next : Route, next.isRooted = route.isRooted ∧
      next.steps = Path.descend route.isRooted route.steps segment ∧
      ∀ start, next.target start = (route.target start).enter segment := by
  obtain ⟨rooted, ups, names, hnames, hups⟩ := route
  rcases Path.segment_cases h with hidle | rfl | hname
  · refine ⟨⟨rooted, ups, names, hnames, hups⟩, rfl, ?_, fun start => ?_⟩
    · rw [Path.descend_idle _ hidle]
    · rw [Directory.enter_idle _ hidle]
  · -- A step up leads out of the last name, then further up, but not out of the root.
    cases names with
    | cons last outer =>
      obtain ⟨hlast, houter⟩ := List.forall_mem_cons.mp hnames
      refine ⟨⟨rooted, ups, outer, houter, hups⟩, rfl, ?_, fun start => ?_⟩
      · exact (Path.descend_out_of _ hlast).symm
      · rw [Directory.enter_up]
        rfl
    | nil =>
      cases rooted with
      | true =>
        obtain rfl := hups rfl
        refine ⟨⟨true, 0, [], hnames, hups⟩, rfl, rfl, fun start => ?_⟩
        rw [Directory.enter_up]
        rfl
      | false =>
        refine ⟨⟨false, ups + 1, [], hnames, nofun⟩, rfl, (Path.descend_up ups).symm,
          fun start => ?_⟩
        rw [Directory.enter_up]
        exact Directory.ext List.tail_drop.symm
  · have hall := List.forall_mem_cons.mpr ⟨hname, hnames⟩
    refine ⟨⟨rooted, ups, segment :: names, hall, hups⟩, rfl, ?_, fun start => ?_⟩
    · exact (Path.descend_name _ hname).symm
    · apply Directory.ext
      rw [Directory.enter_name _ hname]
      rfl

private theorem exists_foldl_descend (route : Route) {segments : List Text}
    (h : ∀ segment ∈ segments, '/' ∉ segment) :
    ∃ last : Route, last.isRooted = route.isRooted ∧
      last.steps = segments.foldl (Path.descend route.isRooted) route.steps ∧
      ∀ start, last.target start = segments.foldl Directory.enter (route.target start) := by
  induction segments generalizing route with
  | nil => exact ⟨route, rfl, rfl, fun _ => rfl⟩
  | cons segment segments ih =>
    obtain ⟨hfirst, hrest⟩ := List.forall_mem_cons.mp h
    obtain ⟨next, hrooted, hsteps, htarget⟩ := route.exists_descend hfirst
    obtain ⟨last, hlast, hall, hend⟩ := ih next hrest
    rw [hrooted] at hlast hall
    refine ⟨last, hlast, ?_, fun start => ?_⟩
    · rw [hall, hsteps, List.foldl_cons]
    · rw [hend, htarget, List.foldl_cons]

private theorem exists_clean_eq {p : Path} (h : p.IsLocal) :
    ∃ route : Route, route.isRooted = p.isRooted ∧ p.clean = route.path ∧
      ∀ start, route.target start = Directory.resolve start p := by
  obtain ⟨route, hrooted, hsteps, htarget⟩ :=
    exists_foldl_descend ⟨p.isRooted, 0, [], nofun, fun _ => rfl⟩
      fun segment => @Path.notMem_of_mem_segments p segment
  refine ⟨route, hrooted, ?_, fun start => (htarget start).trans ?_⟩
  · have hlocal : ¬ p.isUrl = true := Bool.eq_false_iff.mp (Path.isUrl_eq_false_iff.mpr h)
    rw [Path.clean, if_neg hlocal, path, hrooted, hsteps]
    rfl
  · rw [Directory.resolve]
    congr 1
    cases p.isRooted <;> rfl

/-! ### Reading the path of a route -/

private theorem segments_path (h : route.steps ≠ []) :
    route.path.segments = (if route.isRooted then [[]] else []) ++ route.steps.reverse := by
  have hjoined : Path.segments (Text.join "/" route.steps.reverse) = route.steps.reverse :=
    List.splitOn_intercalate '/' (fun step hm => (of_mem_steps (List.mem_reverse.mp hm)).2)
      (by simpa using h)
  cases hr : route.isRooted with
  | true =>
    rw [path, hr]
    exact (Path.segments_cons_slash _).trans (congrArg ([] :: ·) hjoined)
  | false =>
    have hne : Text.join "/" route.steps.reverse ≠ [] := by
      intro he
      rw [he] at hjoined
      exact route.nil_notMem_reverse_steps (hjoined ▸ List.mem_singleton_self [])
    rw [path, hr, List.isEmpty_eq_false_iff.mpr hne]
    exact hjoined

private theorem path_of_no_steps (h : route.steps = []) :
    route.path = if route.isRooted then ("/" : Text) else "." := by
  rw [path, h]
  rfl

private theorem isRooted_path (route : Route) : route.path.isRooted = route.isRooted := by
  by_cases hsteps : route.steps = []
  · rw [path_of_no_steps hsteps]
    cases route.isRooted <;> rfl
  · cases hr : route.isRooted with
    | true =>
      rw [path, hr]
      rfl
    | false =>
      rw [Bool.eq_false_iff]
      intro hrooted
      obtain ⟨rest, hp⟩ := Path.isRooted_eq_true_iff.mp hrooted
      have hsegments : [] :: Path.segments rest = route.steps.reverse := by
        rw [← Path.segments_cons_slash, ← hp, segments_path hsteps, hr]
        rfl
      exact route.nil_notMem_reverse_steps (hsegments ▸ List.mem_cons_self)

private theorem not_infix_path (route : Route) : ¬ ("//" : Text) <:+: route.path := by
  intro h
  have hm := Path.nil_mem_tail_segments h
  by_cases hsteps : route.steps = []
  · rw [path_of_no_steps hsteps] at h
    revert h
    cases route.isRooted <;> decide
  · rw [segments_path hsteps] at hm
    refine route.nil_notMem_reverse_steps ?_
    split at hm
    · exact hm
    · exact List.mem_of_mem_tail hm

private theorem isLocal_path (route : Route) : route.path.IsLocal := by
  have hurl : ("//" : Text) <:+: "://" := by decide
  exact ⟨fun h => route.not_infix_path (hurl.trans h), fun h => route.not_infix_path h.isInfix⟩

/-! ### Where a route leads -/

private theorem foldr_enter_names {names : List Text} (h : ∀ name ∈ names, Path.IsName name)
    (directory : Directory) :
    (names.foldr (fun name directory => directory.enter name) directory).names =
      names ++ directory.names := by
  induction names with
  | nil => rfl
  | cons name names ih =>
    obtain ⟨hname, hrest⟩ := List.forall_mem_cons.mp h
    simp [Directory.enter_name _ hname, ih hrest]

private theorem foldr_enter_ups (ups : Nat) (directory : Directory) :
    ((List.replicate ups (".." : Text)).foldr (fun step directory => directory.enter step)
      directory).names = directory.names.drop ups := by
  induction ups with
  | zero => rfl
  | succ ups ih =>
    rw [List.replicate_succ, List.foldr_cons, Directory.enter_up, Directory.names_parent, ih]
    simp

private theorem foldl_enter_steps (route : Route) (directory : Directory) :
    (route.steps.reverse.foldl Directory.enter directory).names =
      route.names ++ directory.names.drop route.ups := by
  rw [List.foldl_reverse, steps, List.foldr_append, foldr_enter_names route.isName,
    foldr_enter_ups]

private theorem resolve_path (route : Route) (start : Directory) :
    start.resolve route.path = route.target start := by
  rw [Directory.resolve, isRooted_path]
  by_cases hsteps : route.steps = []
  · rw [path_of_no_steps hsteps]
    obtain ⟨rooted, ups, names, hnames, hups⟩ := route
    obtain ⟨rfl, hreplicate⟩ := List.append_eq_nil_iff.mp hsteps
    obtain rfl : ups = 0 := by simpa using hreplicate
    cases rooted <;> rfl
  · apply Directory.ext
    rw [segments_path hsteps, List.foldl_append, foldl_enter_steps, names_target]
    cases route.isRooted with
    | true => exact congrArg (route.names ++ ·) List.drop_nil
    | false => rfl

private theorem length_target (route : Route) (start : Directory) :
    (route.target start).names.length =
      route.names.length + if route.isRooted then 0 else start.names.length - route.ups := by
  cases hr : route.isRooted <;> simp [names_target, hr]

/-- Routes that lead to the same directory from everywhere are one route. -/
theorem eq_of_target_eq (h : ∀ start, route.target start = other.target start) : route = other := by
  have hnames : route.names = other.names := by
    have hroot := congrArg Directory.names (h .root)
    simpa [names_target] using hroot
  -- From a place deeper than either of the two leads up, it shows how far up each of them leads.
  let deep : Directory :=
    ⟨List.replicate (route.ups + other.ups + 1) "a", fun name hm => by
      rw [List.eq_of_mem_replicate hm]
      decide⟩
  have hdepth : deep.names.length = route.ups + other.ups + 1 := List.length_replicate
  have hdeep := congrArg (fun directory => directory.names.length) (h deep)
  simp only [length_target, hdepth, hnames] at hdeep
  obtain ⟨rooted, ups, names, hname, hups⟩ := route
  obtain ⟨rooted', ups', names', hname', hups'⟩ := other
  obtain rfl : names = names' := hnames
  have hsame : rooted = rooted' ∧ ups = ups' := by
    cases rooted <;> cases rooted' <;> simp at hdeep hups hups' ⊢ <;> omega
  obtain ⟨rfl, rfl⟩ := hsame
  rfl

private theorem clean_path (route : Route) : route.path.clean = route.path := by
  obtain ⟨cleaned, -, hclean, htarget⟩ := exists_clean_eq route.isLocal_path
  have heq : cleaned = route :=
    eq_of_target_eq fun start => (htarget start).trans (route.resolve_path start)
  rw [hclean, heq]

end Route

namespace Path

private theorem clean_of_isUrl {p : Path} (h : p.isUrl = true) : p.clean = p := if_pos h

/-- Cleaning twice is cleaning once. The clean path of one that is no URL spells a route that is
rooted as the path is, has no two slashes in a row and leads where the path leads. Two such paths
are cleaned to one exactly if they lead to the same directory from everywhere. -/
theorem clean_canonical (p : Path) :
    p.clean.clean = p.clean ∧
    (p.IsLocal →
      p.clean.isRooted = p.isRooted ∧
      (∃ route : Route, route.isRooted = p.isRooted ∧ p.clean = route.path) ∧
      ¬ ("//" : Text) <:+: p.clean ∧
      (∀ start : Directory, start.resolve p.clean = start.resolve p) ∧
      ∀ q : Path, q.IsLocal →
        (p.clean = q.clean ↔ ∀ start : Directory, start.resolve p = start.resolve q)) := by
  constructor
  · cases hurl : p.isUrl with
    | true => rw [clean_of_isUrl hurl, clean_of_isUrl hurl]
    | false =>
      obtain ⟨route, -, hclean, -⟩ := Route.exists_clean_eq (isUrl_eq_false_iff.mp hurl)
      rw [hclean, route.clean_path]
  · intro hp
    obtain ⟨route, hrooted, hclean, htarget⟩ := Route.exists_clean_eq hp
    refine ⟨?_, ⟨route, hrooted, hclean⟩, ?_, fun start => ?_, fun q hq => ⟨?_, ?_⟩⟩
    · rw [hclean, route.isRooted_path, hrooted]
    · rw [hclean]
      exact route.not_infix_path
    · rw [hclean, route.resolve_path, htarget]
    · intro heq start
      obtain ⟨other, -, hclean', htarget'⟩ := Route.exists_clean_eq hq
      rw [← htarget, ← htarget', ← route.resolve_path, ← other.resolve_path, ← hclean, ← hclean',
        heq]
    · intro halike
      obtain ⟨other, -, hclean', htarget'⟩ := Route.exists_clean_eq hq
      have heq : route = other := Route.eq_of_target_eq fun start =>
        (htarget start).trans ((halike start).trans (htarget' start).symm)
      rw [hclean, hclean', heq]

/-- A path that leaves a directory which it enters first, and the short spelling of its way. -/
theorem clean_canonical_detour :
    let p : Path := "a/../.././b//."
    let q : Path := "../b"
    p.IsLocal ∧ q.IsLocal ∧ p.clean = q ∧ q.clean = q ∧ p.clean.clean = p.clean ∧
      ∀ start : Directory, start.resolve p = start.resolve q := by
  intro p q
  have hp : p.IsLocal := by decide
  have hq : q.IsLocal := by decide
  have hclean : p.clean = q := by decide
  have hsame : q.clean = q := by decide
  have hcanonical := clean_canonical p
  obtain ⟨-, -, -, -, hiff⟩ := hcanonical.2 hp
  exact ⟨hp, hq, hclean, hsame, hcanonical.1, (hiff q hq).mp (hclean.trans hsame.symm)⟩

end Path
end Stencil
