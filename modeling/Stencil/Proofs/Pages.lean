import Stencil.Proofs.Append
import Stencil.Proofs.Isolation
import Stencil.Proofs.Stack
/-!
# Whole pages

A page is an error only if its file cannot be read or its data file holds no object. Every other
page is rendered in a fresh context, whose values come from the data file, the query of the request
and the caller, in this order. The root layout is then rendered in the context behind the page,
which stands outside of every file again, so neither of the two files can be refused.
-/
namespace Stencil

/-! ### Tables written over one another -/

namespace Table

variable {α : Type}

theorem Ascending.set {table : Table α} (h : table.Ascending) (key : Text) (value : α) :
    (table.set key value).Ascending := by
  induction table with
  | nil => exact List.pairwise_singleton _ _
  | cons entry rest ih =>
    obtain ⟨k, v⟩ := entry
    obtain ⟨hfirst, hrest⟩ := List.pairwise_cons.mp h
    simp only [Table.set]
    split
    · next hk =>
      subst hk
      exact List.pairwise_cons.mpr ⟨hfirst, hrest⟩
    · next hk =>
      split
      · next hlt =>
        refine List.pairwise_cons.mpr ⟨fun other hm => ?_, h⟩
        rcases List.mem_cons.mp hm with rfl | hm
        · exact hlt
        · exact List.lt_trans hlt (hfirst other hm)
      · next hlt =>
        have hgt : k < key := by
          by_contra hn
          exact hk (List.le_antisymm (List.not_lt.mp hlt) (List.not_lt.mp hn))
        refine List.pairwise_cons.mpr ⟨fun other hm => ?_, ih hrest⟩
        rcases eq_or_mem_of_mem_set hm with rfl | hm
        · exact hgt
        · exact hfirst other hm

private theorem Ascending.setAll {table : Table α} (h : table.Ascending)
    (entries : List (Text × α)) :
    (table.setAll entries).Ascending := by
  induction entries generalizing table with
  | nil => exact h
  | cons entry entries ih => exact ih (h.set entry.1 entry.2)

private theorem get?_eq_none_of_forall_ne {key : Text} {table : Table α}
    (h : ∀ entry ∈ table, entry.1 ≠ key) : table.get? key = none := by
  cases hg : table.get? key with
  | none => rfl
  | some value => exact absurd rfl (h _ (mem_of_get? hg))

private theorem get?_setAll {own : Table α} (h : own.Ascending) (table : Table α) (key : Text) :
    (table.setAll own).get? key = (own.get? key).or (table.get? key) := by
  induction own generalizing table with
  | nil => rfl
  | cons entry rest ih =>
    obtain ⟨k, v⟩ := entry
    obtain ⟨hfirst, hrest⟩ := List.pairwise_cons.mp h
    refine (ih hrest (table.set k v)).trans ?_
    by_cases hk : k = key
    · subst hk
      have hnone : get? k rest = none := by
        apply get?_eq_none_of_forall_ne
        intro entry hm he
        have hlt : k < entry.1 := hfirst entry hm
        rw [he] at hlt
        exact List.lt_irrefl k hlt
      rw [hnone, get?_set_self]
      simp [get?]
    · rw [get?_set_of_ne (Ne.symm hk)]
      simp [get?, hk]

end Table

namespace Page

variable (config : Config) (files : Files)

/-! ### Where the values of a page come from -/

/-- The data file next to a page, if it exists. -/
def dataFile? (page : Path) : Option Path :=
  ((Path.parent? page).map fun folder => Path.join folder config.dataFile).filter files.isFile

/-- The values of the data file next to a page, none if there is no such file. -/
def Owns (page : Path) (own : Fields) : Prop :=
  match dataFile? config files page with
  | none => own = []
  | some file => ∃ text, files.read file = .ok text ∧ Json.readObject? text = some own

/-- The data file next to a page exists and does not hold an object. -/
def DataFails (page : Path) : Prop :=
  ∃ file, dataFile? config files page = some file ∧
    ∀ text own, files.read file = .ok text → Json.readObject? text ≠ some own

/-- The query of the request stands below `URL`, next to what the caller has there. -/
def urlValue (data : Fields) (request : Request) : Value :=
  .object ((Value.membersOrNone (data.get? "URL")).set "Query" (.object request.queryObject))

/-- The value that a page finds at a key: that of the data file, else the one below `URL` that holds
the query, else that of the caller. -/
def valueOf (own data : Fields) (request : Option Request) (key : Text) : Option Value :=
  (own.get? key).or <| match request with
    | some request => if key = "URL" then some (urlValue data request) else data.get? key
    | none => data.get? key

/-- The values of the caller with the query of the request, if there is one. -/
def asked (data : Fields) : Option Request → Fields
  | some request => withQuery data request.queryObject
  | none => data

/-- The three sources as one table. -/
def merged (own data : Fields) (request : Option Request) : Fields :=
  (asked data request).setAll own

variable {config files}

private theorem Owns.ascending {page : Path} {own : Fields} (h : Owns config files page own) :
    own.Ascending := by
  simp only [Owns] at h
  split at h
  · subst h
    exact .nil
  · obtain ⟨text, -, hread⟩ := h
    obtain ⟨entries, rfl⟩ := Json.readObject?_ofEntries hread
    exact Table.Ascending.setAll .nil entries

private theorem get?_merged {own : Fields} (h : own.Ascending) (data : Fields)
    (request : Option Request) (key : Text) :
    (merged own data request).get? key = valueOf own data request key := by
  rw [merged, Table.get?_setAll h]
  unfold valueOf
  congr 1
  cases request with
  | none => rfl
  | some request =>
    dsimp only [asked, withQuery]
    by_cases hk : key = "URL"
    · rw [if_pos hk, hk, Table.get?_set_self, urlValue]
    · rw [if_neg hk, Table.get?_set_of_ne hk]

/-! ### What stops a page -/

private theorem dataOf_eq (engine : Engine) (files : Files) (path : Path) (data : Fields)
    (request : Option Request) :
    dataOf engine files path data request =
      match dataFile? engine.config files path with
      | none => .ok (asked data request)
      | some file => withDataFile files (asked data request) file := by
  simp only [dataOf, dataFile?]
  cases Path.parent? path with
  | none => cases request <;> rfl
  | some folder =>
    simp only [Option.map_some, Option.filter_some]
    cases hf : files.isFile (Path.join folder engine.config.dataFile) with
    | true => cases request <;> simp [asked]
    | false => cases request <;> simp [asked, withDataFile, hf]

private theorem dataOf_of_owns {engine : Engine} {path : Path} {own : Fields}
    (h : Owns engine.config files path own) (data : Fields) (request : Option Request) :
    dataOf engine files path data request = .ok (merged own data request) := by
  rw [dataOf_eq]
  simp only [Owns] at h
  cases hf : dataFile? engine.config files path with
  | none =>
    rw [hf] at h
    dsimp only at h
    subst h
    rfl
  | some file =>
    rw [hf] at h
    obtain ⟨text, hread, ho⟩ := h
    have hfile : files.isFile file = true := (Option.filter_eq_some_iff.mp hf).2
    simp only [withDataFile, hfile, Template.read, hread, if_true]
    simp only [bind, Except.bind, ho]
    rfl

private theorem dataOf_of_dataFails {engine : Engine} {path : Path}
    (h : DataFails engine.config files path) (data : Fields) (request : Option Request) :
    ∃ problem, dataOf engine files path data request = .error problem := by
  obtain ⟨file, hf, hno⟩ := h
  have hfile : files.isFile file = true := (Option.filter_eq_some_iff.mp hf).2
  rw [dataOf_eq, hf]
  simp only [withDataFile, hfile, Template.read, if_true]
  cases hread : files.read file with
  | error cause => exact ⟨_, rfl⟩
  | ok text =>
    cases ho : Json.readObject? text with
    | none => exact ⟨.badData file, by simp [bind, Except.bind, ho]; rfl⟩
    | some own => exact absurd ho (hno text own hread)

private theorem dataFails_or_owns (config : Config) (files : Files) (path : Path) :
    DataFails config files path ∨ ∃ own, Owns config files path own := by
  simp only [DataFails, Owns]
  cases dataFile? config files path with
  | none => exact .inr ⟨[], rfl⟩
  | some file =>
    by_cases h : ∃ text own, files.read file = .ok text ∧ Json.readObject? text = some own
    · obtain ⟨text, own, hread, ho⟩ := h
      exact .inr ⟨own, text, hread, ho⟩
    · refine .inl ⟨file, rfl, fun text own hread ho => h ⟨text, own, hread, ho⟩⟩

/-! ### Files entered from outside of all files -/

private theorem renderFile_outside (settings : Settings) (files : Files) (path : Path)
    (content : Text) {draft : Draft} (h : draft.context.active = []) :
    renderFile (Engine.ofSettings settings) files path content draft =
      let inside := { draft with output := [] }.mapContext (·.enter path)
      ((Engine.ofSettings settings).render files content inside).mapContext
        (·.leave draft.context) := by
  simp only [renderFile, Draft.inTemplate, Context.inTemplate, Context.isActive, h, List.any_nil,
    Bool.and_false, Bool.false_eq_true, if_false]
  rfl

private theorem render_behind (settings : Settings) (files : Files) (text : Text)
    (context : Context) (problems : List Problem) :
    let rendered := (Engine.ofSettings settings).render files text context.blank
    (Engine.ofSettings settings).render files text { context, problems } =
      { rendered with problems := problems ++ rendered.problems } := by
  intro rendered
  have h := Engine.renderWithin_onlyAdds settings files
    (settings.config.maxDepth - context.depth) text { context, problems } context.blank
  simp only [Draft.behind, Context.blank, List.append_nil, List.nil_append] at h
  exact h

/-! ### The page and the layout around it -/

private theorem render_of_unreadable (engine : Engine) {site page : Path}
    (h : ∀ content, files.read (Path.join site page) ≠ .ok content) (data : Fields)
    (request : Option Request) :
    ∃ problem, render engine files site page data request = .error problem := by
  cases hread : files.read (Path.join site page) with
  | ok content => exact absurd hread (h content)
  | error cause =>
    refine ⟨.unreadable (Path.join site page) cause, ?_⟩
    simp only [render, Template.read, hread]
    rfl

private theorem render_of_dataFails (engine : Engine) {site page : Path}
    (h : DataFails engine.config files (Path.join site page)) (data : Fields)
    (request : Option Request) :
    ∃ problem, render engine files site page data request = .error problem := by
  obtain ⟨problem, hd⟩ := dataOf_of_dataFails h data request
  cases hread : files.read (Path.join site page) with
  | ok content =>
    refine ⟨problem, ?_⟩
    simp only [render, Template.read, hread, hd]
    rfl
  | error cause =>
    apply render_of_unreadable
    intro content hc
    rw [hread] at hc
    cases hc

/-- The draft behind a page that is rendered in this context. -/
def rendered (settings : Settings) (files : Files) (path : Path) (content : Text)
    (fresh : Context) : Draft :=
  ((Engine.ofSettings settings).render files content (fresh.enter path).blank).mapContext
    (·.leave fresh)

/-- A page behind its layout, or as it is if the request asks for that. -/
def placed (settings : Settings) (files : Files) (site : Path) (draft : Draft) : Draft :=
  if draft.context.bypassesLayouts settings.config.bypassHeader then draft
  else wrapInRoot (Engine.ofSettings settings) files site draft

private theorem placed_of_bypass {settings : Settings} {site : Path} {draft : Draft}
    (h : draft.context.bypassesLayouts settings.config.bypassHeader = true) :
    placed settings files site draft = draft := if_pos h

private theorem placed_of_missing {settings : Settings} {site : Path} {draft : Draft}
    {problem : Problem} (h : draft.context.bypassesLayouts settings.config.bypassHeader = false)
    (hload : Template.load settings.config files site .layout settings.config.rootLayout =
      .error problem) :
    placed settings files site draft = draft.report problem := by
  have hload' : Template.load (Engine.ofSettings settings).config files site .layout
      (Engine.ofSettings settings).config.rootLayout = .error problem := hload
  simp [placed, h, wrapInRoot, hload']

private theorem ofDraft_placed {settings : Settings} {site file : Path} {draft : Draft}
    {layout : Text} (h : draft.context.bypassesLayouts settings.config.bypassHeader = false)
    (hload : Template.load settings.config files site .layout settings.config.rootLayout =
      .ok (file, layout)) (ha : draft.context.active = []) :
    let wrapped := (Engine.ofSettings settings).render files layout
      ({ draft.context with passed := some draft.output }.enter file).blank
    ofDraft (placed settings files site draft) =
      ⟨wrapped.output, draft.problems ++ wrapped.problems⟩ := by
  intro wrapped
  have hload' : Template.load (Engine.ofSettings settings).config files site .layout
      (Engine.ofSettings settings).config.rootLayout = .ok (file, layout) := hload
  have hb := render_behind settings files layout
    ({ draft.context with passed := some draft.output }.enter file) draft.problems
  simp only [placed, h, Bool.false_eq_true, if_false, wrapInRoot, hload']
  rw [renderFile_outside settings files file layout (by exact ha)]
  simp only [ofDraft, Draft.mapContext]
  rw [hb]

private theorem render_of_readable (settings : Settings) {site page : Path} {content : Text}
    {own : Fields} (hread : files.read (Path.join site page) = .ok content)
    (ho : Owns settings.config files (Path.join site page) own) (data : Fields)
    (request : Option Request) :
    render (Engine.ofSettings settings) files site page data request =
      .ok (ofDraft (placed settings files site (rendered settings files (Path.join site page)
        content { site, data := merged own data request, request }))) := by
  have hd : dataOf (Engine.ofSettings settings) files (Path.join site page) data request =
      .ok (merged own data request) := dataOf_of_owns ho data request
  simp only [render, Template.read, hread, hd]
  simp only [bind, Except.bind]
  rw [renderFile_outside settings files (Path.join site page) content (by exact rfl)]
  rfl

private theorem render_eq_error_iff (settings : Settings) (files : Files) (site page : Path)
    (data : Fields) (request : Option Request) :
    (∃ problem, render (Engine.ofSettings settings) files site page data request =
      .error problem) ↔
      (∀ content, files.read (Path.join site page) ≠ .ok content) ∨
        DataFails settings.config files (Path.join site page) := by
  constructor
  · rintro ⟨problem, herror⟩
    by_contra hno
    obtain ⟨hread, hdata⟩ := not_or.mp hno
    obtain ⟨content, hread⟩ := not_forall_not.mp hread
    obtain ⟨own, ho⟩ := (dataFails_or_owns settings.config files _).resolve_left hdata
    have hok := render_of_readable settings hread ho data request
    cases herror.symm.trans hok
  · rintro (hread | hdata)
    · exact render_of_unreadable _ hread data request
    · exact render_of_dataFails _ hdata data request

private theorem rendered_context (settings : Settings) (files : Files) (path : Path)
    (content : Text) (fresh : Context) :
    fresh.Framed (rendered settings files path content fresh).context :=
  Context.Framed.law.inTemplate path
    (Context.Framed.law.render settings files content (fresh.enter path).blank)

/-- A page is an error only if it or its data cannot be read. Otherwise it is rendered with the
values of its three sources, and the root layout behind it, unless it is left out or missing. -/
theorem render_composed (settings : Settings) (files : Files) (site page : Path) (data : Fields)
    (request : Option Request) :
    let engine := Engine.ofSettings settings
    let config := settings.config
    let path := Path.join site page
    let result := render engine files site page data request
    ((∃ problem, result = .error problem) ↔
      (∀ content, files.read path ≠ .ok content) ∨ DataFails config files path) ∧
    ∀ content own, files.read path = .ok content → Owns config files path own →
      let values := merged own data request
      let fresh : Context := { site, data := values, request }
      let body := engine.render files content (fresh.enter path).blank
      let behind := body.context.leave fresh
      (∀ key, values.get? key = valueOf own data request key) ∧
      (∀ file, ¬ fresh.Holds file ∧ ¬ behind.Holds file) ∧
      fresh.depth = 0 ∧ behind.depth = 0 ∧
      (fresh.bypassesLayouts config.bypassHeader = true →
        result = .ok ⟨body.output, body.problems⟩) ∧
      (fresh.bypassesLayouts config.bypassHeader = false →
        (∀ problem, Template.load config files site .layout config.rootLayout = .error problem →
          result = .ok ⟨body.output, body.problems ++ [problem]⟩) ∧
        ∀ file layout,
          Template.load config files site .layout config.rootLayout = .ok (file, layout) →
          let placed :=
            engine.render files layout ({ behind with passed := some body.output }.enter file).blank
          result = .ok ⟨placed.output, body.problems ++ placed.problems⟩) := by
  intro engine config path result
  refine ⟨render_eq_error_iff settings files site page data request, ?_⟩
  intro content own hread ho values fresh body behind
  let draft := rendered settings files path content fresh
  have hframed : fresh.Framed draft.context := rendered_context settings files path content fresh
  have hactive : draft.context.active = [] := hframed.active
  have hok : result = .ok (ofDraft (placed settings files site draft)) :=
    render_of_readable settings hread ho data request
  have hbypass : draft.context.bypassesLayouts config.bypassHeader =
      fresh.bypassesLayouts config.bypassHeader := by
    simp only [Context.bypassesLayouts, hframed.request]
  have houtside (file : Path) : ¬ fresh.Holds file ∧ ¬ behind.Holds file :=
    ⟨Context.not_holds_of_no_active rfl file, Context.not_holds_of_no_active hactive file⟩
  refine ⟨get?_merged ho.ascending data request, houtside, rfl, hframed.depth, ?_, ?_⟩
  · intro hb
    rw [hok, placed_of_bypass (hbypass.trans hb)]
    rfl
  · intro hb
    constructor
    · intro problem hload
      rw [hok, placed_of_missing (hbypass.trans hb) hload]
      rfl
    · intro file layout hload
      exact hok.trans (congrArg _ (ofDraft_placed (hbypass.trans hb) hload hactive))

/-- A page with a title of its own inside the root layout. -/
theorem render_composed_titled :
    let settings := Engine.standard.toSettings
    let content : Text := "<p>\x7b% .title %\x7d</p>"
    let layout : Text := "<html>\x7b% passed %\x7d</html>"
    let values : Text := "\x7b\"title\": \"Home\"\x7d"
    let files : Files := .ofKnown [("./layouts/root.hstm", .ok layout),
      ("./pages/data_en.json", .ok values), ("./pages/index.hstm", .ok content)]
    let path := Path.join "." "pages/index.hstm"
    let data : Fields := [("title", .text "Site")]
    let own : Fields := (Json.readObject? values).getD []
    let fresh : Context := { site := ".", data := merged own data none }
    let body := (Engine.ofSettings settings).render files content (fresh.enter path).blank
    let wrapped := (Engine.ofSettings settings).render files layout
      ({ body.context.leave fresh with passed := some body.output }.enter
        "./layouts/root.hstm").blank
    files.read path = .ok content ∧ Owns settings.config files path own ∧
      (fresh.data.get? "title").map Value.toText = some ("Home" : Text) ∧
      render (Engine.ofSettings settings) files "." "pages/index.hstm" data none =
        .ok ⟨wrapped.output, body.problems ++ wrapped.problems⟩ ∧
      wrapped.output = "<html><p>Home</p></html>" := by
  intro settings content layout values files path data own fresh body wrapped
  have hread : files.read path = .ok content := rfl
  have hvalues : (Json.readObject? values).isSome = true := by decide +kernel
  have hown : Json.readObject? values = some own := by
    obtain ⟨members, hm⟩ := Option.isSome_iff_exists.mp hvalues
    simp only [own, hm, Option.getD_some]
  have ho : Owns settings.config files path own := ⟨values, rfl, hown⟩
  have hload : Template.load settings.config files "." .layout settings.config.rootLayout =
    .ok ("./layouts/root.hstm", layout) := rfl
  obtain ⟨-, hpage⟩ := render_composed settings files "." "pages/index.hstm" data none
  obtain ⟨hkeys, -, -, -, -, hwrapped⟩ := hpage content own hread ho
  have hresult := (hwrapped (by decide)).2 _ _ hload
  have htitle : (valueOf own data none "title").map Value.toText = some ("Home" : Text) := by
    decide +kernel
  refine ⟨hread, ho, ?_, hresult, by decide +kernel⟩
  rw [hkeys "title"]
  exact htitle

end Page
end Stencil
