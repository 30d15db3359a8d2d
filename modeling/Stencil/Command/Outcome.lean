import Stencil.Command.Arguments
import Stencil.Page
/-!
# Outcomes

Carries out what a command line asks for. A page is written even if its problems then count as a
failure.
-/
namespace Stencil.Command

/-- Why a command fails. -/
inductive Failure where
  | loadingConfig (path : Path) (error : Config.Error)
  | invalidConfig (path : Path) (error : Config.Error)
  | readingData (path : Path) (cause : ReadError)
  | parsingData (path : Path)
  | dataIsNoObject (path : Path)
  | rendering (page : Path) (problem : Problem)
  | problemsReported (count : Nat)

def Failure.message : Failure → Text
  | loadingConfig path _ => "loading configuration " ++ path
  | invalidConfig path _ => "invalid configuration " ++ path
  | readingData path _ => "reading data file " ++ path
  | parsingData path => "parsing data file " ++ path
  | dataIsNoObject path => "data file " ++ path ++ " must hold a JSON object"
  | rendering page _ => "rendering " ++ page
  | problemsReported count => Text.ofNat count ++ " template error(s) reported"

/-- What lies behind a failure. -/
def Failure.cause? : Failure → Option Text
  | loadingConfig _ error => some error.message
  | invalidConfig _ error => some error.message
  | readingData _ cause => some cause.message
  | rendering _ problem => some problem.message
  | _ => none

structure Outcome where
  output : Text := []
  problems : List Problem := []
  failure : Option Failure := none

def loadEngine (files : Files) : Option Path → Except Failure Engine
  | none => .ok .standard
  | some path => match Config.ofFile files path with
    | .error error => .error (.loadingConfig path error)
    | .ok config => match Engine.ofConfig config [] [] with
      | .error error => .error (.invalidConfig path error)
      | .ok engine => .ok engine

def loadData (files : Files) : Option Path → Except Failure Fields
  | none => .ok []
  | some path => match files.read path with
    | .error cause => .error (.readingData path cause)
    | .ok content => match Json.read? content with
      | none => .error (.parsingData path)
      | some (.object members) => .ok members
      | some _ => .error (.dataIsNoObject path)

/-- The request that headers and query make up, if there are any. -/
def requestOf (headers query : List (Text × Text)) : Option Request :=
  if headers.isEmpty && query.isEmpty then none else some { headers, query }

/-- The names of the tags and filters, one to a line. -/
def listing (engine : Engine) : Text :=
  let line (name : Text) : Text := "  " ++ name ++ "\n"
  "tags:\n" ++ engine.tags.keys.flatMap line ++ "filters:\n" ++ engine.filters.keys.flatMap line

def renderPage (files : Files) (site page : Path) (data config : Option Path)
    (request : Option Request) : Except Failure Page.Rendered := do
  let engine ← loadEngine files config
  let data ← loadData files data
  match Page.render engine files site page data request with
  | .ok rendered => pure rendered
  | .error problem => throw (.rendering page problem)

def Job.run (files : Files) : Job → Outcome
  | render site page data config headers query strict =>
    match renderPage files site page data config (requestOf headers query) with
    | .error failure => { failure := some failure }
    | .ok rendered =>
      let failed := strict && !rendered.problems.isEmpty
      { output := rendered.output
        problems := rendered.problems
        failure := if failed then some (.problemsReported rendered.problems.length) else none }
  | tags config => match loadEngine files config with
    | .error failure => { failure := some failure }
    | .ok engine => { output := listing engine }

/-- The file that a problem could not read. -/
def pathOf? : Problem → Option Path
  | .unreadable path _ => some path
  | _ => none

def Failure.path? : Failure → Option Path
  | loadingConfig path _ => some path
  | readingData path _ => some path
  | rendering _ problem => pathOf? problem
  | _ => none

/-- The files that could not be read. -/
def Outcome.unreadPaths (outcome : Outcome) : List Path :=
  outcome.problems.filterMap pathOf? ++ (outcome.failure.bind Failure.path?).toList

end Stencil.Command
