import Stencil.Path
/-!
# Command-line arguments

Reads the words of a command line into what is to be done. The value of an option or the page is
checked when the next word is recognised, so a word that nothing recognises is refused first.
-/
namespace Stencil.Command

/-- Why a command line is not carried out. -/
inductive Refusal where
  | helpWanted
  | versionWanted
  /-- No argument at all. -/
  | nothingGiven
  | commandMissing
  | unknownCommand
  | unknownArgument
  | pageMissing
  /-- An option without its value, or an empty path. -/
  | valueMissing
  /-- A value for an option that takes none. -/
  | valueUnexpected
  | notAPair
  /-- An option given twice that counts once. -/
  | repeated
deriving DecidableEq

def Refusal.message : Refusal → Text
  | helpWanted => "help was asked for"
  | versionWanted => "the version was asked for"
  | nothingGiven => "no command was given"
  | commandMissing => "a command is missing"
  | unknownCommand => "no command of that name exists"
  | unknownArgument => "an argument is not known"
  | pageMissing => "the page is missing"
  | valueMissing => "an option lacks its value"
  | valueUnexpected => "an option takes no value"
  | notAPair => "expected NAME=VALUE"
  | repeated => "an option is given twice"

inductive Switch where
  | verbose
  | strict
  | help
  | version
deriving DecidableEq

inductive ValueOption where
  | site
  | data
  | config
  | header
  | query
deriving DecidableEq

inductive Verb where
  | render
  | tags
  | help
deriving DecidableEq

def Verb.ofText? (word : Text) : Option Verb :=
  if word = "render" then some render
  else if word = "tags" then some tags
  else if word = "help" then some help
  else none

/-- What stands on a command line. -/
structure Given where
  verbose : Bool := false
  strict : Bool := false
  site : Option Path := none
  page : Option Path := none
  data : Option Path := none
  config : Option Path := none
  headers : List (Text × Text) := []
  query : List (Text × Text) := []

/-- A value that has not been checked yet. -/
inductive Pending where
  | option (option : ValueOption) (value : Option Text)
  | page (path : Path)

structure Reading where
  given : Given := {}
  pending : Option Pending := none
  /-- No further word is an option. -/
  onlyValues : Bool := false

/-- What may follow a verb, or stand in front of it. -/
structure Grammar where
  switches : List (Text × Switch)
  options : List (Text × ValueOption)
  takesPage : Bool

namespace Grammar

def top : Grammar where
  switches := [("verbose", .verbose), ("help", .help), ("version", .version)]
  options := []
  takesPage := false

def render : Grammar where
  switches := [("verbose", .verbose), ("help", .help), ("strict", .strict)]
  options := [("site", .site), ("data", .data), ("config", .config), ("header", .header),
    ("query", .query)]
  takesPage := true

def tags : Grammar where
  switches := [("verbose", .verbose), ("help", .help)]
  options := [("config", .config)]
  takesPage := false

/-- The switch with this letter. -/
def switchOfLetter? (grammar : Grammar) (letter : Char) : Option Switch := do
  let switch ← match letter with
    | 'v' => some .verbose
    | 'h' => some .help
    | 'V' => some .version
    | _ => none
  if grammar.switches.any (·.2 == switch) then some switch else none

end Grammar

/-- A name that is not blank and a value, around the first equals sign. -/
def readPair (written : Text) : Except Refusal (Text × Text) :=
  match Text.breakAt? (· == '=') written with
  | some (name, value) =>
    if Text.isBlankText name then .error .notAPair else .ok (Text.trim name, value)
  | none => .error .notAPair

/-- A path that may be given once. -/
def readPath (old : Option Path) (written : Text) : Except Refusal (Option Path) :=
  if old.isSome then .error .repeated
  else if written.isEmpty then .error .valueMissing
  else .ok (some written)

namespace Given

def setOption (given : Given) (option : ValueOption) (value : Text) : Except Refusal Given := do
  match option with
  | .site => pure { given with site := ← readPath given.site value }
  | .data => pure { given with data := ← readPath given.data value }
  | .config => pure { given with config := ← readPath given.config value }
  | .header => pure { given with headers := given.headers ++ [← readPair value] }
  | .query => pure { given with query := given.query ++ [← readPair value] }

def setSwitch (given : Given) : Switch → Except Refusal Given
  | .verbose => if given.verbose then .error .repeated else .ok { given with verbose := true }
  | .strict => if given.strict then .error .repeated else .ok { given with strict := true }
  | .help => .error .helpWanted
  | .version => .error .versionWanted

def setPending (given : Given) : Pending → Except Refusal Given
  | .option _ none => .error .valueMissing
  | .option option (some value) => given.setOption option value
  | .page path => do pure { given with page := ← readPath given.page path }

end Given

namespace Reading

/-- Checks the value that is waiting. -/
def settle (reading : Reading) : Except Refusal Reading := do
  match reading.pending with
  | none => pure reading
  | some pending =>
    pure { reading with given := ← reading.given.setPending pending, pending := none }

def takeSwitch (reading : Reading) (switch : Switch) : Except Refusal Reading := do
  let reading ← reading.settle
  pure { reading with given := ← reading.given.setSwitch switch }

/-- Takes an option. A value that is attached to it is checked at once. -/
def takeOption (reading : Reading) (option : ValueOption) (attached : Option Text) :
    Except Refusal Reading := do
  let reading ← reading.settle
  let reading := { reading with pending := some (.option option attached) }
  if attached.isSome then reading.settle else pure reading

def takeLong (grammar : Grammar) (reading : Reading) (written : Text) : Except Refusal Reading :=
  let (name, attached) := match Text.breakAt? (· == '=') written with
    | some (name, value) => (name, some value)
    | none => (written, none)
  match grammar.switches.lookup name, grammar.options.lookup name with
  | some switch, _ => if attached.isSome then .error .valueUnexpected else reading.takeSwitch switch
  | none, some option => reading.takeOption option attached
  | none, none => .error .unknownArgument

def takeLetter (grammar : Grammar) (reading : Reading) (letter : Char) : Except Refusal Reading :=
  match grammar.switchOfLetter? letter with
  | some switch => reading.takeSwitch switch
  | none => .error .unknownArgument

def hasPage (reading : Reading) : Bool :=
  match reading.pending with
  | some (.page _) => true
  | _ => reading.given.page.isSome

/-- Takes a word that is no option: a value that is waited for, or the page. -/
def takeValue (grammar : Grammar) (reading : Reading) (word : Text) : Except Refusal Reading :=
  match reading.pending, reading.onlyValues with
  | some (.option option none), false =>
    .ok { reading with pending := some (.option option (some word)) }
  | _, _ =>
    if grammar.takesPage && !reading.hasPage then do
      pure { ← reading.settle with pending := some (.page word) }
    else .error .unknownArgument

def takeWord (grammar : Grammar) (reading : Reading) (word : Text) : Except Refusal Reading :=
  if reading.onlyValues then reading.takeValue grammar word
  else match word with
    | ['-', '-'] => .ok { reading with onlyValues := true }
    | '-' :: '-' :: written => reading.takeLong grammar written
    | '-' :: first :: rest => (first :: rest).foldlM (takeLetter grammar) reading
    | _ => reading.takeValue grammar word

end Reading

/-- What is to be done. -/
inductive Job where
  | render (site page : Path) (data config : Option Path) (headers query : List (Text × Text))
      (strict : Bool)
  | tags (config : Option Path)

structure Invocation where
  verbose : Bool
  job : Job

def readGiven (grammar : Grammar) (verbose : Bool) (words : List Text) : Except Refusal Given := do
  let reading ← words.foldlM (Reading.takeWord grammar) {}
  let given := (← reading.settle).given
  pure { given with verbose := verbose || given.verbose }

def readRender (verbose : Bool) (words : List Text) : Except Refusal Invocation := do
  let given ← readGiven .render verbose words
  match given.page with
  | none => throw .pageMissing
  | some page => pure ⟨given.verbose, .render (given.site.getD ".") page given.data given.config
      given.headers given.query given.strict⟩

def readTags (verbose : Bool) (words : List Text) : Except Refusal Invocation := do
  let given ← readGiven .tags verbose words
  pure ⟨given.verbose, .tags given.config⟩

/-- Help may name one verb. -/
def readHelp : List Text → Refusal
  | [] => .helpWanted
  | [word] => if (Verb.ofText? word).isSome then .helpWanted else .unknownCommand
  | _ => .unknownCommand

def readWords (reading : Reading) : List Text → Except Refusal Invocation
  | [] => .error (if reading.given.verbose then .commandMissing else .nothingGiven)
  | word :: rest =>
    match Verb.ofText? word, reading.onlyValues with
    | some .render, false => readRender reading.given.verbose rest
    | some .tags, false => readTags reading.given.verbose rest
    | some .help, false => .error (readHelp rest)
    | some _, true => .error .unknownArgument
    | none, _ =>
      if reading.onlyValues || word.head? ≠ some '-' || word.length < 2 then .error .unknownCommand
      else do readWords (← reading.takeWord .top word) rest

def Invocation.ofWords (words : List Text) : Except Refusal Invocation := readWords {} words

end Stencil.Command
