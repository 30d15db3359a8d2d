import Stencil.Context
import Stencil.Filter
import Stencil.Markup.Arguments
/-!
# Expressions

An expression is a value and any number of filter stages behind bars. The value is a literal or a
path to a variable. A missing variable passes through the stages as null, and it is a problem
afterwards unless one of them was the filter for defaults.
-/
namespace Stencil.Expression

def lowestInt : Int := -0x8000000000000000

def highestInt : Int := 0x7fffffffffffffff

/-- The number that a token writes: an integer of 64 bits, else a finite double. -/
def numberLiteral? (token : Text) : Option Value :=
  match Text.readInt? lowestInt highestInt token with
  | some n => some (.int n)
  | none => match Decimal.read? token with
    | some (.finite x) => some (Value.ofDouble x)
    | _ => none

/-- The value of a token that is no path. -/
def literal? (token : Text) : Option Value :=
  if (token.head?.map Arguments.isQuote).getD false then some (.text (Arguments.unquote token))
  else if token = "true" then some (.bool true)
  else if token = "false" then some (.bool false)
  else if token = "null" then some .null
  else numberLiteral? token

/-- The value of a trimmed token; a bare word is a path. -/
def operand? (context : Context) (token : Text) : Option Value :=
  if token.head? = some '.' then context.lookup? token
  else (literal? token).orElse fun _ => context.lookup? token

def value? (context : Context) (token : Text) : Option Value := operand? context (Text.trim token)

def value (context : Context) (token : Text) : Except Problem Value :=
  match value? context token with
  | some value => .ok value
  | none => .error (.notFound (Text.trim token))

/-- The value after one more stage. -/
def applyStage (filters : Table Filter) (value : Value) (stage : Text) : Except Problem Value :=
  match Arguments.split stage with
  | [] => .error (.misuse "|" .emptyStage)
  | name :: arguments => match filters.get? name with
    | none => .error (.unknownFilter name)
    | some filter => match filter value (arguments.map Arguments.unquote) with
      | .ok value => .ok value
      | .error message => .error (.filterFailed name message)

/-- The stage names the filter that stands in for what is missing. -/
def isDefaultStage (stage : Text) : Bool := Text.firstWord stage == "default"

def evaluate (filters : Table Filter) (context : Context) (expression : Text) :
    Except Problem Value :=
  match Arguments.splitAt '|' expression with
  | [] => value context []
  | head :: stages => do
    let found := value? context head
    let result ← stages.foldlM (applyStage filters) (found.getD .null)
    if found.isNone && !stages.any isDefaultStage then throw (.notFound (Text.trim head))
    pure result

end Stencil.Expression
