import Stencil.Text.Blank
/-!
# Arguments

Tag and filter arguments are split without breaking quoted runs. Either quote opens a run that the
same quote closes, and one that stays open runs to the end. Options are the tokens read as one
positional value, `key=value` pairs and flags.
-/
namespace Stencil.Arguments

def isQuote (c : Char) : Bool := c == '"' || c == '\''

/-- The open quote after one more character. -/
def quoteAfter (quote : Option Char) (c : Char) : Option Char :=
  match quote with
  | some q => if c = q then none else some q
  | none => if isQuote c then some c else none

def token (backwards : Text) : List Text :=
  if backwards.isEmpty then [] else [backwards.reverse]

def splitFrom (quote : Option Char) (backwards : Text) : Text → List Text
  | [] => token backwards
  | c :: t =>
    if quote.isNone && Text.isAsciiBlank c then token backwards ++ splitFrom none [] t
    else splitFrom (quoteAfter quote c) (c :: backwards) t

/-- The tokens between runs of ASCII blanks outside quotes; none is empty. -/
def split (t : Text) : List Text := splitFrom none [] t

def splitAtFrom (separator : Char) (quote : Option Char) (backwards : Text) : Text → List Text
  | [] => [Text.trim backwards.reverse]
  | c :: t =>
    if quote.isNone && !isQuote c && c == separator then
      Text.trim backwards.reverse :: splitAtFrom separator none [] t
    else splitAtFrom separator (quoteAfter quote c) (c :: backwards) t

/-- The trimmed pieces between separators outside quotes. -/
def splitAt (separator : Char) (t : Text) : List Text := splitAtFrom separator none [] t

/-- The text inside one pair of equal quotes around it. -/
def unquote : Text → Text
  | [] => []
  | q :: t => if isQuote q && t.getLast? == some q then t.dropLast else q :: t

/-- Key and raw value of a token with an equals sign behind a key and before any quote. -/
def pair? (token : Text) : Option (Text × Text) :=
  (Text.breakAt? (· == '=') token).filter fun (key, _) => !key.isEmpty && !key.any isQuote

end Arguments

structure Options where
  positional : Option Text := none
  pairs : List (Text × Text) := []
  flags : List Text := []

namespace Options

def add (takesPositional : Bool) (options : Options) (token : Text) : Options :=
  match Arguments.pair? token with
  | some (key, value) => { options with pairs := options.pairs ++ [(key, Arguments.unquote value)] }
  | none =>
    if takesPositional && options.positional.isNone then
      { options with positional := some (Arguments.unquote token) }
    else { options with flags := options.flags ++ [Arguments.unquote token] }

/-- The first bare token is the positional value, any further one a flag. -/
def ofTokens (tokens : List Text) : Options := tokens.foldl (add true) {}

/-- For tags without a positional value, where every bare token is a flag. -/
def ofFlags (tokens : List Text) : Options := tokens.foldl (add false) {}

/-- The value of the first pair with this key. -/
def get? (options : Options) (key : Text) : Option Text := options.pairs.lookup key

/-- The flag stands alone or is set to `true`. -/
def has (options : Options) (flag : Text) : Bool :=
  options.flags.contains flag || options.get? flag == some ("true" : Text)

end Options
end Stencil
