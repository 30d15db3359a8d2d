import Stencil.Command.Outcome
/-!
# The program

Carries out a command line on the files of the disk. A run that meets a file it does not know is
repeated with that file read, until it meets none.
-/
namespace Stencil.Command

def usage : Text :=
  "Usage: stencil [-v] render [--site DIR] [--data FILE] [--config FILE]\n" ++
  "         [--header NAME=VALUE]... [--query KEY=VALUE]... [--strict] PAGE\n" ++
  "       stencil [-v] tags [--config FILE]\n"

def version : Text := "stencil 0.1.0\n"

def causeOf : IO.Error → ReadError
  | .inappropriateType _ code _ => if code = 21 then .isDirectory else .notDirectory
  | .permissionDenied .. => .denied
  | _ => .missing

def readFile (path : Path) : IO (Except ReadError Text) := do
  if List.contains path '\x00' then return .error .nulInName
  try return textOfBytes (← IO.FS.readBinFile (String.ofList path))
  catch error => return .error (causeOf error)

partial def carryOut (job : Job) (known : Table (Except ReadError Text)) : IO Outcome := do
  let outcome := job.run (.ofKnown known)
  match outcome.unreadPaths.filter fun path => !known.has path with
  | [] => return outcome
  | path :: _ => carryOut job (known.set path (← readFile path))

def warn (text : Text) : IO Unit := IO.eprintln (String.ofList text)

def finish (outcome : Outcome) : IO UInt32 := do
  outcome.problems.forM fun problem => warn ("warning: " ++ problem.message)
  IO.print (String.ofList outcome.output)
  match outcome.failure with
  | none => return 0
  | some failure =>
    let cause : Text := failure.cause?.elim [] fun cause => ": " ++ cause
    warn ("error: " ++ failure.message ++ cause)
    return 1

def refuse (refusal : Refusal) : IO UInt32 := do
  match refusal with
  | .helpWanted =>
    IO.print (String.ofList usage)
    return 0
  | .versionWanted =>
    IO.print (String.ofList version)
    return 0
  | _ =>
    warn ("error: " ++ refusal.message)
    IO.eprint (String.ofList usage)
    return 2

end Stencil.Command

def main (words : List String) : IO UInt32 := do
  match Stencil.Command.Invocation.ofWords (words.map String.toList) with
  | .error refusal => Stencil.Command.refuse refusal
  | .ok invocation => Stencil.Command.finish (← Stencil.Command.carryOut invocation.job [])
