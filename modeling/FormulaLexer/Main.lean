import FormulaLexer.Command

/-!
# Program

Runs a command with the file system and the standard streams.
-/

set_option autoImplicit false

namespace FormulaLexer

/-- An error number; some operations give it with its sign turned. -/
def errorNumber (code : UInt32) : Nat :=
  min code.toNat (-code).toNat

/-- The failure that stands for an error of the file system. -/
def failureOfError (error : IO.Error) : ReadFailure :=
  match error with
  | .noFileOrDirectory .. => .notFound
  | .permissionDenied .. => .permissionDenied
  | .inappropriateType _ code details => .ofCode (errorNumber code) details
  | .invalidArgument _ code details => .ofCode (errorNumber code) details
  | other => .refused (toString other)

def readSourceFile (path : String) : IO (Except ReadFailure String) := do
  try
    return sourceOfBytes (← IO.FS.readBinFile path)
  catch error => return .error (failureOfError error)

end FormulaLexer

open FormulaLexer in
/-- Runs the command given by the arguments; a fault ends the program as a crash. -/
def main (arguments : List String) : IO UInt32 := do
  match ← (Command.parse arguments).run readSourceFile with
  | .ok outcome =>
    (← IO.getStderr).putStr outcome.stderr
    (← IO.getStdout).putStr outcome.stdout
    return outcome.code.toUInt32
  | .error fault =>
    (← IO.getStderr).putStr ((fault.message?.getD "source too large to tokenize") ++ "\n")
    return 101
