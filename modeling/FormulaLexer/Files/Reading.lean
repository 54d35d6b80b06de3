/-!
# Reading source files

What can go wrong when a source file is read, and the sentences shown for it.
-/

set_option autoImplicit false

namespace FormulaLexer

/-- Why a file could not be read as a source. -/
inductive ReadFailure where
  | notFound
  | permissionDenied
  /-- The bytes are not UTF-8. -/
  | notText
  /-- Any other refusal, with the words of the system for it. -/
  | refused (reason : String)
  deriving DecidableEq

namespace ReadFailure

/-- A refusal that the system identifies by a number. -/
def system (reason : String) (code : Nat) : ReadFailure :=
  .refused (reason ++ s!" (os error {code})")

def isDirectory : ReadFailure := system "Is a directory" 21

def notDirectory : ReadFailure := system "Not a directory" 20

def nameTooLong : ReadFailure := system "File name too long" 36

def zeroInName : ReadFailure := .refused "file name contained an unexpected NUL byte"

/-- The failure for an error number of the system, with its words for the less usual
ones. -/
def ofCode (code : Nat) (words : String) : ReadFailure :=
  match code with
  | 2 => .notFound
  | 13 => .permissionDenied
  | 20 => notDirectory
  | 21 => isDirectory
  | 36 => nameTooLong
  | _ => system words code

def message (path : String) : ReadFailure → String
  | .notFound => "cannot find file '" ++ path ++ "'"
  | .permissionDenied => "permission denied reading '" ++ path ++ "'"
  | .notText => "'" ++ path ++ "' contains invalid UTF-8 data"
  | .refused reason => "error reading '" ++ path ++ "': " ++ reason

end ReadFailure

def sourceOfBytes (bytes : ByteArray) : Except ReadFailure String :=
  match String.fromUTF8? bytes with
  | some source => .ok source
  | none => .error .notText

end FormulaLexer
