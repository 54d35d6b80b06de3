import FormulaLexer.Decode
import FormulaLexer.Scanner
import FormulaLexer.Text.Escaped

/-!
# Listings

A listing has a heading, one line for each token with its place, kind and text, and
one line for each diagnostic.
-/

set_option autoImplicit false

namespace FormulaLexer.Listing

/-- The width that the place and kind of a token are filled up to. -/
def columnWidth : Nat := 28

def padRight (width : Nat) (text : String) : String :=
  text ++ String.ofList (List.replicate (width - text.length) ' ')

def triple (token : Token) : String :=
  s!"({token.start}, {token.stop}, " ++ token.kind.name ++ ")"

def heading (label : String) (count : Nat) : String :=
  "Tokens for " ++ label ++ s!" ({count} tokens):\n"

def tokenLine (token : Token) (text : String) : String :=
  "  " ++ padRight columnWidth (triple token) ++ " " ++ Text.escaped text ++ "\n"

def diagnosticLine (diagnostic : Diagnostic) : String :=
  "error: " ++ diagnostic.display ++ "\n"

def ofResult (label source : String) (result : LexResult) : String :=
  let view : TokenView := ⟨source, result.tokens⟩
  heading label view.size ++
    String.join (view.entries.map fun (token, text) => tokenLine token text) ++
    String.join (result.diagnostics.map diagnosticLine)

def render (label source : String) : Except Fault String :=
  (lex source).map (ofResult label source)

/-- The label of a text that comes from no file. -/
def expressionLabel : String := "<expr>"

def fileLabel (path : String) : String := "'" ++ path ++ "'"

end FormulaLexer.Listing
