import FormulaLexer.Text.Lowercase

/-!
# Symbols

A name in a formula carries an optional path before its first `!` and an optional
sigil at its end. The sigil selects the scope in which the name is looked up.
Names are compared after lower-casing each character; scopes are compared exactly.
-/

set_option autoImplicit false

namespace FormulaLexer

/-- Where a symbol is looked up. -/
inductive Scope where
  | localName | page | constant | context | family | global
  /-- The scope of names without a sigil. -/
  | builtin
  deriving DecidableEq

namespace Scope

def all : List Scope :=
  [.localName, .page, .constant, .context, .family, .global, .builtin]

/-- The scope selected by a sigil. The Greek letter mu and the micro sign look
alike, so both select the global scope. -/
def ofSigil? (char : Char) : Option Scope :=
  if char = '@' then some .localName
  else if char = '$' then some .page
  else if char = '#' then some .constant
  else if char = '%' then some .context
  else if char = '£' then some .family
  else if char = '\u03bc' ∨ char = '\u00b5' then some .global
  else none

def sigil? : Scope → Option Char
  | .localName => some '@'
  | .page => some '$'
  | .constant => some '#'
  | .context => some '%'
  | .family => some '£'
  | .global => some '\u03bc'
  | .builtin => none

def name : Scope → String
  | .localName => "Local"
  | .page => "PageScope"
  | .constant => "Constant"
  | .context => "Context"
  | .family => "Family"
  | .global => "Global"
  | .builtin => "Builtin"

def ofName? (text : String) : Option Scope :=
  all.find? (·.name == text)

/-- A scope is recovered from the sigil it is written with. -/
theorem ofSigil?_sigil {scope : Scope} {char : Char} (written : scope.sigil? = some char) :
    ofSigil? char = some scope := by
  cases scope <;> simp only [sigil?, Option.some.injEq, reduceCtorEq] at written <;>
    subst written <;> decide

end Scope

/-- A decoded name. The spelling is kept as written. -/
structure Symbol where
  scope : Scope
  path : String
  name : String
  deriving DecidableEq

namespace Symbol

/-- The characters before and after the first `!`; without one there is no path. -/
def splitPath (body : List Char) : List Char × List Char :=
  match body.dropWhile (· != '!') with
  | [] => ([], body)
  | _ :: name => (body.takeWhile (· != '!'), name)

/-- The scope selected by the last character, and what stands before it. -/
def splitSigil (chars : List Char) : Scope × List Char :=
  match chars.getLast?.bind Scope.ofSigil? with
  | some scope => (scope, chars.dropLast)
  | none => (.builtin, chars)

/-- Reads a name: the sigil is taken off first, then the path. -/
def ofText (text : String) : Symbol :=
  let (scope, body) := splitSigil text.toList
  let (path, name) := splitPath body
  ⟨scope, String.ofList path, String.ofList name⟩

def builtin (name : String) : Symbol := ⟨.builtin, "", name⟩

def localName (name : String) : Symbol := ⟨.localName, "", name⟩

def context (name : String) : Symbol := ⟨.context, "", name⟩

/-- A builtin that is not qualified by a path. -/
def isGlobalBuiltin (symbol : Symbol) : Bool :=
  symbol.scope == .builtin && symbol.path.isEmpty

/-- The written form: path, name and sigil, with no `!` for an empty path. -/
def display (symbol : Symbol) : String :=
  (if symbol.path.isEmpty then "" else symbol.path ++ "!") ++ symbol.name ++
    String.ofList symbol.scope.sigil?.toList

/-- Two symbols denote the same thing: same scope, and same path and same name up
to letter case. -/
def equivalent (left right : Symbol) : Bool :=
  left.scope == right.scope && Text.foldCase left.path == Text.foldCase right.path &&
    Text.foldCase left.name == Text.foldCase right.name

/-- What a hash of the symbol is computed from: the scope, and one stream holding
the folded path, a `!` and the folded name. -/
def hashInput (symbol : Symbol) : Scope × List Char :=
  (symbol.scope, Text.foldCase symbol.path ++ '!' :: Text.foldCase symbol.name)

end Symbol

end FormulaLexer
