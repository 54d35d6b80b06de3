import FormulaLexer.Lexeme.Basic
import FormulaLexer.Text.AsciiCase
import FormulaLexer.Text.Quoted

/-!
# The lexical grammar

The grammar of tokens, stated over characters. It knows nothing of bytes, padding or
cursors: a text is cut into lexemes from its front, and offsets are counted afterwards
in the UTF-8 lengths of the characters passed.

The main statement is `taken_append_rest`: a cut loses nothing and takes something.
-/

set_option autoImplicit false
set_option linter.unusedVariables false

namespace FormulaLexer.Grammar

/-! ## Character classes -/

/-- The characters that divide tokens. -/
def blanks : List Char := [' ', '\t', '\r', '\n']

/-- The characters that begin an operator or a punctuation mark. -/
def marks : List Char :=
  [':', ',', '(', ')', '[', ']', '\x7b', '\x7d', '=', '<', '>', '&', '+', '-', '*', '/', '^',
    '.', '\x60', '\u00b2']

def markPairs : List (Char × Char) :=
  [(':', '='), ('<', '='), ('>', '='), ('=', '>'), ('<', '>'), ('\x60', '['), ('\u00b2', '[')]

/-- The spellings of the operators: comparisons, then arithmetic, then words. -/
def operators : List String :=
  ["=", "<>", "<", ">", "<=", ">=", "&", "+", "-", "*", "/", "^",
    "in", "or", "orelse", "and", "andalso", "bitor", "bitand"]

/-- Whether a text spells one of the operators, in any ASCII letter case. -/
def isOperator (text : List Char) : Bool :=
  operators.any (Text.equalIgnoringAsciiCase (String.ofList text))

/-- The kind of a mark: an operator if it spells one, else the kind of the punctuation
it is. What is neither counts as an operator. -/
def markKind (text : List Char) : TokenKind :=
  if isOperator text then .operator
  else
    match text with
    | ['('] => .openParen
    | [')'] => .closeParen
    | ['['] => .openIndex
    | ['\x60', '['] => .openIndexAlt
    | ['\u00b2', '['] => .openIndexAlt
    | [']'] => .closeIndex
    | ['\x7b'] => .openBrace
    | ['\x7d'] => .closeBrace
    | [','] => .comma
    | ['.'] => .dot
    | [':'] => .statementSeparator
    | [':', '='] => .assign
    | ['=', '>'] => .fatArrow
    | _ => .operator

def keywords : List (String × TokenKind) :=
  [("not", .keywordNot), ("dim", .keywordDim), ("as", .keywordAs), ("new", .keywordNew),
    ("class", .keywordClass)]

/-- The kind of a word: an operator if it spells one, else a keyword if it is reserved in
any ASCII letter case, else an identifier. -/
def wordKind (text : List Char) : TokenKind :=
  if isOperator text then .operator
  else
    match keywords.find? fun entry =>
        Text.equalIgnoringAsciiCase (String.ofList text) entry.1 with
    | some (_, kind) => kind
    | none => .identifier

/-- Whether a character belongs to a word that has begun. -/
def isWordChar (char : Char) : Bool :=
  !blanks.contains char && !marks.contains char

/-- Whether a character belongs to a number that has begun. -/
def isNumberChar (char : Char) : Bool :=
  char.isDigit || char == '.'

/-! ## Date texts -/

/-- The classes of the characters of `NN/NN/NNNN`. -/
def dayShape : List (Char → Bool) :=
  [Char.isDigit, Char.isDigit, (· == '/'), Char.isDigit, Char.isDigit, (· == '/'),
    Char.isDigit, Char.isDigit, Char.isDigit, Char.isDigit]

/-- The classes of the characters of a blank followed by `NN:NN:NN`. The blank is a space,
tab, line feed, vertical tab, form feed or carriage return. -/
def timeShape : List (Char → Bool) :=
  [[' ', '\t', '\n', '\x0b', '\x0c', '\r'].contains, Char.isDigit, Char.isDigit, (· == ':'),
    Char.isDigit, Char.isDigit, (· == ':'), Char.isDigit, Char.isDigit]

/-- Whether a text has one character of each class, in order, and no others. -/
def hasShape : List (Char → Bool) → List Char → Bool
  | [], [] => true
  | inClass :: shape, char :: rest => inClass char && hasShape shape rest
  | _, _ => false

/-- Whether a text is a day, with or without a time of day. -/
def isDate (text : List Char) : Bool :=
  hasShape dayShape text || hasShape (dayShape ++ timeShape) text

/-! ## Trivia -/

/-- Cuts blanks and comments off the front. A comment goes from an apostrophe up to, and
not including, the next line feed. -/
def splitTrivia (chars : List Char) : List Char × List Char :=
  match chars with
  | [] => ([], [])
  | char :: rest =>
    if blanks.contains char then
      let (skipped, after) := splitTrivia rest
      (char :: skipped, after)
    else if char = '\x27' then
      let (skipped, after) := splitTrivia (rest.dropWhile (· != '\n'))
      (char :: rest.takeWhile (· != '\n') ++ skipped, after)
    else ([], char :: rest)
termination_by chars.length
decreasing_by
  · exact Nat.lt_succ_self _
  · exact Nat.lt_succ_of_le (List.dropWhile_sublist _).length_le

theorem splitTrivia_append (chars : List Char) :
    (splitTrivia chars).1 ++ (splitTrivia chars).2 = chars := by
  fun_induction splitTrivia chars with
  | case1 => rfl
  | case2 char rest _ skipped after split ih =>
      rw [split] at ih
      simp [ih]
  | case3 rest skipped after split _ ih =>
      rw [split] at ih
      simp [ih]
  | case4 => rfl

/-! ## Cuts -/

/-- The number of bytes in the UTF-8 form of a list of characters. -/
def byteLength : List Char → Nat
  | [] => 0
  | char :: rest => char.utf8Size + byteLength rest

/-- A lexeme cut from the front of a text. -/
structure Cut where
  lexeme : Lexeme
  taken : List Char
  rest : List Char

/-- The token of a lexeme whose text begins at an offset. -/
def Cut.token (piece : Cut) (start : Nat) : Token :=
  ⟨start, start + byteLength piece.taken, piece.lexeme.kind⟩

/-- The longest run of characters of a class behind a first character. -/
def runCut (lexeme : List Char → Lexeme) (inClass : Char → Bool) (first : Char)
    (rest : List Char) : Cut :=
  let taken := first :: rest.takeWhile inClass
  ⟨lexeme taken, taken, rest.dropWhile inClass⟩

/-- A string literal whose opening quote comes before `rest`: everything through the
first quote that is not the first of a pair, or everything. -/
def stringCut (rest : List Char) : Cut :=
  match Text.Quoted.body? rest with
  | some (body, after) => ⟨.sound .string, '"' :: body ++ ['"'], after⟩
  | none => ⟨.unterminatedString, '"' :: rest, []⟩

/-- A date literal whose opening mark comes before `rest`: everything through the next
mark, or everything. -/
def dateCut (rest : List Char) : Cut :=
  let inside := rest.takeWhile (· != '#')
  match rest.dropWhile (· != '#') with
  | [] => ⟨.unterminatedDate, '#' :: rest, []⟩
  | mark :: after =>
    ⟨.closedDate (isDate inside), '#' :: inside ++ [mark], after⟩

/-- Two characters if they form a pair, one otherwise. -/
def markCut (first : Char) (rest : List Char) : Cut :=
  match rest with
  | second :: after =>
    if markPairs.contains (first, second) then
      ⟨.sound (markKind [first, second]), [first, second], after⟩
    else ⟨.sound (markKind [first]), [first], rest⟩
  | [] => ⟨.sound (markKind [first]), [first], []⟩

/-- The lexeme at the front of a text that begins with neither a blank nor a comment. -/
def cut (first : Char) (rest : List Char) : Cut :=
  if first = '"' then stringCut rest
  else if first = '#' then dateCut rest
  else if first.isDigit then runCut (fun _ => .sound .number) isNumberChar first rest
  else if marks.contains first then markCut first rest
  else runCut (fun taken => .sound (wordKind taken)) isWordChar first rest

/-- A cut takes characters from the front and leaves the others as they are. -/
theorem taken_append_rest (first : Char) (rest : List Char) :
    (cut first rest).taken ++ (cut first rest).rest = first :: rest ∧
      (cut first rest).taken ≠ [] := by
  unfold cut
  split
  · next quote =>
      subst quote
      unfold stringCut
      split
      · next body after found => simp [← Text.Quoted.append_of_body? found]
      · simp
  split
  · next mark =>
      subst mark
      unfold dateCut
      have whole := List.takeWhile_append_dropWhile (p := (· != '#')) (l := rest)
      split
      · simp
      · next closing after found =>
          rw [found] at whole
          simp [whole]
  split
  · simp [runCut]
  split
  · unfold markCut
    split
    · split <;> simp
    · simp
  · simp [runCut]

theorem length_rest_lt (first : Char) (rest : List Char) :
    (cut first rest).rest.length < (first :: rest).length := by
  obtain ⟨whole, nonempty⟩ := taken_append_rest first rest
  have lengths := congrArg List.length whole
  rw [List.length_append] at lengths
  have positive := List.length_pos_iff.mpr nonempty
  omega

/-! ## Whole texts -/

/-- The tokens of a text that begins at an offset, each with its problem. -/
def tokensFrom (offset : Nat) (chars : List Char) : List (Token × Option Problem) :=
  match split : splitTrivia chars with
  | (_, []) => []
  | (skipped, first :: rest) =>
    let piece := cut first rest
    let token := piece.token (offset + byteLength skipped)
    (token, piece.lexeme.problem) :: tokensFrom token.stop piece.rest
termination_by chars.length
decreasing_by
  have whole := congrArg List.length (splitTrivia_append chars)
  rw [split, List.length_append] at whole
  have shorter := length_rest_lt first rest
  simp only at whole
  omega

/-- The diagnostics of tokens that come with their problems. -/
def diagnosticsOf (found : List (Token × Option Problem)) : List Diagnostic :=
  found.filterMap fun (token, problem) => problem.map fun problem => ⟨token.span, problem⟩

def tokens (text : String) : List Token :=
  (tokensFrom 0 text.toList).map (·.1)

def diagnostics (text : String) : List Diagnostic :=
  diagnosticsOf (tokensFrom 0 text.toList)

end FormulaLexer.Grammar
