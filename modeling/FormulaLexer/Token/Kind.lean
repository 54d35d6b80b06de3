/-!
# Token kinds

A kind is identified by a tag of one byte. The tags leave room between the
families: literals and names, punctuation, keywords, operators, and the two
special kinds at the top.
-/

set_option autoImplicit false

namespace FormulaLexer

/-- What a token is. -/
inductive TokenKind where
  | number | string | date | identifier
  | statementSeparator | comma | dot
  | openParen | closeParen
  | openIndex | openIndexAlt | closeIndex
  | openBrace | closeBrace
  | assign | fatArrow
  | keywordDim | keywordAs | keywordNew | keywordNot | keywordClass
  | operator
  | error | endOfInput
  deriving DecidableEq

namespace TokenKind

def all : List TokenKind :=
  [.number, .string, .date, .identifier, .statementSeparator, .comma, .dot, .openParen,
    .closeParen, .openIndex, .openIndexAlt, .closeIndex, .openBrace, .closeBrace, .assign,
    .fatArrow, .keywordDim, .keywordAs, .keywordNew, .keywordNot, .keywordClass, .operator,
    .error, .endOfInput]

def tag : TokenKind → Nat
  | .number => 0
  | .string => 1
  | .date => 2
  | .identifier => 3
  | .statementSeparator => 16
  | .comma => 17
  | .dot => 18
  | .openParen => 19
  | .closeParen => 20
  | .openIndex => 21
  | .openIndexAlt => 22
  | .closeIndex => 23
  | .openBrace => 24
  | .closeBrace => 25
  | .assign => 26
  | .fatArrow => 27
  | .keywordDim => 32
  | .keywordAs => 33
  | .keywordNew => 34
  | .keywordNot => 35
  | .keywordClass => 36
  | .operator => 48
  | .error => 240
  | .endOfInput => 255

def ofTag? (number : Nat) : Option TokenKind :=
  all.find? (·.tag == number)

/-- The name under which a kind is stored and listed. -/
def name : TokenKind → String
  | .number => "Number"
  | .string => "String"
  | .date => "Date"
  | .identifier => "Identifier"
  | .statementSeparator => "StatementSeparator"
  | .comma => "Comma"
  | .dot => "Dot"
  | .openParen => "OpenParen"
  | .closeParen => "CloseParen"
  | .openIndex => "OpenIndex"
  | .openIndexAlt => "OpenIndexAlt"
  | .closeIndex => "CloseIndex"
  | .openBrace => "OpenBrace"
  | .closeBrace => "CloseBrace"
  | .assign => "Assign"
  | .fatArrow => "FatArrow"
  | .keywordDim => "KeywordDim"
  | .keywordAs => "KeywordAs"
  | .keywordNew => "KeywordNew"
  | .keywordNot => "KeywordNot"
  | .keywordClass => "KeywordClass"
  | .operator => "Operator"
  | .error => "Error"
  | .endOfInput => "EndOfInput"

def ofName? (text : String) : Option TokenKind :=
  all.find? (·.name == text)

/-- The words used for a kind in messages. -/
def description : TokenKind → String
  | .number => "number"
  | .string => "string"
  | .date => "date"
  | .identifier => "identifier"
  | .statementSeparator => "`:`"
  | .comma => "`,`"
  | .dot => "`.`"
  | .openParen => "`(`"
  | .closeParen => "`)`"
  | .openIndex => "`[`"
  | .openIndexAlt => "alternate `[`"
  | .closeIndex => "`]`"
  | .openBrace => "`\x7b`"
  | .closeBrace => "`\x7d`"
  | .assign => "`:=`"
  | .fatArrow => "`=>`"
  | .keywordDim => "`dim`"
  | .keywordAs => "`as`"
  | .keywordNew => "`new`"
  | .keywordNot => "`not`"
  | .keywordClass => "`class`"
  | .operator => "operator"
  | .error => "error"
  | .endOfInput => "end of input"

/-- Reserved words. -/
def isKeyword (kind : TokenKind) : Bool :=
  32 ≤ kind.tag && kind.tag < 48

/-- Kinds whose text denotes a value. -/
def isLiteral (kind : TokenKind) : Bool :=
  kind.tag < 3

/-- Structural marks, the assignment and the arrow included. -/
def isPunctuation (kind : TokenKind) : Bool :=
  16 ≤ kind.tag && kind.tag < 32

def compare (left right : TokenKind) : Ordering :=
  Ord.compare left.tag right.tag

end TokenKind

end FormulaLexer
