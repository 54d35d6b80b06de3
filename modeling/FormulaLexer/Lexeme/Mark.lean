import FormulaLexer.Token.Kind

/-!
# Marks

Marks are the characters that form tokens by themselves, alone or together with
one following character. Blanks and marks end a word; nothing else does.
-/

set_option autoImplicit false

namespace FormulaLexer

/-- Space, tab, carriage return and line feed divide tokens. -/
def isBlank (char : Char) : Bool :=
  char == ' ' || char == '\t' || char == '\r' || char == '\n'

/-- The kind of a mark that stands alone, and the kinds it has together with
certain following characters. -/
structure Mark where
  alone : TokenKind
  pairs : List (Char × TokenKind)

namespace Mark

/-- A mark that combines with nothing. -/
def single (kind : TokenKind) : Mark := ⟨kind, []⟩

/-- Opens an alternate index in front of a bracket, and is an operator otherwise. -/
def alternateIndex : Mark := ⟨.operator, [('[', .openIndexAlt)]⟩

/-- The superscript two, the only mark outside ASCII. -/
def superscriptTwo : Char := '\u00b2'

def table : List (Char × Mark) :=
  [(':', ⟨.statementSeparator, [('=', .assign)]⟩),
    ('=', ⟨.operator, [('>', .fatArrow)]⟩),
    ('<', ⟨.operator, [('=', .operator), ('>', .operator)]⟩),
    ('>', ⟨.operator, [('=', .operator)]⟩),
    ('\x60', alternateIndex),
    (superscriptTwo, alternateIndex),
    (',', single .comma),
    ('.', single .dot),
    ('(', single .openParen),
    (')', single .closeParen),
    ('[', single .openIndex),
    (']', single .closeIndex),
    ('\x7b', single .openBrace),
    ('\x7d', single .closeBrace),
    ('&', single .operator),
    ('+', single .operator),
    ('-', single .operator),
    ('*', single .operator),
    ('/', single .operator),
    ('^', single .operator)]

def ofChar? (char : Char) : Option Mark := table.lookup char

/-- The kind of the mark together with a following character. -/
def paired? (mark : Mark) (following : Char) : Option TokenKind :=
  mark.pairs.lookup following

end Mark

/-- The marks within ASCII, each of which ends a word. -/
def separatorMarks : List Char :=
  [':', ',', '(', ')', '[', ']', '\x7b', '\x7d', '=', '<', '>', '&', '+', '-', '*', '/', '^',
    '.', '\x60']

def isAsciiSeparator (char : Char) : Bool :=
  isBlank char || separatorMarks.contains char

/-- Characters that end a word; the superscript two is the only one outside ASCII. -/
def isSeparator (char : Char) : Bool :=
  isAsciiSeparator char || char == Mark.superscriptTwo

/-- Whether a text begins with a character that ends words. -/
def startsWithSeparator (text : String) : Bool :=
  text.toList.head?.any isSeparator

/-! ## Separators and marks -/

theorem Mark.isSome_ofChar?_iff {char : Char} :
    (Mark.ofChar? char).isSome = true ↔ char ∈ Mark.table.map (·.1) := by
  simp only [Mark.ofChar?, List.lookup_isSome_iff, beq_iff_eq, List.mem_map]
  constructor
  · rintro ⟨entry, listed, same⟩
    exact ⟨entry, listed, same.symm⟩
  · rintro ⟨entry, listed, same⟩
    exact ⟨entry, listed, same.symm⟩

/-- The characters that end a word are the blanks and the characters that begin a mark:
two lists kept apart name the same characters. -/
theorem isSeparator_eq (char : Char) :
    isSeparator char = (isBlank char || (Mark.ofChar? char).isSome) := by
  have forward : separatorMarks ++ [Mark.superscriptTwo] ⊆ Mark.table.map (·.1) := by decide
  have backward : Mark.table.map (·.1) ⊆ separatorMarks ++ [Mark.superscriptTwo] := by decide
  rw [Bool.eq_iff_iff]
  simp only [isSeparator, isAsciiSeparator, Bool.or_eq_true, List.contains_iff_mem, beq_iff_eq,
    Mark.isSome_ofChar?_iff]
  constructor
  · rintro ((blank | listed) | superscript)
    · exact .inl blank
    · exact .inr (forward (List.mem_append_left _ listed))
    · exact .inr (forward (by simp [superscript]))
  · rintro (blank | begins)
    · exact .inl (.inl blank)
    · rcases List.mem_append.mp (backward begins) with listed | superscript
      · exact .inl (.inr listed)
      · exact .inr (by simpa using superscript)

end FormulaLexer
