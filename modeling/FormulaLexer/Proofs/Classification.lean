import Mathlib.Data.Bool.AllAny
import Mathlib.Data.List.Find
import Mathlib.Data.List.ProdSigma
import FormulaLexer.Date.Grammar
import FormulaLexer.Grammar
import FormulaLexer.Lexeme.Mark
import FormulaLexer.Lexeme.Word
import FormulaLexer.Proofs.Encoding

/-!
# Two ways to classify

The scanner classifies through tables of marks, a look-up of spellings and a reader of date
texts; the grammar classifies through lists of characters, a search through the operators
and the shape of a date. The two agree on every text.
-/

set_option autoImplicit false

namespace FormulaLexer

/-! ## Blanks, marks and separators -/

theorem isBlank_eq (char : Char) : isBlank char = Grammar.blanks.contains char := by
  rw [Bool.eq_iff_iff]
  simp [isBlank, Grammar.blanks, or_assoc]

theorem isSome_ofChar?_eq (char : Char) :
    (Mark.ofChar? char).isSome = Grammar.marks.contains char := by
  have forward : Mark.table.map (·.1) ⊆ Grammar.marks := by decide
  have backward : Grammar.marks ⊆ Mark.table.map (·.1) := by decide
  rw [Bool.eq_iff_iff, Mark.isSome_ofChar?_iff, List.contains_iff_mem]
  exact ⟨(forward ·), (backward ·)⟩

theorem isWordChar_eq (char : Char) : Grammar.isWordChar char = !isSeparator char := by
  rw [Grammar.isWordChar, isSeparator_eq, isBlank_eq, isSome_ofChar?_eq, Bool.not_or]

/-! ## Texts that differ in letter case -/

namespace Text

variable {left right : String}

private theorem utf8ByteSize_of_asciiFold (same : asciiFold left = asciiFold right) :
    left.utf8ByteSize = right.utf8ByteSize := by
  have lengths := congrArg Grammar.byteLength same
  simpa only [asciiFold, byteLength_folded, byteLength_toList] using lengths

private theorem all_isAscii_of_asciiFold (same : asciiFold left = asciiFold right) :
    left.toList.all isAscii = right.toList.all isAscii := by
  have classes := congrArg (List.all · isAscii) same
  simpa only [asciiFold, List.all_map, Function.comp_def, isAscii_toLower] using classes

private theorem head?_isAlpha_of_asciiFold (same : asciiFold left = asciiFold right) :
    left.toList.head?.any Char.isAlpha = right.toList.head?.any Char.isAlpha := by
  have classes := congrArg (fun chars => chars.head?.any Char.isAlpha) same
  simpa only [asciiFold, List.head?_map, Option.any_map, Function.comp_def, isAlpha_toLower]
    using classes

end Text

/-! ## Operators and words -/

theorem Grammar.asciiFold_operators :
    ∀ spelling ∈ operators, Text.asciiFold spelling = spelling.toList := by
  decide

namespace Operator

theorem asciiFold_spelling (operator : Operator) :
    Text.asciiFold operator.spelling = operator.spelling.toList := by
  cases operator <;> decide

theorem mem_all_iff {operator : Operator} : operator ∈ all ↔ operator ≠ .invalid := by
  cases operator <;> decide

theorem ofSpelling_spelling (operator : Operator) : ofSpelling operator.spelling = operator := by
  cases operator <;> decide

/-- Letter case plays no part in any of the tests. -/
theorem ofSpelling_congr {left right : String} (same : Text.asciiFold left = Text.asciiFold right) :
    ofSpelling left = ofSpelling right := by
  have size := Text.utf8ByteSize_of_asciiFold same
  have empty : left.isEmpty = right.isEmpty := congrArg (· == 0) size
  simp only [ofSpelling, empty, size, Text.all_isAscii_of_asciiFold same, same]

private theorem spelling_of_lookup {text : String} {operator : Operator}
    (found : spellings.lookup text = some operator) : operator.spelling = text := by
  obtain ⟨before, later, split, _⟩ := List.lookup_eq_some_iff.mp found
  have listed : (text, operator) ∈ spellings := by simp [split]
  obtain ⟨_, _, same⟩ := List.mem_map.mp listed
  cases same
  rfl

/-- Reading a spelling finds the operator that has it: what is refused before the search would not
have been found. -/
theorem ofSpelling_eq_iff {text : String} {operator : Operator} (real : operator ≠ .invalid) :
    ofSpelling text = operator ↔
      Text.equalIgnoringAsciiCase text operator.spelling = true := by
  rw [Text.equalIgnoringAsciiCase_iff]
  constructor
  · intro found
    unfold ofSpelling at found
    split at found
    · exact absurd found.symm real
    · cases hit : spellings.lookup (String.ofList (Text.asciiFold text)) with
      | none =>
          rw [hit] at found
          exact absurd found.symm real
      | some other =>
          rw [hit, Option.getD_some] at found
          subst found
          rw [asciiFold_spelling, spelling_of_lookup hit, String.toList_ofList]
  · intro folded
    exact (ofSpelling_congr folded).trans (ofSpelling_spelling operator)

/-- The operators of the table are spelled as the grammar lists them. -/
theorem map_spelling_all : all.map spelling = Grammar.operators := rfl

theorem isSpelling_ofList (text : List Char) :
    isSpelling (String.ofList text) = Grammar.isOperator text := by
  rw [Bool.eq_iff_iff, Grammar.isOperator, ← map_spelling_all, List.any_map, List.any_eq_true,
    isSpelling, bne_iff_ne]
  constructor
  · intro real
    exact ⟨_, mem_all_iff.mpr real, (ofSpelling_eq_iff real).mp rfl⟩
  · rintro ⟨operator, listed, spelled⟩
    have real := mem_all_iff.mp listed
    rw [(ofSpelling_eq_iff real).mpr spelled]
    exact real

end Operator

/-- The reserved words are listed under their lengths. -/
theorem mem_keywordsOfLength_iff {entry : String × TokenKind} {length : Nat} :
    entry ∈ keywordsOfLength length ↔
      entry ∈ Grammar.keywords ∧ entry.1.utf8ByteSize = length := by
  constructor
  · intro listed
    have every : ∀ length ∈ [2, 3, 5], ∀ entry ∈ keywordsOfLength length,
        entry ∈ Grammar.keywords ∧ entry.1.utf8ByteSize = length := by decide
    unfold keywordsOfLength at listed
    split at listed
    · exact every 2 (by decide) entry listed
    · exact every 3 (by decide) entry listed
    · exact every 5 (by decide) entry listed
    · cases listed
  · rintro ⟨listed, rfl⟩
    have every : ∀ entry ∈ Grammar.keywords, entry ∈ keywordsOfLength entry.1.utf8ByteSize := by
      decide
    exact every entry listed

theorem keyword_inj {entry other : String × TokenKind} (listed : entry ∈ Grammar.keywords)
    (otherListed : other ∈ Grammar.keywords)
    (same : Text.asciiFold entry.1 = Text.asciiFold other.1) : entry = other := by
  have every : ∀ entry ∈ Grammar.keywords, ∀ other ∈ Grammar.keywords,
      Text.asciiFold entry.1 = Text.asciiFold other.1 → entry = other := by decide
  exact every entry listed other otherListed same

/-- A search among reserved words finds whichever of them a text spells. -/
theorem find?_keyword_eq_some_iff {words : List (String × TokenKind)}
    (reserved : ∀ entry ∈ words, entry ∈ Grammar.keywords) {text : String}
    {entry : String × TokenKind} :
    words.find? (fun entry => Text.equalIgnoringAsciiCase text entry.1) = some entry ↔
      entry ∈ words ∧ Text.asciiFold text = Text.asciiFold entry.1 := by
  constructor
  · intro found
    have matched := List.find?_some found
    exact ⟨List.mem_of_find?_eq_some found, Text.equalIgnoringAsciiCase_iff.mp matched⟩
  · rintro ⟨listed, spelled⟩
    have matched := Text.equalIgnoringAsciiCase_iff.mpr spelled
    cases found : words.find? fun entry => Text.equalIgnoringAsciiCase text entry.1 with
    | none => exact absurd matched (List.find?_eq_none.mp found entry listed)
    | some other =>
        have otherMatched := List.find?_some found
        have otherSpelled := Text.equalIgnoringAsciiCase_iff.mp otherMatched
        have otherListed := List.mem_of_find?_eq_some found
        exact congrArg some (keyword_inj (reserved other otherListed) (reserved entry listed)
          (otherSpelled.symm.trans spelled))

/-- Comparing a text with the reserved words of its length finds what comparing it with all of them
finds. -/
theorem keywordKind?_eq (text : String) :
    keywordKind? text =
      (Grammar.keywords.find? fun entry =>
        Text.equalIgnoringAsciiCase text entry.1).map (·.2) := by
  have reserved : ∀ entry ∈ keywordsOfLength text.utf8ByteSize, entry ∈ Grammar.keywords :=
    fun entry listed => (mem_keywordsOfLength_iff.mp listed).1
  unfold keywordKind?
  cases found : Grammar.keywords.find? fun entry => Text.equalIgnoringAsciiCase text entry.1 with
  | none =>
      have absent : (keywordsOfLength text.utf8ByteSize).find? (fun entry =>
          Text.equalIgnoringAsciiCase text entry.1) = none :=
        List.find?_eq_none.mpr fun entry listed =>
          List.find?_eq_none.mp found entry (reserved entry listed)
      simp only [absent, Option.map_none, ite_self]
  | some entry =>
      obtain ⟨listed, spelled⟩ := (find?_keyword_eq_some_iff fun _ listed => listed).mp found
      have letters : ∀ entry ∈ Grammar.keywords,
          entry.1.toList.head?.any Char.isAlpha = true := by decide
      have letter : text.toList.head?.any Char.isAlpha = true :=
        (Text.head?_isAlpha_of_asciiFold spelled).trans (letters entry listed)
      have sameLength : entry ∈ keywordsOfLength text.utf8ByteSize :=
        mem_keywordsOfLength_iff.mpr ⟨listed, (Text.utf8ByteSize_of_asciiFold spelled).symm⟩
      have again := (find?_keyword_eq_some_iff reserved).mpr ⟨sameLength, spelled⟩
      simp only [letter, again, ↓reduceIte]

theorem wordKind_ofList (text : List Char) :
    wordKind (String.ofList text) = Grammar.wordKind text := by
  rw [wordKind, Grammar.wordKind, Operator.isSpelling_ofList, keywordKind?_eq]
  split
  · rfl
  · cases Grammar.keywords.find? fun entry =>
        Text.equalIgnoringAsciiCase (String.ofList text) entry.1 with
    | none => rfl
    | some entry => rfl

/-! ## Kinds of marks -/

namespace Mark

variable {char : Char} {mark : Mark}

private theorem mem_table_of_ofChar? (found : ofChar? char = some mark) : (char, mark) ∈ table := by
  obtain ⟨before, later, split, _⟩ := List.lookup_eq_some_iff.mp found
  rw [split]
  exact List.mem_append_right _ List.mem_cons_self

theorem alone_eq (found : ofChar? char = some mark) : mark.alone = Grammar.markKind [char] := by
  have table : ∀ entry ∈ table, entry.2.alone = Grammar.markKind [entry.1] := by decide +kernel
  exact table _ (mem_table_of_ofChar? found)

/-- The characters that can follow a mark in a pair. -/
def followers : List Char := ['=', '>', '[']

theorem ascii_of_mem_followers {following : Char} (follows : following ∈ followers) :
    following.toNat < 128 := by
  have small : ∀ follower ∈ followers, follower.toNat < 128 :=
    List.all_iff_forall_prop.mp (by decide)
  exact small following follows

theorem mem_followers_of_markPairs {following : Char}
    (paired : (char, following) ∈ Grammar.markPairs) : following ∈ followers := by
  have pairs : ∀ pair ∈ Grammar.markPairs, pair.2 ∈ followers := by decide
  exact pairs _ paired

theorem paired?_eq_none (found : ofChar? char = some mark) {following : Char}
    (apart : following ∉ followers) : mark.paired? following = none := by
  have table : ∀ entry ∈ table, ∀ pair ∈ entry.2.pairs, pair.1 ∈ followers := by decide
  rw [paired?, List.lookup_eq_none_iff]
  intro pair member
  rw [bne_iff_ne]
  rintro rfl
  exact apart (table _ (mem_table_of_ofChar? found) pair member)

theorem paired?_eq (found : ofChar? char = some mark) (following : Char) :
    mark.paired? following =
      if Grammar.markPairs.contains (char, following) then
        some (Grammar.markKind [char, following])
      else none := by
  by_cases follows : following ∈ followers
  · have table : ∀ entry ∈ table.product followers,
        entry.1.2.paired? entry.2 =
          if Grammar.markPairs.contains (entry.1.1, entry.2) then
            some (Grammar.markKind [entry.1.1, entry.2])
          else none := by decide +kernel
    exact table ((char, mark), following)
      (List.mem_product.mpr ⟨mem_table_of_ofChar? found, follows⟩)
  · rw [paired?_eq_none found follows, if_neg]
    rw [List.contains_iff_mem]
    intro paired
    exact follows (mem_followers_of_markPairs paired)

end Mark

/-! ## Date texts -/

namespace Date

private theorem hasShape_nil (chars : List Char) : Grammar.hasShape [] chars = chars.isEmpty := by
  cases chars with
  | nil => rfl
  | cons char rest => rfl

private theorem hasShape_digits (value count : Nat) (shape : List (Char → Bool))
    (chars : List Char) :
    Grammar.hasShape (List.replicate count Char.isDigit ++ shape) chars =
      (digits? value count chars).any fun read => Grammar.hasShape shape read.2 := by
  induction count generalizing value chars with
  | zero => rfl
  | succ count ih =>
      cases chars with
      | nil => rfl
      | cons char rest =>
          rw [List.replicate_succ, List.cons_append, Grammar.hasShape, digits?, digit?]
          cases char.isDigit with
          | false => rfl
          | true =>
              simp only [Bool.true_and, ↓reduceIte]
              exact ih _ rest

private theorem hasShape_mark (expected : Char) (shape : List (Char → Bool)) (chars : List Char) :
    Grammar.hasShape ((· == expected) :: shape) chars =
      (mark? expected chars).any fun rest => Grammar.hasShape shape rest := by
  cases chars with
  | nil => rfl
  | cons char rest =>
      rw [Grammar.hasShape, mark?]
      by_cases same : char = expected
      · simp [same]
      · simp [same]

/-- A text has the shape of a day and then another one when reading a day leaves a text of
the other shape. -/
theorem hasShape_day (shape : List (Char → Bool)) (chars : List Char) :
    Grammar.hasShape (Grammar.dayShape ++ shape) chars =
      (day? chars).any fun read => Grammar.hasShape shape read.2 := by
  have layout : Grammar.dayShape ++ shape =
      List.replicate 2 Char.isDigit ++ (· == '/') :: (List.replicate 2 Char.isDigit ++
        (· == '/') :: (List.replicate 4 Char.isDigit ++ shape)) := rfl
  rw [layout]
  simp only [hasShape_digits 0, hasShape_mark, day?, bind, Option.any_bind, Function.comp_def,
    pure, Option.any_some]

private theorem hasShape_clockTime (chars : List Char) :
    Grammar.hasShape Grammar.timeShape.tail chars =
      (clockTime? chars).any fun read => read.2.isEmpty := by
  have layout : Grammar.timeShape.tail =
      List.replicate 2 Char.isDigit ++ (· == ':') :: (List.replicate 2 Char.isDigit ++
        (· == ':') :: (List.replicate 2 Char.isDigit ++ [])) := rfl
  rw [layout]
  simp only [hasShape_digits 0, hasShape_mark, clockTime?, bind, Option.any_bind,
    Function.comp_def, pure, Option.any_some, hasShape_nil]

theorem isDivider_eq (char : Char) :
    isDivider char = [' ', '\t', '\n', '\x0b', '\x0c', '\r'].contains char := by
  rw [Bool.eq_iff_iff]
  simp only [isDivider, Bool.or_eq_true, beq_iff_eq, Bool.and_eq_true, decide_eq_true_eq,
    List.contains_iff_mem, List.mem_cons, List.not_mem_nil, or_false, ← Char.toNat_inj]
  simp only [Char.reduceToNat]
  omega

/-- The reader of dates accepts exactly the texts of the shape of a date. -/
theorem isDateText_ofList (text : List Char) :
    isDateText (String.ofList text) = Grammar.isDate text := by
  have day := hasShape_day [] text
  have whole := hasShape_day Grammar.timeShape text
  rw [List.append_nil] at day
  rw [isDateText, ofText?, String.toList_ofList, Grammar.isDate, day, whole, ofChars?]
  cases day? text with
  | none => rfl
  | some read =>
      obtain ⟨date, rest⟩ := read
      cases rest with
      | nil => rfl
      | cons divider rest =>
          have layout : Grammar.hasShape Grammar.timeShape (divider :: rest) =
              (isDivider divider && Grammar.hasShape Grammar.timeShape.tail rest) := by
            rw [isDivider_eq]
            rfl
          simp only [Option.any_some, hasShape_nil, List.isEmpty_cons, Bool.false_or, layout,
            hasShape_clockTime]
          cases isDivider divider with
          | false => rfl
          | true =>
              cases clockTime? rest with
              | none => rfl
              | some read =>
                  obtain ⟨time, remainder⟩ := read
                  cases remainder with
                  | nil => rfl
                  | cons char remainder => rfl

end Date

end FormulaLexer
