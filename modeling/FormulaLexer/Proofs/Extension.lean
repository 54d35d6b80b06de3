import Mathlib.Data.List.TakeWhile
import FormulaLexer.Proofs.Derivation

/-!
# Texts that go on

What more text behind a text changes. A run of characters, a literal or a mark that ends
inside the text stays as it is, whatever follows. One that takes the text to its end stays as
it is when it has an end of its own and a blank comes next.
-/

set_option autoImplicit false

namespace FormulaLexer

/-! ## Runs and quoted text -/

/-- A run goes no further when it ends inside the text, or when the text goes on with a
character outside the class. -/
theorem run_append {inClass : Char → Bool} {chars more : List Char}
    (boundary : chars.dropWhile inClass = [] →
      ∀ char, more.head? = some char → inClass char = false) :
    (chars ++ more).takeWhile inClass = chars.takeWhile inClass ∧
      (chars ++ more).dropWhile inClass = chars.dropWhile inClass ++ more := by
  induction chars with
  | nil =>
      cases more with
      | nil => exact ⟨rfl, rfl⟩
      | cons char more =>
          have outside := boundary rfl char rfl
          simp [outside]
  | cons char chars ih =>
      cases joins : inClass char with
      | false => simp [joins]
      | true =>
          rw [List.dropWhile_cons_of_pos joins] at boundary
          obtain ⟨taken, left⟩ := ih boundary
          simp [joins, taken, left]

/-- A search ends at the first occurrence of its target. -/
theorem search_append {target : Char} {before : List Char} (absent : target ∉ before)
    (after : List Char) :
    (before ++ target :: after).takeWhile (· != target) = before ∧
      (before ++ target :: after).dropWhile (· != target) = target :: after := by
  have passed : ∀ char ∈ before, (char != target) = true := by
    intro char member
    exact bne_iff_ne.mpr (ne_of_mem_of_not_mem member absent)
  have stops : ∀ char, (target :: after).head? = some char → (char != target) = false := by
    intro char next
    cases next
    exact bne_self_eq_false target
  obtain ⟨taken, left⟩ := run_append fun (_ : before.dropWhile (· != target) = []) => stops
  rw [taken, left, List.takeWhile_eq_self_iff.mpr passed, List.dropWhile_eq_nil_iff.mpr passed]
  exact ⟨rfl, rfl⟩

/-- A literal that has its ending quote keeps it, unless that quote comes last and the text
goes on with another one. -/
theorem Text.Quoted.body?_append {chars body after more : List Char}
    (found : body? chars = some (body, after)) (apart : after = [] → more.head? ≠ some '"') :
    body? (chars ++ more) = some (body, after ++ more) := by
  fun_induction body? chars generalizing body with
  | case1 => cases found
  | case2 rest ih =>
      obtain ⟨⟨inner, tail⟩, read, same⟩ := Option.map_eq_some_iff.mp found
      cases same
      simp [body?, ih read]
  | case3 rest noPair =>
      cases found
      rw [List.cons_append, body?.eq_3]
      intro others same
      cases after with
      | nil => exact apart rfl (by rw [← List.nil_append more, same]; rfl)
      | cons char after =>
          cases same
          exact noPair _ rfl
  | case4 char rest noPair noQuote ih =>
      obtain ⟨⟨inner, tail⟩, read, same⟩ := Option.map_eq_some_iff.mp found
      cases same
      have plain : char ≠ '"' := fun quote => noQuote quote
      simp [body?, plain, ih read]

namespace Grammar

variable {first : Char} {rest more ahead skipped : List Char}

/-! ## Cuts -/

/-- The same lexeme, cut from a text that goes on with `more`. -/
def Cut.extend (piece : Cut) (more : List Char) : Cut :=
  ⟨piece.lexeme, piece.taken, piece.rest ++ more⟩

private theorem runCut_append {lexeme : List Char → Lexeme} {inClass : Char → Bool}
    (boundary : rest.dropWhile inClass = [] →
      ∀ char, more.head? = some char → inClass char = false) :
    runCut lexeme inClass first (rest ++ more) =
      (runCut lexeme inClass first rest).extend more := by
  obtain ⟨taken, left⟩ := run_append boundary
  rw [runCut, taken, left]
  rfl

private theorem stringCut_append {body after : List Char}
    (found : Text.Quoted.body? rest = some (body, after))
    (apart : after = [] → more.head? ≠ some '"') :
    stringCut (rest ++ more) = (stringCut rest).extend more := by
  rw [stringCut, stringCut, Text.Quoted.body?_append found apart, found]
  rfl

private theorem dateCut_append (closed : rest.dropWhile (· != '#') ≠ []) :
    dateCut (rest ++ more) = (dateCut rest).extend more := by
  obtain ⟨taken, left⟩ : (rest ++ more).takeWhile (· != '#') = _ ∧ _ :=
    run_append fun missing => absurd missing closed
  rw [dateCut, dateCut, taken, left]
  cases ending : rest.dropWhile (· != '#') with
  | nil => exact absurd ending closed
  | cons mark after => rfl

private theorem markCut_append
    (apart : rest = [] → ∀ second, more.head? = some second → (first, second) ∉ markPairs) :
    markCut first (rest ++ more) = (markCut first rest).extend more := by
  cases rest with
  | nil =>
      cases more with
      | nil => rfl
      | cons second more =>
          have single := apart rfl second rfl
          rw [List.nil_append, markCut, if_neg (by simpa using single)]
          rfl
  | cons second rest =>
      rw [List.cons_append, markCut, markCut]
      split
      · rfl
      · rfl

/-- No lexeme goes on over a blank. -/
theorem blank_ends {blank : Char} (divides : blank ∈ blanks) :
    isNumberChar blank = false ∧ isWordChar blank = false ∧ blank ≠ '"' ∧
      ∀ first, (first, blank) ∉ markPairs := by
  have single : blank ∉ Mark.followers → ∀ first, (first, blank) ∉ markPairs := by
    intro outside first paired
    exact outside (Mark.mem_followers_of_markPairs paired)
  simp only [blanks, List.mem_cons, List.not_mem_nil, or_false] at divides
  rcases divides with rfl | rfl | rfl | rfl
  all_goals exact ⟨by decide, by decide, by decide, single (by decide)⟩

/-- `piece.Ends more`: a piece that takes its text to the end has an end of its own there, and
a blank begins the text `more` that follows. -/
def Cut.Ends (piece : Cut) (more : List Char) : Prop :=
  piece.rest = [] →
    piece.lexeme.problem.any Problem.isCutOff = false ∧
      ∃ blank ∈ blanks, more.head? = some blank

private theorem stringCut_append_of_ends (ends : (stringCut rest).Ends more) :
    stringCut (rest ++ more) = (stringCut rest).extend more := by
  rw [stringCut] at ends
  cases found : Text.Quoted.body? rest with
  | none =>
      rw [found] at ends
      cases (ends rfl).1
  | some read =>
      obtain ⟨body, after⟩ := read
      rw [found] at ends
      refine stringCut_append found ?_
      intro last
      obtain ⟨_, blank, divides, next⟩ := ends last
      rw [next]
      intro same
      exact (blank_ends divides).2.2.1 (Option.some.inj same)

private theorem dateCut_append_of_ends (ends : (dateCut rest).Ends more) :
    dateCut (rest ++ more) = (dateCut rest).extend more := by
  refine dateCut_append ?_
  intro missing
  rw [dateCut, missing] at ends
  cases (ends rfl).1

private theorem markCut_append_of_ends (ends : (markCut first rest).Ends more) :
    markCut first (rest ++ more) = (markCut first rest).extend more := by
  refine markCut_append ?_
  rintro rfl second next
  obtain ⟨_, blank, divides, same⟩ := ends rfl
  cases next.symm.trans same
  exact (blank_ends divides).2.2.2 first

/-- A lexeme that ends in front of more text is the lexeme that is cut from the longer text. -/
theorem cut_append (ends : (cut first rest).Ends more) :
    cut first (rest ++ more) = (cut first rest).extend more := by
  unfold cut at ends ⊢
  split
  · next quote =>
      rw [if_pos quote] at ends
      exact stringCut_append_of_ends ends
  next noQuote =>
  rw [if_neg noQuote] at ends
  split
  · next mark =>
      rw [if_pos mark] at ends
      exact dateCut_append_of_ends ends
  next noMark =>
  rw [if_neg noMark] at ends
  split
  · next digit =>
      rw [if_pos digit] at ends
      refine runCut_append ?_
      intro last char next
      obtain ⟨_, blank, divides, same⟩ := ends last
      cases next.symm.trans same
      exact (blank_ends divides).1
  next noDigit =>
  rw [if_neg noDigit] at ends
  split
  · next mark =>
      rw [if_pos mark] at ends
      exact markCut_append_of_ends ends
  next noMark =>
  rw [if_neg noMark] at ends
  refine runCut_append ?_
  intro last char next
  obtain ⟨_, blank, divides, same⟩ := ends last
  cases next.symm.trans same
  exact (blank_ends divides).2.1

/-! ## Trivia -/

theorem splitTrivia_of_solid (solid : isBlank first = false) (noComment : first ≠ '\x27') :
    splitTrivia (first :: rest) = ([], first :: rest) := by
  rw [isBlank_eq] at solid
  rw [splitTrivia, if_neg (by simpa using solid), if_neg noComment]

/-- Trivia in front of a token is the same in a longer text. Trivia that takes the text to its
end goes on in the text that follows, provided that a line feed ends the last comment. -/
theorem splitTrivia_append_of_split (split : splitTrivia ahead = (skipped, rest))
    (stops : rest = [] → more.head? = some '\n') :
    splitTrivia (ahead ++ more) =
      (skipped ++ (splitTrivia (rest ++ more)).1, (splitTrivia (rest ++ more)).2) := by
  fun_induction splitTrivia ahead generalizing skipped with
  | case1 =>
      cases split
      rfl
  | case2 char tail blank inner after found ih =>
      cases split
      rw [List.cons_append, splitTrivia, if_pos blank, ih found]
      rfl
  | case3 tail inner after found _ ih =>
      cases split
      obtain ⟨body, left⟩ : (tail ++ more).takeWhile (· != '\n') = _ ∧ _ := by
        refine run_append ?_
        intro unclosed char next
        rw [unclosed, splitTrivia] at found
        cases found
        cases (stops rfl).symm.trans next
        decide
      rw [List.cons_append, splitTrivia, if_neg (by decide), if_pos rfl, body, left, ih found]
      simp
  | case4 =>
      cases split
      rfl

private theorem splitTrivia_append_of_token (split : splitTrivia ahead = (skipped, first :: rest))
    (more : List Char) : splitTrivia (ahead ++ more) = (skipped, first :: (rest ++ more)) := by
  obtain ⟨solid, noComment⟩ := first_of_splitTrivia split
  rw [splitTrivia_append_of_split split (by simp), List.cons_append,
    splitTrivia_of_solid solid noComment, List.append_nil]

/-! ## Derivations -/

variable {behind trivia : List Char} {later : List (Token × Option Problem)}

/-- A derivation can begin in front of trivia. -/
theorem Reads.behind_trivia
    (passes : splitTrivia (trivia ++ more) =
      (trivia ++ (splitTrivia more).1, (splitTrivia more).2))
    (onward : Reads (behind ++ trivia) more later) : Reads behind (trivia ++ more) later := by
  cases onward with
  | done split =>
      rw [split] at passes
      exact .done passes
  | @step _ _ skipped rest first later split onward =>
      rw [split] at passes
      rw [List.append_assoc behind trivia skipped] at onward ⊢
      exact .step passes onward

/-- A step over a lexeme that ends in front of more text is a step over the longer text. -/
theorem Reads.step_append (split : splitTrivia ahead = (skipped, first :: rest))
    (ends : (cut first rest).Ends more)
    (onward : Reads (behind ++ skipped ++ (cut first rest).taken)
      ((cut first rest).rest ++ more) later) :
    Reads behind (ahead ++ more)
      (((cut first rest).token (byteLength (behind ++ skipped)), (cut first rest).lexeme.problem)
        :: later) := by
  have extended := cut_append ends
  have longer := splitTrivia_append_of_token split more
  have step : Reads behind (ahead ++ more)
      (((cut first (rest ++ more)).token (byteLength (behind ++ skipped)),
        (cut first (rest ++ more)).lexeme.problem) :: later) :=
    .step longer (by rw [extended]; exact onward)
  rw [extended] at step
  exact step

end Grammar

end FormulaLexer
