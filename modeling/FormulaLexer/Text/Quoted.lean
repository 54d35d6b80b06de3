/-!
# Quoted text

A string literal stands between quotes, and a quote inside it is written twice.
`quote` writes a literal, `decode?` reads one; `body?` finds the quote that ends
a literal at the front of a longer text.
-/

set_option autoImplicit false

namespace FormulaLexer.Text.Quoted

/-- The characters of a literal's inside: every quote is doubled. -/
def double : List Char → List Char
  | [] => []
  | char :: rest => if char = '"' then '"' :: '"' :: double rest else char :: double rest

def quote (chars : List Char) : List Char :=
  '"' :: double chars ++ ['"']

/-- Undoes doubling: each pair of quotes becomes one, taken from the left. -/
def collapse : List Char → List Char
  | '"' :: '"' :: rest => '"' :: collapse rest
  | char :: rest => char :: collapse rest
  | [] => []

/-- The inside of a literal whose opening quote has been taken, up to the first
quote that is not the first of a pair, and what follows that quote. -/
def body? : List Char → Option (List Char × List Char)
  | [] => none
  | '"' :: '"' :: rest => (body? rest).map fun (body, after) => ('"' :: '"' :: body, after)
  | '"' :: rest => some ([], rest)
  | char :: rest => (body? rest).map fun (body, after) => (char :: body, after)

/-- The inside, the ending quote and the rest make up what was read. -/
theorem append_of_body? {chars body after : List Char} (found : body? chars = some (body, after)) :
    body ++ '"' :: after = chars := by
  fun_induction body? chars generalizing body with
  | case1 => cases found
  | case2 rest ih =>
      obtain ⟨⟨inner, tail⟩, read, same⟩ := Option.map_eq_some_iff.mp found
      cases same
      simp [ih read]
  | case3 =>
      cases found
      rfl
  | case4 char rest _ _ ih =>
      obtain ⟨⟨inner, tail⟩, read, same⟩ := Option.map_eq_some_iff.mp found
      cases same
      simp [ih read]

/-- The contents of a literal, and whether they stand in it just as they are. -/
structure Contents where
  value : String
  verbatim : Bool
  deriving DecidableEq

/-- Reads a literal that takes up the whole list. -/
def decode? : List Char → Option Contents
  | '"' :: rest =>
    match body? rest with
    | some (body, []) =>
      some ⟨String.ofList (collapse body), !body.contains '"'⟩
    | _ => none
  | _ => none

end FormulaLexer.Text.Quoted
