import FormulaLexer.Symbol.Basic

/-!
# Sets of symbols

No two members of a set are equivalent. The member that came first stays when an
equivalent symbol is inserted, so its spelling is the one that is kept.
-/

set_option autoImplicit false

namespace FormulaLexer

/-- Symbols that are pairwise not equivalent. -/
structure SymbolSet where
  members : List Symbol
  distinct : members.Pairwise fun first later => first.equivalent later = false

namespace SymbolSet

def empty : SymbolSet := ⟨[], .nil⟩

def size (set : SymbolSet) : Nat := set.members.length

/-- The member equivalent to a symbol. -/
def find? (set : SymbolSet) (symbol : Symbol) : Option Symbol :=
  set.members.find? (·.equivalent symbol)

def contains (set : SymbolSet) (symbol : Symbol) : Bool :=
  (set.find? symbol).isSome

private theorem not_equivalent_of_not_contains {set : SymbolSet} {symbol : Symbol}
    (absent : ¬ set.contains symbol = true) :
    ∀ member ∈ set.members, member.equivalent symbol = false := by
  intro member isMember
  unfold contains find? at absent
  rw [List.find?_isSome] at absent
  cases same : member.equivalent symbol with
  | false => rfl
  | true => exact absurd ⟨member, isMember, same⟩ absent

private theorem distinct_append {set : SymbolSet} {symbol : Symbol}
    (absent : ¬ set.contains symbol = true) :
    (set.members ++ [symbol]).Pairwise fun first later => first.equivalent later = false := by
  refine List.pairwise_append.mpr ⟨set.distinct, List.pairwise_singleton _ _, ?_⟩
  intro member isMember added isAdded
  rw [List.mem_singleton.mp isAdded]
  exact not_equivalent_of_not_contains absent member isMember

/-- Adds a symbol unless an equivalent one is there. -/
def insert (set : SymbolSet) (symbol : Symbol) : SymbolSet :=
  if present : set.contains symbol then set
  else ⟨set.members ++ [symbol], distinct_append present⟩

/-- Takes out the member equivalent to a symbol. -/
def erase (set : SymbolSet) (symbol : Symbol) : SymbolSet :=
  ⟨set.members.filter fun member => !member.equivalent symbol, set.distinct.filter _⟩

end SymbolSet

end FormulaLexer
