import FormulaLexer.Proofs.CursorMoves
import FormulaLexer.Proofs.Folding
import FormulaLexer.Proofs.Legibility
import FormulaLexer.Symbol.Basic

/-!
# Symbols written and compared

The written form of a symbol leaves out the `!` of an empty path and ends in the sigil of the scope.
It is read back as the same symbol unless some character of the symbol can be taken for one of these
marks. A name read from a text can only fail in one way: behind an empty path the name still holds a
`!`, which is then taken for the end of a path.

Comparison folds path and name apart, a hash takes them as one stream. The first `!` of the stream
ends the path as long as no path holds one, and no name read from a text has such a path.
-/

set_option autoImplicit false

namespace FormulaLexer

/-- The characters that select a scope at the end of a name. -/
def sigils : List Char := ['@', '$', '#', '%', '£', '\u03bc', '\u00b5']

namespace Scope

theorem isSome_ofSigil?_iff {char : Char} : (ofSigil? char).isSome = true ↔ char ∈ sigils := by
  simp only [ofSigil?, sigils, List.mem_cons, List.not_mem_nil, or_false]
  grind

private theorem ofSigil?_ne_builtin (char : Char) : ofSigil? char ≠ some .builtin := by
  unfold ofSigil?
  grind

private theorem sigil?_eq_none_iff {scope : Scope} : scope.sigil? = none ↔ scope = .builtin := by
  cases scope <;> simp [sigil?]

end Scope

namespace Text

private theorem lowercase_bang : lowercase '!' = ['!'] := by decide

private theorem toNat_ofNat_cases (code : Nat) :
    (Char.ofNat code).toNat = code ∨ (Char.ofNat code).toNat = 0 := by
  by_cases valid : code.isValidChar
  · exact .inl (congrArg Char.toNat (dif_pos valid))
  · exact .inr (congrArg Char.toNat (dif_neg valid))

/-- Folding makes no other character into a `!`: the targets of the capitals all come later. -/
theorem eq_bang_of_mem_lowercase {char : Char} (member : '!' ∈ lowercase char) : char = '!' := by
  unfold lowercase at member
  split at member
  · exact (toLower_eq_iff (by decide)).mp (List.mem_singleton.mp member).symm
  split at member
  · exact absurd member (by decide)
  split at member
  · next run found =>
      have targets : ∀ run ∈ capitalRuns, 0x21 < run.target :=
        List.all_iff_forall_prop.mp (by decide)
      have later := targets run (List.mem_of_find?_eq_some found)
      have same : 0x21 = _ := congrArg Char.toNat (List.mem_singleton.mp member)
      rcases toNat_ofNat_cases (run.target + (char.toNat - run.first)) with code | code
      · omega
      · omega
  · exact (List.mem_singleton.mp member).symm

private theorem bang_not_mem_foldCase {text : String} (free : '!' ∉ text.toList) :
    '!' ∉ foldCase text := by
  intro member
  obtain ⟨char, among, folds⟩ := List.mem_flatMap.mp member
  rw [eq_bang_of_mem_lowercase folds] at among
  exact free among

end Text

namespace Symbol

theorem equivalent_iff {left right : Symbol} :
    left.equivalent right = true ↔
      left.scope = right.scope ∧ Text.foldCase left.path = Text.foldCase right.path ∧
        Text.foldCase left.name = Text.foldCase right.name := by
  simp [equivalent, and_assoc]

theorem equivalent_self (symbol : Symbol) : symbol.equivalent symbol = true :=
  equivalent_iff.mpr ⟨rfl, rfl, rfl⟩

/-! ## Reading names -/

theorem splitPath_cases (body : List Char) :
    ('!' ∉ body ∧ splitPath body = ([], body)) ∨
      ∃ path name, '!' ∉ path ∧ body = path ++ '!' :: name ∧ splitPath body = (path, name) := by
  unfold splitPath
  rcases search_cases '!' body with ⟨absent, _, left⟩ | ⟨path, name, absent, parts, taken, left⟩
  · rw [left]
    exact .inl ⟨absent, rfl⟩
  · rw [left, taken]
    exact .inr ⟨path, name, absent, parts, rfl⟩

private theorem splitPath_qualified {path : List Char} (free : '!' ∉ path) (name : List Char) :
    splitPath (path ++ '!' :: name) = (path, name) := by
  obtain ⟨taken, left⟩ := search_append free name
  rw [splitPath, left, taken]

private theorem splitPath_eq_self_iff {body : List Char} :
    splitPath body = ([], body) ↔ '!' ∉ body := by
  rcases splitPath_cases body with ⟨absent, split⟩ | ⟨path, name, _, parts, split⟩
  · exact iff_of_true split absent
  · apply iff_of_false
    · intro same
      have names := congrArg (·.2.length) (split.symm.trans same)
      rw [parts] at names
      simp at names
      omega
    · rw [parts]
      simp

/-- The end of a text selects a scope, or it holds no sigil and nothing is taken off. -/
theorem splitSigil_cases (chars : List Char) :
    (∃ body sigil scope, sigil ∈ sigils ∧ scope ≠ .builtin ∧ chars = body ++ [sigil] ∧
        splitSigil chars = (scope, body)) ∨
      (∀ char, chars.getLast? = some char → char ∉ sigils) ∧
        splitSigil chars = (.builtin, chars) := by
  unfold splitSigil
  cases found : chars.getLast?.bind Scope.ofSigil? with
  | some scope =>
      obtain ⟨sigil, ends, selects⟩ := Option.bind_eq_some_iff.mp found
      have listed : sigil ∈ sigils := Scope.isSome_ofSigil?_iff.mp (by rw [selects]; rfl)
      have proper : scope ≠ .builtin := by
        rintro rfl
        exact Scope.ofSigil?_ne_builtin sigil selects
      have parts := List.dropLast_append_getLast? sigil ends
      exact .inl ⟨chars.dropLast, sigil, scope, listed, proper, parts.symm, rfl⟩
  | none =>
      refine .inr ⟨?_, rfl⟩
      intro char ends listed
      rw [ends, Option.bind_some] at found
      have selects := Scope.isSome_ofSigil?_iff.mpr listed
      rw [found] at selects
      cases selects

private theorem splitSigil_written {scope : Scope} {body : List Char}
    (apart : scope = .builtin → ∀ char, body.getLast? = some char → char ∉ sigils) :
    splitSigil (body ++ scope.sigil?.toList) = (scope, body) := by
  cases written : scope.sigil? with
  | none =>
      obtain rfl := Scope.sigil?_eq_none_iff.mp written
      rw [Option.toList_none, List.append_nil]
      rcases splitSigil_cases body with ⟨_, sigil, _, listed, _, parts, _⟩ | ⟨_, whole⟩
      · have ends : body.getLast? = some sigil := by rw [parts, List.getLast?_concat]
        exact absurd listed (apart rfl sigil ends)
      · exact whole
  | some sigil =>
      rw [Option.toList_some, splitSigil, List.getLast?_concat, List.dropLast_concat,
        Option.bind_some, Scope.ofSigil?_sigil written]

private theorem ofText_of_split {text : String} {scope : Scope} {body path name : List Char}
    (sigil : splitSigil text.toList = (scope, body)) (bang : splitPath body = (path, name)) :
    ofText text = ⟨scope, String.ofList path, String.ofList name⟩ := by
  simp only [ofText, sigil, bang]

/-- How a text is read: at most a sigil stands behind a body, and the body is a name alone, or a
path and a name around its first `!`. -/
theorem ofText_cases (text : String) :
    ∃ scope body tail, text.toList = body ++ tail ∧ '!' ∉ tail ∧
      (scope = .builtin → tail = [] ∧ ∀ char, body.getLast? = some char → char ∉ sigils) ∧
      (('!' ∉ body ∧ ofText text = ⟨scope, "", String.ofList body⟩) ∨
        ∃ path name, '!' ∉ path ∧ body = path ++ '!' :: name ∧
          ofText text = ⟨scope, String.ofList path, String.ofList name⟩) := by
  have sigil : ∃ scope body tail, text.toList = body ++ tail ∧ '!' ∉ tail ∧
      (scope = .builtin → tail = [] ∧ ∀ char, body.getLast? = some char → char ∉ sigils) ∧
      splitSigil text.toList = (scope, body) := by
    rcases splitSigil_cases text.toList with
      ⟨body, sigil, scope, listed, proper, parts, split⟩ | ⟨plain, split⟩
    · refine ⟨scope, body, [sigil], parts, ?_, fun builtin => absurd builtin proper, split⟩
      intro bang
      rw [← List.mem_singleton.mp bang] at listed
      exact absurd listed (by decide)
    · exact ⟨.builtin, text.toList, [], (List.append_nil _).symm, List.not_mem_nil,
        fun _ => ⟨rfl, plain⟩, split⟩
  obtain ⟨scope, body, tail, parts, free, plain, split⟩ := sigil
  refine ⟨scope, body, tail, parts, free, plain, ?_⟩
  rcases splitPath_cases body with ⟨absent, whole⟩ | ⟨path, name, absent, bodyParts, around⟩
  · exact .inl ⟨absent, ofText_of_split split whole⟩
  · exact .inr ⟨path, name, absent, bodyParts, ofText_of_split split around⟩

theorem bang_not_mem_path (text : String) : '!' ∉ (ofText text).path.toList := by
  obtain ⟨scope, body, tail, _, _, _, ⟨_, read⟩ | ⟨path, name, absent, _, read⟩⟩ :=
    ofText_cases text
  · rw [read]
    exact List.not_mem_nil
  · rw [read, String.toList_ofList]
    exact absent

/-! ## Written names -/

/-- The written form without the sigil. -/
def body (symbol : Symbol) : List Char :=
  if symbol.path = "" then symbol.name.toList
  else symbol.path.toList ++ '!' :: symbol.name.toList

private theorem toList_display (symbol : Symbol) :
    symbol.display.toList = symbol.body ++ symbol.scope.sigil?.toList := by
  unfold display body
  by_cases empty : symbol.path = "" <;> simp [empty]

/-- No character of the symbol can be taken for a mark of its written form. -/
structure Restorable (symbol : Symbol) : Prop where
  path : symbol.path ≠ "" → '!' ∉ symbol.path.toList
  name : symbol.path = "" → '!' ∉ symbol.name.toList
  sigil : symbol.scope = .builtin →
    ∀ char, symbol.name.toList.getLast? = some char → char ∉ sigils

section

variable {symbol : Symbol}

/-- The written form ends with the name, or with the `!` of a path when the name is empty. -/
theorem getLast?_body (symbol : Symbol) :
    symbol.body.getLast? =
      symbol.name.toList.getLast?.or (if symbol.path = "" then none else some '!') := by
  unfold body
  split
  · rw [Option.or_none]
  · rw [List.getLast?_append_cons, List.getLast?_cons]
    cases symbol.name.toList.getLast? <;> rfl

private theorem splitSigil_display (sigil : symbol.scope = .builtin →
      ∀ char, symbol.name.toList.getLast? = some char → char ∉ sigils) :
    splitSigil symbol.display.toList = (symbol.scope, symbol.body) := by
  rw [toList_display]
  apply splitSigil_written
  intro builtin char ends
  rw [getLast?_body] at ends
  rcases Option.or_eq_some_iff.mp ends with ofName | ⟨_, ofPath⟩
  · exact sigil builtin char ofName
  · split at ofPath
    · cases ofPath
    · cases ofPath
      decide

theorem ofText_display (restorable : symbol.Restorable) : ofText symbol.display = symbol := by
  have bang : splitPath symbol.body = (symbol.path.toList, symbol.name.toList) := by
    unfold body
    split
    · next empty =>
        rw [empty]
        exact splitPath_eq_self_iff.mpr (restorable.name empty)
    · next qualified => exact splitPath_qualified (restorable.path qualified) _
  rw [ofText_of_split (splitSigil_display restorable.sigil) bang, String.ofList_toList,
    String.ofList_toList]

private theorem restorable_of_ofText_display (restored : ofText symbol.display = symbol) :
    symbol.Restorable := by
  have path := bang_not_mem_path symbol.display
  rw [restored] at path
  have sigil : symbol.scope = .builtin →
      ∀ char, symbol.name.toList.getLast? = some char → char ∉ sigils := by
    intro builtin char ends
    have read : (splitSigil symbol.display.toList).1 = symbol.scope :=
      congrArg Symbol.scope restored
    rcases splitSigil_cases symbol.display.toList with
      ⟨_, _, scope, _, proper, _, split⟩ | ⟨plain, _⟩
    · rw [split, builtin] at read
      exact absurd read proper
    · apply plain
      rw [toList_display, builtin, Scope.sigil?_eq_none_iff.mpr rfl, Option.toList_none,
        List.append_nil, getLast?_body, ends, Option.some_or]
  refine ⟨fun _ => path, ?_, sigil⟩
  intro empty
  have whole : symbol.body = symbol.name.toList := if_pos empty
  have split := splitSigil_display sigil
  rw [whole] at split
  obtain ⟨front, rest, bang⟩ : ∃ front rest, splitPath symbol.name.toList = (front, rest) :=
    ⟨_, _, rfl⟩
  have read := (ofText_of_split split bang).symm.trans restored
  have frontEmpty : front = [] := by simpa [empty] using congrArg (·.path.toList) read
  have restName : rest = symbol.name.toList := by simpa using congrArg (·.name.toList) read
  rw [← splitPath_eq_self_iff, bang, frontEmpty, restName]

end

/-- A symbol is read back from its written form, with the scope, path and name it has, exactly if
its path, when there is one, holds no `!`, its name holds none when there is no path, and its name
ends in no sigil when it has no scope of its own. -/
theorem ofText_display_eq_iff (symbol : Symbol) :
    ofText symbol.display = symbol ↔
      (symbol.path ≠ "" → '!' ∉ symbol.path.toList) ∧
      (symbol.path = "" → '!' ∉ symbol.name.toList) ∧
      (symbol.scope = .builtin →
        ∀ char, symbol.name.toList.getLast? = some char →
          char ∉ ['@', '$', '#', '%', '£', '\u03bc', '\u00b5']) := by
  constructor
  · intro restored
    have restorable := restorable_of_ofText_display restored
    exact ⟨restorable.path, restorable.name, restorable.sigil⟩
  · rintro ⟨path, name, sigil⟩
    exact ofText_display ⟨path, name, sigil⟩

/-! ## Names read from texts -/

section

variable {text : String}

theorem sigil_of_ofText (builtin : (ofText text).scope = .builtin) :
    ∀ char, (ofText text).name.toList.getLast? = some char → char ∉ sigils := by
  obtain ⟨scope, body, tail, _, _, plain, ⟨_, read⟩ | ⟨path, name, _, parts, read⟩⟩ :=
    ofText_cases text
  · rw [read] at builtin ⊢
    rw [String.toList_ofList]
    exact (plain builtin).2
  · rw [read] at builtin ⊢
    rw [String.toList_ofList]
    intro char ends
    apply (plain builtin).2
    rw [parts, List.getLast?_append_cons, List.getLast?_cons, ends]
    rfl

/-- Behind an empty path a name holds a `!` exactly if the text begins with one and has another. -/
theorem second_bang_iff :
    ((ofText text).path = "" ∧ '!' ∈ (ofText text).name.toList) ↔
      text.toList.head? = some '!' ∧ 2 ≤ text.toList.count '!' := by
  obtain ⟨scope, body, tail, whole, free, _, ⟨absent, read⟩ | ⟨path, name, absent, parts, read⟩⟩ :=
    ofText_cases text
  · rw [read, String.toList_ofList, whole, List.count_append, List.count_eq_zero.mpr absent,
      List.count_eq_zero.mpr free]
    simp [absent]
  · rw [read, String.toList_ofList, whole, parts, List.count_append, List.count_append,
      List.count_cons_self, List.count_eq_zero.mpr absent, List.count_eq_zero.mpr free]
    have empty : String.ofList path = "" ↔ path = [] := by simp
    rw [empty]
    cases path with
    | nil =>
        rw [← List.count_pos_iff]
        simp
    | cons first path =>
        have other : first ≠ '!' := by
          rintro rfl
          exact absent List.mem_cons_self
        simp [other]

end

/-- A `!` in a name without a path is read back as the end of a path. What stands in front of it is
lost from the name, and no folding makes up for that. -/
theorem not_equivalent_of_bang {symbol : Symbol}
    (sigil : symbol.scope = .builtin →
      ∀ char, symbol.name.toList.getLast? = some char → char ∉ sigils)
    (empty : symbol.path = "") (bang : '!' ∈ symbol.name.toList) :
    (ofText symbol.display).equivalent symbol = false := by
  have split := splitSigil_display sigil
  rw [body, if_pos empty] at split
  rcases splitPath_cases symbol.name.toList with ⟨absent, _⟩ | ⟨path, name, _, parts, around⟩
  · exact absurd bang absent
  · have shorter : Text.foldCase (String.ofList name) ≠ Text.foldCase symbol.name := by
      intro same
      have lengths := congrArg List.length same
      rw [Text.foldCase, Text.foldCase, parts, String.toList_ofList, List.flatMap_append,
        List.flatMap_cons, List.length_append, List.length_append, Text.lowercase_bang,
        List.length_singleton] at lengths
      omega
    rw [ofText_of_split split around]
    simp [equivalent, shorter]

/-- A name read from a text is written and read again as the same symbol unless the text begins
with a `!` and has another one. Then it becomes another symbol, also up to letter case. -/
theorem ofText_display_ofText_iff (text : String) :
    ((ofText (ofText text).display).equivalent (ofText text) = true ↔
      ¬ (text.toList.head? = some '!' ∧ 2 ≤ text.toList.count '!')) ∧
    (ofText (ofText text).display = ofText text ↔
      ¬ (text.toList.head? = some '!' ∧ 2 ≤ text.toList.count '!')) := by
  rw [← second_bang_iff]
  by_cases lost : (ofText text).path = "" ∧ '!' ∈ (ofText text).name.toList
  · have other := not_equivalent_of_bang sigil_of_ofText lost.1 lost.2
    constructor
    · simp [other, lost]
    · apply iff_of_false
      · intro same
        rw [same, equivalent_self] at other
        cases other
      · exact not_not_intro lost
  · have restored : ofText (ofText text).display = ofText text :=
      ofText_display ⟨fun _ => bang_not_mem_path text, fun empty bang => lost ⟨empty, bang⟩,
        sigil_of_ofText⟩
    constructor
    · rw [restored, equivalent_self]
      exact iff_of_true rfl lost
    · exact iff_of_true restored lost

/-- The path that is read back was part of the name. -/
theorem ofText_display_loses_bang :
    let symbol := ofText "!a!b"
    symbol.display = "a!b" ∧ symbol.name = "a!b" ∧ (ofText symbol.display).name = "b" ∧
      (ofText symbol.display).equivalent symbol = false := by
  decide +kernel

/-! ## Hash input -/

theorem hashInput_of_equivalent {left right : Symbol} (same : left.equivalent right = true) :
    left.hashInput = right.hashInput := by
  obtain ⟨scope, path, name⟩ := equivalent_iff.mp same
  rw [hashInput, hashInput, scope, path, name]

theorem equivalent_of_hashInput {left right : Symbol} (leftFree : '!' ∉ left.path.toList)
    (rightFree : '!' ∉ right.path.toList) (same : left.hashInput = right.hashInput) :
    left.equivalent right = true := by
  obtain ⟨scope, stream⟩ := Prod.mk.inj same
  obtain ⟨path, name⟩ := append_mark_inj (Text.bang_not_mem_foldCase leftFree)
    (Text.bang_not_mem_foldCase rightFree) stream
  exact equivalent_iff.mpr ⟨scope, path, name⟩

/-- Equivalent symbols have the same hash input. Symbols with the same hash input are equivalent if
their paths hold no `!`, and so are all that are read from texts. -/
theorem hashInput_identifies :
    (∀ left right : Symbol, left.equivalent right = true → left.hashInput = right.hashInput) ∧
    (∀ left right : Symbol, '!' ∉ left.path.toList → '!' ∉ right.path.toList →
      left.hashInput = right.hashInput → left.equivalent right = true) ∧
    ∀ text : String, '!' ∉ (ofText text).path.toList := by
  refine ⟨?_, ?_, bang_not_mem_path⟩
  · intro left right same
    exact hashInput_of_equivalent same
  · intro left right leftFree rightFree same
    exact equivalent_of_hashInput leftFree rightFree same

/-- A name that was read and one that was built, with a `!` in both names and with a capital whose
lower case is two characters. -/
theorem hashInput_identifies_capitals :
    let left := ofText "\u00c9T\u0130!a!B%"
    let right : Symbol := ⟨.context, "\u00e9ti\u0307", "A!b"⟩
    ('!' ∉ left.path.toList ∧ '!' ∉ right.path.toList ∧ left.hashInput = right.hashInput) ∧
      left.equivalent right = true := by
  intro left right
  obtain ⟨_, identifies, free⟩ := hashInput_identifies
  have rightFree : '!' ∉ right.path.toList := by decide
  have same : left.hashInput = right.hashInput := by decide +kernel
  exact ⟨⟨free _, rightFree, same⟩, identifies left right (free _) rightFree same⟩

/-- With a `!` in a path the stream does not show where the path ends. -/
example :
    let left : Symbol := ⟨.builtin, "a!b", "c"⟩
    let right : Symbol := ⟨.builtin, "a", "b!c"⟩
    left.hashInput = right.hashInput ∧ left.equivalent right = false := by
  decide +kernel

end Symbol

end FormulaLexer
