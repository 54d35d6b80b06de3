/-!
# ASCII letter case

Keywords and operators are compared without regard to the case of the letters `a`
to `z`. Every other character, letters outside ASCII included, stands for itself.
-/

set_option autoImplicit false

namespace FormulaLexer.Text

/-- The characters of a text with the letters `A` to `Z` in lower case. -/
def asciiFold (text : String) : List Char :=
  text.toList.map Char.toLower

/-- Two texts are equal up to the case of ASCII letters. -/
def equalIgnoringAsciiCase (left right : String) : Bool :=
  asciiFold left == asciiFold right

/-- Characters of a single byte. -/
def isAscii (char : Char) : Bool := char.toNat < 128

theorem equalIgnoringAsciiCase_iff {left right : String} :
    equalIgnoringAsciiCase left right = true ↔ asciiFold left = asciiFold right :=
  beq_iff_eq

theorem isAlpha_iff_toNat {char : Char} :
    char.isAlpha = true ↔
      65 ≤ char.toNat ∧ char.toNat ≤ 90 ∨ 97 ≤ char.toNat ∧ char.toNat ≤ 122 := by
  have upper : char.isUpper = true ↔ 65 ≤ char.toNat ∧ char.toNat ≤ 90 :=
    decide_eq_true_iff.trans (and_congr UInt32.le_iff_toNat_le UInt32.le_iff_toNat_le)
  have lower : char.isLower = true ↔ 97 ≤ char.toNat ∧ char.toNat ≤ 122 :=
    Bool.and_eq_true_iff.trans
      (and_congr (decide_eq_true_iff.trans UInt32.le_iff_toNat_le)
        (decide_eq_true_iff.trans UInt32.le_iff_toNat_le))
  exact Bool.or_eq_true_iff.trans (or_congr upper lower)

theorem toNat_lt_of_isAlpha {char : Char} (letter : char.isAlpha = true) : char.toNat < 128 := by
  have bounds := isAlpha_iff_toNat.mp letter
  omega

/-- Folding moves the capital letters by 32 and leaves every other character where it is. -/
theorem toNat_toLower (char : Char) :
    char.toLower.toNat =
      if 65 ≤ char.toNat ∧ char.toNat ≤ 90 then char.toNat + 32 else char.toNat := by
  have bounds : 'A'.val ≤ char.val ∧ char.val ≤ 'Z'.val ↔
      65 ≤ char.toNat ∧ char.toNat ≤ 90 :=
    and_congr UInt32.le_iff_toNat_le UInt32.le_iff_toNat_le
  split
  · next capital =>
      have moved : char.toLower.val = char.val + ('a'.val - 'A'.val) :=
        congrArg Char.val (dif_pos (bounds.mpr capital))
      have distance : ('a'.val - 'A'.val).toNat = 32 := rfl
      rw [← Char.toNat_val, moved, UInt32.toNat_add, distance, Char.toNat_val]
      omega
  · next other => exact congrArg Char.toNat (dif_neg (other ∘ bounds.mp))

theorem isAlpha_toLower (char : Char) : char.toLower.isAlpha = char.isAlpha := by
  rw [Bool.eq_iff_iff, isAlpha_iff_toNat, isAlpha_iff_toNat, toNat_toLower]
  split
  · omega
  · exact Iff.rfl

theorem toLower_toLower (char : Char) : char.toLower.toLower = char.toLower := by
  rw [← Char.toNat_inj, toNat_toLower, if_neg]
  rw [toNat_toLower]
  split
  · omega
  · assumption

theorem toLower_of_uncased {char : Char} (uncased : char.isAlpha = false) :
    char.toLower = char := by
  rw [← Char.toNat_inj, toNat_toLower, if_neg]
  intro capital
  rw [isAlpha_iff_toNat.mpr (.inl capital)] at uncased
  cases uncased

theorem isAscii_toLower (char : Char) : isAscii char.toLower = isAscii char := by
  rw [isAscii, isAscii, toNat_toLower, decide_eq_decide]
  split
  · omega
  · exact Iff.rfl

end FormulaLexer.Text
