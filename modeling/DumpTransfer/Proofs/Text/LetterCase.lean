import DumpTransfer.Text.Alphabet

/-! Letters in either case. Patterns and the first look at a line compare letters in different
ways, by small letters and by capitals; both see the same letter.
-/

namespace DumpTransfer.Alphabet

theorem toNat_toLower (char : Char)
    : char.toLower.toNat
      = if 65 ≤ char.toNat ∧ char.toNat ≤ 90 then char.toNat + 32 else char.toNat := by
  have shift : 'a'.val - 'A'.val = 32 := rfl
  have first : 'A'.val.toNat = 65 := rfl
  have last : 'Z'.val.toNat = 90 := rfl
  unfold Char.toLower
  simp only [shift, ge_iff_le, UInt32.le_iff_toNat_le, first, last]
  change _ = if 65 ≤ char.val.toNat ∧ char.val.toNat ≤ 90 then char.val.toNat + 32 else _
  split
  · rename_i capital
    change (char.val + 32).toNat = _
    rw [UInt32.toNat_add]
    exact Nat.mod_eq_of_lt (by change char.val.toNat + 32 < 4294967296; omega)
  · rfl

theorem toNat_toUpper (char : Char)
    : char.toUpper.toNat
      = if 97 ≤ char.toNat ∧ char.toNat ≤ 122 then char.toNat - 32 else char.toNat := by
  have shift : 'A'.val - 'a'.val = 4294967264 := rfl
  have first : 'a'.val.toNat = 97 := rfl
  have last : 'z'.val.toNat = 122 := rfl
  unfold Char.toUpper
  simp only [shift, UInt32.le_iff_toNat_le, first, last]
  change _ = if 97 ≤ char.val.toNat ∧ char.val.toNat ≤ 122 then char.val.toNat - 32 else _
  split
  · rename_i small
    change (char.val + 4294967264).toNat = _
    rw [UInt32.toNat_add]
    change (char.val.toNat + 4294967264) % 4294967296 = _
    omega
  · rfl

/-- The capital of a letter is that of its small letter. -/
theorem toUpper_toLower (char : Char)
    : char.toLower.toUpper = char.toUpper := by
  rw [← Char.toNat_inj, toNat_toUpper, toNat_toUpper, toNat_toLower]
  split <;> split <;> (try split) <;> omega

theorem isUpper_iff (char : Char)
    : char.isUpper = true ↔ 65 ≤ char.toNat ∧ char.toNat ≤ 90 := by
  unfold Char.isUpper
  simp only [ge_iff_le, decide_eq_true_eq, UInt32.le_iff_toNat_le]
  rfl

theorem isLower_iff (char : Char)
    : char.isLower = true ↔ 97 ≤ char.toNat ∧ char.toNat ≤ 122 := by
  unfold Char.isLower
  simp only [ge_iff_le, Bool.and_eq_true, decide_eq_true_eq, UInt32.le_iff_toNat_le]
  rfl

theorem isAlpha_iff (char : Char)
    : char.isAlpha = true
      ↔ (65 ≤ char.toNat ∧ char.toNat ≤ 90) ∨ (97 ≤ char.toNat ∧ char.toNat ≤ 122) := by
  unfold Char.isAlpha
  rw [Bool.or_eq_true, isUpper_iff, isLower_iff]

/-- What has a capital for a letter is a letter. -/
theorem isAlpha_of_toUpper {char : Char} (capital : char.toUpper.isUpper = true)
    : char.isAlpha = true := by
  rw [isUpper_iff, toNat_toUpper] at capital
  rw [isAlpha_iff]
  split at capital <;> omega

/-- The small letter of a letter is the one its capital has. -/
theorem foldCase_of_toUpper {char : Char} (capital : char.toUpper.isUpper = true)
    : foldCase char = char.toUpper.toLower := by
  have small : char.toNat < 128 := by
    rw [isUpper_iff, toNat_toUpper] at capital
    split at capital <;> omega
  rw [foldCase, if_neg (by omega), if_neg (by omega), ← Char.toNat_inj, toNat_toLower,
    toNat_toLower, toNat_toUpper]
  rw [isUpper_iff, toNat_toUpper] at capital
  split at capital <;> rename_i range
  · rw [if_pos range, if_neg (by omega), if_pos (by omega)]
    omega
  · rw [if_neg range]

/-- A letter that ASCII alone has a small form of is the same letter by its capital. -/
theorem toUpper_of_foldCase {char small : Char} (same : foldCase char = small)
    (notS : small ≠ 's') (notK : small ≠ 'k')
    : char.toUpper = small.toUpper := by
  unfold foldCase at same
  split at same
  · exact absurd same.symm notS
  · split at same
    · exact absurd same.symm notK
    · rw [← same, toUpper_toLower]

/-- What has a capital other than itself is a letter. -/
theorem toUpper_eq_or_isAlpha (char : Char)
    : char.toUpper = char ∨ char.isAlpha = true := by
  by_cases small : 97 ≤ char.toNat ∧ char.toNat ≤ 122
  · exact Or.inr ((isAlpha_iff char).mpr (Or.inr small))
  · refine Or.inl ?_
    rw [← Char.toNat_inj, toNat_toUpper, if_neg small]

/-- The low line is the capital of no letter. -/
theorem toUpper_ne_line {char : Char} (letter : char.isAlpha = true)
    : char.toUpper ≠ '_' := by
  intro line
  rw [← Char.toNat_inj, toNat_toUpper] at line
  rw [isAlpha_iff] at letter
  change _ = 95 at line
  split at line <;> omega

theorem isBlank_of_isAlpha {char : Char} (letter : char.isAlpha = true)
    : isBlank char = false := by
  rw [isAlpha_iff] at letter
  unfold isBlank
  simp only [Bool.or_eq_false_iff, Bool.and_eq_false_iff, decide_eq_false_iff_not]
  omega

theorem isBlank_of_toUpper {char : Char} (notBlank : isBlank char.toUpper = false)
    : isBlank char = false := by
  rcases toUpper_eq_or_isAlpha char with same | letter
  · rwa [same] at notBlank
  · exact isBlank_of_isAlpha letter

/-- The code points of white space. -/
def blankCodes : List Nat := [
  9, 10, 11, 12, 13, 0x20, 0x85, 0xA0, 0x1680, 0x2000, 0x2001, 0x2002, 0x2003, 0x2004, 0x2005,
  0x2006, 0x2007, 0x2008, 0x2009, 0x200A, 0x2028, 0x2029, 0x202F, 0x205F, 0x3000]

/-- What holds of each character of white space holds of all white space. -/
theorem holds_of_isBlank (holds : Char → Bool)
    (all : blankCodes.all (fun code => holds (Char.ofNat code)) = true) {char : Char}
    (blank : isBlank char = true)
    : holds char = true := by
  have member : char.toNat ∈ blankCodes := by
    simp only [isBlank, Bool.or_eq_true, Bool.and_eq_true, decide_eq_true_eq] at blank
    simp only [blankCodes, List.mem_cons, List.not_mem_nil, or_false]
    omega
  have found := List.all_eq_true.mp all char.toNat member
  rwa [Char.ofNat_toNat] at found

theorem toNat_of_isAlpha {char : Char} (letter : char.isAlpha = true)
    : char.toNat < 128 := by
  rw [isAlpha_iff] at letter
  omega

/-- The capitals of an ASCII letter are one. -/
theorem capitals_of_isAlpha {char : Char} (letter : char.isAlpha = true)
    : capitals char = [char.toUpper] := by
  have code := toNat_of_isAlpha letter
  unfold capitals
  split <;> first
    | omega
    | rfl

theorem isWord_of_isAlpha {char : Char} (letter : char.isAlpha = true)
    : isWord char = true := by
  simp [isWord, toNat_of_isAlpha letter, Char.isAlphanum, letter]

/-- A character that is taken for a letter is part of a word, be it a letter of ASCII or not. -/
theorem isWord_of_foldCase {char : Char} (letter : (foldCase char).isAlpha = true)
    : isWord char = true := by
  rw [foldCase] at letter
  split at letter
  · rename_i long
    obtain rfl : char = '\u017f' := Char.toNat_inj.mp long
    decide +kernel
  · split at letter
    · rename_i kelvin
      obtain rfl : char = '\u212a' := Char.toNat_inj.mp kelvin
      decide +kernel
    · refine isWord_of_isAlpha ?_
      rw [isAlpha_iff, toNat_toLower] at letter
      rw [isAlpha_iff]
      split at letter <;> omega

theorem foldCase_eq_line {char : Char} (same : foldCase char = '_')
    : char = '_' := by
  rw [foldCase] at same
  split at same
  · cases same
  · split at same
    · cases same
    · rw [← Char.toNat_inj, toNat_toLower] at same
      rw [← Char.toNat_inj]
      change _ = 95 at same
      change _ = 95
      split at same <;> omega

end DumpTransfer.Alphabet
