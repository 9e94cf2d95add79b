import DumpTransfer.Text.Basic
import Mathlib.Algebra.Group.Nat.Defs
import Mathlib.Data.Nat.Basic

/-! Texts cut to a number of bytes, and numbers in decimal notation, in which every digit takes
one byte.
-/

namespace DumpTransfer.Text

-----------------------------------------------------------------------------------------
-- Cutting
-----------------------------------------------------------------------------------------

@[simp] theorem byteLength_nil
    : byteLength [] = 0 :=
  rfl

@[simp] theorem byteLength_cons (char : Char) (rest : Text)
    : byteLength (char :: rest) = char.utf8Size + byteLength rest :=
  rfl

@[simp] theorem byteLength_append (first second : Text)
    : byteLength (first ++ second) = byteLength first + byteLength second := by
  induction first with
  | nil => exact (Nat.zero_add _).symm
  | cons char rest ih => rw [List.cons_append, byteLength_cons, byteLength_cons, ih, Nat.add_assoc]

theorem takeBytes_cons (limit : Nat) (char : Char) (rest : Text)
    : takeBytes limit (char :: rest)
      = if char.utf8Size ≤ limit then char :: takeBytes (limit - char.utf8Size) rest else [] :=
  rfl

/-- A text that fits is cut after its end. -/
theorem takeBytes_append {first : Text} {limit : Nat} (fits : byteLength first ≤ limit)
    (second : Text)
    : takeBytes limit (first ++ second)
      = first ++ takeBytes (limit - byteLength first) second := by
  induction first generalizing limit with
  | nil => rfl
  | cons char rest ih =>
      rw [byteLength_cons] at fits ⊢
      rw [List.cons_append, takeBytes_cons, if_pos (by omega), ih (by omega), List.cons_append,
        Nat.sub_sub]

/-- A text that does not fit is cut before its end, so nothing after it is left. -/
theorem takeBytes_append_of_lt {first : Text} {limit : Nat} (long : limit < byteLength first)
    (second : Text)
    : takeBytes limit (first ++ second) = takeBytes limit first := by
  induction first generalizing limit with
  | nil => exact absurd long (Nat.not_lt_zero limit)
  | cons char rest ih =>
      rw [byteLength_cons] at long
      rw [List.cons_append, takeBytes_cons, takeBytes_cons]
      split
      · rw [ih (by omega)]
      · rfl

theorem takeBytes_of_fits {text : Text} {limit : Nat} (fits : byteLength text ≤ limit)
    : takeBytes limit text = text := by
  rw [← List.append_nil text, takeBytes_append fits]
  rfl

/-- Cutting a text in which every character takes one byte. -/
theorem takeBytes_of_single {text : Text} (single : ∀ char ∈ text, char.utf8Size = 1)
    (limit : Nat)
    : takeBytes limit text = text.take limit := by
  induction text generalizing limit with
  | nil => cases limit <;> rfl
  | cons char rest ih =>
      have size := single char (by simp)
      rw [takeBytes_cons, size]
      cases limit with
      | zero => rfl
      | succ limit =>
          rw [if_pos (by omega), List.take_succ_cons, Nat.add_sub_cancel,
            ih fun other member => single other (by simp [member])]

theorem byteLength_of_single {text : Text} (single : ∀ char ∈ text, char.utf8Size = 1)
    : byteLength text = text.length := by
  induction text with
  | nil => rfl
  | cons char rest ih =>
      rw [byteLength_cons, single char (by simp), List.length_cons, Nat.add_comm,
        ih fun other member => single other (by simp [member])]

-----------------------------------------------------------------------------------------
-- Numbers
-----------------------------------------------------------------------------------------

theorem ofNat_injective
    : Function.Injective ofNat := by
  intro left right same
  have read := congrArg (Nat.ofDigitChars 10 · 0) same
  simpa [ofNat, Nat.ofDigitChars_toDigits] using read

theorem single_ofNat (number : Nat)
    : ∀ char ∈ ofNat number, char.utf8Size = 1 := by
  intro char member
  have isDigit : char.isDigit = true := Nat.isDigit_of_mem_toDigits (by omega) (by omega) member
  have small : char.toNat ≤ 57 := by
    simp only [Char.isDigit, Bool.and_eq_true, decide_eq_true_eq] at isDigit
    exact UInt32.le_iff_toNat_le.mp isDigit.2
  exact Char.utf8Size_eq_one_iff.mpr (UInt32.le_iff_toNat_le.mpr (le_trans small (by decide)))

theorem byteLength_ofNat (number : Nat)
    : byteLength (ofNat number) = (ofNat number).length :=
  byteLength_of_single (single_ofNat number)

theorem length_ofNat_le_iff {number digits : Nat} (isThere : 0 < digits)
    : (ofNat number).length ≤ digits ↔ number < 10 ^ digits :=
  Nat.length_toDigits_le_iff (by omega) isThere

theorem length_ofNat_mono {left right : Nat} (less : left ≤ right)
    : (ofNat left).length ≤ (ofNat right).length := by
  have isThere : 0 < (ofNat right).length := Nat.length_toDigits_pos
  exact (length_ofNat_le_iff isThere).mpr
    (lt_of_le_of_lt less ((length_ofNat_le_iff isThere).mp (le_refl _)))

/-- A power of ten is the one before it with a zero behind. -/
theorem ofNat_power (exponent : Nat)
    : ofNat (10 ^ (exponent + 1)) = ofNat (10 ^ exponent) ++ ['0'] := by
  have joined := Nat.toDigits_append_toDigits (b := 10) (n := 10 ^ exponent) (d := 0) (by omega)
    (Nat.pow_pos (by omega)) (by omega)
  rw [ofNat, ofNat, Nat.pow_succ, Nat.mul_comm, ← Nat.add_zero (10 * 10 ^ exponent), ← joined]
  rfl

theorem length_ofNat_power (exponent : Nat)
    : (ofNat (10 ^ exponent)).length = exponent + 1 := by
  induction exponent with
  | zero => rfl
  | succ exponent ih => rw [ofNat_power, List.length_append, ih, List.length_singleton]

end DumpTransfer.Text
