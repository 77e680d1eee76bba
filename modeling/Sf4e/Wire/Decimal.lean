/-
# Decimal numbers

A number written in decimal, as `%u` of `printf` and `JSON.stringify` write it.
-/
import Mathlib.Algebra.Group.Nat.Defs
import Sf4e.Wire.Inet

namespace Wire

/-- The byte is a decimal digit. -/
def isDigit (b : UInt8) : Bool := 48 ≤ b && b ≤ 57

/-- The byte of an ASCII character. -/
def charByte (c : Char) : UInt8 := c.toNat.toUInt8

/-- A number in decimal, without leading zeros. -/
def decimalText (n : ℕ) : Text := (Nat.toDigits 10 n).map charByte

lemma toNat_le_of_isDigit {c : Char} (h : c.isDigit = true) : 48 ≤ c.toNat ∧ c.toNat ≤ 57 := by
  simp only [Char.isDigit, ge_iff_le, Bool.and_eq_true, decide_eq_true_eq] at h
  exact ⟨UInt32.le_iff_toNat_le.1 h.1, UInt32.le_iff_toNat_le.1 h.2⟩

lemma toNat_charByte {c : Char} (h : c.isDigit = true) : (charByte c).toNat = c.toNat := by
  have hle := (toNat_le_of_isDigit h).2
  exact Nat.mod_eq_of_lt (by omega)

lemma isDigit_iff {b : UInt8} : isDigit b = true ↔ 48 ≤ b.toNat ∧ b.toNat ≤ 57 := by
  rw [isDigit, Bool.and_eq_true, decide_eq_true_eq, decide_eq_true_eq, UInt8.le_iff_toNat_le,
    UInt8.le_iff_toNat_le]
  rfl

lemma isDigit_of_mem_decimalText {n : ℕ} {b : UInt8} (h : b ∈ decimalText n) :
    isDigit b = true := by
  obtain ⟨c, hc, rfl⟩ := List.mem_map.1 h
  have hdigit := Nat.isDigit_of_mem_toDigits (by decide) (by decide) hc
  rw [isDigit_iff, toNat_charByte hdigit]
  exact toNat_le_of_isDigit hdigit

lemma decimalText_ne_nil (n : ℕ) : decimalText n ≠ [] := by
  intro h
  exact Nat.toDigits_ne_nil (List.map_eq_nil_iff.1 h)

/-- What is written is read back. -/
lemma decimal_decimalText (n : ℕ) : Inet.decimal (decimalText n) = n := by
  have hfold : ∀ (l : List Char) (init : ℕ), (∀ c ∈ l, c.isDigit = true) →
      (l.map charByte).foldl (fun n b => 10 * n + (b.toNat - 48)) init =
        Nat.ofDigitChars 10 l init := by
    intro l
    induction l with
    | nil =>
      intro init _
      exact Nat.ofDigitChars_nil.symm
    | cons c l ih =>
      intro init h
      rw [List.map_cons, List.foldl_cons, toNat_charByte (h c List.mem_cons_self),
        Nat.ofDigitChars_cons]
      exact ih _ fun c hc => h c (List.mem_cons_of_mem _ hc)
  have hdigits : ∀ c ∈ Nat.toDigits 10 n, c.isDigit = true :=
    fun c hc => Nat.isDigit_of_mem_toDigits (by decide) (by decide) hc
  rw [Inet.decimal, decimalText, hfold _ 0 hdigits]
  exact Nat.ofDigitChars_ten_toDigits

/-- How long a number is. -/
lemma length_decimalText_le_iff {n k : ℕ} (h : 0 < k) :
    (decimalText n).length ≤ k ↔ n < 10 ^ k := by
  rw [decimalText, List.length_map]
  exact Nat.length_toDigits_le_iff (by decide) h

end Wire
