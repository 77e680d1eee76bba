/-
# Reading decimal numbers

`atoi` reads the digits that a text begins with, behind blanks and a sign.
-/
import Sf4e.Update.DownloadUrl
import Sf4e.Wire.Decimal

namespace Sf4e
namespace Update

open Wire

/-- A digit is no blank, no sign, no colon and no terminator. -/
lemma ne_of_isDigit {b : UInt8} (h : isDigit b = true) :
    isspace b = false ∧ b ≠ 45 ∧ b ≠ 43 ∧ b ≠ colon ∧ b ≠ 0 := by
  obtain ⟨hlow, hhigh⟩ := isDigit_iff.1 h
  have hne : ∀ c : UInt8, c.toNat < 48 ∨ 57 < c.toNat → b ≠ c := by
    rintro c hc rfl
    omega
  refine ⟨?_, hne 45 (by decide), hne 43 (by decide), hne colon (by decide), hne 0 (by decide)⟩
  rw [isspace, Bool.or_eq_false_iff, beq_eq_false_iff_ne, Bool.and_eq_false_iff]
  refine ⟨hne 32 (by decide), .inr ?_⟩
  rw [decide_eq_false_iff_not, UInt8.le_iff_toNat_le]
  show ¬ b.toNat ≤ 13
  omega

/-- Digits before something else are read as the number that they are, if that is an `int`. -/
lemma atoi_append {s rest : Text} (hne : s ≠ []) (h : s.all isDigit = true)
    (hrest : ∀ b ∈ rest.head?, isDigit b = false) :
    atoi (s ++ rest) = min 2147483647 (Inet.decimal s : ℤ) := by
  have hfold : ∀ (l : Text) (n : ℕ),
      l.foldl (fun (v : ℤ) b => v * 10 + (b.toNat - 48 : ℕ)) n =
        (l.foldl (fun n b => 10 * n + (b.toNat - 48)) n : ℕ) := by
    intro l
    induction l with
    | nil =>
      intro n
      rfl
    | cons b l ih =>
      intro n
      rw [List.foldl_cons, List.foldl_cons, ← ih]
      congr 1
      omega
  cases s with
  | nil => exact absurd rfl hne
  | cons c s =>
    obtain ⟨hspace, hminus, hplus, -⟩ := ne_of_isDigit (List.all_eq_true.1 h c List.mem_cons_self)
    have hdrop : (c :: s ++ rest).dropWhile isspace = c :: s ++ rest :=
      List.dropWhile_cons_of_neg (by rw [hspace]; exact Bool.false_ne_true)
    have hhead : ∀ b : UInt8, c ≠ b → ((c :: s ++ rest).head? == some b) = false := by
      intro b hb
      rw [beq_eq_false_iff_ne]
      exact fun heq => hb (Option.some.inj heq)
    have htake : (c :: s ++ rest).takeWhile (fun b => 48 ≤ b && b ≤ 57) = c :: s := by
      show (c :: s ++ rest).takeWhile isDigit = c :: s
      rw [List.takeWhile_append_of_pos (List.all_eq_true.1 h)]
      cases rest with
      | nil => exact List.append_nil _
      | cons d rest =>
        have hd := hrest d rfl
        rw [List.takeWhile_cons_of_neg (by rw [hd]; exact Bool.false_ne_true), List.append_nil]
    have hvalue := hfold (c :: s) 0
    simp only [atoi, hdrop, hhead 45 hminus, hhead 43 hplus, Bool.or_self, Bool.false_eq_true,
      if_false, htake]
    rw [show (0 : ℤ) = ((0 : ℕ) : ℤ) from rfl, hvalue, Inet.decimal]
    refine max_eq_right ?_
    have hnonneg : (0 : ℤ) ≤ ((c :: s).foldl (fun n b => 10 * n + (b.toNat - 48)) 0 : ℕ) :=
      Int.natCast_nonneg _
    omega

lemma atoi_nil : atoi [] = 0 := by decide

lemma atoi_of_digits {s : Text} (h : s.all isDigit = true) :
    atoi s = min 2147483647 (Inet.decimal s : ℤ) := by
  by_cases hne : s = []
  · rw [hne, atoi_nil]
    rfl
  · have happend : atoi (s ++ []) = min 2147483647 (Inet.decimal s : ℤ) :=
      atoi_append hne h fun b hb => absurd hb (by simp)
    rwa [List.append_nil] at happend

lemma all_isDigit_decimalText (n : ℕ) : (decimalText n).all isDigit = true :=
  List.all_eq_true.2 fun _ hb => isDigit_of_mem_decimalText hb

/-- A number up to 65535 before something else is read back. -/
lemma atoi_decimalText_append {n : ℕ} (hn : n < 65536) {rest : Text}
    (hrest : ∀ b ∈ rest.head?, isDigit b = false) : atoi (decimalText n ++ rest) = n := by
  rw [atoi_append (decimalText_ne_nil n) (all_isDigit_decimalText n) hrest, decimal_decimalText]
  omega

end Update
end Sf4e
