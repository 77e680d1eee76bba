/-
# Numbers in little endian

The digits of a number to the base 256, the least significant first, as far as the width of its
type reaches.  A negative number is written in two's complement.
-/
import Mathlib.Data.Int.ModEq
import Mathlib.Data.Nat.Digits.Lemmas

namespace Wire

/-! ## Natural numbers -/

/-- The lowest bytes of a number, the least significant first. -/
def leBytes : ℕ → ℕ → List UInt8
  | 0, _ => []
  | width + 1, n => UInt8.ofNat n :: leBytes width (n / 256)

@[simp] lemma length_leBytes (width n : ℕ) : (leBytes width n).length = width := by
  induction width generalizing n with
  | zero => rfl
  | succ width ih => rw [leBytes, List.length_cons, ih]

/-- The bytes are the digits of the number, as far as they reach. -/
lemma ofDigits_leBytes (width n : ℕ) :
    Nat.ofDigits 256 ((leBytes width n).map UInt8.toNat) = n % 256 ^ width := by
  induction width generalizing n with
  | zero => simp [leBytes, Nat.mod_one]
  | succ width ih =>
    have hbyte : (UInt8.ofNat n).toNat = n % 256 := UInt8.toNat_ofNat'
    rw [leBytes, List.map_cons, Nat.ofDigits_cons, ih, hbyte, Nat.pow_succ', Nat.mod_mul]

/-- Numbers have the same bytes exactly if they are the same, as far as the width reaches. -/
lemma leBytes_inj {width m n : ℕ} :
    leBytes width m = leBytes width n ↔ m % 256 ^ width = n % 256 ^ width := by
  constructor
  · intro h
    rw [← ofDigits_leBytes, h, ofDigits_leBytes]
  · intro h
    induction width generalizing m n with
    | zero => rfl
    | succ width ih =>
      rw [Nat.pow_succ', Nat.mod_mul, Nat.mod_mul] at h
      have hlow : m % 256 = n % 256 := by omega
      have hhigh : m / 256 % 256 ^ width = n / 256 % 256 ^ width := by omega
      have hbyte : UInt8.ofNat m = UInt8.ofNat n := by
        rw [← UInt8.toNat_inj, UInt8.toNat_ofNat', UInt8.toNat_ofNat']
        exact hlow
      rw [leBytes, leBytes, hbyte, ih hhigh]

/-- The low bytes come first, and the high ones behind them. -/
lemma leBytes_add (low high n : ℕ) :
    leBytes (low + high) n = leBytes low n ++ leBytes high (n / 256 ^ low) := by
  induction low generalizing n with
  | zero => simp [leBytes]
  | succ low ih =>
    rw [Nat.succ_add, leBytes, ih, Nat.div_div_eq_div_mul, ← Nat.pow_succ']
    rfl

/-! ## Integers -/

/-- The lowest bytes of a number in two's complement. -/
def leIntBytes (width : ℕ) (z : ℤ) : List UInt8 := leBytes width (z % 256 ^ width).toNat

@[simp] lemma length_leIntBytes (width : ℕ) (z : ℤ) : (leIntBytes width z).length = width :=
  length_leBytes _ _

lemma leIntBytes_natCast (width n : ℕ) : leIntBytes width n = leBytes width n := by
  have hnat : ((n : ℤ) % 256 ^ width).toNat = n % 256 ^ width := by
    rw [show ((256 : ℤ) ^ width) = ((256 ^ width : ℕ) : ℤ) by simp, ← Int.natCast_mod,
      Int.toNat_natCast]
  rw [leIntBytes, hnat, leBytes_inj, Nat.mod_mod]

/-- Integers have the same bytes exactly if they are the same, as far as the width reaches. -/
lemma leIntBytes_inj {width : ℕ} {y z : ℤ} :
    leIntBytes width y = leIntBytes width z ↔ y ≡ z [ZMOD 256 ^ width] := by
  have hpos : (0 : ℤ) < 256 ^ width := by positivity
  have hnat : ∀ x : ℤ, ((x % 256 ^ width).toNat : ℤ) = x % 256 ^ width := fun x =>
    Int.toNat_of_nonneg (Int.emod_nonneg _ hpos.ne')
  have hlt : ∀ x : ℤ, (x % 256 ^ width).toNat < 256 ^ width := by
    intro x
    have hx := Int.emod_lt_of_pos x hpos
    rw [← hnat x] at hx
    exact_mod_cast hx
  rw [leIntBytes, leIntBytes, leBytes_inj, Nat.mod_eq_of_lt (hlt y), Nat.mod_eq_of_lt (hlt z),
    Int.ModEq, ← Int.natCast_inj, hnat, hnat]

/-- The low bytes come first, and the high ones behind them. -/
lemma leIntBytes_add (low high : ℕ) (z : ℤ) :
    leIntBytes (low + high) z = leIntBytes low z ++ leIntBytes high (z / 256 ^ low) := by
  have hlow : (0 : ℤ) < 256 ^ low := by positivity
  have hwhole : (0 : ℤ) < 256 ^ (low + high) := by positivity
  obtain ⟨n, hn⟩ := Int.eq_ofNat_of_zero_le (Int.emod_nonneg z hwhole.ne')
  have hz : z ≡ n [ZMOD 256 ^ (low + high)] := by
    rw [← hn]
    exact (Int.mod_modEq _ _).symm
  have hlowz : z ≡ n [ZMOD 256 ^ low] := hz.of_dvd (pow_dvd_pow 256 (Nat.le_add_right low high))
  have hhighz : z / 256 ^ low ≡ ((n / 256 ^ low : ℕ) : ℤ) [ZMOD 256 ^ high] := by
    obtain ⟨k, hk⟩ := hz.symm.dvd
    have hsplit : z = n + 256 ^ low * (256 ^ high * k) := by
      rw [← mul_assoc, ← pow_add]
      omega
    rw [hsplit, Int.add_mul_ediv_left _ _ hlow.ne', Int.natCast_div, Nat.cast_pow, Nat.cast_ofNat]
    exact Int.modEq_iff_dvd.2 ⟨-k, by ring⟩
  rw [leIntBytes_inj.2 hz, leIntBytes_inj.2 hlowz, leIntBytes_inj.2 hhighz, leIntBytes_natCast,
    leIntBytes_natCast, leIntBytes_natCast, leBytes_add]

end Wire
