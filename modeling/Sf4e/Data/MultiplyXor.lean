/-
# Hashes that absorb a stream

A hash absorbs one symbol after another into its state.  When a symbol leads from different
states to different states, and from one state different symbols do (`Absorbing`), streams that
differ in one place are told apart, whatever comes before that place and behind it.

The hashes that xor a byte into their state and multiply by an odd number are of this kind
(`MultiplyXor`): multiplication by an odd number can be undone modulo a power of two.  They tell
apart streams that differ in a few adjacent bytes, too, if the multiplier has small low bits
(`MultiplyXor.foldl_eq_iff`).
-/
import Mathlib.Algebra.Order.Group.Unbundled.Int
import Mathlib.Algebra.Order.Ring.Abs
import Mathlib.Data.Int.ModEq
import Mathlib.Data.List.Induction
import Mathlib.Data.Nat.ModEq
import Mathlib.Data.Nat.Prime.Basic
import Mathlib.Logic.Function.Basic
import Mathlib.Tactic.Linarith

universe u v

/-! ## Absorbing -/

/-- Different states stay different, and different symbols make states different. -/
structure Absorbing {σ : Type u} {α : Type v} (absorb : σ → α → σ) : Prop where
  /-- Different states stay different. -/
  state : ∀ a, Function.Injective fun s => absorb s a
  /-- Different symbols make different states. -/
  symbol : ∀ s, Function.Injective (absorb s)

namespace Absorbing

variable {σ : Type u} {α : Type v} {absorb : σ → α → σ}

/-- Different states stay different over a whole stream. -/
lemma foldl_injective (h : Absorbing absorb) (stream : List α) :
    Function.Injective fun s => stream.foldl absorb s := by
  induction stream with
  | nil => exact fun _ _ heq => heq
  | cons a stream ih => exact fun s s' heq => h.state a (ih heq)

/-- Streams that can differ in one place only have the same hash exactly if they are the same. -/
theorem foldl_eq_iff (h : Absorbing absorb) (start : σ) (before after : List α) (a b : α) :
    (before ++ a :: after).foldl absorb start = (before ++ b :: after).foldl absorb start ↔
      a = b := by
  rw [List.foldl_append, List.foldl_append, List.foldl_cons, List.foldl_cons]
  constructor
  · intro heq
    exact h.symbol _ (h.foldl_injective after heq)
  · rintro rfl
    rfl

/-- What is absorbed by an encoding of the states and of the symbols. -/
lemma of_encoding {τ : Type*} {β : Type*} {absorb' : τ → β → τ} (h : Absorbing absorb')
    {encode : σ → τ} {encodeSymbol : α → β} (hencode : Function.Injective encode)
    (hsymbol : Function.Injective encodeSymbol)
    (hcomm : ∀ s a, encode (absorb s a) = absorb' (encode s) (encodeSymbol a)) :
    Absorbing absorb where
  state a s s' heq := by
    have hsame : absorb' (encode s) (encodeSymbol a) = absorb' (encode s') (encodeSymbol a) := by
      rw [← hcomm, ← hcomm]
      exact congrArg encode heq
    exact hencode (h.state _ hsame)
  symbol s a b heq := by
    have hsame : absorb' (encode s) (encodeSymbol a) = absorb' (encode s) (encodeSymbol b) := by
      rw [← hcomm, ← hcomm, heq]
    exact hsymbol (h.symbol _ hsame)

end Absorbing

/-! ## Multiplying and xoring -/

/-- Multiplication by an odd number can be undone modulo a power of two. -/
lemma BitVec.mul_right_injective_of_odd {w : ℕ} {p : BitVec w} (hp : p.toNat % 2 = 1) :
    Function.Injective fun x : BitVec w => x * p := by
  intro x y h
  have hcoprime : Nat.Coprime (2 ^ w) p.toNat :=
    Nat.Coprime.pow_left w (Nat.coprime_two_left.2 (Nat.odd_iff.2 hp))
  have hmul : x.toNat * p.toNat ≡ y.toNat * p.toNat [MOD 2 ^ w] := by
    have hnat := congrArg BitVec.toNat h
    rwa [BitVec.toNat_mul, BitVec.toNat_mul] at hnat
  have hmod : x.toNat ≡ y.toNat [MOD 2 ^ w] := Nat.ModEq.cancel_right_of_coprime hcoprime hmul
  exact BitVec.eq_of_toNat_eq (Nat.ModEq.eq_of_lt_of_lt hmod x.isLt y.isLt)

/-- A hash that xors a byte into its state and multiplies. -/
structure MultiplyXor (w : ℕ) where
  /-- The number that it multiplies by. -/
  prime : BitVec w
  /-- There is room for a byte. -/
  byte_le : 8 ≤ w
  odd : prime.toNat % 2 = 1

namespace MultiplyXor

variable {w : ℕ} (m : MultiplyXor w)

/-- A byte is absorbed. -/
def absorb (h : BitVec w) (b : UInt8) : BitVec w := (h ^^^ b.toBitVec.setWidth w) * m.prime

/-- A byte is absorbed without loss. -/
theorem absorbing : Absorbing m.absorb where
  state b h h' heq := (BitVec.xor_left_inj _).1 (BitVec.mul_right_injective_of_odd m.odd heq)
  symbol h b b' heq := by
    have hxor := BitVec.mul_right_injective_of_odd m.odd heq
    have hbyte : b.toBitVec.setWidth w = b'.toBitVec.setWidth w := (BitVec.xor_right_inj h).1 hxor
    have hnat := congrArg BitVec.toNat hbyte
    rw [BitVec.toNat_setWidth_of_le m.byte_le, BitVec.toNat_setWidth_of_le m.byte_le] at hnat
    exact UInt8.toBitVec_inj.1 (BitVec.eq_of_toNat_eq hnat)

/-! ## Windows

In the lowest `t` bits the multiplier is a number `c`, which is small but larger than a byte.  After
a few bytes the states of two streams are apart by a multiple of `c` there that does not reach
`2 ^ t` (`apart`).  The next byte can make up for a difference below 256 only, and the only such
multiple is zero.
-/

/-- The multiplier in the lowest bits. -/
structure Drifts (t : ℕ) (c : ℤ) : Prop where
  le : t ≤ w
  prime : (m.prime.toNat : ℤ) ≡ c [ZMOD 2 ^ t]
  /-- It is larger than a byte. -/
  byte_lt : 255 < c

/-- How far the states of two streams can be apart in the lowest bits. -/
def drift (c : ℤ) : ℕ → ℤ
  | 0 => 0
  | n + 1 => c * (drift c n + 510)

lemma drift_nonneg {c : ℤ} (hc : 255 < c) (n : ℕ) : 0 ≤ drift c n := by
  induction n with
  | zero => exact le_rfl
  | succ n ih => exact mul_nonneg (by omega) (by omega)

lemma drift_le {c : ℤ} (hc : 255 < c) {n k : ℕ} (hle : n ≤ k) : drift c n ≤ drift c k := by
  induction hle with
  | refl => exact le_rfl
  | @step k _ ih =>
    have hk := drift_nonneg hc k
    rw [drift]
    nlinarith

variable {m} {t : ℕ} {c : ℤ}

/-- A byte that is xored touches the lowest eight bits. -/
lemma toNat_xor_div (m : MultiplyXor w) (h : BitVec w) (b : UInt8) :
    (h ^^^ b.toBitVec.setWidth w).toNat / 256 = h.toNat / 256 := by
  have hb : b.toBitVec.toNat / 2 ^ 8 = 0 := Nat.div_eq_of_lt b.toBitVec.isLt
  rw [BitVec.toNat_xor, BitVec.toNat_setWidth_of_le m.byte_le]
  show (h.toNat ^^^ b.toBitVec.toNat) / 2 ^ 8 = h.toNat / 2 ^ 8
  rw [Nat.xor_div_two_pow, hb, Nat.xor_zero]

lemma toNat_absorb_modEq (hd : m.Drifts t c) (h : BitVec w) (b : UInt8) :
    ((m.absorb h b).toNat : ℤ) ≡ (h ^^^ b.toBitVec.setWidth w).toNat * c [ZMOD 2 ^ t] := by
  have hdvd : (2 : ℤ) ^ t ∣ 2 ^ w := pow_dvd_pow 2 hd.le
  rw [absorb, BitVec.toNat_mul, Int.natCast_mod, Nat.cast_mul, Nat.cast_pow, Nat.cast_ofNat]
  exact ((Int.mod_modEq _ _).of_dvd hdvd).trans (hd.prime.mul_left _)

/-- The states of two streams are apart by a multiple of the multiplier. -/
lemma apart (hd : m.Drifts t c) (start : BitVec w) (pairs : List (UInt8 × UInt8)) :
    ∃ d : ℤ, (((pairs.map Prod.fst).foldl m.absorb start).toNat : ℤ) -
        ((pairs.map Prod.snd).foldl m.absorb start).toNat ≡ c * d [ZMOD 2 ^ t] ∧
      |c * d| ≤ drift c pairs.length := by
  induction pairs using List.reverseRecOn with
  | nil => exact ⟨0, by simp [drift]⟩
  | append_singleton pairs q ih =>
    obtain ⟨d, hmod, hle⟩ := ih
    simp only [List.map_append, List.map_cons, List.map_nil, List.foldl_append, List.foldl_cons,
      List.foldl_nil, List.length_append, List.length_cons, List.length_nil]
    generalize (pairs.map Prod.fst).foldl m.absorb start = h at hmod ⊢
    generalize (pairs.map Prod.snd).foldl m.absorb start = h' at hmod ⊢
    have hbyte := m.toNat_xor_div h q.1
    have hbyte' := m.toNat_xor_div h' q.2
    generalize hx : (h ^^^ q.1.toBitVec.setWidth w).toNat = x at hbyte
    generalize hx' : (h' ^^^ q.2.toBitVec.setWidth w).toNat = x' at hbyte'
    -- the bytes change the difference by less than 512
    have hclose : |(x : ℤ) - x' - (h.toNat - h'.toNat)| ≤ 510 := by
      rw [abs_le]
      omega
    refine ⟨c * d + (x - x' - (h.toNat - h'.toNat)), ?_, ?_⟩
    · have hstep := (toNat_absorb_modEq hd h q.1).sub (toNat_absorb_modEq hd h' q.2)
      rw [hx, hx', ← sub_mul, mul_comm] at hstep
      refine hstep.trans (Int.ModEq.mul_left c ?_)
      have hdiff := hmod.add_right ((x : ℤ) - x' - (h.toNat - h'.toNat))
      rwa [add_sub_cancel] at hdiff
    · have hsum := (abs_add_le (c * d) _).trans (add_le_add hle hclose)
      have hc : (0 : ℤ) ≤ c := by
        have := hd.byte_lt
        omega
      rw [abs_mul, abs_of_nonneg hc, drift]
      exact mul_le_mul_of_nonneg_left hsum hc

/-- Two streams of few bytes lead to one state only if they are the same. -/
lemma eq_of_foldl_eq (hd : m.Drifts t c) {k : ℕ} (hk : drift c k + 255 < 2 ^ t) (start : BitVec w)
    {pairs : List (UInt8 × UInt8)} (hlength : pairs.length ≤ k + 1)
    (heq : (pairs.map Prod.fst).foldl m.absorb start =
      (pairs.map Prod.snd).foldl m.absorb start) :
    pairs.map Prod.fst = pairs.map Prod.snd := by
  induction pairs using List.reverseRecOn with
  | nil => rfl
  | append_singleton pairs q ih =>
    obtain ⟨d, hmod, hle⟩ := apart hd start pairs
    rw [List.length_append, List.length_singleton] at hlength
    simp only [List.map_append, List.map_cons, List.map_nil, List.foldl_append, List.foldl_cons,
      List.foldl_nil] at heq ⊢
    have hstate : (pairs.map Prod.fst).foldl m.absorb start =
        (pairs.map Prod.snd).foldl m.absorb start := by
      generalize (pairs.map Prod.fst).foldl m.absorb start = h at hmod heq ⊢
      generalize (pairs.map Prod.snd).foldl m.absorb start = h' at hmod heq ⊢
      have hxor : h ^^^ q.1.toBitVec.setWidth w = h' ^^^ q.2.toBitVec.setWidth w :=
        BitVec.mul_right_injective_of_odd m.odd heq
      have hdiv : h.toNat / 256 = h'.toNat / 256 := by
        rw [← m.toNat_xor_div h q.1, hxor, m.toNat_xor_div]
      have hc := hd.byte_lt
      have hnear : |(h.toNat : ℤ) - h'.toNat| ≤ 255 := by
        rw [abs_le]
        omega
      have hfar : |c * d| ≤ drift c k := hle.trans (drift_le hc (by omega))
      -- both differences are too small not to be the same
      have hsame : c * d - (h.toNat - h'.toNat) = 0 := by
        refine Int.eq_zero_of_abs_lt_dvd hmod.dvd ?_
        rw [abs_le] at hnear hfar
        rw [abs_lt]
        omega
      have hzero : c * d = 0 := by
        refine Int.eq_zero_of_abs_lt_dvd (dvd_mul_right c d) ?_
        rw [sub_eq_zero.1 hsame]
        exact hnear.trans_lt hc
      exact BitVec.eq_of_toNat_eq (by omega)
    rw [hstate] at heq
    rw [ih (by omega) hstate, m.absorbing.symbol _ heq]

/-- Streams that can differ in a few adjacent bytes only have the same hash exactly if they are the
same. -/
theorem foldl_eq_iff (hd : m.Drifts t c) {k : ℕ} (hk : drift c k + 255 < 2 ^ t) (start : BitVec w)
    (before after : List UInt8) {window window' : List UInt8}
    (hlength : window.length = window'.length) (hle : window.length ≤ k + 1) :
    (before ++ window ++ after).foldl m.absorb start =
        (before ++ window' ++ after).foldl m.absorb start ↔ window = window' := by
  constructor
  · intro heq
    simp only [List.foldl_append] at heq
    have hwindow := m.absorbing.foldl_injective after heq
    have hfst : (window.zip window').map Prod.fst = window := List.map_fst_zip hlength.le
    have hsnd : (window.zip window').map Prod.snd = window' := List.map_snd_zip hlength.ge
    have hpairs : (window.zip window').length ≤ k + 1 := by
      rw [List.length_zip, ← hlength, min_self]
      exact hle
    have hsame := eq_of_foldl_eq hd hk (before.foldl m.absorb start) hpairs
    rw [hfst, hsnd] at hsame
    exact hsame hwindow
  · rintro rfl
    rfl

end MultiplyXor
