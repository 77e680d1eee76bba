/-
# Numbers in big endian

A 64-bit number is read from bytes by shifting what has been read so far and putting the next
byte below it.  As long as there are at most eight bytes nothing is shifted out, so the number
is the one whose digits to the base 256 the bytes are, and it determines them.
-/
import Mathlib.Data.Nat.Digits.Lemmas

namespace Wire

/-- One turn of the loop. -/
def pushByte (value : UInt64) (b : UInt8) : UInt64 := (value <<< 8) ||| b.toUInt64

/-- The number that the bytes are the digits of, the most significant first. -/
def beNat (bytes : List UInt8) : ℕ := Nat.ofDigits 256 (bytes.map UInt8.toNat).reverse

@[simp] lemma beNat_nil : beNat [] = 0 := rfl

lemma beNat_concat (bytes : List UInt8) (b : UInt8) :
    beNat (bytes ++ [b]) = beNat bytes * 256 + b.toNat := by
  simp [beNat, Nat.ofDigits_cons, Nat.mul_comm, Nat.add_comm]

lemma beNat_lt (bytes : List UInt8) : beNat bytes < 256 ^ bytes.length := by
  have h := Nat.ofDigits_lt_base_pow_length (b := 256) (l := (bytes.map UInt8.toNat).reverse)
    (by decide) (by
      intro d hd
      obtain ⟨b, -, rfl⟩ := List.mem_map.1 (List.mem_reverse.1 hd)
      exact b.toNat_lt)
  simpa [beNat] using h

/-- Bytes of one number are the same, as far as they are equally many. -/
lemma eq_of_beNat_eq {a b : List UInt8} (hlength : a.length = b.length)
    (h : beNat a = beNat b) : a = b := by
  have hbyte (l : List UInt8) : ∀ d ∈ (l.map UInt8.toNat).reverse, d < 256 := by
    intro d hd
    obtain ⟨b, -, rfl⟩ := List.mem_map.1 (List.mem_reverse.1 hd)
    exact b.toNat_lt
  have hdigits := Nat.ofDigits_inj_of_len_eq (by decide) (by simpa using hlength)
    (hbyte a) (hbyte b) h
  exact List.map_injective_iff.2 (fun _ _ => UInt8.toNat_inj.1) (List.reverse_injective hdigits)

/-- One turn does not overflow on a number of at most seven bytes. -/
lemma toNat_pushByte {value : UInt64} (b : UInt8) (h : value.toNat < 256 ^ 7) :
    (pushByte value b).toNat = value.toNat * 256 + b.toNat := by
  have hb : b.toNat < 2 ^ 8 := b.toNat_lt
  have hshift : (value <<< 8).toNat = value.toNat <<< 8 := by
    rw [UInt64.toNat_shiftLeft]
    have height : (8 : UInt64).toNat % 64 = 8 := rfl
    rw [height, Nat.shiftLeft_eq, Nat.mod_eq_of_lt (by omega)]
  rw [pushByte, UInt64.toNat_or, hshift, UInt8.toNat_toUInt64, ← Nat.shiftLeft_add_eq_or_of_lt hb,
    Nat.shiftLeft_eq]

/-- What the loop reads from at most eight bytes. -/
lemma toNat_foldl_pushByte (bytes : List UInt8) (h : bytes.length ≤ 8) :
    (bytes.foldl pushByte 0).toNat = beNat bytes := by
  induction bytes using List.reverseRecOn with
  | nil => rfl
  | append_singleton bytes b ih =>
    rw [List.length_append, List.length_singleton] at h
    have hbytes := ih (by omega)
    have hlt : (bytes.foldl pushByte 0).toNat < 256 ^ 7 := by
      rw [hbytes]
      exact (beNat_lt bytes).trans_le (Nat.pow_le_pow_right (by decide) (by omega))
    rw [List.foldl_append, List.foldl_cons, List.foldl_nil, toNat_pushByte b hlt, hbytes,
      beNat_concat]

end Wire
