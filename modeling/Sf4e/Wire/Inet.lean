/-
# Numeric IPv4 addresses

`inet_pton` and `inet_ntop` for `AF_INET`.  `Inet` is what programs rely on: an address that is
written out is read back, and no text of more than fifteen bytes is an address.  `Inet.dotted`
is the form with four decimal numbers and dots between them.
-/
import Sf4e.Wire.CString

namespace Wire

/-- `inet_pton` and `inet_ntop`.  An address is the number in `s_addr`, its first byte the
lowest. -/
structure Inet where
  /-- `inet_pton`; `none` is a text that is no address. -/
  pton : Text → Option UInt32
  /-- `inet_ntop`. -/
  ntop : UInt32 → Text
  pton_ntop : ∀ a, pton (ntop a) = some a
  /-- The longest form is `ddd.ddd.ddd.ddd`. -/
  length_le : ∀ {s a}, pton s = some a → s.length ≤ 15

namespace Inet

lemma length_lt {inet : Inet} {s : Text} {a : UInt32} (h : inet.pton s = some a) {size : ℕ}
    (hsize : 15 < size) : s.length < size :=
  (inet.length_le h).trans_lt hsize

/-! ## Dotted decimal -/

/-- The byte of a digit. -/
def digit (n : ℕ) : UInt8 := (48 + n).toUInt8

/-- A number up to 255 in decimal, without leading zeros. -/
def octetText (n : ℕ) : Text :=
  if n < 10 then [digit n]
  else if n < 100 then [digit (n / 10), digit (n % 10)]
  else [digit (n / 100), digit (n / 10 % 10), digit (n % 10)]

/-- The number of a text of digits. -/
def decimal (s : Text) : ℕ := s.foldl (fun n b => 10 * n + (b.toNat - 48)) 0

/-- The number up to 255 that is written so. -/
def octet? (s : Text) : Option ℕ :=
  if decimal s ≤ 255 ∧ octetText (decimal s) = s then some (decimal s) else none

lemma octetText_length_le (n : ℕ) : (octetText n).length ≤ 3 := by
  unfold octetText
  split_ifs <;> simp

lemma length_le_of_octet {s : Text} {n : ℕ} (h : octet? s = some n) : s.length ≤ 3 := by
  unfold octet? at h
  split at h
  · rename_i hs
    exact hs.2 ▸ octetText_length_le (decimal s)
  · simp at h

lemma decimal_octetText : ∀ n < 256, decimal (octetText n) = n := by
  decide +kernel

lemma octet_octetText {n : ℕ} (h : n < 256) : octet? (octetText n) = some n := by
  have hle : n ≤ 255 := by omega
  simp [octet?, decimal_octetText n h, hle]

lemma dot_notMem_octetText : ∀ n < 256, 46 ∉ octetText n := by
  decide +kernel

/-- `inet_pton`, of the dotted decimal form. -/
def dottedPton (s : Text) : Option UInt32 :=
  match s.splitOn 46 with
  | [s₀, s₁, s₂, s₃] => do
    let a ← octet? s₀
    let b ← octet? s₁
    let c ← octet? s₂
    let d ← octet? s₃
    return (a + 256 * (b + 256 * (c + 256 * d))).toUInt32
  | _ => none

/-- `inet_ntop`, in the dotted decimal form. -/
def dottedNtop (addr : UInt32) : Text :=
  [46].intercalate ([addr.toNat % 256, addr.toNat / 256 % 256, addr.toNat / 65536 % 256,
    addr.toNat / 16777216 % 256].map octetText)

lemma dottedPton_dottedNtop (addr : UInt32) : dottedPton (dottedNtop addr) = some addr := by
  unfold dottedPton dottedNtop
  rw [List.splitOn_intercalate]
  · simp only [List.map_cons, List.map_nil, octet_octetText (Nat.mod_lt _ (by decide)),
      Option.bind_eq_bind, Option.bind_some, Option.pure_def, Option.some.injEq]
    have haddr := addr.toNat_lt
    apply UInt32.toNat_inj.1
    rw [UInt32.toNat_ofNat_of_lt' (by unfold UInt32.size; omega)]
    omega
  · intro l hl
    obtain ⟨n, hn, rfl⟩ := List.mem_map.1 hl
    refine dot_notMem_octetText n ?_
    simp only [List.mem_cons, List.not_mem_nil, or_false] at hn
    omega
  · simp

lemma length_le_of_dottedPton {s : Text} {addr : UInt32} (h : dottedPton s = some addr) :
    s.length ≤ 15 := by
  have hs : [46].intercalate (s.splitOn 46) = s := List.intercalate_splitOn 46
  unfold dottedPton at h
  split at h
  · rename_i s₀ s₁ s₂ s₃ hsplit
    simp only [Option.bind_eq_bind, Option.bind_eq_some_iff] at h
    obtain ⟨a, ha, b, hb, c, hc, d, hd, -⟩ := h
    have h₀ := length_le_of_octet ha
    have h₁ := length_le_of_octet hb
    have h₂ := length_le_of_octet hc
    have h₃ := length_le_of_octet hd
    rw [← hs, hsplit]
    simp [List.intercalate]
    omega
  · simp at h

/-- Addresses in dotted decimal. -/
def dotted : Inet where
  pton := dottedPton
  ntop := dottedNtop
  pton_ntop := dottedPton_dottedNtop
  length_le := length_le_of_dottedPton

end Inet
end Wire
