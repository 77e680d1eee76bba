/-
# Percent encoding

`encodeURIComponent` keeps the unreserved characters of a text and writes the bytes of the others
in hexadecimal; `decodeURIComponent` reads such a text back, and throws when a percent sign is not
followed by two digits or when the bytes are no UTF-8.

`none` is the thrown `URIError`.
-/
import Mathlib.Data.Nat.Notation
import Sf4e.Wire.Utf8

namespace Wire

/-! ## Digits -/

/-- A digit, in upper case. -/
def hexUpper (n : ℕ) : Char := Char.ofNat (if n < 10 then 48 + n else 55 + n)

/-- The value of a digit, in either case. -/
def hexValue (c : Char) : Option ℕ :=
  let n := c.toNat
  if 48 ≤ n ∧ n ≤ 57 then some (n - 48)
  else if 65 ≤ n ∧ n ≤ 70 then some (n - 55)
  else if 97 ≤ n ∧ n ≤ 102 then some (n - 87)
  else none

lemma hexValue_hexUpper {n : ℕ} (h : n < 16) : hexValue (hexUpper n) = some n := by
  have hall : ∀ m : Fin 16, hexValue (hexUpper m) = some m.val := by decide
  exact hall ⟨n, h⟩

/-- A byte, in hexadecimal. -/
def percentByte (b : UInt8) : List Char := ['%', hexUpper (b.toNat / 16), hexUpper (b.toNat % 16)]

/-! ## Encoding -/

/-- Letters, digits and the marks that are kept. -/
def isUnreserved (c : Char) : Bool :=
  c.isAlphanum || ['-', '_', '.', '!', '~', '*', '(', ')', Char.ofNat 39].contains c

/-- `encodeURIComponent` -/
def encodeURIComponent (s : List Char) : List Char :=
  s.flatMap fun c =>
    if isUnreserved c then [c] else (String.utf8EncodeChar c).flatMap percentByte

/-- A text that has nothing to encode. -/
lemma encodeURIComponent_of_unreserved {s : List Char} (h : ∀ c ∈ s, isUnreserved c = true) :
    encodeURIComponent s = s := by
  induction s with
  | nil => rfl
  | cons c s ih =>
    obtain ⟨hc, hs⟩ := List.forall_mem_cons.1 h
    have hrest : encodeURIComponent s = s := ih hs
    unfold encodeURIComponent at hrest ⊢
    rw [List.flatMap_cons, if_pos hc, hrest]
    rfl

/-! ## Decoding -/

/-- A character that stands for itself, or a byte that was written in hexadecimal. -/
inductive Unit8
  | char (c : Char)
  | octet (b : UInt8)

/-- The byte that two digits write. -/
def octet? (a b : Char) : Option UInt8 := do
  let high ← hexValue a
  let low ← hexValue b
  return UInt8.ofNat (16 * high + low)

/-- The characters and bytes of a text. -/
def splitPercent : List Char → Option (List Unit8)
  | [] => some []
  | '%' :: a :: b :: rest =>
    match octet? a b with
    | some o => (splitPercent rest).map (.octet o :: ·)
    | none => none
  | c :: rest => if c = '%' then none else (splitPercent rest).map (.char c :: ·)

/-- The number of bytes of the character that begins with a byte; `0` when none does. -/
def seqLength (b : UInt8) : ℕ :=
  if b.toNat < 0x80 then 1
  else if b.toNat < 0xC0 then 0
  else if b.toNat < 0xE0 then 2
  else if b.toNat < 0xF0 then 3
  else if b.toNat < 0xF8 then 4
  else 0

/-- The character that the bytes write. -/
def decodeChar (bs : List UInt8) : Option Char :=
  (bs.toByteArray.utf8DecodeChar? 0).filter fun c => String.utf8EncodeChar c = bs

/-- The characters that are written, with the bytes of the one that has begun and the number of
those it still needs. -/
def joinOctets : List UInt8 → ℕ → List Unit8 → Option (List Char)
  | _, 0, [] => some []
  | _, _ + 1, [] => none
  | _, 0, .char c :: rest => (joinOctets [] 0 rest).map (c :: ·)
  | _, _ + 1, .char _ :: _ => none
  | _, 0, .octet b :: rest =>
    match seqLength b with
    | 0 => none
    | 1 =>
      match decodeChar [b] with
      | some c => (joinOctets [] 0 rest).map (c :: ·)
      | none => none
    | n + 2 => joinOctets [b] (n + 1) rest
  | begun, 1, .octet b :: rest =>
    match decodeChar (begun ++ [b]) with
    | some c => (joinOctets [] 0 rest).map (c :: ·)
    | none => none
  | begun, n + 2, .octet b :: rest => joinOctets (begun ++ [b]) (n + 1) rest

/-- `decodeURIComponent` -/
def decodeURIComponent (s : List Char) : Option (List Char) :=
  (splitPercent s).bind (joinOctets [] 0)

/-! ## Round trip -/

lemma splitPercent_char {c : Char} (h : c ≠ '%') (rest : List Char) :
    splitPercent (c :: rest) = (splitPercent rest).map (.char c :: ·) := by
  rw [splitPercent, if_neg h]
  exact fun _ _ _ hc => absurd hc h

lemma octet?_hexUpper (b : UInt8) :
    octet? (hexUpper (b.toNat / 16)) (hexUpper (b.toNat % 16)) = some b := by
  have hlt := b.toNat_lt
  rw [octet?, hexValue_hexUpper (by omega), hexValue_hexUpper (by omega)]
  show some (UInt8.ofNat (16 * (b.toNat / 16) + b.toNat % 16)) = some b
  rw [Nat.div_add_mod, UInt8.ofNat_toNat]

lemma splitPercent_percentByte (b : UInt8) (rest : List Char) :
    splitPercent (percentByte b ++ rest) = (splitPercent rest).map (.octet b :: ·) := by
  show splitPercent ('%' :: hexUpper (b.toNat / 16) :: hexUpper (b.toNat % 16) :: rest) = _
  rw [splitPercent, octet?_hexUpper]

lemma splitPercent_percentBytes (bs : List UInt8) (rest : List Char) :
    splitPercent (bs.flatMap percentByte ++ rest) =
      (splitPercent rest).map (bs.map Unit8.octet ++ ·) := by
  induction bs with
  | nil => simp
  | cons b bs ih =>
    rw [List.flatMap_cons, List.append_assoc, splitPercent_percentByte, ih, Option.map_map]
    rfl

lemma decodeChar_utf8EncodeChar (c : Char) : decodeChar (String.utf8EncodeChar c) = some c := by
  have hdecode : (String.utf8EncodeChar c).toByteArray.utf8DecodeChar? 0 = some c := by
    have happend := @ByteArray.utf8DecodeChar?_utf8EncodeChar_append ByteArray.empty c
    simpa using happend
  rw [decodeChar, hdecode, Option.filter_some, if_pos (decide_eq_true rfl)]

/-- The first byte of a character tells how many there are. -/
lemma seqLength_utf8EncodeChar (c : Char) :
    ∃ b bs, String.utf8EncodeChar c = b :: bs ∧ seqLength b = bs.length + 1 := by
  have hbyte : ∀ n, n < 256 → (UInt8.ofNat n).toNat = n := fun n hn => by
    rw [UInt8.toNat_ofNat', Nat.mod_eq_of_lt hn]
  unfold String.utf8EncodeChar
  dsimp only
  split
  · next h1 =>
    refine ⟨_, _, rfl, ?_⟩
    rw [seqLength, hbyte _ (by omega), if_pos (by omega)]
    rfl
  · split
    · next h2 =>
      refine ⟨_, _, rfl, ?_⟩
      rw [seqLength, hbyte _ (by omega), if_neg (by omega), if_neg (by omega), if_pos (by omega)]
      rfl
    · split
      · next h3 =>
        refine ⟨_, _, rfl, ?_⟩
        rw [seqLength, hbyte _ (by omega), if_neg (by omega), if_neg (by omega),
          if_neg (by omega), if_pos (by omega)]
        rfl
      · refine ⟨_, _, rfl, ?_⟩
        rw [seqLength, hbyte _ (by omega), if_neg (by omega), if_neg (by omega),
          if_neg (by omega), if_neg (by omega), if_pos (by omega)]
        rfl

/-- The rest of the bytes of a character that has begun. -/
lemma joinOctets_begun {begun bs : List UInt8} {b : UInt8} {c : Char}
    (h : begun ++ b :: bs = String.utf8EncodeChar c) (rest : List Unit8) :
    joinOctets begun (bs.length + 1) ((b :: bs).map Unit8.octet ++ rest) =
      (joinOctets [] 0 rest).map (c :: ·) := by
  induction bs generalizing begun b with
  | nil =>
    show joinOctets begun 1 (.octet b :: rest) = _
    rw [joinOctets, h, decodeChar_utf8EncodeChar]
  | cons b' bs ih =>
    show joinOctets begun (bs.length + 2) (.octet b :: ((b' :: bs).map Unit8.octet ++ rest)) = _
    rw [joinOctets]
    exact ih (by rw [← h, List.append_assoc, List.singleton_append])

/-- The bytes of a character are read as the character. -/
lemma joinOctets_utf8EncodeChar (c : Char) (rest : List Unit8) :
    joinOctets [] 0 ((String.utf8EncodeChar c).map Unit8.octet ++ rest) =
      (joinOctets [] 0 rest).map (c :: ·) := by
  obtain ⟨b, bs, hbytes, hlen⟩ := seqLength_utf8EncodeChar c
  rw [hbytes]
  show joinOctets [] 0 (.octet b :: (bs.map Unit8.octet ++ rest)) = _
  cases bs with
  | nil =>
    rw [joinOctets, show seqLength b = 1 from hlen, ← hbytes, decodeChar_utf8EncodeChar]
    rfl
  | cons b' bs =>
    rw [joinOctets, show seqLength b = bs.length + 2 from hlen]
    have hbegun : [b] ++ b' :: bs = String.utf8EncodeChar c := by rw [hbytes]; rfl
    exact joinOctets_begun hbegun rest

/-- **Round trip.** -/
theorem decodeURIComponent_encodeURIComponent (s : List Char) :
    decodeURIComponent (encodeURIComponent s) = some s := by
  induction s with
  | nil => rfl
  | cons c s ih =>
    unfold decodeURIComponent at ih ⊢
    obtain ⟨items, hitems, hjoin⟩ := Option.bind_eq_some_iff.1 ih
    have hcons : encodeURIComponent (c :: s) =
        (if isUnreserved c then [c] else (String.utf8EncodeChar c).flatMap percentByte) ++
          encodeURIComponent s := List.flatMap_cons
    rw [hcons]
    by_cases hc : isUnreserved c = true
    · have hne : c ≠ '%' := by
        rintro rfl
        exact absurd hc (by decide)
      rw [if_pos hc, List.singleton_append, splitPercent_char hne, hitems, Option.map_some,
        Option.bind_some, joinOctets, hjoin]
      rfl
    · rw [if_neg hc, splitPercent_percentBytes, hitems, Option.map_some, Option.bind_some,
        joinOctets_utf8EncodeChar, hjoin]
      rfl

end Wire
