/-
# Text in UTF-8

A text is UTF-8 when its bytes write a sequence of characters.  The characters are determined by
the bytes, even by the first bytes of a longer text: no character is written as the beginning of
another.  So a text that is cut after some number of bytes is still UTF-8 exactly when the cut
falls between two characters.
-/
import Mathlib.Data.List.TakeWhile
import Mathlib.Data.Nat.Notation
import Sf4e.Wire.CString

namespace Wire

/-- The bytes that write the characters. -/
def utf8 (cs : List Char) : Text := cs.flatMap String.utf8EncodeChar

/-- The bytes write characters. -/
def IsUtf8 (t : Text) : Prop := ∃ cs, utf8 cs = t

@[simp] lemma utf8_nil : utf8 [] = [] := rfl

lemma utf8_cons (c : Char) (cs : List Char) : utf8 (c :: cs) = String.utf8EncodeChar c ++ utf8 cs :=
  List.flatMap_cons

lemma utf8_append (cs cs' : List Char) : utf8 (cs ++ cs') = utf8 cs ++ utf8 cs' :=
  List.flatMap_append

lemma isUtf8_utf8 (cs : List Char) : IsUtf8 (utf8 cs) := ⟨cs, rfl⟩

lemma isUtf8_iff {t : Text} : IsUtf8 t ↔ t.toByteArray.IsValidUTF8 := by
  constructor
  · rintro ⟨cs, rfl⟩
    exact ⟨cs, rfl⟩
  · rintro ⟨cs, h⟩
    exact ⟨cs, List.toByteArray_inj.1 h.symm⟩

instance (t : Text) : Decidable (IsUtf8 t) := decidable_of_iff _ isUtf8_iff.symm

/-- The first character of a text is determined by the first bytes. -/
lemma utf8EncodeChar_inj {c c' : Char} {t t' : Text}
    (h : String.utf8EncodeChar c ++ t = String.utf8EncodeChar c' ++ t') : c = c' ∧ t = t' := by
  have hdecode : ∀ (c : Char) (t : Text),
      (String.utf8EncodeChar c ++ t).toByteArray.utf8DecodeChar? 0 = some c := by
    intro c t
    rw [List.toByteArray_append]
    exact ByteArray.utf8DecodeChar?_utf8EncodeChar_append
  have hchar : some c = some c' := by rw [← hdecode c t, h, hdecode]
  obtain rfl := Option.some.inj hchar
  exact ⟨rfl, List.append_cancel_left h⟩

/-- What begins a text and writes characters writes the first characters of the text. -/
lemma eq_take_of_utf8_append {cs cs' : List Char} {t : Text} (h : utf8 cs' ++ t = utf8 cs) :
    cs' = cs.take cs'.length := by
  induction cs' generalizing cs with
  | nil => rfl
  | cons c' cs' ih =>
    cases cs with
    | nil =>
      rw [utf8_cons, List.append_assoc] at h
      exact absurd (List.append_eq_nil_iff.1 h).1 String.utf8EncodeChar_ne_nil
    | cons c cs =>
      rw [utf8_cons, utf8_cons, List.append_assoc] at h
      obtain ⟨rfl, hrest⟩ := utf8EncodeChar_inj h
      rw [List.length_cons, List.take_succ_cons, ← ih hrest]

/-- The first `n` bytes are whole characters. -/
def Boundary (n : ℕ) (cs : List Char) : Prop := ∃ k, (utf8 (cs.take k)).length = n

/-- A text that is cut stays UTF-8 exactly when no character is cut in two. -/
theorem isUtf8_take_iff {n : ℕ} {cs : List Char} :
    IsUtf8 ((utf8 cs).take n) ↔ (utf8 cs).length ≤ n ∨ Boundary n cs := by
  constructor
  · rintro ⟨cs', hcut⟩
    by_cases hlen : (utf8 cs).length ≤ n
    · exact .inl hlen
    · have hsplit : utf8 cs' ++ (utf8 cs).drop n = utf8 cs := by
        rw [hcut]
        exact List.take_append_drop n _
      refine .inr ⟨cs'.length, ?_⟩
      rw [← eq_take_of_utf8_append hsplit, hcut, List.length_take]
      omega
  · rintro (hlen | ⟨k, hk⟩)
    · rw [List.take_of_length_le hlen]
      exact isUtf8_utf8 cs
    · have hsplit : utf8 cs = utf8 (cs.take k) ++ utf8 (cs.drop k) := by
        rw [← utf8_append, List.take_append_drop]
      rw [hsplit, List.take_left' hk]
      exact isUtf8_utf8 _

/-! ## C strings -/

/-- The terminator. -/
def nul : Char := Char.ofNat 0

/-- Only the terminator is written with a zero. -/
lemma zero_mem_utf8EncodeChar {c : Char} : 0 ∈ String.utf8EncodeChar c ↔ c = nul := by
  constructor
  · intro h
    have hbyte : ∀ n, (0 : UInt8) = UInt8.ofNat n → n % 256 = 0 := by
      intro n hn
      have hnat := congrArg UInt8.toNat hn
      rw [UInt8.toNat_ofNat'] at hnat
      exact hnat.symm
    rw [String.utf8EncodeChar] at h
    split at h
    · next hsmall =>
      have hzero := hbyte _ (List.mem_singleton.1 h)
      have hval : c.val.toNat = 0 := by omega
      exact Char.ext (UInt32.toNat_inj.1 hval)
    · -- the bytes of longer characters have their highest bit set
      exfalso
      split at h
      · simp only [List.mem_cons, List.not_mem_nil, or_false] at h
        obtain h | h := h <;> have hzero := hbyte _ h <;> omega
      · split at h
        · simp only [List.mem_cons, List.not_mem_nil, or_false] at h
          obtain h | h | h := h <;> have hzero := hbyte _ h <;> omega
        · simp only [List.mem_cons, List.not_mem_nil, or_false] at h
          obtain h | h | h | h := h <;> have hzero := hbyte _ h <;> omega
  · rintro rfl
    decide

/-- The characters before the terminator. -/
lemma takeWhile_utf8 (cs : List Char) :
    (utf8 cs).takeWhile (· != 0) = utf8 (cs.takeWhile (· ≠ nul)) := by
  induction cs with
  | nil => rfl
  | cons c cs ih =>
    rw [utf8_cons]
    by_cases hc : c = nul
    · rw [hc, List.takeWhile_cons_of_neg (by simp)]
      rfl
    · rw [List.takeWhile_cons_of_pos (by simpa using hc), utf8_cons, ← ih]
      refine List.takeWhile_append_of_pos fun b hb => ?_
      rw [bne_iff_ne]
      rintro rfl
      exact hc (zero_mem_utf8EncodeChar.1 hb)

/-- A text that is copied into an array stays UTF-8 exactly when it fits, or is cut between two
characters. -/
theorem isUtf8_truncate_iff {size : ℕ} {cs : List Char} :
    IsUtf8 (CString.truncate size (utf8 cs)) ↔
      (utf8 (cs.takeWhile (· ≠ nul))).length ≤ size - 1 ∨
        Boundary (size - 1) (cs.takeWhile (· ≠ nul)) := by
  rw [CString.truncate, takeWhile_utf8]
  exact isUtf8_take_iff

/-- ASCII is UTF-8. -/
lemma isUtf8_of_ascii {t : Text} (h : t.all (fun b => decide (b.toNat < 128)) = true) :
    IsUtf8 t := by
  refine ⟨t.map fun b => Char.ofNat b.toNat, ?_⟩
  induction t with
  | nil => rfl
  | cons b t ih =>
    rw [List.all_cons, Bool.and_eq_true, decide_eq_true_eq] at h
    have hvalid : b.toNat.isValidChar := .inl (by omega)
    have hval : (Char.ofNat b.toNat).val.toNat = b.toNat := by
      rw [Char.ofNat, dif_pos hvalid]
      rfl
    have hone : String.utf8EncodeChar (Char.ofNat b.toNat) = [b] := by
      rw [String.utf8EncodeChar, hval, if_pos (by omega), UInt8.ofNat_toNat]
    rw [List.map_cons, utf8_cons, ih h.2, hone]
    rfl

end Wire
