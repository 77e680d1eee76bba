/-
# Fixed-size C strings

A `char` array of a fixed size that holds a terminated string.  Such an array is kept as the
bytes before the terminator, of which there are fewer than the size and none is zero.
`strncpy_s` with `_TRUNCATE` copies what fits.
-/
import Mathlib.Data.List.TakeWhile
import Mathlib.Data.Nat.Notation

namespace Wire

/-- The bytes of a string. -/
abbrev Text := List UInt8

/-- What a `char[size]` holds, up to its terminator. -/
structure CString (size : ℕ) where
  /-- The bytes before the terminator. -/
  bytes : Text
  /-- There is room for the terminator. -/
  length_lt : bytes.length < size
  /-- The terminator is the first zero. -/
  noNul : 0 ∉ bytes
deriving DecidableEq

/-- The text can be kept in a `char[size]`. -/
def Fits (size : ℕ) (s : Text) : Prop := s.length < size ∧ 0 ∉ s

instance (size : ℕ) (s : Text) : Decidable (Fits size s) :=
  inferInstanceAs (Decidable (_ ∧ _))

namespace CString

variable {size : ℕ}

@[ext] lemma ext {a b : CString size} (h : a.bytes = b.bytes) : a = b := by
  cases a
  cases b
  simpa using h

/-- What `strncpy_s(dst, src, _TRUNCATE)` leaves of `src`: up to its first zero, and as much
of it as fits. -/
def truncate (size : ℕ) (src : Text) : Text := (src.takeWhile (· != 0)).take (size - 1)

lemma truncate_noNul (src : Text) : 0 ∉ truncate size src := by
  intro h
  have hne := List.mem_takeWhile_imp (List.mem_of_mem_take h)
  simp at hne

lemma truncate_length_lt (hsize : 0 < size) (src : Text) : (truncate size src).length < size := by
  have hle : (truncate size src).length ≤ size - 1 := List.length_take_le _ _
  omega

lemma takeWhile_eq_self_iff_noNul {src : Text} : src.takeWhile (· != 0) = src ↔ 0 ∉ src := by
  rw [List.takeWhile_eq_self_iff]
  constructor
  · intro h hmem
    simpa using h 0 hmem
  · intro h b hb
    rw [bne_iff_ne]
    rintro rfl
    exact h hb

/-- Nothing is lost exactly when the source fits. -/
lemma truncate_eq_self_iff (hsize : 0 < size) {src : Text} :
    truncate size src = src ↔ Fits size src := by
  constructor
  · intro h
    exact ⟨h ▸ truncate_length_lt hsize src, h ▸ truncate_noNul src⟩
  · rintro ⟨hlen, hnul⟩
    rw [truncate, takeWhile_eq_self_iff_noNul.2 hnul]
    exact List.take_of_length_le (by omega)

/-- `strncpy_s(dst, src, _TRUNCATE)`. -/
def copy (size : ℕ) (hsize : 0 < size) (src : Text) : CString size :=
  ⟨truncate size src, truncate_length_lt hsize src, truncate_noNul src⟩

lemma fits (a : CString size) : Fits size a.bytes := ⟨a.length_lt, a.noNul⟩

lemma copy_bytes_eq_iff (hsize : 0 < size) {src : Text} :
    (copy size hsize src).bytes = src ↔ Fits size src := truncate_eq_self_iff hsize

/-- What an array of the same size holds is copied whole. -/
lemma copy_bytes_self (hsize : 0 < size) (a : CString size) : copy size hsize a.bytes = a :=
  CString.ext ((copy_bytes_eq_iff hsize).2 a.fits)

/-- A copy with room to spare is complete. -/
lemma copy_bytes_of_length_lt (hsize : 0 < size) {src : Text} (hnul : 0 ∉ src)
    (hlen : (copy size hsize src).bytes.length < size - 1) : (copy size hsize src).bytes = src := by
  refine (copy_bytes_eq_iff hsize).2 ⟨?_, hnul⟩
  simp only [copy, truncate, takeWhile_eq_self_iff_noNul.2 hnul, List.length_take] at hlen
  omega

end CString
end Wire
