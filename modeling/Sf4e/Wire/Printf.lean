/-
# Formatted output

`vsnprintf` into a memory: a text is written as far as there is room, with a terminator behind
it, and the length that it has without the bound is returned.  The texts are what the conversions
yield; those that are used are `%s`, `%u` and its longer forms, `%d`, `%.nf` and `%-ns`.
-/
import Mathlib.Data.Rat.Floor
import Sf4e.Wire.Decimal

namespace Wire

/-! ## Conversions -/

/-- `%d` -/
def signedText (n : ℤ) : Text :=
  if n < 0 then 45 :: decimalText n.natAbs else decimalText n.natAbs

/-- A number rounded to the nearest one, and halfway to the even one. -/
def roundHalfEven (x : ℚ) : ℕ :=
  let n := ⌊x⌋₊
  if x - n < 1 / 2 then n
  else if x - n > 1 / 2 then n + 1
  else if n % 2 = 0 then n
  else n + 1

/-- `%.nf` -/
def fixedText (places : ℕ) (x : ℚ) : Text :=
  let n := roundHalfEven (|x| * 10 ^ places)
  let fraction := decimalText (n % 10 ^ places)
  (if x < 0 then [45] else []) ++ decimalText (n / 10 ^ places) ++
    46 :: List.replicate (places - fraction.length) 48 ++ fraction

/-- `%-ns` -/
def padRight (width : ℕ) (s : Text) : Text := s ++ List.replicate (width - s.length) 32

/-! ## Writing -/

/-- The bytes from an address on. -/
abbrev Memory := ℕ → UInt8

/-- The memory with a text written from an offset on. -/
def Memory.write (m : Memory) (start : ℕ) (text : Text) : Memory :=
  fun i => if start ≤ i then (text[i - start]?).getD (m i) else m i

/-- `INT_MAX` -/
def intMax : ℕ := 2147483647

/-- `vsnprintf(m + start, size, …)` of a formatted text, with its result.  A length that is no
`int` is an error. -/
def vsnprintf (m : Memory) (start size : ℕ) (text : Text) : Memory × ℤ :=
  (if size = 0 then m else m.write start (text.take (size - 1) ++ [0]),
    if text.length ≤ intMax then text.length else -1)

variable {m : Memory} {start size : ℕ} {text : Text}

lemma Memory.write_of_lt {i : ℕ} (h : i < start) : m.write start text i = m i :=
  if_neg (not_le.2 h)

lemma Memory.write_of_le {i : ℕ} (h : start + text.length ≤ i) : m.write start text i = m i := by
  rw [write, if_pos (by omega), List.getElem?_eq_none (by omega), Option.getD_none]

lemma Memory.write_add {i : ℕ} {b : UInt8} (h : text[i]? = some b) :
    m.write start text (start + i) = b := by
  rw [write, if_pos (by omega), Nat.add_sub_cancel_left, h, Option.getD_some]

/-- Nothing is written behind the room. -/
lemma vsnprintf_of_le {i : ℕ} (h : start + size ≤ i) : (vsnprintf m start size text).1 i = m i := by
  simp only [vsnprintf]
  split
  · rfl
  · refine Memory.write_of_le ?_
    rw [List.length_append, List.length_take, List.length_singleton]
    omega

/-- Nor before it. -/
lemma vsnprintf_of_lt {i : ℕ} (h : i < start) : (vsnprintf m start size text).1 i = m i := by
  simp only [vsnprintf]
  split
  · rfl
  · exact Memory.write_of_lt h

/-- What is written in the room. -/
lemma vsnprintf_add {i : ℕ} {b : UInt8} (hsize : 0 < size) (hi : i < size - 1)
    (h : text[i]? = some b) : (vsnprintf m start size text).1 (start + i) = b := by
  simp only [vsnprintf, if_neg hsize.ne']
  refine Memory.write_add ?_
  rw [List.getElem?_append_left]
  · rw [List.getElem?_take_of_lt hi, h]
  · obtain ⟨hlt, -⟩ := List.getElem?_eq_some_iff.1 h
    rw [List.length_take]
    omega

/-- The terminator. -/
lemma vsnprintf_terminator (hsize : 0 < size) :
    (vsnprintf m start size text).1 (start + min (size - 1) text.length) = 0 := by
  simp only [vsnprintf, if_neg hsize.ne']
  refine Memory.write_add ?_
  rw [← List.length_take, List.getElem?_concat_length]

end Wire
