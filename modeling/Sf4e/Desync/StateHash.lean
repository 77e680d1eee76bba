/-
# The state hash

The hasher of `sf4e__StateHash.hxx` is FNV-1a with 64 bits.  A typed write feeds it the bytes of a
number, the least significant first, so a stream of typed writes is hashed as the stream of its
bytes, however it is split.

Streams that differ in one byte have different hashes, and so have streams that differ in up to four
adjacent bytes.  Every value that `ComputeSemanticHashes` reads of the game is that small: states
of a battle that differ in one value have different hashes.
-/
import Sf4e.Data.MultiplyXor
import Sf4e.Rollback.HashRing
import Sf4e.Wire.LittleEndian

namespace Sf4e
namespace StateHash

open Wire
open HashRing (FixedPoint SemanticHashes)

/-! ## The hasher -/

/-- `Hasher`. -/
structure Hasher where
  h : UInt64 := 14695981039346656037
deriving DecidableEq, Repr

namespace Hasher

/-- `U8`. -/
def u8 (x : Hasher) (v : UInt8) : Hasher := ⟨(x.h ^^^ v.toUInt64) * 1099511628211⟩

/-- `U16`. -/
def u16 (x : Hasher) (v : UInt16) : Hasher := (x.u8 (v &&& 0xff).toUInt8).u8 (v >>> 8).toUInt8

/-- `U32`. -/
def u32 (x : Hasher) (v : UInt32) : Hasher :=
  (((x.u8 (v &&& 0xff).toUInt8).u8 ((v >>> 8) &&& 0xff).toUInt8).u8
    ((v >>> 16) &&& 0xff).toUInt8).u8 ((v >>> 24) &&& 0xff).toUInt8

/-- `U64`. -/
def u64 (x : Hasher) (v : UInt64) : Hasher :=
  (x.u32 (v &&& 0xffffffff).toUInt32).u32 (v >>> 32).toUInt32

/-- `I16`. -/
def i16 (x : Hasher) (v : Int16) : Hasher := x.u16 v.toUInt16

/-- `I32`. -/
def i32 (x : Hasher) (v : Int32) : Hasher := x.u32 v.toUInt32

/-- `F32`, of a float with the bits. -/
def f32 (x : Hasher) (bits : UInt32) : Hasher := x.u32 bits

/-- `Fixed`. -/
def fixed (x : Hasher) (fractional : UInt16) (integral : Int16) : Hasher :=
  (x.u16 fractional).i16 integral

/-- `Value`. -/
def value (x : Hasher) : UInt64 := x.h

/-- The bytes of a stream, one by one. -/
def bytes (x : Hasher) (stream : List UInt8) : Hasher := stream.foldl u8 x

end Hasher

/-! ## Typed writes -/

/-- The types of writes. -/
inductive WriteType
  | u8
  | u16
  | u32
  | u64
  | i16
  | i32
  | f32
  | fixed
deriving DecidableEq, Repr

/-- A typed write. -/
inductive Write
  | u8 (v : UInt8)
  | u16 (v : UInt16)
  | u32 (v : UInt32)
  | u64 (v : UInt64)
  | i16 (v : Int16)
  | i32 (v : Int32)
  | f32 (bits : UInt32)
  | fixed (v : FixedPoint)
deriving DecidableEq, Repr

namespace Write

/-- The type of a write. -/
def type : Write → WriteType
  | .u8 _ => .u8
  | .u16 _ => .u16
  | .u32 _ => .u32
  | .u64 _ => .u64
  | .i16 _ => .i16
  | .i32 _ => .i32
  | .f32 _ => .f32
  | .fixed _ => .fixed

end Write

/-- The bytes that a value of the type takes. -/
def WriteType.width : WriteType → ℕ
  | .u8 => 1
  | .u16 | .i16 => 2
  | .u32 | .i32 | .f32 | .fixed => 4
  | .u64 => 8

namespace Write

/-- The number that is written: of a float the one of its bits, of a fixed-point value the number of
its smallest units. -/
def number : Write → ℤ
  | .u8 v => v.toNat
  | .u16 v => v.toNat
  | .u32 v => v.toNat
  | .u64 v => v.toNat
  | .i16 v => v.toInt
  | .i32 v => v.toInt
  | .f32 bits => bits.toNat
  | .fixed v => v.integral.toInt * 65536 + v.fractional.toNat

/-- The number in little endian. -/
def bytes (w : Write) : List UInt8 := leIntBytes w.type.width w.number

@[simp] lemma length_bytes (w : Write) : w.bytes.length = w.type.width := length_leIntBytes _ _

end Write

namespace Hasher

/-- A typed write is done. -/
def write (x : Hasher) : Write → Hasher
  | .u8 v => x.u8 v
  | .u16 v => x.u16 v
  | .u32 v => x.u32 v
  | .u64 v => x.u64 v
  | .i16 v => x.i16 v
  | .i32 v => x.i32 v
  | .f32 bits => x.f32 bits
  | .fixed v => x.fixed v.fractional v.integral

/-- Typed writes, one by one. -/
def writes (x : Hasher) (ws : List Write) : Hasher := ws.foldl write x

/-! ## Writes and bytes -/

lemma bytes_append (x : Hasher) (stream stream' : List UInt8) :
    x.bytes (stream ++ stream') = (x.bytes stream).bytes stream' :=
  List.foldl_append

lemma u16_eq (x : Hasher) (v : UInt16) : x.u16 v = x.bytes (leBytes 2 v.toNat) := by
  have hmask : v.toNat &&& (0xff : UInt16).toNat = v.toNat % 2 ^ 8 :=
    Nat.and_two_pow_sub_one_eq_mod _ 8
  have hlow : (v &&& 0xff).toUInt8 = UInt8.ofNat v.toNat := by
    rw [← UInt8.toNat_inj, UInt16.toNat_toUInt8, UInt16.toNat_and, UInt8.toNat_ofNat', hmask,
      Nat.mod_mod]
  have hhigh : (v >>> 8).toUInt8 = UInt8.ofNat (v.toNat / 256) := by
    rw [← UInt8.toNat_inj, UInt16.toNat_toUInt8, UInt16.toNat_shiftRight, UInt8.toNat_ofNat',
      Nat.shiftRight_eq_div_pow]
    rfl
  rw [u16, hlow, hhigh]
  rfl

lemma u32_eq (x : Hasher) (v : UInt32) : x.u32 v = x.bytes (leBytes 4 v.toNat) := by
  have hmask : ∀ u : UInt32, (u &&& 0xff).toUInt8 = UInt8.ofNat u.toNat := by
    intro u
    have hmod : u.toNat &&& (0xff : UInt32).toNat = u.toNat % 2 ^ 8 :=
      Nat.and_two_pow_sub_one_eq_mod _ 8
    rw [← UInt8.toNat_inj, UInt32.toNat_toUInt8, UInt32.toNat_and, UInt8.toNat_ofNat', hmod,
      Nat.mod_mod]
  have hshift : ∀ k : UInt32, k.toNat < 32 → (v >>> k).toNat = v.toNat / 2 ^ k.toNat := by
    intro k hk
    rw [UInt32.toNat_shiftRight, Nat.mod_eq_of_lt hk, Nat.shiftRight_eq_div_pow]
  -- each byte is the lowest one of a shifted number
  have hbytes : leBytes 4 v.toNat = [UInt8.ofNat v.toNat, UInt8.ofNat (v.toNat / 2 ^ 8),
      UInt8.ofNat (v.toNat / 2 ^ 16), UInt8.ofNat (v.toNat / 2 ^ 24)] := by
    simp only [leBytes, Nat.div_div_eq_div_mul]
    rfl
  rw [u32, hmask, hmask, hmask, hmask, hshift 8 (by decide), hshift 16 (by decide),
    hshift 24 (by decide), hbytes]
  rfl

lemma u64_eq (x : Hasher) (v : UInt64) : x.u64 v = x.bytes (leBytes 8 v.toNat) := by
  have hmask : v.toNat &&& (0xffffffff : UInt64).toNat = v.toNat % 2 ^ 32 :=
    Nat.and_two_pow_sub_one_eq_mod _ 32
  have hlow : (v &&& 0xffffffff).toUInt32.toNat = v.toNat % 2 ^ 32 := by
    rw [UInt64.toNat_toUInt32, UInt64.toNat_and, hmask, Nat.mod_mod]
  have hhigh : (v >>> 32).toUInt32.toNat = v.toNat / 2 ^ 32 := by
    have hlt := v.toNat_lt
    have hdiv : v.toNat / 2 ^ 32 < 2 ^ 32 := by omega
    rw [UInt64.toNat_toUInt32, UInt64.toNat_shiftRight, Nat.shiftRight_eq_div_pow]
    exact Nat.mod_eq_of_lt hdiv
  -- the first four bytes do not see the high half
  have hwrap : leBytes 4 (v.toNat % 2 ^ 32) = leBytes 4 v.toNat :=
    leBytes_inj.2 (Nat.mod_mod _ _)
  rw [u64, u32_eq, u32_eq, hlow, hhigh, hwrap, leBytes_add 4 4, bytes_append]
  rfl

lemma i16_eq (x : Hasher) (v : Int16) : x.i16 v = x.bytes (leIntBytes 2 v.toInt) := by
  -- without its sign, the number is the same modulo 256 ^ 2
  have hmod : v.toInt ≡ v.toUInt16.toNat [ZMOD 256 ^ 2] := by
    rw [← Int16.toInt_toBitVec, BitVec.toInt_eq_toNat_bmod, Int16.toNat_toBitVec]
    exact Int.bmod_emod
  rw [i16, u16_eq, leIntBytes_inj.2 hmod, leIntBytes_natCast]

lemma i32_eq (x : Hasher) (v : Int32) : x.i32 v = x.bytes (leIntBytes 4 v.toInt) := by
  have hmod : v.toInt ≡ v.toUInt32.toNat [ZMOD 256 ^ 4] := by
    rw [← Int32.toInt_toBitVec, BitVec.toInt_eq_toNat_bmod, Int32.toNat_toBitVec]
    exact Int.bmod_emod
  rw [i32, u32_eq, leIntBytes_inj.2 hmod, leIntBytes_natCast]

/-- The fractional part is the low half of the number. -/
lemma fixed_eq (x : Hasher) (v : FixedPoint) :
    x.fixed v.fractional v.integral =
      x.bytes (leIntBytes 4 (v.integral.toInt * 65536 + v.fractional.toNat)) := by
  have hfractional := v.fractional.toNat_lt
  have hlow : v.integral.toInt * 65536 + v.fractional.toNat ≡ v.fractional.toNat
      [ZMOD 256 ^ 2] := Int.modEq_iff_dvd.2 ⟨-v.integral.toInt, by ring⟩
  have hhigh : (v.integral.toInt * 65536 + v.fractional.toNat) / 256 ^ 2 = v.integral.toInt := by
    omega
  rw [fixed, i16_eq, u16_eq, leIntBytes_add 2 2, leIntBytes_inj.2 hlow, hhigh, leIntBytes_natCast,
    bytes_append]

/-- **A typed write is that of its bytes.** -/
lemma write_eq (x : Hasher) (w : Write) : x.write w = x.bytes w.bytes := by
  cases w with
  | u8 v =>
    show x.u8 v = x.bytes (leIntBytes 1 v.toNat)
    rw [leIntBytes_natCast, leBytes, UInt8.ofNat_toNat]
    rfl
  | u16 v =>
    show x.u16 v = x.bytes (leIntBytes 2 v.toNat)
    rw [leIntBytes_natCast, u16_eq]
  | u32 v =>
    show x.u32 v = x.bytes (leIntBytes 4 v.toNat)
    rw [leIntBytes_natCast, u32_eq]
  | u64 v =>
    show x.u64 v = x.bytes (leIntBytes 8 v.toNat)
    rw [leIntBytes_natCast, u64_eq]
  | i16 v => exact x.i16_eq v
  | i32 v => exact x.i32_eq v
  | f32 bits =>
    show x.u32 bits = x.bytes (leIntBytes 4 bits.toNat)
    rw [leIntBytes_natCast, u32_eq]
  | fixed v => exact x.fixed_eq v

lemma writes_eq (x : Hasher) (ws : List Write) :
    x.writes ws = x.bytes (ws.flatMap Write.bytes) := by
  induction ws generalizing x with
  | nil => rfl
  | cons w ws ih =>
    rw [List.flatMap_cons, bytes_append, ← write_eq, ← ih]
    rfl

/-! ## Streams that differ in one place -/

/-- FNV-1a with 64 bits. -/
def fnv1a : MultiplyXor 64 where
  prime := 1099511628211
  byte_le := Nat.le_of_ble_eq_true rfl
  odd := rfl

lemma toBitVec_u8 (x : Hasher) (v : UInt8) :
    (x.u8 v).h.toBitVec = fnv1a.absorb x.h.toBitVec v := by
  show ((x.h ^^^ v.toUInt64) * 1099511628211).toBitVec = _
  rw [UInt64.toBitVec_mul, UInt64.toBitVec_xor, UInt8.toBitVec_toUInt64]
  rfl

lemma toBitVec_bytes (x : Hasher) (stream : List UInt8) :
    (x.bytes stream).h.toBitVec = stream.foldl fnv1a.absorb x.h.toBitVec := by
  induction stream generalizing x with
  | nil => rfl
  | cons b stream ih =>
    rw [List.foldl_cons, ← toBitVec_u8, ← ih]
    rfl

lemma value_bytes_eq_iff (x : Hasher) (stream stream' : List UInt8) :
    (x.bytes stream).value = (x.bytes stream').value ↔
      stream.foldl fnv1a.absorb x.h.toBitVec = stream'.foldl fnv1a.absorb x.h.toBitVec := by
  rw [← toBitVec_bytes, ← toBitVec_bytes, UInt64.toBitVec_inj]
  rfl

/-- Streams that can differ in one byte have the same hash exactly if they are the same. -/
lemma value_eq_iff_of_byte (x : Hasher) (before after : List UInt8) (a b : UInt8) :
    (x.bytes (before ++ a :: after)).value = (x.bytes (before ++ b :: after)).value ↔ a = b := by
  rw [value_bytes_eq_iff]
  exact fnv1a.absorbing.foldl_eq_iff _ before after a b

/-- In the lowest 40 bits the prime is 435. -/
lemma drifts : fnv1a.Drifts 40 435 where
  le := by decide
  prime := by decide
  byte_lt := by decide

/-- Streams that can differ in four adjacent bytes have the same hash exactly if they are the
same. -/
lemma value_eq_iff_of_window (x : Hasher) (before after : List UInt8)
    {window window' : List UInt8} (hlength : window.length = window'.length)
    (hle : window.length ≤ 4) :
    (x.bytes (before ++ window ++ after)).value = (x.bytes (before ++ window' ++ after)).value ↔
      window = window' := by
  have hdrift : MultiplyXor.drift 435 3 + 255 < 2 ^ 40 := by decide
  rw [value_bytes_eq_iff]
  exact MultiplyXor.foldl_eq_iff drifts hdrift _ before after hlength hle

end Hasher

/-- **A difference in one byte is always detected, and typed writes are hashed as the bytes of
their numbers in little endian.** -/
theorem hash_sensitive :
    (∀ (x : Hasher) (p s : List UInt8) (a b : UInt8), a ≠ b →
      (x.bytes (p ++ a :: s)).value ≠ (x.bytes (p ++ b :: s)).value) ∧
    (∀ (x : Hasher) (ws : List Write) (stream : List UInt8), ws.flatMap Write.bytes = stream →
      (x.writes ws).value = (x.bytes stream).value) ∧
    ∀ (x : Hasher) (ws ws' : List Write) (p s : List UInt8) (a b : UInt8), a ≠ b →
      ws.flatMap Write.bytes = p ++ a :: s → ws'.flatMap Write.bytes = p ++ b :: s →
        (x.writes ws).value ≠ (x.writes ws').value := by
  have hbyte : ∀ (x : Hasher) (p s : List UInt8) (a b : UInt8), a ≠ b →
      (x.bytes (p ++ a :: s)).value ≠ (x.bytes (p ++ b :: s)).value := by
    intro x p s a b hne heq
    exact hne ((x.value_eq_iff_of_byte p s a b).1 heq)
  refine ⟨hbyte, ?_, ?_⟩
  · rintro x ws _ rfl
    rw [x.writes_eq]
  · intro x ws ws' p s a b hne hws hws'
    rw [x.writes_eq, x.writes_eq, hws, hws']
    exact hbyte x p s a b hne

/-- The tests of the source: a byte that differs, a number in its bytes, and a fixed-point value
whose integral part differs. -/
theorem hash_sensitive_tested :
    (({} : Hasher).bytes [1, 2, 3]).value ≠ (({} : Hasher).bytes [1, 4, 3]).value ∧
      (({} : Hasher).writes [.u16 0xBEEF]).value = (({} : Hasher).bytes [0xEF, 0xBE]).value ∧
        (({} : Hasher).writes [.u8 7, .fixed ⟨5, -1⟩]).value ≠
          (({} : Hasher).writes [.u8 7, .fixed ⟨5, -2⟩]).value :=
  ⟨hash_sensitive.1 {} [1] [3] 2 4 (by decide), hash_sensitive.2.1 {} _ _ (by decide +kernel),
    hash_sensitive.2.2 {} _ _ [7, 5, 0] [0xFF] 0xFF 0xFE (by decide) (by decide +kernel)
      (by decide +kernel)⟩

example : (({} : Hasher).u8 97).value = 0xaf63dc4c8601ec8c := by decide

/-! ## The values of a battle -/

/-- The least number of the type. -/
def WriteType.least : WriteType → ℤ
  | .u8 | .u16 | .u32 | .u64 | .f32 => 0
  | .i16 => -32768
  | .i32 | .fixed => -2147483648

namespace Write

lemma number_range (w : Write) :
    w.type.least ≤ w.number ∧ w.number < w.type.least + 256 ^ w.type.width := by
  cases w with
  | u8 v =>
    have hv := v.toNat_lt
    simp only [type, number, WriteType.least, WriteType.width]
    omega
  | u16 v =>
    have hv := v.toNat_lt
    simp only [type, number, WriteType.least, WriteType.width]
    omega
  | u32 v =>
    have hv := v.toNat_lt
    simp only [type, number, WriteType.least, WriteType.width]
    omega
  | u64 v =>
    have hv := v.toNat_lt
    simp only [type, number, WriteType.least, WriteType.width]
    omega
  | i16 v =>
    have hle := v.le_toInt
    have hlt := v.toInt_lt
    simp only [type, number, WriteType.least, WriteType.width]
    omega
  | i32 v =>
    have hle := v.le_toInt
    have hlt := v.toInt_lt
    simp only [type, number, WriteType.least, WriteType.width]
    omega
  | f32 bits =>
    have hv := bits.toNat_lt
    simp only [type, number, WriteType.least, WriteType.width]
    omega
  | fixed v =>
    have hle := v.integral.le_toInt
    have hlt := v.integral.toInt_lt
    have hv := v.fractional.toNat_lt
    simp only [type, number, WriteType.least, WriteType.width]
    omega

/-- A write is determined by its type and its number. -/
lemma eq_of_number {w w' : Write} (htype : w.type = w'.type) (h : w.number = w'.number) :
    w = w' := by
  cases w with
  | u8 v =>
    cases w' with
    | u8 v' => exact congrArg u8 (UInt8.toNat_inj.1 (Int.ofNat.inj h))
    | _ => cases htype
  | u16 v =>
    cases w' with
    | u16 v' => exact congrArg u16 (UInt16.toNat_inj.1 (Int.ofNat.inj h))
    | _ => cases htype
  | u32 v =>
    cases w' with
    | u32 v' => exact congrArg u32 (UInt32.toNat_inj.1 (Int.ofNat.inj h))
    | _ => cases htype
  | u64 v =>
    cases w' with
    | u64 v' => exact congrArg u64 (UInt64.toNat_inj.1 (Int.ofNat.inj h))
    | _ => cases htype
  | i16 v =>
    cases w' with
    | i16 v' => exact congrArg i16 (Int16.toInt.inj h)
    | _ => cases htype
  | i32 v =>
    cases w' with
    | i32 v' => exact congrArg i32 (Int32.toInt.inj h)
    | _ => cases htype
  | f32 bits =>
    cases w' with
    | f32 bits' => exact congrArg f32 (UInt32.toNat_inj.1 (Int.ofNat.inj h))
    | _ => cases htype
  | fixed v =>
    cases w' with
    | fixed v' =>
      -- the fractional part is what is left modulo 65536
      have hlt := v.fractional.toNat_lt
      have hlt' := v'.fractional.toNat_lt
      simp only [number] at h
      have hintegral : v.integral = v'.integral := Int16.toInt.inj (by omega)
      have hfractional : v.fractional = v'.fractional := UInt16.toNat_inj.1 (by omega)
      cases v
      cases v'
      cases hintegral
      cases hfractional
      rfl
    | _ => cases htype

/-- A write is determined by its type and its bytes. -/
lemma eq_of_bytes {w w' : Write} (htype : w.type = w'.type) (h : w.bytes = w'.bytes) :
    w = w' := by
  refine eq_of_number htype ?_
  obtain ⟨hle, hlt⟩ := w.number_range
  obtain ⟨hle', hlt'⟩ := w'.number_range
  rw [← htype] at hle' hlt'
  rw [bytes, bytes, ← htype, leIntBytes_inj] at h
  -- the bytes fix the number modulo 256 ^ width, and the range is no larger
  have hzero : w'.number - w.number = 0 := by
    refine Int.eq_zero_of_abs_lt_dvd h.dvd ?_
    rw [abs_lt]
    constructor
    · linarith
    · linarith
  omega

/-- A stream of bytes is read in one way only as values of given types. -/
lemma eq_of_flatMap_bytes {ws ws' : List Write} (htypes : ws.map type = ws'.map type)
    (h : ws.flatMap bytes = ws'.flatMap bytes) : ws = ws' := by
  induction ws generalizing ws' with
  | nil =>
    cases ws' with
    | nil => rfl
    | cons w' ws' => cases htypes
  | cons w ws ih =>
    cases ws' with
    | nil => cases htypes
    | cons w' ws' =>
      obtain ⟨htype, htypes⟩ := List.cons.inj htypes
      have hlength : w.bytes.length = w'.bytes.length := by
        rw [length_bytes, length_bytes, htype]
      -- the types say where the first value ends
      obtain ⟨hw, hws⟩ := List.append_inj h hlength
      rw [eq_of_bytes htype hw, ih htypes hws]

end Write

/-- Writes of a value of at most four bytes that can differ in the value have the same hash exactly
if they are the same. -/
lemma Hasher.value_eq_iff_of_write (x : Hasher) (before after : List Write) {w w' : Write}
    (htype : w.type = w'.type) (hwidth : w.type.width ≤ 4) :
    (x.writes (before ++ w :: after)).value = (x.writes (before ++ w' :: after)).value ↔
      w = w' := by
  have hlength : w.bytes.length = w'.bytes.length := by
    rw [Write.length_bytes, Write.length_bytes, htype]
  have hle : w.bytes.length ≤ 4 := by rwa [Write.length_bytes]
  rw [writes_eq, writes_eq, List.flatMap_append, List.flatMap_append, List.flatMap_cons,
    List.flatMap_cons, ← List.append_assoc, ← List.append_assoc,
    value_eq_iff_of_window x _ _ hlength hle]
  constructor
  · exact Write.eq_of_bytes htype
  · rintro rfl
    rfl

/-- What `ComputeSemanticHashes` reads of the flow of a battle. -/
structure FlowState where
  numFramesSimulated : FixedPoint
  currentBattleFlow : UInt32
  previousBattleFlow : UInt32
  currentBattleFlowSubstate : UInt32
  previousBattleFlowSubstate : UInt32
  currentBattleFlowFrame : FixedPoint
  currentBattleFlowSubstateFrame : FixedPoint
  previousBattleFlowFrame : FixedPoint
  previousBattleFlowSubstateFrame : FixedPoint
deriving DecidableEq, Repr

/-- What it reads of a character. -/
structure CharaState where
  status : UInt32
  currentSide : Int32
  /-- The bits of the four floats of `GetCurrentRootPosition`. -/
  rootPosition : UInt32 × UInt32 × UInt32 × UInt32
  vitalityAmt : FixedPoint
  vitalityMax : FixedPoint
  revengeAmt : FixedPoint
  revengeMax : FixedPoint
  recoverableVitalityAmt : FixedPoint
  recoverableVitalityMax : FixedPoint
  superComboAmt : FixedPoint
  superComboMax : FixedPoint
  scTimeAmt : FixedPoint
  scTimeMax : FixedPoint
  ucTimeAmt : FixedPoint
  ucTimeMax : FixedPoint
  comboDamage : FixedPoint
  damage : FixedPoint
deriving DecidableEq, Repr

/-- What it reads of a battle. -/
structure BattleState where
  flow : FlowState
  chara : CharaState × CharaState
deriving DecidableEq, Repr

/-- The writes of the flow. -/
def FlowState.writes (s : FlowState) : List Write :=
  [.fixed s.numFramesSimulated, .u32 s.currentBattleFlow, .u32 s.previousBattleFlow,
    .u32 s.currentBattleFlowSubstate, .u32 s.previousBattleFlowSubstate,
    .fixed s.currentBattleFlowFrame, .fixed s.currentBattleFlowSubstateFrame,
    .fixed s.previousBattleFlowFrame, .fixed s.previousBattleFlowSubstateFrame]

/-- The writes of a character. -/
def CharaState.writes (s : CharaState) : List Write :=
  [.i32 s.status.toInt32, .i32 s.currentSide, .f32 s.rootPosition.1, .f32 s.rootPosition.2.1,
    .f32 s.rootPosition.2.2.1, .f32 s.rootPosition.2.2.2, .fixed s.vitalityAmt,
    .fixed s.vitalityMax, .fixed s.revengeAmt, .fixed s.revengeMax,
    .fixed s.recoverableVitalityAmt, .fixed s.recoverableVitalityMax, .fixed s.superComboAmt,
    .fixed s.superComboMax, .fixed s.scTimeAmt, .fixed s.scTimeMax, .fixed s.ucTimeAmt,
    .fixed s.ucTimeMax, .fixed s.comboDamage, .fixed s.damage]

/-- The hash of writes, from a new hasher. -/
def hashOf (ws : List Write) : UInt64 := (({} : Hasher).writes ws).value

/-- `ComputeSemanticHashes`. -/
def computeSemanticHashes (src : BattleState) : SemanticHashes :=
  let flow := hashOf src.flow.writes
  let chara := (hashOf src.chara.1.writes, hashOf src.chara.2.writes)
  { overall := hashOf [.u64 flow, .u64 chara.1, .u64 chara.2], flow, chara }

/-! ### What the hashes see -/

/-- Two streams of writes differ in one value. -/
def DifferInOne (ws ws' : List Write) : Prop :=
  ∃ before w w' after, ws = before ++ w :: after ∧ ws' = before ++ w' :: after ∧ w ≠ w'

/-- A difference in one value is seen, if the values have at most four bytes. -/
lemma DifferInOne.hashOf_ne {ws ws' : List Write} (h : DifferInOne ws ws')
    (htypes : ws.map Write.type = ws'.map Write.type)
    (hwidth : ∀ t ∈ ws.map Write.type, t.width ≤ 4) : hashOf ws ≠ hashOf ws' := by
  obtain ⟨before, w, w', after, rfl, rfl, hne⟩ := h
  have hle : w.type.width ≤ 4 :=
    hwidth _ (List.mem_map_of_mem (List.mem_append_right _ List.mem_cons_self))
  rw [List.map_append, List.map_append, List.append_cancel_left_eq, List.map_cons,
    List.map_cons] at htypes
  intro heq
  exact hne ((Hasher.value_eq_iff_of_write {} before after (List.cons.inj htypes).1 hle).1 heq)

namespace FlowState

variable (s s' : FlowState)

lemma types_writes : s.writes.map Write.type = s'.writes.map Write.type := rfl

lemma width_le : ∀ t ∈ s.writes.map Write.type, t.width ≤ 4 := by
  show ∀ t ∈ [WriteType.fixed, .u32, .u32, .u32, .u32, .fixed, .fixed, .fixed, .fixed], t.width ≤ 4
  decide

variable {s s'}

/-- The bytes that are hashed determine the flow. -/
theorem eq_of_bytes (h : s.writes.flatMap Write.bytes = s'.writes.flatMap Write.bytes) :
    s = s' := by
  have hwrites := Write.eq_of_flatMap_bytes (types_writes s s') h
  cases s
  cases s'
  simpa [writes] using hwrites

end FlowState

namespace CharaState

variable (s s' : CharaState)

lemma types_writes : s.writes.map Write.type = s'.writes.map Write.type := rfl

lemma width_le : ∀ t ∈ s.writes.map Write.type, t.width ≤ 4 := by
  show ∀ t ∈ [WriteType.i32, .i32] ++ List.replicate 4 .f32 ++ List.replicate 14 .fixed, t.width ≤ 4
  decide

variable {s s'}

/-- The bytes that are hashed determine the character. -/
theorem eq_of_bytes (h : s.writes.flatMap Write.bytes = s'.writes.flatMap Write.bytes) :
    s = s' := by
  have hwrites := Write.eq_of_flatMap_bytes (types_writes s s') h
  have hstatus : ∀ u v : UInt32, u.toInt32 = v.toInt32 ↔ u = v := by
    intro u v
    exact ⟨congrArg Int32.toUInt32, congrArg UInt32.toInt32⟩
  cases s
  cases s'
  simpa [writes, Prod.ext_iff, hstatus, and_assoc] using hwrites

end CharaState

/-- **States of a battle that differ in one value have different hashes**: of the flow or of the
character that the value belongs to. -/
theorem computeSemanticHashes_ne (src src' : BattleState) :
    (DifferInOne src.flow.writes src'.flow.writes →
      (computeSemanticHashes src).flow ≠ (computeSemanticHashes src').flow) ∧
    (DifferInOne src.chara.1.writes src'.chara.1.writes →
      (computeSemanticHashes src).chara.1 ≠ (computeSemanticHashes src').chara.1) ∧
    (DifferInOne src.chara.2.writes src'.chara.2.writes →
      (computeSemanticHashes src).chara.2 ≠ (computeSemanticHashes src').chara.2) := by
  refine ⟨?_, ?_, ?_⟩
  · intro h
    exact h.hashOf_ne (FlowState.types_writes _ _) src.flow.width_le
  · intro h
    exact h.hashOf_ne (CharaState.types_writes _ _) src.chara.1.width_le
  · intro h
    exact h.hashOf_ne (CharaState.types_writes _ _) src.chara.2.width_le

end StateHash
end Sf4e
