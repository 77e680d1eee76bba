/-
# Types that are written as JSON

A type is written to JSON and read from it by a codec.  The codecs of structures are put together
from those of the members, in the two ways a JSON library offers: a structure of the first kind
cannot be read when a member is missing, and one of the second kind takes the member from a
default.

What a peer receives need not be the value that was written: the members of an object can come in
any order, and a peer built later may have added some.  `Json.Covers` says that a value has
everything that another one has, at every level, and a codec is a pair of conversions of which
the second reads whatever covers what the first has written (`Codec.get_of_covers`).
-/
import Mathlib.Algebra.Group.Int.Defs
import Mathlib.Algebra.Group.Nat.Defs
import Mathlib.Data.List.Forall2
import Mathlib.Data.List.Nodup
import Mathlib.Data.List.OfFn
import Sf4e.Wire.Json

namespace Wire

/-! ## Values with more members -/

namespace Json

/-- The first value is the second one, with the members of objects in any order and with further
members. -/
inductive Covers : Json → Json → Prop
  | null : Covers .null .null
  | bool (b : Bool) : Covers (.bool b) (.bool b)
  | int (n : ℤ) : Covers (.int n) (.int n)
  | float (whole : ℤ) : Covers (.float whole) (.float whole)
  | str (s : Text) : Covers (.str s) (.str s)
  | arr {elems' elems : List Json} (h : List.Forall₂ Covers elems' elems) :
      Covers (.arr elems') (.arr elems)
  | obj {members' members : List (String × Json)} (member : String → Json)
      (hlookup : ∀ key v, members.lookup key = some v → members'.lookup key = some (member key))
      (hcovers : ∀ key v, members.lookup key = some v → Covers (member key) v) :
      Covers (.obj members') (.obj members)

lemma mem_of_lookup {members : List (String × Json)} {key : String} {j : Json}
    (h : members.lookup key = some j) : (key, j) ∈ members := by
  induction members with
  | nil => exact absurd h (Option.some_ne_none j).symm
  | cons m members ih =>
    rw [List.lookup_cons] at h
    split at h
    · next heq =>
      obtain rfl := Option.some.inj h
      rw [eq_of_beq heq]
      exact List.mem_cons_self
    · exact List.mem_cons_of_mem _ (ih h)

/-- A value covers itself. -/
theorem Covers.refl : (j : Json) → Covers j j
  | .null => .null
  | .bool b => .bool b
  | .int n => .int n
  | .float whole => .float whole
  | .str s => .str s
  | .arr elems => .arr (List.forall₂_same.2 fun j _ => Covers.refl j)
  | .obj members =>
    .obj (fun key => (members.lookup key).getD .null) (fun key v h => by rw [h]; rfl)
      fun key v h => by
        have hmem := mem_of_lookup h
        rw [h]
        exact Covers.refl v
termination_by j => sizeOf j
decreasing_by
  · have := List.sizeOf_lt_of_mem (by assumption : j ∈ elems)
    simp only [Json.arr.sizeOf_spec]
    omega
  · have := List.sizeOf_lt_of_mem hmem
    simp only [Json.obj.sizeOf_spec, Prod.mk.sizeOf_spec] at this ⊢
    omega

/-- A member of the second value has its counterpart in the first. -/
lemma Covers.member {j : Json} {members : List (String × Json)} (h : j.Covers (.obj members))
    {key : String} {v : Json} (hv : members.lookup key = some v) :
    ∃ v', j.member? key = some v' ∧ v'.Covers v := by
  cases h with
  | obj member hlookup hcovers => exact ⟨member key, hlookup key v hv, hcovers key v hv⟩

lemma Covers.isObject {j : Json} {members : List (String × Json)} (h : j.Covers (.obj members)) :
    j.isObject = true := by
  cases h with
  | obj => rfl

/-- A member that is kept by a choice of keys. -/
lemma lookup_filter {members : List (String × Json)} {key : String} {v : Json}
    {present : String → Bool} (h : members.lookup key = some v) (hpresent : present key = true) :
    (members.filter fun m => present m.1).lookup key = some v := by
  induction members with
  | nil => exact h
  | cons m members ih =>
    rw [List.lookup_cons] at h
    rw [List.filter_cons]
    split at h
    · next heq =>
      have hm : present m.1 = true := by
        rw [← eq_of_beq heq]
        exact hpresent
      rw [if_pos hm, List.lookup_cons, heq]
      exact h
    · next hne =>
      split
      · rw [List.lookup_cons, hne]
        exact ih h
      · exact ih h

/-- `at(key).get_to(field)`. -/
def read {α : Type} (get : Json → Option α) (j : Json) (key : String) : Option α :=
  (j.member? key).bind get

lemma value_of_member {α : Type} {get : Json → Option α} {j v : Json} {key : String}
    (h : j.member? key = some v) (fallback : α) : j.value get key fallback = get v := by
  cases j with
  | obj members => rw [value_obj, show members.lookup key = some v from h]; rfl
  | null | bool | int | float | str | arr => exact absurd h (Option.some_ne_none v).symm

lemma value_of_not_member {α : Type} {get : Json → Option α} {j : Json} {key : String}
    (hobj : j.isObject = true) (h : j.member? key = none) (fallback : α) :
    j.value get key fallback = some fallback := by
  cases j with
  | obj members => rw [value_obj, show members.lookup key = none from h]; rfl
  | null | bool | int | float | str | arr => exact absurd hobj Bool.false_ne_true

end Json

/-! ## Codecs -/

/-- A type with its form in JSON. -/
structure Codec (α : Type) where
  /-- The conversion to JSON. -/
  toJson : α → Json
  /-- The conversion from JSON; `none` is an exception. -/
  get : Json → Option α
  /-- The values that the program's type has. -/
  Fits : α → Prop
  /-- What the peer makes of a value: a part of it may stay behind. -/
  seen : α → α
  /-- What covers a written value is read as the value. -/
  get_of_covers : ∀ {a j}, Fits a → j.Covers (toJson a) → get j = some (seen a)
  /-- Every string that is written is UTF-8. -/
  isUtf8 : ∀ a, ∀ s ∈ (toJson a).strings, IsUtf8 s

namespace Codec

variable {α : Type}

/-- A value that is serialised arrives as it is. -/
lemma dump_toJson (c : Codec α) (a : α) : (c.toJson a).dump = some (c.toJson a) :=
  Json.dump_eq_some (c.isUtf8 a)

/-- **Round trip.** -/
theorem get_toJson (c : Codec α) {a : α} (h : c.Fits a) : c.get (c.toJson a) = some (c.seen a) :=
  c.get_of_covers h (.refl _)

/-- Numbers, by the conversions between the type and the integers. -/
def number (toInt : α → ℤ) (ofInt : ℤ → α) (Fits : α → Prop)
    (h : ∀ a, Fits a → ofInt (toInt a) = a) : Codec α where
  toJson a := .int (toInt a)
  get j := j.toInt.map ofInt
  Fits := Fits
  seen := id
  get_of_covers {a j} hfits hj := by
    cases hj
    exact congrArg some (h a hfits)
  isUtf8 _ _ hs := absurd hs List.not_mem_nil

lemma uint8_ofInt_toNat (n : UInt8) : UInt8.ofInt n.toNat = n := by
  have hmod : ((n.toNat : ℤ) % 2 ^ 8).toNat = n.toNat := by
    have := n.toNat_lt
    omega
  rw [UInt8.ofInt, hmod, UInt8.ofNat_toNat]

lemma uint16_ofInt_toNat (n : UInt16) : UInt16.ofInt n.toNat = n := by
  have hmod : ((n.toNat : ℤ) % 2 ^ 16).toNat = n.toNat := by
    have := n.toNat_lt
    omega
  rw [UInt16.ofInt, hmod, UInt16.ofNat_toNat]

lemma uint32_ofInt_toNat (n : UInt32) : UInt32.ofInt n.toNat = n := by
  have hmod : ((n.toNat : ℤ) % 2 ^ 32).toNat = n.toNat := by
    have := n.toNat_lt
    omega
  rw [UInt32.ofInt, hmod, UInt32.ofNat_toNat]

/-- `uint8_t` -/
def uint8 : Codec UInt8 :=
  number (fun n => n.toNat) .ofInt (fun _ => True) fun n _ => uint8_ofInt_toNat n

/-- `uint16_t` -/
def uint16 : Codec UInt16 :=
  number (fun n => n.toNat) .ofInt (fun _ => True) fun n _ => uint16_ofInt_toNat n

/-- `uint32_t` -/
def uint32 : Codec UInt32 :=
  number (fun n => n.toNat) .ofInt (fun _ => True) fun n _ => uint32_ofInt_toNat n

/-- `int16_t` -/
def int16 : Codec Int16 :=
  number Int16.toInt .ofInt (fun _ => True) fun n _ => Int16.ofInt_toInt n

/-- `int32_t` -/
def int32 : Codec Int32 :=
  number Int32.toInt .ofInt (fun _ => True) fun n _ => Int32.ofInt_toInt n

/-- The number of a JSON value, for the types that the library keeps numbers in: there a boolean is
no number. -/
def toWide : Json → Option ℤ
  | .int n => some n
  | .float whole => some whole
  | _ => none

/-- `int64_t`, as an integer. -/
def int64 : Codec ℤ where
  toJson n := .int n
  get j := (toWide j).map fun n => n.bmod (2 ^ 64)
  Fits n := -2 ^ 63 ≤ n ∧ n < 2 ^ 63
  seen := id
  get_of_covers {n j} hfits hj := by
    cases hj
    exact congrArg some (Int.bmod_eq_of_le (by omega) (by omega))
  isUtf8 _ _ hs := absurd hs List.not_mem_nil

lemma uint64_ofInt_toNat (n : UInt64) : UInt64.ofInt n.toNat = n := by
  have hmod : ((n.toNat : ℤ) % 2 ^ 64).toNat = n.toNat := by
    have := n.toNat_lt
    omega
  rw [UInt64.ofInt, hmod, UInt64.ofNat_toNat]

/-- `uint64_t` -/
def uint64 : Codec UInt64 where
  toJson n := .int n.toNat
  get j := (toWide j).map .ofInt
  Fits _ := True
  seen := id
  get_of_covers {n j} _ hj := by
    cases hj
    exact congrArg some (uint64_ofInt_toNat n)
  isUtf8 _ _ hs := absurd hs List.not_mem_nil

/-- `bool` -/
def flag : Codec Bool where
  toJson b := .bool b
  get := Json.toBool
  Fits _ := True
  seen := id
  get_of_covers _ hj := by
    cases hj
    rfl
  isUtf8 _ _ hs := absurd hs List.not_mem_nil

/-- The string of some bytes.  A string of a value that was parsed is UTF-8. -/
def ofBytes (t : Text) : String := (String.fromUTF8? t.toByteArray).getD ""

lemma ofBytes_utf8 (s : String) : ofBytes (utf8 s.toList) = s := by
  have harray : (utf8 s.toList).toByteArray = s.toByteArray := String.utf8Encode_toList
  have hvalid : s.toByteArray.IsValidUTF8 := s.isValidUTF8
  rw [ofBytes, harray, String.fromUTF8?, dif_pos hvalid]
  rfl

/-- `std::string` -/
def string : Codec String where
  toJson s := .str (utf8 s.toList)
  get j := j.toText.map ofBytes
  Fits _ := True
  seen := id
  get_of_covers {s j} _ hj := by
    cases hj
    exact congrArg some (ofBytes_utf8 s)
  isUtf8 s t ht := by
    rw [List.mem_singleton.1 ht]
    exact isUtf8_utf8 _

/-- An enumeration whose values are written as names.  Reading does not fail: what is no name is
read like some value, too. -/
def enum (name : α → String) (ofName : Option String → α) (h : ∀ a, ofName (some (name a)) = a) :
    Codec α where
  toJson a := .str (utf8 (name a).toList)
  get j := some (ofName (j.toText.map ofBytes))
  Fits _ := True
  seen := id
  get_of_covers {a j} _ hj := by
    cases hj
    rw [Json.toText, Option.map_some, ofBytes_utf8, h]
    rfl
  isUtf8 a t ht := by
    rw [List.mem_singleton.1 ht]
    exact isUtf8_utf8 _

/-! ### Lists -/

lemma mem_elemStrings {elems : List Json} {s : Text} :
    s ∈ Json.elemStrings elems ↔ ∃ j ∈ elems, s ∈ j.strings := by
  induction elems with
  | nil => exact ⟨fun h => absurd h List.not_mem_nil, fun ⟨_, h, _⟩ => absurd h List.not_mem_nil⟩
  | cons j elems ih => simp only [Json.elemStrings, List.mem_append, ih, List.exists_mem_cons_iff]

/-- A list is read element by element. -/
lemma mapM_get_of_covers (c : Codec α) {as : List α} {elems : List Json}
    (hfits : ∀ a ∈ as, c.Fits a) (h : List.Forall₂ Json.Covers elems (as.map c.toJson)) :
    elems.mapM c.get = some (as.map c.seen) := by
  induction as generalizing elems with
  | nil =>
    obtain rfl := List.forall₂_nil_right_iff.1 h
    rfl
  | cons a as ih =>
    obtain ⟨j, rest, hj, hrest, rfl⟩ := List.forall₂_cons_right_iff.1 h
    obtain ⟨ha, has⟩ := List.forall_mem_cons.1 hfits
    rw [List.mapM_cons, c.get_of_covers ha hj, ih has hrest]
    rfl

/-- `std::vector` -/
def vector (c : Codec α) : Codec (List α) where
  toJson as := .arr (as.map c.toJson)
  get j :=
    match j with
    | .arr elems => elems.mapM c.get
    | _ => none
  Fits as := ∀ a ∈ as, c.Fits a
  seen as := as.map c.seen
  get_of_covers hfits hj := by
    cases hj with
    | arr h => exact c.mapM_get_of_covers hfits h
  isUtf8 as s hs := by
    obtain ⟨j, hj, hs⟩ := mem_elemStrings.1 hs
    obtain ⟨a, -, rfl⟩ := List.mem_map.1 hj
    exact c.isUtf8 a s hs

/-- A table all of whose entries could be read. -/
def sequence {n : ℕ} (f : Fin n → Option α) : Option (Fin n → α) :=
  if h : ∀ i, (f i).isSome = true then some fun i => (f i).get (h i) else none

lemma sequence_eq_some {n : ℕ} {f : Fin n → Option α} {a : Fin n → α} (h : ∀ i, f i = some (a i)) :
    sequence f = some a := by
  have hsome : ∀ i, (f i).isSome = true := fun i => by rw [h i]; rfl
  rw [sequence, dif_pos hsome]
  exact congrArg some (funext fun i => by simp only [h, Option.get_some])

/-- An array of a fixed length; what follows its elements is not looked at. -/
def array (n : ℕ) (c : Codec α) : Codec (Fin n → α) where
  toJson a := .arr (List.ofFn fun i => c.toJson (a i))
  get j :=
    match j with
    | .arr elems => sequence fun i => elems[i.val]?.bind c.get
    | _ => none
  Fits a := ∀ i, c.Fits (a i)
  seen a i := c.seen (a i)
  get_of_covers {a j} hfits hj := by
    cases hj with
    | arr h =>
      rename_i elems
      refine sequence_eq_some fun i => ?_
      have hlength : elems.length = n := h.length_eq.trans List.length_ofFn
      have hi : i.val < elems.length := hlength ▸ i.isLt
      have hcovers := h.get hi (by simp)
      rw [List.get_ofFn] at hcovers
      rw [List.getElem?_eq_getElem hi]
      exact c.get_of_covers (hfits i) hcovers
  isUtf8 a s hs := by
    obtain ⟨j, hj, hs⟩ := mem_elemStrings.1 hs
    obtain ⟨i, rfl⟩ := (List.mem_ofFn' _ _).1 hj
    exact c.isUtf8 (a i) s hs

end Codec

/-! ## Structures -/

/-- One value of each type. -/
def Tuple : List Type → Type
  | [] => Unit
  | β :: βs => β × Tuple βs

/-- The members of a structure: their keys and their types. -/
inductive Fields : List Type → Type 1
  | nil : Fields []
  | cons {β : Type} {βs : List Type} (key : String) (codec : Codec β) (rest : Fields βs) :
      Fields (β :: βs)

namespace Fields

variable {βs : List Type}

/-- The keys, in the order of the members. -/
def keys : {βs : List Type} → Fields βs → List String
  | _, .nil => []
  | _, .cons key _ rest => key :: rest.keys

/-- Every member is written under its key. -/
def write : {βs : List Type} → Fields βs → Tuple βs → List (String × Json)
  | _, .nil, _ => []
  | _, .cons key codec rest, (b, t) => (key, codec.toJson b) :: rest.write t

/-- Every member is read from its key; a missing member is an exception. -/
def read : {βs : List Type} → Fields βs → Json → Option (Tuple βs)
  | _, .nil, _ => some ()
  | _, .cons key codec rest, j => do
    let b ← j.read codec.get key
    let t ← rest.read j
    return (b, t)

/-- Every member is read from its key; a missing member is taken from the default. -/
def readWithDefault : {βs : List Type} → Fields βs → Json → Tuple βs → Option (Tuple βs)
  | _, .nil, _, _ => some ()
  | _, .cons key codec rest, j, (b, t) => do
    let b ← j.value codec.get key b
    let t ← rest.readWithDefault j t
    return (b, t)

/-- Every member is a value of its type. -/
def Fits : {βs : List Type} → Fields βs → Tuple βs → Prop
  | _, .nil, _ => True
  | _, .cons _ codec rest, (b, t) => codec.Fits b ∧ rest.Fits t

/-- The members as the peer sees them. -/
def seen : {βs : List Type} → Fields βs → Tuple βs → Tuple βs
  | _, .nil, _ => ()
  | _, .cons _ codec rest, (b, t) => (codec.seen b, rest.seen t)

/-- The members with the given keys of the first tuple, and the others of the second. -/
def select (present : String → Bool) :
    {βs : List Type} → Fields βs → Tuple βs → Tuple βs → Tuple βs
  | _, .nil, _, _ => ()
  | _, .cons key _ rest, (b, t), (b', t') =>
    (if present key then b else b', rest.select present t t')

lemma lookup_write_of_notMem (F : Fields βs) (t : Tuple βs) {key : String} (h : key ∉ F.keys) :
    (F.write t).lookup key = none := by
  induction F with
  | nil => rfl
  | cons key' codec rest ih =>
    obtain ⟨b, t⟩ := t
    rw [keys, List.mem_cons, not_or] at h
    rw [write, List.lookup_cons, show (key == key') = false from beq_false_of_ne h.1]
    exact ih t h.2

/-- The keys and values of a structure that has been written, in a form for an induction on the
members. -/
def Written (j : Json) : {βs : List Type} → Fields βs → Tuple βs → Prop
  | _, .nil, _ => True
  | _, .cons key codec rest, (b, t) =>
    (∃ v, j.member? key = some v ∧ v.Covers (codec.toJson b)) ∧ rest.Written j t

lemma written_of_lookup {j : Json} (F : Fields βs) (t : Tuple βs) (hkeys : F.keys.Nodup)
    (h : ∀ key v, (F.write t).lookup key = some v → ∃ v', j.member? key = some v' ∧ v'.Covers v) :
    F.Written j t := by
  induction F with
  | nil => exact trivial
  | cons key codec rest ih =>
    obtain ⟨b, t⟩ := t
    rw [keys, List.nodup_cons] at hkeys
    refine ⟨h key _ ?_, ih t hkeys.2 fun key' v hv => h key' v ?_⟩
    · rw [write, List.lookup_cons, beq_self_eq_true]
    · have hne : key' ≠ key := by
        rintro rfl
        rw [rest.lookup_write_of_notMem t hkeys.1] at hv
        exact Option.some_ne_none v hv.symm
      rw [write, List.lookup_cons, show (key' == key) = false from beq_false_of_ne hne]
      exact hv

lemma read_of_written {j : Json} (F : Fields βs) {t : Tuple βs} (hfits : F.Fits t)
    (h : F.Written j t) : F.read j = some (F.seen t) := by
  induction F with
  | nil => rfl
  | cons key codec rest ih =>
    obtain ⟨b, t⟩ := t
    obtain ⟨⟨v, hv, hcovers⟩, h⟩ := h
    rw [read, Json.read, hv, Option.bind_some, codec.get_of_covers hfits.1 hcovers, ih hfits.2 h]
    rfl

lemma readWithDefault_of_written {j : Json} (F : Fields βs) {t : Tuple βs} (hfits : F.Fits t)
    (h : F.Written j t) (default : Tuple βs) :
    F.readWithDefault j default = some (F.seen t) := by
  induction F with
  | nil => rfl
  | cons key codec rest ih =>
    obtain ⟨b, t⟩ := t
    obtain ⟨⟨v, hv, hcovers⟩, h⟩ := h
    obtain ⟨b', default⟩ := default
    rw [readWithDefault, Json.value_of_member hv, codec.get_of_covers hfits.1 hcovers,
      ih hfits.2 h]
    rfl

/-- **Older peers.** A peer that does not know some members leaves them out, and the reader takes
them from the default. -/
theorem readWithDefault_of_older {j : Json} (F : Fields βs) {t : Tuple βs} (hfits : F.Fits t)
    (hkeys : F.keys.Nodup) (present : String → Bool)
    (hcovers : j.Covers (.obj ((F.write t).filter fun m => present m.1)))
    (habsent : ∀ key ∈ F.keys, present key = false → j.member? key = none)
    (default : Tuple βs) :
    F.readWithDefault j default = some (F.select present (F.seen t) default) := by
  have hobj := hcovers.isObject
  have hmember : ∀ key v, (F.write t).lookup key = some v → present key = true →
      ∃ v', j.member? key = some v' ∧ v'.Covers v := fun key v hv hpresent =>
    hcovers.member (Json.lookup_filter hv hpresent)
  clear hcovers
  induction F with
  | nil => rfl
  | cons key codec rest ih =>
    obtain ⟨b, t⟩ := t
    obtain ⟨b', default⟩ := default
    rw [keys, List.nodup_cons] at hkeys
    have hrest := ih hfits.2 hkeys.2
      (fun key' hkey' => habsent key' (List.mem_cons_of_mem _ hkey')) default
      fun key' v hv => hmember key' v (by
        have hne : key' ≠ key := by
          rintro rfl
          rw [rest.lookup_write_of_notMem t hkeys.1] at hv
          exact Option.some_ne_none v hv.symm
        rw [write, List.lookup_cons, show (key' == key) = false from beq_false_of_ne hne]
        exact hv)
    rw [readWithDefault, seen, select, hrest]
    by_cases hp : present key = true
    · obtain ⟨v, hv, hcovers⟩ := hmember key (codec.toJson b)
        (by rw [write, List.lookup_cons, beq_self_eq_true]) hp
      rw [Json.value_of_member hv, codec.get_of_covers hfits.1 hcovers, if_pos hp]
      rfl
    · rw [Bool.not_eq_true] at hp
      rw [Json.value_of_not_member hobj (habsent key List.mem_cons_self hp), hp]
      rfl

lemma isUtf8_of_mem_write (F : Fields βs) (t : Tuple βs) {s : Text}
    (h : s ∈ Json.memberStrings (F.write t)) : IsUtf8 s := by
  induction F with
  | nil => exact absurd h List.not_mem_nil
  | cons key codec rest ih =>
    obtain ⟨b, t⟩ := t
    rw [write, Json.memberStrings, List.mem_append] at h
    exact h.elim (codec.isUtf8 b s) (ih t)

end Fields

namespace Codec

variable {α : Type} {βs : List Type}

/-- A structure all of whose members have to be there. -/
def record (F : Fields βs) (hkeys : F.keys.Nodup) (parts : α → Tuple βs) (of : Tuple βs → α) :
    Codec α where
  toJson a := .obj (F.write (parts a))
  get j := (F.read j).map of
  Fits a := F.Fits (parts a)
  seen a := of (F.seen (parts a))
  get_of_covers hfits hj :=
    congrArg (Option.map of)
      (F.read_of_written hfits (F.written_of_lookup _ hkeys fun _ _ hv => hj.member hv))
  isUtf8 a _ hs := F.isUtf8_of_mem_write (parts a) hs

/-- A structure whose missing members are taken from a default. -/
def recordWithDefault (F : Fields βs) (hkeys : F.keys.Nodup) (parts : α → Tuple βs)
    (of : Tuple βs → α) (default : α) : Codec α where
  toJson a := .obj (F.write (parts a))
  get j := (F.readWithDefault j (parts default)).map of
  Fits a := F.Fits (parts a)
  seen a := of (F.seen (parts a))
  get_of_covers hfits hj :=
    congrArg (Option.map of)
      (F.readWithDefault_of_written hfits
        (F.written_of_lookup _ hkeys fun _ _ hv => hj.member hv) _)
  isUtf8 a _ hs := F.isUtf8_of_mem_write (parts a) hs

end Codec
end Wire
