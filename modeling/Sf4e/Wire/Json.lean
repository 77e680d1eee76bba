/-
# JSON values

The values of a JSON library in the manner of `nlohmann::json`: a value is read into a type of
the program by a conversion that throws when the value has another type, and members are read
with a default for members that are missing.  Serialising throws when a string is not UTF-8;
otherwise the text is parsed as the value that it was made from.

`none` is a thrown exception.
-/
import Mathlib.Data.Int.Notation
import Mathlib.Data.List.Basic
import Sf4e.Wire.Utf8

namespace Wire

/-- A value. -/
inductive Json
  | null
  | bool (b : Bool)
  /-- An integer, of 64 bits. -/
  | int (n : ℤ)
  /-- A number with a fraction or an exponent, by its integer part; nothing else of it is ever
  looked at. -/
  | float (whole : ℤ)
  | str (s : Text)
  | arr (elems : List Json)
  /-- The members, by their keys. -/
  | obj (members : List (String × Json))

namespace Json

/-! ## Conversions -/

/-- `is_object()`. -/
def isObject : Json → Bool
  | .obj _ => true
  | _ => false

/-- The member of the key, if this is an object and has one. -/
def member? (j : Json) (key : String) : Option Json :=
  match j with
  | .obj members => members.lookup key
  | _ => none

/-- `contains(key)`. -/
def contains (j : Json) (key : String) : Bool := (j.member? key).isSome

/-- `get<int>()` and `get<uint32_t>()`, before the number is cut to 32 bits.  A boolean is a
number.  What becomes of a float that does not fit is left open by C++; here it is cut, too. -/
def toInt : Json → Option ℤ
  | .bool b => some b.toNat
  | .int n => some n
  | .float whole => some whole
  | _ => none

/-- `get<bool>()`.  A number is no boolean. -/
def toBool : Json → Option Bool
  | .bool b => some b
  | _ => none

/-- `get<std::string>()`. -/
def toText : Json → Option Text
  | .str s => some s
  | _ => none

/-- `value(key, fallback)`, converted by `get`. -/
def value {α : Type} (get : Json → Option α) (j : Json) (key : String) (fallback : α) : Option α :=
  match j with
  | .obj members =>
    match members.lookup key with
    | some v => get v
    | none => some fallback
  | _ => none

section value

variable {α : Type} {get : Json → Option α} {key : String} {fallback : α}

lemma value_obj (members : List (String × Json)) :
    (Json.obj members).value get key fallback =
      ((members.lookup key).map get).getD (some fallback) := by
  rw [value]
  cases members.lookup key <;> rfl

end value

/-! ## Serialising -/

mutual

/-- Every string in the value. -/
def strings : Json → List Text
  | .str s => [s]
  | .arr elems => elemStrings elems
  | .obj members => memberStrings members
  | _ => []

/-- Every string in the elements. -/
def elemStrings : List Json → List Text
  | [] => []
  | j :: js => strings j ++ elemStrings js

/-- Every string in the members. -/
def memberStrings : List (String × Json) → List Text
  | [] => []
  | (_, j) :: members => strings j ++ memberStrings members

end

/-- `dump()`, as the value that its text is parsed as. -/
def dump (j : Json) : Option Json := if ∀ s ∈ j.strings, IsUtf8 s then some j else none

lemma dump_eq_some {j : Json} (h : ∀ s ∈ j.strings, IsUtf8 s) : j.dump = some j := if_pos h

lemma dump_eq_none_iff {j : Json} : j.dump = none ↔ ¬ ∀ s ∈ j.strings, IsUtf8 s := by
  rw [dump]
  split
  · next h => exact ⟨fun h' => absurd h' (Option.some_ne_none _), fun h' => absurd h h'⟩
  · next h => exact ⟨fun _ => h, fun _ => rfl⟩

end Json

/-! ## Files -/

/-- A file for one value, in a folder. -/
structure JsonFile where
  /-- The folder is there. -/
  folder : Bool
  /-- The file can be opened for writing. -/
  writable : Bool
  /-- What the file holds, if there is one: a value, or something else. -/
  stored : Option (Option Json)

/-- Where a save ends. -/
inductive Saved
  /-- It returns `false`. -/
  | failed
  /-- It returns `true`. -/
  | done
  /-- The serialisation throws. -/
  | threw
deriving DecidableEq

namespace JsonFile

/-- The content of the file, if it can be read. -/
def content (file : JsonFile) : Option (Option Json) := if file.folder then file.stored else none

/-- The file is opened, which empties it, and the serialised value is written. -/
def save (file : JsonFile) (j : Json) : JsonFile × Saved :=
  if file.folder ∧ file.writable then
    match j.dump with
    | some j => ({ file with stored := some (some j) }, .done)
    | none => ({ file with stored := some none }, .threw)
  else (file, .failed)

variable {file : JsonFile} {j : Json}

lemma save_failed (h : ¬ (file.folder ∧ file.writable)) : file.save j = (file, .failed) := if_neg h

lemma save_done (h : file.folder ∧ file.writable) (hutf8 : ∀ s ∈ j.strings, IsUtf8 s) :
    file.save j = ({ file with stored := some (some j) }, .done) := by
  rw [save, if_pos h, Json.dump_eq_some hutf8]

lemma save_threw (h : file.folder ∧ file.writable) (hutf8 : ¬ ∀ s ∈ j.strings, IsUtf8 s) :
    file.save j = ({ file with stored := some none }, .threw) := by
  rw [save, if_pos h, Json.dump_eq_none_iff.2 hutf8]

/-- A save throws nowhere exactly if the strings are UTF-8. -/
lemma save_ne_threw_iff : (∀ file : JsonFile, (file.save j).2 ≠ .threw) ↔
    ∀ s ∈ j.strings, IsUtf8 s := by
  constructor
  · intro h
    by_contra hutf8
    exact h ⟨true, true, none⟩ (congrArg Prod.snd (save_threw ⟨rfl, rfl⟩ hutf8))
  · intro hutf8 file
    by_cases hopen : file.folder ∧ file.writable
    · rw [save_done hopen hutf8]
      exact Saved.noConfusion
    · rw [save_failed hopen]
      exact Saved.noConfusion

/-- A save that fails without an exception leaves the file as it was. -/
lemma save_intact (hutf8 : ∀ s ∈ j.strings, IsUtf8 s) (hfailed : (file.save j).2 ≠ .done) :
    (file.save j).1 = file := by
  by_cases hopen : file.folder ∧ file.writable
  · exact absurd (congrArg Prod.snd (save_done hopen hutf8)) hfailed
  · rw [save_failed hopen]

end JsonFile
end Wire
