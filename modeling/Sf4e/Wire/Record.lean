/-
# Records that are read from JSON field by field

A program reads the members of a JSON object one after another into the fields of a structure.
A member that is missing leaves a fallback, and a member of the wrong type ends the reading with
an exception: the fields that were read before keep their new values.  So a reading that fails
leaves the structure as it was exactly if the members before the first ill-typed one say nothing
new (`readAll_unchanged_iff`).
-/
import Mathlib.Logic.Function.Basic
import Sf4e.Wire.Json

namespace Wire

/-! ## The types of fields -/

/-- The types that fields have. -/
inductive Kind
  /-- `uint8_t` -/
  | byte
  /-- `uint16_t` -/
  | word
  /-- `int` -/
  | int
  /-- `uint32_t` -/
  | uint
  /-- `bool` -/
  | flag
  /-- `char[room + 1]` -/
  | text (room : ℕ)
deriving DecidableEq

namespace Kind

/-- The values of a type. -/
def Value : Kind → Type
  | .byte => UInt8
  | .word => UInt16
  | .int => Int32
  | .uint => UInt32
  | .flag => Bool
  | .text room => CString (room + 1)

/-- `get<int>()`. -/
def toInt32 (j : Json) : Option Int32 := j.toInt.map Int32.ofInt

/-- `get<uint32_t>()`. -/
def toUInt32 (j : Json) : Option UInt32 := j.toInt.map UInt32.ofInt

/-- The conversion of a JSON value to the type; numbers are cut to their size, texts to the size
of the array. -/
def get : (k : Kind) → Json → Option k.Value
  | .byte, j => (toInt32 j).map fun n => n.toInt8.toUInt8
  | .word, j => (toInt32 j).map fun n => n.toInt16.toUInt16
  | .int, j => toInt32 j
  | .uint, j => toUInt32 j
  | .flag, j => j.toBool
  | .text room, j => j.toText.map (CString.copy (room + 1) (Nat.succ_pos room))

/-- How a value is written. -/
def toJson : (k : Kind) → k.Value → Json
  | .byte, (b : UInt8) => .int b.toNat
  | .word, (w : UInt16) => .int w.toNat
  | .int, (n : Int32) => .int n.toInt
  | .uint, (n : UInt32) => .int n.toNat
  | .flag, (b : Bool) => .bool b
  | .text _, s => .str (CString.bytes s)

/-- What is written is read back. -/
theorem get_toJson (k : Kind) (v : k.Value) : k.get (k.toJson v) = some v := by
  cases k with
  | byte =>
    have hcast : ∀ b : UInt8, (Int32.ofInt b.toNat).toInt8.toUInt8 = b := by
      intro b
      rw [Int32.ofInt_eq_ofNat, Int32.toInt8_ofNat', Int8.toUInt8_ofNat', UInt8.ofNat_toNat]
    exact congrArg some (hcast v)
  | word =>
    have hcast : ∀ w : UInt16, (Int32.ofInt w.toNat).toInt16.toUInt16 = w := by
      intro w
      rw [Int32.ofInt_eq_ofNat, Int32.toInt16_ofNat', Int16.toUInt16_ofNat', UInt16.ofNat_toNat]
    exact congrArg some (hcast v)
  | int => exact congrArg some (Int32.ofInt_toInt v)
  | uint =>
    have hcast : ∀ n : UInt32, UInt32.ofInt n.toNat = n := by
      intro n
      have hlt := n.toNat_lt
      have hmod : ((n.toNat : ℤ) % 2 ^ 32).toNat = n.toNat := by omega
      rw [UInt32.ofInt, hmod, UInt32.ofNat_toNat]
    exact congrArg some (hcast v)
  | flag => rfl
  | text room => exact congrArg some (CString.copy_bytes_self _ v)

end Kind

/-! ## Reading a record -/

/-- A structure whose fields have the types. -/
abbrev Record {F : Type} (kind : F → Kind) : Type := (f : F) → (kind f).Value

/-- A member that is read into a field. -/
structure Entry (F : Type) where
  /-- The object that has the member. -/
  obj : Json
  key : String
  field : F

variable {F : Type} {kind : F → Kind}

namespace Entry

/-- What is read: the member, or the fallback if there is none. -/
def read (kind : F → Kind) (e : Entry F) (fallback : (kind e.field).Value) :
    Option (kind e.field).Value :=
  e.obj.value (kind e.field).get e.key fallback

/-- The reading throws: there is no object, or the member has another type. -/
def IllTyped (kind : F → Kind) (e : Entry F) : Prop := ∀ fallback, e.read kind fallback = none

/-- Whether the reading throws does not depend on the fallback. -/
lemma illTyped_of_read_eq_none {e : Entry F} {fallback : (kind e.field).Value}
    (h : e.read kind fallback = none) : e.IllTyped kind := by
  intro fallback'
  rw [read] at h ⊢
  cases hobj : e.obj with
  | obj members =>
    rw [hobj, Json.value_obj] at h
    rw [Json.value_obj]
    cases hmember : members.lookup e.key with
    | none =>
      rw [hmember] at h
      exact absurd h (Option.some_ne_none _)
    | some j =>
      rw [hmember] at h
      exact h
  | null | bool | int | float | str | arr => rfl

end Entry

/-- A list without ill-typed members, or the first ill-typed one. -/
lemma exists_first_illTyped (kind : F → Kind) (es : List (Entry F)) :
    (∀ e ∈ es, ¬ e.IllTyped kind) ∨
      ∃ pre e post, es = pre ++ e :: post ∧ (∀ q ∈ pre, ¬ q.IllTyped kind) ∧
        e.IllTyped kind := by
  induction es with
  | nil => exact .inl fun _ h => absurd h List.not_mem_nil
  | cons e es ih =>
    by_cases he : e.IllTyped kind
    · exact .inr ⟨[], e, es, rfl, fun _ h => absurd h List.not_mem_nil, he⟩
    · obtain hall | ⟨pre, q, post, rfl, hpre, hq⟩ := ih
      · exact .inl (List.forall_mem_cons.2 ⟨he, hall⟩)
      · exact .inr ⟨e :: pre, q, post, rfl, List.forall_mem_cons.2 ⟨he, hpre⟩, hq⟩

/-- There is one first ill-typed member. -/
lemma first_illTyped_unique {pre pre' post post' : List (Entry F)} {e e' : Entry F}
    (hpre : ∀ q ∈ pre, ¬ q.IllTyped kind) (he : e.IllTyped kind)
    (hpre' : ∀ q ∈ pre', ¬ q.IllTyped kind) (he' : e'.IllTyped kind)
    (h : pre ++ e :: post = pre' ++ e' :: post') : pre = pre' := by
  obtain ⟨mid, rfl, hmid⟩ | ⟨mid, rfl, hmid⟩ := List.append_eq_append_iff.1 h
  · cases mid with
    | nil => exact (List.append_nil _).symm
    | cons q mid =>
      obtain rfl := (List.cons.inj hmid).1
      exact absurd he (hpre' e (List.mem_append_right _ List.mem_cons_self))
  · cases mid with
    | nil => exact List.append_nil _
    | cons q mid =>
      obtain rfl := (List.cons.inj hmid).1
      exact absurd he' (hpre e' (List.mem_append_right _ List.mem_cons_self))

/-- The members are read one after another; the result says whether all were read. -/
def readAll [DecidableEq F] (fallback : (f : F) → (kind f).Value → (kind f).Value) :
    List (Entry F) → Record kind → Record kind × Bool
  | [], s => (s, true)
  | e :: es, s =>
    match e.read kind (fallback e.field (s e.field)) with
    | none => (s, false)
    | some v => readAll fallback es (Function.update s e.field v)

section readAll

variable [DecidableEq F] {fallback : (f : F) → (kind f).Value → (kind f).Value}
  {es : List (Entry F)} {s : Record kind}

/-- A field that is not among those that are read keeps its value. -/
lemma readAll_of_notMem {f : F} (hf : f ∉ es.map Entry.field) :
    (readAll fallback es s).1 f = s f := by
  induction es generalizing s with
  | nil => rfl
  | cons e es ih =>
    rw [List.map_cons, List.mem_cons, not_or] at hf
    rw [readAll]
    split
    · rfl
    · rw [ih hf.2, Function.update_of_ne hf.1]

/-- Everything is read if nothing is ill-typed. -/
lemma readAll_snd_eq_true_iff :
    (readAll fallback es s).2 = true ↔ ∀ e ∈ es, ¬ e.IllTyped kind := by
  induction es generalizing s with
  | nil => exact ⟨fun _ _ h => absurd h List.not_mem_nil, fun _ => rfl⟩
  | cons e es ih =>
    rw [readAll]
    split
    · next hread =>
      refine ⟨fun h => absurd h Bool.false_ne_true, fun h => ?_⟩
      exact absurd (Entry.illTyped_of_read_eq_none hread) (h e List.mem_cons_self)
    · next v hread =>
      rw [ih, List.forall_mem_cons]
      refine ⟨fun h => ⟨fun hill => ?_, h⟩, fun h => h.2⟩
      rw [hill] at hread
      exact absurd hread.symm (Option.some_ne_none v)

/-- The structure holds already what the member says. -/
def Entry.Holds (fallback : (f : F) → (kind f).Value → (kind f).Value) (s : Record kind)
    (e : Entry F) : Prop :=
  e.read kind (fallback e.field (s e.field)) = some (s e.field)

/-- A field that is read gets the value of its member. -/
lemma readAll_of_mem (hnodup : (es.map Entry.field).Nodup) (hread : ∀ e ∈ es, ¬ e.IllTyped kind)
    {e : Entry F} (he : e ∈ es) :
    e.read kind (fallback e.field (s e.field)) = some ((readAll fallback es s).1 e.field) := by
  induction es generalizing s with
  | nil => exact absurd he List.not_mem_nil
  | cons e' es ih =>
    rw [List.map_cons, List.nodup_cons] at hnodup
    rw [List.forall_mem_cons] at hread
    rw [readAll]
    split
    · next hnone => exact absurd (Entry.illTyped_of_read_eq_none hnone) hread.1
    · next v hsome =>
      obtain rfl | he := List.mem_cons.1 he
      · rw [hsome, readAll_of_notMem hnodup.1, Function.update_self]
      · have hne : e.field ≠ e'.field := by
          intro heq
          exact hnodup.1 (heq ▸ List.mem_map_of_mem he)
        rw [← ih hnodup.2 hread.2 he, Function.update_of_ne hne]

/-- Reading leaves the structure as it was exactly if it holds what was read. -/
lemma readAll_fst_eq_self_iff (hnodup : (es.map Entry.field).Nodup)
    (hread : ∀ e ∈ es, ¬ e.IllTyped kind) :
    (readAll fallback es s).1 = s ↔ ∀ e ∈ es, e.Holds fallback s := by
  constructor
  · intro h e he
    rw [Entry.Holds, readAll_of_mem hnodup hread he, h]
  · intro h
    funext f
    by_cases hf : f ∈ es.map Entry.field
    · obtain ⟨e, he, rfl⟩ := List.mem_map.1 hf
      exact Option.some.inj ((readAll_of_mem hnodup hread he).symm.trans (h e he))
    · exact readAll_of_notMem hf

/-- The reading stops at the first ill-typed member. -/
lemma readAll_append {pre post : List (Entry F)} {e : Entry F}
    (hpre : ∀ q ∈ pre, ¬ q.IllTyped kind) (he : e.IllTyped kind) :
    readAll fallback (pre ++ e :: post) s = ((readAll fallback pre s).1, false) := by
  induction pre generalizing s with
  | nil =>
    show readAll fallback (e :: post) s = (s, false)
    rw [readAll, he]
  | cons q pre ih =>
    rw [List.forall_mem_cons] at hpre
    rw [List.cons_append, readAll, readAll]
    split
    · next hnone => exact absurd (Entry.illTyped_of_read_eq_none hnone) hpre.1
    · exact ih hpre.2

/-- The members before the first ill-typed one say nothing new. -/
def NothingNew (fallback : (f : F) → (kind f).Value → (kind f).Value) (es : List (Entry F))
    (s : Record kind) : Prop :=
  ∀ pre e post, es = pre ++ e :: post → (∀ q ∈ pre, ¬ q.IllTyped kind) → e.IllTyped kind →
    ∀ q ∈ pre, q.Holds fallback s

/-- A reading that fails leaves the structure as it was exactly if the members before the first
ill-typed one say nothing new. -/
theorem readAll_unchanged_iff (hnodup : (es.map Entry.field).Nodup) :
    ((readAll fallback es s).2 = false → (readAll fallback es s).1 = s) ↔
      NothingNew fallback es s := by
  obtain hall | ⟨pre, e, post, rfl, hpre, he⟩ := exists_first_illTyped kind es
  · constructor
    · rintro - pre e post rfl - he
      exact absurd he (hall e (List.mem_append_right _ List.mem_cons_self))
    · intro _ hfalse
      rw [readAll_snd_eq_true_iff.2 hall] at hfalse
      exact absurd hfalse.symm Bool.false_ne_true
  · have hnodup' : (pre.map Entry.field).Nodup := by
      rw [List.map_append] at hnodup
      exact hnodup.sublist (List.sublist_append_left _ _)
    rw [readAll_append hpre he]
    constructor
    · intro h pre' e' post' hsplit hpre' he'
      obtain rfl := first_illTyped_unique hpre he hpre' he' hsplit
      exact (readAll_fst_eq_self_iff hnodup' hpre).1 (h rfl)
    · intro h _
      exact (readAll_fst_eq_self_iff hnodup' hpre).2 (h pre e post rfl hpre he)

/-- Members that say what a record holds make the structure that record. -/
lemma readAll_eq {d : Record kind} (hread : ∀ e ∈ es, ∀ v, e.read kind v = some (d e.field))
    (hrest : ∀ f, f ∉ es.map Entry.field → s f = d f) : readAll fallback es s = (d, true) := by
  induction es generalizing s with
  | nil =>
    have hs : s = d := funext fun f => hrest f List.not_mem_nil
    rw [hs]
    rfl
  | cons e es ih =>
    rw [List.forall_mem_cons] at hread
    rw [readAll, hread.1]
    refine ih hread.2 fun f hf => ?_
    by_cases hfield : f = e.field
    · subst hfield
      exact Function.update_self _ _ _
    · rw [Function.update_of_ne hfield]
      refine hrest f ?_
      rw [List.map_cons, List.mem_cons, not_or]
      exact ⟨hfield, hf⟩

end readAll

end Wire
