/-
# Parsed bodies

What `JSON.parse` makes of a body and what the two services do with it: truth values, members,
`String` and `parseInt`.

`String` calls the methods `toString` and `join` of its argument.  A member of the name
`toString` hides the method and is no function itself, so that the conversion of such an object
throws, and so does that of an array with such an object inside.
-/
import Mathlib.Data.Int.Notation
import Mathlib.Data.List.Basic
import Mathlib.Data.Nat.Notation

namespace Sf4e
namespace Broker

/-- A value that `JSON.parse` returns. -/
inductive Value
  | null
  | bool (b : Bool)
  /-- A number, as `String` writes it. -/
  | num (text : String)
  | str (s : String)
  | arr (elems : List Value)
  | obj (members : List (String × Value))

namespace Value

/-- The empty object, which stands for a body that is empty or no JSON. -/
def empty : Value := .obj []

/-- An integer. -/
def int (n : ℤ) : Value := .num (toString n)

/-- The value in a condition. -/
def truthy : Value → Bool
  | .null => false
  | .bool b => b
  | .num text => text != "0"
  | .str s => s != ""
  | .arr _ | .obj _ => true

/-- The member of the name, `none` for `undefined`.  None of the names that the services use
belongs to a prototype.  On `null` the access throws, and the caller has to see to that. -/
def get (key : String) : Value → Option Value
  | .obj members => members.lookup key
  | _ => none

/-- The value is `null`, on which every member access throws. -/
def isNull : Value → Bool
  | .null => true
  | _ => false

/-- The value is `true`. -/
def isTrue : Value → Bool
  | .bool b => b
  | _ => false

/-- The value as it is if it is a string. -/
def str? : Value → Option String
  | .str s => some s
  | _ => none

mutual

/-- `String`; `none` when it throws. -/
def toText : Value → Option String
  | .null => some "null"
  | .bool b => some (if b then "true" else "false")
  | .num text => some text
  | .str s => some s
  | .arr elems => (elemTexts elems).map (",".intercalate ·)
  | .obj members => if (members.lookup "toString").isSome then none else some "[object Object]"

/-- The elements of an array as `join` writes them. -/
def elemTexts : List Value → Option (List String)
  | [] => some []
  | v :: vs =>
    match v, toText v, elemTexts vs with
    | .null, _, some rest => some ("" :: rest)
    | _, some text, some rest => some (text :: rest)
    | _, _, _ => none

end

/-- The member or what stands in for a missing or a false one, as in `x || y`. -/
def orElse (v : Option Value) (default : Value) : Value :=
  match v with
  | some v => if v.truthy then v else default
  | none => default

/-- `String(x || "")`. -/
def textOrEmpty (v : Option Value) : Option String := (orElse v (.str "")).toText

end Value

/-! ## Text -/

/-- White space and line ends, as `trim` and `parseInt` skip them. -/
def isSpace (c : Char) : Bool :=
  let n := c.toNat
  (9 ≤ n && n ≤ 13) || n == 0x20 || n == 0xA0 || n == 0x1680 || (0x2000 ≤ n && n ≤ 0x200A) ||
    n == 0x2028 || n == 0x2029 || n == 0x202F || n == 0x205F || n == 0x3000 || n == 0xFEFF

/-- `trim`, on the characters of a string. -/
def trimChars (s : List Char) : List Char :=
  ((s.dropWhile isSpace).reverse.dropWhile isSpace).reverse

/-- `trim`. -/
def trim (s : String) : String := .ofList (trimChars s.toList)

/-- The number that the decimal digits write. -/
def digitsValue (digits : List Char) : ℕ :=
  digits.foldl (fun n c => 10 * n + (c.toNat - '0'.toNat)) 0

/-- A sign and the characters after it. -/
def splitSign : List Char → Bool × List Char
  | '-' :: s => (true, s)
  | '+' :: s => (false, s)
  | s => (false, s)

/-- `parseInt(s, 10)`; `none` for `NaN`. -/
def parseInt (s : String) : Option ℤ :=
  let (neg, rest) := splitSign (s.toList.dropWhile isSpace)
  match rest.takeWhile Char.isDigit with
  | [] => none
  | digits => some (if neg then -(digitsValue digits : ℤ) else digitsValue digits)

end Broker
end Sf4e
