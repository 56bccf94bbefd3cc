/-
  JSON values.

  Key definitions include:
    * `Json`
    * `Json.Fault`
    * `Json.field?`
    * `Json.natBelow?`
    * `Json.strings?`
-/

namespace SceneScript

/-
  A JSON value.  Numbers are kept only if they are integers
  that fit 64 bits; any other number is `real`.
-/
inductive Json where
| null
| bool (value : Bool)
| int (value : Int)
| real
| str (value : String)
| arr (items : List Json)
| obj (entries : List (String × Json))
deriving Inhabited, Repr

namespace Json

/-
  Why a text cannot be read: it ends too early, it is not
  JSON, or it is JSON of the wrong shape.
-/
inductive Fault where
| unfinished
| malformed
| mismatch
deriving DecidableEq, Repr

/- The one value under a key, if the key stands once. -/
def field?
    (entries : List (String × Json))
    (key : String) : Option Json :=
  match entries.filter (·.1 == key) with
  | [entry] => some entry.2
  | _ => none

/- The integer of a value. -/
def int? : Json → Option Int
| int value => some value
| _ => none

/- The integer of a value, if it is below a bound. -/
def natBelow?
    (bound : Nat)
    (value : Json) : Option Nat :=
  match value with
  | int n =>
      if 0 ≤ n ∧ n < bound then some n.toNat else none
  | _ => none

/- The text of a string. -/
def str? : Json → Option String
| str value => some value
| _ => none

/- The items of an array. -/
def arr? : Json → Option (List Json)
| arr items => some items
| _ => none

/- The texts of an array of strings. -/
def strings? (value : Json) : Option (List String) := do
  let items ← value.arr?
  items.mapM str?

end Json

end SceneScript
