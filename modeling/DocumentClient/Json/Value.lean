import DocumentClient.Decimal.Binary64
import DocumentClient.Keyed
import DocumentClient.Text.Numeral

/-!
# DocumentClient.Json.Value

**JSON values.** Whole numbers and floating-point numbers are different values even where they
denote the same number; the fields of an object stand in order of their names, each once.

* A value holds its fields as a plain list, since an inductive type cannot pass itself to a type of
  maps. The order is that of `Keyed.insert`, which the reader and every change of an object go
  through; a statement for which it counts speaks of a `Keyed.Map`.
* A record is a value with a fixed set of named components: an object that names its components, in
  which unknown names do not matter, or a list that gives all of them in order.
-/

namespace DocumentClient

/-- A JSON value. -/
inductive Json where
  /-- The null value. -/
  | null
  /-- A truth value. -/
  | bool (value : Bool)
  /-- A number written without fraction and exponent, within the words of 64 bits. -/
  | int (value : Int)
  /-- Any other number. -/
  | float (value : Binary64)
  /-- A text. -/
  | str (value : String)
  /-- A list of values. -/
  | arr (items : List Json)
  /-- Named values, in order of their names. -/
  | obj (fields : List (String × Json))
  deriving Repr, Inhabited

namespace Json

/-! ## Equality of values -/

mutual
/-- Equality of values: a whole number never equals a floating-point one, and floating-point
numbers are compared as numbers, so that the two zeros are equal. -/
def equiv : Json → Json → Bool
  | .null, .null => true
  | .bool a, .bool b => a == b
  | .int a, .int b => a == b
  | .float a, .float b => a.equiv b
  | .str a, .str b => a == b
  | .arr xs, .arr ys => equivItems xs ys
  | .obj xs, .obj ys => equivFields xs ys
  | _, _ => false
/-- Equality of lists of values, item by item. -/
def equivItems : List Json → List Json → Bool
  | [], [] => true
  | x :: xs, y :: ys => equiv x y && equivItems xs ys
  | _, _ => false
/-- Equality of fields, name by name and value by value. -/
def equivFields : List (String × Json) → List (String × Json) → Bool
  | [], [] => true
  | (k, x) :: xs, (k', y) :: ys => k == k' && equiv x y && equivFields xs ys
  | _, _ => false
end

/-! ## Parts of a value -/

/-- The value of a field; anything but an object has none. -/
def field? (name : String) : Json → Option Json
  | .obj fields => Keyed.find? name fields
  | _ => none

/-- The text, if the value is one. -/
def asText? : Json → Option String
  | .str s => some s
  | _ => none

/-- The integer, if the value is one within the signed words of 64 bits. -/
def asInt64? : Json → Option Int
  | .int i => if Word.isSigned64 i then some i else none
  | _ => none

/-- The number, if the value is a whole one within the unsigned words of 64 bits. -/
def asWord64? : Json → Option Nat
  | .int i => if Word.isUnsigned64 i then some i.toNat else none
  | _ => none

/-- The number as a binary64 one, if the value is a number. -/
def asNumber? : Json → Option Binary64
  | .int i => some (Binary64.ofInt i)
  | .float x => some x
  | _ => none

/-- The value reached through fields, one after the other. -/
def descend : List String → Json → Option Json
  | [], value => some value
  | name :: names, value => (value.field? name).bind (descend names)

/-- An object of these fields; of two with one name the later wins. -/
def object (fields : List (String × Json)) : Json :=
  .obj (Keyed.ofList fields)

/-! ## Records -/

/-- The components of a record, in the order of their names; one that is missing is none. -/
def components? (names : List String) : Json → Option (List (Option Json))
  | .obj fields => some (names.map fun name => Keyed.find? name fields)
  | .arr items => if items.length = names.length then some (items.map some) else none
  | _ => none

/-- A component that is a text. -/
def text? : Option Json → Option String
  | some (.str s) => some s
  | _ => none

/-- A component that is a list of texts. -/
def texts? : Option Json → Option (List String)
  | some (.arr items) => items.mapM asText?
  | _ => none

/-- A component that is a whole number of the wanted width. -/
def whole? (fits : Int → Bool) : Option Json → Option Int
  | some (.int i) => if fits i then some i else none
  | _ => none

/-- A component that is a natural number up to a bound. -/
def natural? (greatest : Nat) (component : Option Json) : Option Nat :=
  (whole? (fun i => 0 ≤ i && i ≤ greatest) component).map Int.toNat

/-- A component that may be missing or null, and is otherwise read. -/
def optional? {α : Type} (read : Option Json → Option α) : Option Json → Option (Option α)
  | none | some .null => some none
  | component => (read component).map some

end Json

end DocumentClient
