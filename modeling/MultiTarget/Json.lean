import MultiTarget.Decimal.Double
import MultiTarget.OrderedMap

/-!
# `MultiTarget.Json`: JSON values

Parameters and properties hold arbitrary JSON. Integers of 64 bits,
signed or unsigned, are exact; every other number is a double and never
an integer. The entries of a map are a list: values read from text list
them in ascending key order, records are written in the order of their
fields.
-/

set_option autoImplicit false

namespace MultiTarget

/-- A JSON value. -/
inductive Json where
  | null
  | bool (value : Bool)
  | int (value : Int)
  | double (value : Decimal.Double)
  | str (value : String)
  | arr (items : List Json)
  | obj (entries : List (String × Json))
  deriving Repr, Inhabited

/-- One scope of parameters or properties. -/
abbrev Parameters := OrderedMap Json

namespace Json

/-! ### Equality -/

mutual

/-- Equality of values is decidable. -/
def decideEq : (a b : Json) → Decidable (a = b)
  | .null, .null => isTrue rfl
  | .bool a, .bool b =>
    if h : a = b then isTrue (by rw [h]) else isFalse fun he => h (by injection he)
  | .int a, .int b =>
    if h : a = b then isTrue (by rw [h]) else isFalse fun he => h (by injection he)
  | .double a, .double b =>
    if h : a = b then isTrue (by rw [h]) else isFalse fun he => h (by injection he)
  | .str a, .str b =>
    if h : a = b then isTrue (by rw [h]) else isFalse fun he => h (by injection he)
  | .arr a, .arr b =>
    match decideEqItems a b with
    | isTrue h => isTrue (by rw [h])
    | isFalse h => isFalse fun he => h (by injection he)
  | .obj a, .obj b =>
    match decideEqEntries a b with
    | isTrue h => isTrue (by rw [h])
    | isFalse h => isFalse fun he => h (by injection he)
  | .null, .bool _ | .null, .int _ | .null, .double _ | .null, .str _ | .null, .arr _
  | .null, .obj _ | .bool _, .null | .bool _, .int _ | .bool _, .double _ | .bool _, .str _
  | .bool _, .arr _ | .bool _, .obj _ | .int _, .null | .int _, .bool _ | .int _, .double _
  | .int _, .str _ | .int _, .arr _ | .int _, .obj _ | .double _, .null | .double _, .bool _
  | .double _, .int _ | .double _, .str _ | .double _, .arr _ | .double _, .obj _
  | .str _, .null | .str _, .bool _ | .str _, .int _ | .str _, .double _ | .str _, .arr _
  | .str _, .obj _ | .arr _, .null | .arr _, .bool _ | .arr _, .int _ | .arr _, .double _
  | .arr _, .str _ | .arr _, .obj _ | .obj _, .null | .obj _, .bool _ | .obj _, .int _
  | .obj _, .double _ | .obj _, .str _ | .obj _, .arr _ => isFalse fun he => by cases he

/-- Equality of lists of values is decidable. -/
def decideEqItems : (a b : List Json) → Decidable (a = b)
  | [], [] => isTrue rfl
  | [], _ :: _ | _ :: _, [] => isFalse fun he => by cases he
  | a :: as, b :: bs =>
    match decideEq a b, decideEqItems as bs with
    | isTrue h, isTrue hs => isTrue (by rw [h, hs])
    | isFalse h, _ => isFalse fun he => h (by injection he)
    | _, isFalse hs => isFalse fun he => hs (by injection he)

/-- Equality of lists of entries is decidable. -/
def decideEqEntries : (a b : List (String × Json)) → Decidable (a = b)
  | [], [] => isTrue rfl
  | [], _ :: _ | _ :: _, [] => isFalse fun he => by cases he
  | (k, v) :: as, (l, w) :: bs =>
    if hk : k = l then
      match decideEq v w, decideEqEntries as bs with
      | isTrue h, isTrue hs => isTrue (by rw [hk, h, hs])
      | isFalse h, _ => isFalse fun he => h (by injection he with h1; injection h1)
      | _, isFalse hs => isFalse fun he => hs (by injection he)
    else isFalse fun he => hk (by injection he with h1; injection h1)

end

instance : DecidableEq Json := decideEq

/-! ### Views -/

/-- The map of an ordered map's entries. -/
def ofMap (m : OrderedMap Json) : Json := .obj m.entries

/-- A list of texts. -/
def ofStrings (texts : List String) : Json := .arr (texts.map .str)

/-- An optional text, `null` for none. -/
def ofString? : Option String → Json
  | some text => .str text
  | none => .null

/-- The kind of a value as messages name it. -/
def kind : Json → String
  | .null => "null"
  | .bool _ => "boolean"
  | .int _ | .double _ => "number"
  | .str _ => "string"
  | .arr _ => "list"
  | .obj _ => "map"

/-- The text of a string. -/
def text? : Json → Option String
  | .str text => some text
  | _ => none

/-- The value of a key of a map. -/
def field? (key : String) : Json → Option Json
  | .obj entries => Entries.lookup key entries
  | _ => none

/-- Integers that fit into 64 bits with a sign. -/
def isSigned (n : Int) : Bool := -0x8000000000000000 ≤ n && n < 0x8000000000000000

/-- Integers that fit into 64 bits without a sign. -/
def isUnsigned (n : Int) : Bool := 0 ≤ n && n < 0x10000000000000000

/-- A number that is a signed 64-bit integer. -/
def signed? : Json → Option Int
  | .int n => if isSigned n then some n else none
  | _ => none

/-- A number that is an unsigned 64-bit integer. -/
def unsigned? : Json → Option Nat
  | .int n => if isUnsigned n then some n.toNat else none
  | _ => none

end Json

end MultiTarget
