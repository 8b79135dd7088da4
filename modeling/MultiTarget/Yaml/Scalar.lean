import MultiTarget.Json
import MultiTarget.Text.Numeral
import MultiTarget.Yaml.Token

/-!
# `MultiTarget.Yaml.Scalar`: what a scalar means

An untagged plain scalar is a null, a flag, a number or a text by the
core schema of YAML 1.2: `yes` and `on` are texts, integers may be
hexadecimal, octal or binary, and digits after a leading zero are a
text. Every other untagged scalar is a text.
-/

set_option autoImplicit false

namespace MultiTarget.Yaml

/-- What a plain scalar stands for. -/
inductive PlainMeaning where
  | null
  | bool (value : Bool)
  | int (value : Int)
  /-- An integer of more than 64 and at most 128 bits. -/
  | wideInt
  /-- A floating point number that may be infinite or not a number. -/
  | float (value : Decimal.Double)
  | text
  deriving DecidableEq, Repr

namespace Scalar

/-- The spellings of null; an empty scalar is one only where nothing
else is asked for. -/
def isNullText (text : String) : Bool :=
  text == "null" || text == "Null" || text == "NULL" || text == "~"

/-- The spellings of flags. -/
def flagOf? (text : String) : Option Bool :=
  if text == "true" || text == "True" || text == "TRUE" then some true
  else if text == "false" || text == "False" || text == "FALSE" then some false
  else none

/-- Several digits of which the first is zero, after an optional sign. -/
def hasLeadingZero (cs : List Char) : Bool :=
  let digits := match cs with
    | '-' :: rest | '+' :: rest => rest
    | cs => cs
  match digits with
  | '0' :: rest => !rest.isEmpty && rest.all Char.isDigit
  | _ => false

/-- The value of a digit in a base of at most sixteen. -/
def digitOf? (base : Nat) (c : Char) : Option Nat :=
  let value :=
    if c.isDigit then c.toNat - '0'.toNat
    else if 'a' ≤ c ∧ c ≤ 'f' then c.toNat - 'a'.toNat + 10
    else if 'A' ≤ c ∧ c ≤ 'F' then c.toNat - 'A'.toNat + 10
    else base
  if value < base then some value else none

/-- The number of a nonempty run of digits. -/
def numberOf? (base : Nat) (cs : List Char) : Option Nat :=
  if cs.isEmpty then none
  else cs.foldl (fun n c => do return (← n) * base + (← digitOf? base c)) (some 0)

/-- The digits after the mark of a base, with the base. -/
def based? : List Char → Option (Nat × List Char)
  | '0' :: 'x' :: digits => some (16, digits)
  | '0' :: 'o' :: digits => some (8, digits)
  | '0' :: 'b' :: digits => some (2, digits)
  | _ => none

/-- A number without a minus sign below a limit. -/
def unsignedBelow? (limit : Nat) (cs : List Char) : Option Nat :=
  let unsigned := match cs with
    | '+' :: rest => rest
    | cs => cs
  let inBase : Option Nat := (based? unsigned).bind fun (base, digits) =>
    (numberOf? base digits).filter (· < limit)
  match inBase with
  | some n => some n
  | none =>
    if hasLeadingZero cs then none else (numberOf? 10 unsigned).filter (· < limit)

/-- The magnitude, at most a limit, of a number with a minus sign. -/
def negativeUpTo? (limit : Nat) (cs : List Char) : Option Nat :=
  match cs with
  | '-' :: rest =>
    let inBase : Option Nat := (based? rest).bind fun (base, digits) =>
      (numberOf? base digits).filter (· ≤ limit)
    match inBase with
    | some n => some n
    | none => if hasLeadingZero cs then none else (numberOf? 10 rest).filter (· ≤ limit)
  | _ => none

/-- A decimal with a point or an exponent in the usual places: digits on
at least one side of the point, and digits after the exponent mark. -/
def decimal? (negative : Bool) (cs : List Char) : Option Decimal.Double := do
  let (whole, rest) := cs.span Char.isDigit
  let (decimals, rest) := match rest with
    | '.' :: r => r.span Char.isDigit
    | r => ([], r)
  if whole.isEmpty && decimals.isEmpty then none
  let exponent : Int ← match rest with
    | [] => some 0
    | mark :: r =>
      if mark == 'e' || mark == 'E' then
        let (sign, digits) : Bool × List Char := match r with
          | '-' :: d => (true, d)
          | '+' :: d => (false, d)
          | d => (false, d)
        (Text.digits? digits).map fun n => if sign then -(n : Int) else n
      else none
  return .ofDecimal negative (Text.digitsValue (whole ++ decimals)) (exponent - decimals.length)

/-- A floating point number: infinity, not a number, or a decimal that a
double can hold. -/
def float? (text : String) : Option Decimal.Double :=
  let infinite (t : String) : Bool := t == ".inf" || t == ".Inf" || t == ".INF"
  let negativeInfinite (t : String) : Bool := t == "-.inf" || t == "-.Inf" || t == "-.INF"
  let finite (negative : Bool) (cs : List Char) : Option Decimal.Double :=
    (decimal? negative cs).filter Decimal.Double.isFinite
  if infinite text || infinite (String.ofList (text.toList.drop 1)) && text.startsWith "+" then
    some (.ofMagnitude false Decimal.Double.infinityMagnitude)
  else if negativeInfinite text then some (.ofMagnitude true Decimal.Double.infinityMagnitude)
  else if text == ".nan" || text == ".NaN" || text == ".NAN" then
    some (.ofMagnitude false (Decimal.Double.infinityMagnitude + Nat.pow 2 51))
  else match text.toList with
    | '-' :: rest => finite true rest
    | '+' :: rest => finite false rest
    | cs => finite false cs

/-- An integer, or the fact that it is too wide for 64 bits. -/
def integer? (cs : List Char) : Option PlainMeaning :=
  match unsignedBelow? 0x10000000000000000 cs, negativeUpTo? 0x8000000000000000 cs with
  | some n, _ => some (.int n)
  | none, some n => some (.int (-(n : Int)))
  | none, none =>
    if (unsignedBelow? (Nat.pow 2 128) cs).isSome || (negativeUpTo? (Nat.pow 2 127) cs).isSome then
      some .wideInt
    else none

/-- What an untagged plain scalar stands for. -/
def plainMeaning (text : String) : PlainMeaning :=
  if text.isEmpty || isNullText text then .null
  else match flagOf? text with
    | some flag => .bool flag
    | none =>
      match integer? text.toList with
      | some meaning => meaning
      | none =>
        if hasLeadingZero text.toList then .text
        else match float? text with
          | some value => .float value
          | none => .text

/-- The JSON value of a double, null if it is not finite. -/
def doubleValue (d : Decimal.Double) : Json := if d.isFinite then .double d else .null

/-- The JSON value that a plain scalar stands for. Integers beyond 64
bits have none. -/
def meaningValue? (text : String) : PlainMeaning → Option Json
  | .null => some .null
  | .bool flag => some (.bool flag)
  | .int n => some (.int n)
  | .wideInt => none
  | .float d => some (doubleValue d)
  | .text => some (.str text)

/-- The JSON value of a scalar without regard to its tag. -/
def untaggedValue? (text : String) (style : ScalarStyle) : Option Json :=
  if style = .plain then meaningValue? text (plainMeaning text) else some (.str text)

/-- The JSON value of a scalar; a text that does not fit its tag has
none, nor has a scalar that names an alternative. -/
def value? (tag : Option Tag) (text : String) (style : ScalarStyle) : Option Json :=
  match tag with
  | none => untaggedValue? text style
  | some tag =>
    if tag.alternative?.isSome then none
    else if tag.isLocal then untaggedValue? text style
    else if tag == Tag.core "bool" then (flagOf? text).map .bool
    else if tag == Tag.core "int" then (integer? text.toList).bind (meaningValue? text)
    else if tag == Tag.core "float" then (float? text).map doubleValue
    else if tag == Tag.core "null" then if isNullText text then some .null else none
    else some (.str text)

end Scalar

end MultiTarget.Yaml
