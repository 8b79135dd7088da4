import MultiTarget.ContentError
import MultiTarget.Json.Render
import MultiTarget.Text.Blank
import MultiTarget.Text.Cut
import MultiTarget.Text.Numeral

/-!
# `MultiTarget.Size`: sizes of memory and disk

A size is a whole number, counted in megabytes, or a text of a number
and a unit in either case. Kilobytes are rounded down to megabytes. The
product of number and unit is held at the greatest 64-bit number.

Specification X.6.7. `megabytes` is `parse_megabytes`.
-/

set_option autoImplicit false

namespace MultiTarget.Size

/-- The greatest number of kilobytes. -/
def maxKilobytes : Nat := 0xFFFFFFFFFFFFFFFF

/-- The units with their kilobytes, longer names before their beginnings: the
first that a text ends with is its unit. -/
def units : List (String × Nat) := [
  ("GB", 1024 * 1024), ("G", 1024 * 1024), ("MB", 1024), ("M", 1024), ("KB", 1), ("K", 1)]

/-- The number of a text in capitals and the kilobytes of its unit;
without a unit these are megabytes. -/
def splitUnit (text : List Char) : List Char × Nat :=
  let amount? (unit : String × Nat) : Option (List Char × Nat) :=
    (Text.dropSuffix? unit.1.toList text).map fun amount => (amount, unit.2)
  (units.findSome? amount?).getD (text, 1024)

/-- The megabytes of a text. Blanks may stand around it and before the unit. -/
def ofText? (text : String) : Option Nat :=
  let (amount, kilobytes) := splitUnit ((Text.trim text.toList).map Char.toUpper)
  (Text.unsigned? 0x10000000000000000 (Text.trim amount)).map fun n =>
    -- The product is held at the limit before it is divided, so the greatest sizes of a text are
    -- all the same.
    min (n * kilobytes) maxKilobytes / 1024

/-- The megabytes of a value. A number is taken as it is, without the limit
that holds for texts. -/
def ofJson? : Json → Option Nat
  | .str text => ofText? text
  | value => value.unsigned?

/-- A value as messages show it, without quotation marks around it. -/
def shown (value : Json) : String :=
  String.ofList (Text.stripBoth (· = '"') value.compact.toList)

/-- The megabytes of a parameter of an owner. -/
def megabytes (owner : String) (value : Json) : Except ContentError Nat :=
  match ofJson? value with
  | some n => .ok n
  | none => .error (.invalidMemory owner (shown value))

end MultiTarget.Size
