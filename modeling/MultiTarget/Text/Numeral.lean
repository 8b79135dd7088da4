/-!
# `MultiTarget.Text.Numeral`: whole numbers in text

A numeral is a nonempty run of ASCII digits after an optional sign. A
plus sign is always accepted, a minus sign only where numbers may be
negative. A number outside its range is refused.
-/

set_option autoImplicit false

namespace MultiTarget.Text

/-- The number of a run of decimal digits. -/
def digitsValue (cs : List Char) : Nat :=
  cs.foldl (fun n c => n * 10 + (c.toNat - '0'.toNat)) 0

/-- The number of a nonempty run of decimal digits. -/
def digits? (cs : List Char) : Option Nat :=
  if !cs.isEmpty && cs.all Char.isDigit then some (digitsValue cs) else none

/-- A number below `limit` with an optional plus sign. -/
def unsigned? (limit : Nat) (cs : List Char) : Option Nat :=
  let digits := match cs with
    | '+' :: rest => rest
    | cs => cs
  (digits? digits).filter (· < limit)

/-- A signed 64-bit number with an optional sign. -/
def signed64? (cs : List Char) : Option Int :=
  let (negative, digits) := match cs with
    | '+' :: rest => (false, rest)
    | '-' :: rest => (true, rest)
    | cs => (false, cs)
  match digits? digits with
  | none => none
  | some n =>
    if negative then if n ≤ 0x8000000000000000 then some (-(n : Int)) else none
    else if n < 0x8000000000000000 then some n else none

end MultiTarget.Text
