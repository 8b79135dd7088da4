import MultiTarget.Decimal.Double

/-!
# `MultiTarget.Decimal.Shortest`: the fewest digits that read back

`Double.shortest` gives the decimal with the fewest digits among those
that round to a double, and of several with that many digits the one
nearest to the double. The reals that round to `m * 2 ^ e` form an
interval half a unit wide on each side (a quarter below a power of two),
whose ends belong to it when `m` is even. For one, two, … seventeen
digits only the two neighbours of the value on the grid of decimals with
that many digits need a test.
-/

set_option autoImplicit false

namespace MultiTarget.Decimal

/-- A positive decimal `digits * 10 ^ exponent`. -/
structure Scientific where
  /-- The digits as one number. -/
  digits : Nat
  /-- The power of ten of the last digit. -/
  exponent : Int
  deriving DecidableEq, Repr

namespace Scientific

/-- The decimal with zeros at its end moved into the exponent; the
number of digits bounds the number of steps. -/
def withoutTrailingZeros (s : Scientific) : Scientific :=
  go (Nat.toDigits 10 s.digits).length s
where
  go : Nat → Scientific → Scientific
    | 0, s => s
    | steps + 1, s =>
      if s.digits % 10 = 0 ∧ s.digits ≠ 0 then go steps ⟨s.digits / 10, s.exponent + 1⟩ else s

end Scientific

namespace Double

/-- The quotient `10 ^ s / 2 ^ e` as a pair of natural numbers. -/
def decimalUnit (s e : Int) : Nat × Nat :=
  (Nat.pow 10 s.toNat * Nat.pow 2 (-e).toNat, Nat.pow 10 (-s).toNat * Nat.pow 2 e.toNat)

/-- The greatest `k` with `10 ^ k` at most `m * 2 ^ e`. -/
def decimalMagnitude (m : Nat) (e : Int) : Int :=
  let guess := ((m.log2 : Int) + e) * 30103 / 100000
  let atMost (k : Int) : Bool :=
    let (u, w) := decimalUnit k e
    u ≤ m * w
  if atMost (guess + 1) then guess + 1 else if atMost guess then guess else guess - 1

/-- The neighbour of `m * 2 ^ e` on the grid of multiples of `10 ^ s`
that rounds to it, if any, and the nearer one if both do. -/
def gridPoint? (m : Nat) (e : Int) (narrowBelow : Bool) (s : Int) : Option Scientific :=
  -- Everything is counted in units of 2^(e-2): the value is 4m.
  let (u, w) := decimalUnit s (e - 2)
  let value := 4 * m * w
  let low := (4 * m - if narrowBelow then 1 else 2) * w
  let high := (4 * m + 2) * w
  let below := value / u
  let above := below + 1
  let reads (c : Nat) : Bool :=
    if m % 2 = 0 then low ≤ c * u && c * u ≤ high else low < c * u && c * u < high
  let belowGap := value - below * u
  let aboveGap := above * u - value
  match 0 < below && reads below, reads above with
  | true, true =>
    if belowGap < aboveGap ∨ (belowGap = aboveGap ∧ below % 2 = 0) then some ⟨below, s⟩
    else some ⟨above, s⟩
  | true, false => some ⟨below, s⟩
  | false, true => some ⟨above, s⟩
  | false, false => none

/-- The shortest decimal that rounds to the magnitude of a finite,
nonzero double. -/
def shortest (d : Double) : Scientific :=
  let m := d.significand
  let e := d.exponent
  let k := decimalMagnitude m e
  let narrowBelow := d.fraction = 0 && 1 < d.biasedExponent
  let grids := (List.range 17).map fun (i : Nat) => k - (i : Int)
  ((grids.findSome? (gridPoint? m e narrowBelow)).getD ⟨m, e⟩).withoutTrailingZeros

end Double

end MultiTarget.Decimal
