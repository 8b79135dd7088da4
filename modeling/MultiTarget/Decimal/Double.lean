/-!
# `MultiTarget.Decimal.Double`: 64-bit floating point values as bit patterns

A `Double` is its IEEE 754 bit pattern, so equality is decidable and
tells `0.0` from `-0.0`. A finite value is `significand * 2 ^ exponent`
up to its sign. Everything that rounds goes through `ofRatio`, which
takes an exact quotient of natural numbers to the nearest double, ties
to the even neighbour.

* `ofDecimal` reads a decimal with one rounding.
* `ofScaledDecimal` reads a decimal with a rounding of the significand
  and another one of its product with a power of ten.

Numbers of descriptors are read and written through this module; the
specification says nothing of them beyond the formats.
-/

set_option autoImplicit false

namespace MultiTarget.Decimal

/-- A 64-bit floating point value. -/
structure Double where
  /-- Sign, eleven bits of exponent, fifty-two of fraction. -/
  bits : UInt64
  deriving DecidableEq, Repr, Inhabited

namespace Double

/-- The sign bit is set. -/
def isNegative (d : Double) : Bool := d.bits.toNat / Nat.pow 2 63 % 2 == 1

/-- The exponent field. -/
def biasedExponent (d : Double) : Nat := d.bits.toNat / Nat.pow 2 52 % 2048

/-- The fraction field. -/
def fraction (d : Double) : Nat := d.bits.toNat % Nat.pow 2 52

/-- Neither infinite nor a NaN. -/
def isFinite (d : Double) : Bool := d.biasedExponent < 2047

/-- The integer factor of the magnitude. -/
def significand (d : Double) : Nat :=
  if d.biasedExponent = 0 then d.fraction else Nat.pow 2 52 + d.fraction

/-- The power of two of the magnitude. -/
def exponent (d : Double) : Int :=
  if d.biasedExponent = 0 then -1074 else (d.biasedExponent : Int) - 1075

/-- Positive or negative zero. -/
def isZero (d : Double) : Bool := d.bits.toNat % Nat.pow 2 63 == 0

/-- The value with a sign and the remaining sixty-three bits. -/
def ofMagnitude (negative : Bool) (magnitude : Nat) : Double :=
  ⟨UInt64.ofNat (magnitude % Nat.pow 2 63 + if negative then Nat.pow 2 63 else 0)⟩

/-- The sixty-three bits of an infinity. -/
def infinityMagnitude : Nat := 2047 * Nat.pow 2 52

/-- A quotient rounded to the nearest integer, a tie to the even one. -/
def roundQuotient (num den : Nat) : Nat :=
  let q := num / den
  let r := num % den
  if den < 2 * r ∨ (2 * r = den ∧ q % 2 = 1) then q + 1 else q

/-- The quotient `num / den` divided by `2 ^ e`, as a quotient. -/
def divideByPower (num den : Nat) (e : Int) : Nat × Nat :=
  if e < 0 then (num * Nat.pow 2 (-e).toNat, den) else (num, den * Nat.pow 2 e.toNat)

/-- The power of two by which a quotient is divided to leave fifty-three
bits before the point, or the least power a double has. -/
def quantum (num den : Nat) : Int :=
  let guess : Int := (num.log2 : Int) - (den.log2 : Int) - 52
  let (n, d) := divideByPower num den guess
  -- The logarithms may guess one too many; below the least power doubles lose bits instead.
  max (if n / d < Nat.pow 2 52 then guess - 1 else guess) (-1074)

/-- The double nearest to a quotient of natural numbers. -/
def ofRatio (negative : Bool) (num den : Nat) : Double :=
  if num = 0 then ofMagnitude negative 0
  else
    let e := quantum num den
    let (n, d) := divideByPower num den e
    let m := roundQuotient n d
    -- A significand of 2^53 is the one of 2^52 with the next exponent.
    let (m, e) := if m = Nat.pow 2 53 then (Nat.pow 2 52, e + 1) else (m, e)
    if m < Nat.pow 2 52 then ofMagnitude negative m
    else
      let biased := (e + 1075).toNat
      if 2047 ≤ biased then ofMagnitude negative infinityMagnitude
      else ofMagnitude negative (biased * Nat.pow 2 52 + (m - Nat.pow 2 52))

/-- The magnitude of a finite double as a quotient. -/
def ratio (d : Double) : Nat × Nat :=
  if d.exponent < 0 then (d.significand, Nat.pow 2 (-d.exponent).toNat)
  else (d.significand * Nat.pow 2 d.exponent.toNat, 1)

/-- The nearest double to a product of magnitudes. -/
def multiply (negative : Bool) (a b : Double) : Double :=
  ofRatio negative (a.ratio.1 * b.ratio.1) (a.ratio.2 * b.ratio.2)

/-- The nearest double to a quotient of magnitudes. -/
def divide (negative : Bool) (a b : Double) : Double :=
  ofRatio negative (a.ratio.1 * b.ratio.2) (a.ratio.2 * b.ratio.1)

/-- The double nearest to `significand * 10 ^ exponent`; beyond the
largest double it is infinite. Exponents far outside the range of a
double are decided without computing the power. -/
def ofDecimal (negative : Bool) (significand : Nat) (exponent : Int) : Double :=
  let magnitude : Int := (Nat.toDigits 10 significand).length + exponent
  -- Well outside the range on either side, so rounding plays no part.
  if significand = 0 ∨ magnitude < -400 then ofMagnitude negative 0
  else if 400 < magnitude then ofMagnitude negative infinityMagnitude
  else if exponent < 0 then ofRatio negative significand (Nat.pow 10 (-exponent).toNat)
  else ofRatio negative (significand * Nat.pow 10 exponent.toNat) 1

/-- A magnitude times `10 ^ exponent`, rounded after each multiplication
or division by at most `10 ^ 308`. Three divisions bring every magnitude
to zero. -/
def scale (negative : Bool) : Nat → Double → Int → Option Double
  | 0, d, _ => some d
  | steps + 1, d, exponent =>
    if exponent < -308 then
      if d.isZero then some d
      else
        scale negative steps (divide negative d (ofRatio false (Nat.pow 10 308) 1)) (exponent + 308)
    else if exponent < 0 then
      some (divide negative d (ofRatio false (Nat.pow 10 (-exponent).toNat) 1))
    else if 308 < exponent then if d.isZero then some d else none
    else
      let product := multiply negative d (ofRatio false (Nat.pow 10 exponent.toNat) 1)
      if product.isFinite then some product else none

/-- The double of a significand, rounded first, times a power of ten;
`none` beyond the largest double. -/
def ofScaledDecimal (negative : Bool) (significand : Nat) (exponent : Int) : Option Double :=
  scale negative 4 (ofRatio negative significand 1) exponent

end Double

end MultiTarget.Decimal
