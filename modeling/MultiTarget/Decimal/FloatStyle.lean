import MultiTarget.Decimal.Shortest

/-!
# `MultiTarget.Decimal.FloatStyle`: how a double is written

A double is written with its shortest digits, in positional form with at
least one decimal while the power of ten of the first digit is small,
and else with an exponent. The two output formats differ in the sign of
a positive exponent alone.
-/

set_option autoImplicit false

namespace MultiTarget.Decimal

/-- The choices of an output format for doubles. -/
structure FloatStyle where
  /-- The least power of ten of the first digit written positionally. -/
  positionalFrom : Int
  /-- The greatest power of ten of the first digit written positionally. -/
  positionalTo : Int
  /-- A positive exponent carries a plus sign. -/
  signedExponent : Bool
  deriving DecidableEq, Repr

namespace FloatStyle

/-- JSON text writes `1e-7` and `1e+21`. -/
def json : FloatStyle := ⟨-5, 15, true⟩

/-- YAML text writes `1e-7` and `1e21`. -/
def yaml : FloatStyle := ⟨-5, 15, false⟩

/-- Digits with the point after the digit of `10 ^ 0`, the first digit
standing for `10 ^ first`. -/
def positional (digits : List Char) (first : Int) : List Char :=
  if first < 0 then
    '0' :: '.' :: (List.replicate (-first - 1).toNat '0' ++ digits)
  else
    let whole := first.toNat + 1
    let integral := digits.take whole
    let decimals := digits.drop whole
    integral ++ List.replicate (whole - integral.length) '0' ++
      '.' :: if decimals.isEmpty then ['0'] else decimals

/-- Digits with the point after the first and a power of ten. -/
def exponential (style : FloatStyle) (digits : List Char) (first : Int) : List Char :=
  let mantissa := match digits with
    | [] => []
    | [c] => [c]
    | c :: rest => c :: '.' :: rest
  let sign := if first < 0 then ['-'] else if style.signedExponent then ['+'] else []
  mantissa ++ 'e' :: sign ++ Nat.toDigits 10 first.natAbs

/-- The text of a finite double. -/
def render (style : FloatStyle) (d : Double) : String :=
  let sign := if d.isNegative then ['-'] else []
  if d.isZero then String.ofList (sign ++ ['0', '.', '0'])
  else
    let decimal := d.shortest
    let digits := Nat.toDigits 10 decimal.digits
    let first := decimal.exponent + digits.length - 1
    let body :=
      if style.positionalFrom ≤ first ∧ first ≤ style.positionalTo then positional digits first
      else exponential style digits first
    String.ofList (sign ++ body)

end FloatStyle

end MultiTarget.Decimal
