/-!
# Binary fractions in decimal

A binary floating-point number prints with the fewest decimal digits that still round to it, and
of those the nearest ones. `BinaryFormat.decode` takes the bits apart, `Rounding.shortest` finds
the digits in exact integer arithmetic, and a `DecimalLayout` says how they are written: where
positional notation ends, and what an exponent looks like.
-/

namespace Reflection

/-- The interchange format with so many bits of fraction and of exponent. -/
structure BinaryFormat where
  fractionBits : Nat
  exponentBits : Nat

def BinaryFormat.single : BinaryFormat := ⟨23, 8⟩
def BinaryFormat.double : BinaryFormat := ⟨52, 11⟩

/-- A number of a binary format. A finite one is `m * 2 ^ q`; `stepDown` tells that the numbers
below it lie twice as close as those above. -/
inductive BinaryNumber
  | nan
  | infinite (negative : Bool)
  | finite (negative : Bool) (m : Nat) (q : Int) (stepDown : Bool)
deriving DecidableEq, Repr

namespace BinaryFormat

/-- How many fractions there are, which is also the least significand of a normal number. -/
def fractions (f : BinaryFormat) : Nat := Nat.pow 2 f.fractionBits

def exponents (f : BinaryFormat) : Nat := Nat.pow 2 f.exponentBits

/-- The least exponent `q` of a finite number `m * 2 ^ q`. -/
def lowest (f : BinaryFormat) : Int := 2 - (f.exponents / 2 : Nat) - f.fractionBits

/-- The greatest exponent `q` of a finite number `m * 2 ^ q`. -/
def highest (f : BinaryFormat) : Int := (f.exponents / 2 : Nat) - 1 - f.fractionBits

/-- The number that the bits stand for. -/
def decode (f : BinaryFormat) (bits : Nat) : BinaryNumber :=
  let fraction := bits % f.fractions
  let exponent := bits / f.fractions % f.exponents
  let negative := bits / f.fractions / f.exponents % 2 == 1
  if exponent == f.exponents - 1 then
    if fraction == 0 then .infinite negative else .nan
  else if exponent == 0 then .finite negative fraction f.lowest false
  else .finite negative (f.fractions + fraction) (f.lowest + (exponent - 1)) (fraction == 0 && 1 < exponent)

end BinaryFormat

/-- Equality of numbers: a NaN differs from itself and the two zeros are equal. -/
def BinaryNumber.equal : BinaryNumber → BinaryNumber → Bool
  | .nan, _ | _, .nan => false
  | .finite n m q d, .finite n' m' q' d' =>
    (m == 0 && m' == 0) || (n == n' && m == m' && q == q' && d == d')
  | a, b => a == b

/-! ## Shortest digits -/

/-- Which of two equally near decimals is taken. -/
inductive Tie
  | up | even
deriving DecidableEq, Repr

/-- The decimals that round to a number: those from `lo` to `hi` around `value`, all three in units
of `10 ^ unit`. The ends count if `closed`. -/
structure Rounding where
  lo : Nat
  value : Nat
  hi : Nat
  closed : Bool
  unit : Int

/-- The neighbourhood of `m * 2 ^ q`, in quarters of the last place. -/
def Rounding.ofBinary (m : Nat) (q : Int) (stepDown : Bool) : Rounding :=
  let scale (n : Nat) : Nat :=
    if q < 2 then n * Nat.pow 5 (2 - q).toNat else n * Nat.pow 2 (q - 2).toNat
  ⟨scale (4 * m - if stepDown then 1 else 2), scale (4 * m), scale (4 * m + 2), m % 2 == 0,
    if q < 2 then q - 2 else 0⟩

def Rounding.contains (r : Rounding) (n : Nat) : Bool :=
  if r.closed then r.lo ≤ n && n ≤ r.hi else r.lo < n && n < r.hi

/-- The multiple of `step` that rounds to the value, the nearer one if both neighbours do. -/
def Rounding.onGrid? (r : Rounding) (tie : Tie) (step : Nat) : Option Nat :=
  let below := r.value / step
  let above := below + 1
  match r.contains (below * step), r.contains (above * step) with
  | false, false => none
  | true, false => some below
  | false, true => some above
  | true, true =>
    let rest := 2 * (r.value - below * step)
    if rest < step then some below
    else if step < rest then some above
    else match tie with
      | .up => some above
      | .even => some (if below % 2 == 0 then below else above)

/-- Decimal digits and the power of ten of the last one. -/
structure Decimal where
  digits : Nat
  exponent : Int
deriving DecidableEq, Repr

/-- Tries the grids of `10 ^ j`, `10 ^ (j - 1)`, … The finest one holds the value itself. -/
def Rounding.search (r : Rounding) (tie : Tie) : Nat → Decimal
  | 0 => ⟨r.value, r.unit⟩
  | j + 1 =>
    match r.onGrid? tie (Nat.pow 10 (j + 1)) with
    | some n => ⟨n, r.unit + (j + 1)⟩
    | none => r.search tie j

def Rounding.shortest (r : Rounding) (tie : Tie) : Decimal :=
  r.search tie (Nat.toDigits 10 r.value).length

/-! ## Layout -/

/-- How decimal numbers are written. The point stands behind `p` digits of the number; positional
notation serves for `lowest ≤ p ≤ highest`. -/
structure DecimalLayout where
  lowest : Int
  highest : Int
  /-- A positive exponent has a sign. -/
  plus : Bool
  tie : Tie
  nan : String
  infinity : String

namespace DecimalLayout

/-- Positional digits around the point, with at least one on each side. -/
def positional (digits : List Char) (p : Int) : List Char :=
  if p ≤ 0 then '0' :: '.' :: (List.replicate (-p).toNat '0' ++ digits)
  else
    let n := p.toNat
    let fraction := digits.drop n
    digits.take n ++ List.replicate (n - digits.length) '0' ++
      '.' :: (if fraction.isEmpty then ['0'] else fraction)

/-- One digit, the others behind a point, and the exponent. -/
def scientific (layout : DecimalLayout) (digits : List Char) (p : Int) : List Char :=
  let exponent := p - 1
  let sign := if exponent < 0 then ['-'] else if layout.plus then ['+'] else []
  digits.take 1 ++ (if digits.length ≤ 1 then [] else '.' :: digits.drop 1) ++
    'e' :: (sign ++ Nat.toDigits 10 exponent.natAbs)

def ofDecimal (layout : DecimalLayout) (d : Decimal) : List Char :=
  let digits := Nat.toDigits 10 d.digits
  let p := d.exponent + digits.length
  if layout.lowest ≤ p && p ≤ layout.highest then positional digits p else layout.scientific digits p

def render (layout : DecimalLayout) : BinaryNumber → String
  | .nan => layout.nan
  | .infinite negative => (if negative then "-" else "") ++ layout.infinity
  | .finite negative m q stepDown =>
    let text := if m == 0 then ['0', '.', '0']
      else layout.ofDecimal ((Rounding.ofBinary m q stepDown).shortest layout.tie)
    String.ofList (if negative then '-' :: text else text)

end DecimalLayout

end Reflection
