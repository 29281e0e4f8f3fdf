import Reflection.Text.Decimal
/-!
# Numerals

A `Numeral` is a number as it is written, with a sign, digits, perhaps a point and an exponent. It
stands for an exact number, and `Numeral.nearest` rounds that one to a binary format.
-/

namespace Reflection

/-- The number `mantissa * 10 ^ exponent`, with a sign. It is `whole` if it is written without a
point and without an exponent. -/
structure Numeral where
  negative : Bool
  mantissa : Nat
  exponent : Int
  whole : Bool
deriving DecidableEq, Repr

namespace Numeral

/-- The number that decimal digits denote. -/
def digitsValue (ds : List Char) : Nat := ds.foldl (fun n c => 10 * n + (c.toNat - '0'.toNat)) 0

def exponentOf : List Char → Int
  | '-' :: ds => -(digitsValue ds : Int)
  | '+' :: ds => digitsValue ds
  | ds => digitsValue ds

/-- The digits behind a point, and what follows them. -/
def fractionOf : List Char → List Char × List Char
  | '.' :: cs => (cs.takeWhile Char.isDigit, cs.dropWhile Char.isDigit)
  | cs => ([], cs)

/-- Digits with a point and an exponent, behind the sign. -/
def unsigned (negative : Bool) (cs : List Char) : Numeral :=
  let digits := cs.takeWhile Char.isDigit
  let rest := cs.dropWhile Char.isDigit
  let (fraction, later) := fractionOf rest
  { negative
    mantissa := digitsValue (digits ++ fraction)
    exponent := exponentOf (later.drop 1) - fraction.length
    whole := rest.isEmpty }

def ofText (text : String) : Numeral :=
  match text.toList with
  | '-' :: cs => unsigned true cs
  | cs => unsigned false cs

/-- The number, if it is written as an integer. Minus zero is no integer. -/
def integer? (n : Numeral) : Option Int :=
  if !n.whole || (n.negative && n.mantissa == 0) then none
  else some (if n.negative then -(n.mantissa : Int) else n.mantissa)

end Numeral

/-! ## Rounding to a binary format -/

/-- A quotient rounded to the nearest integer, a tie to the even one. -/
def roundQuotient (n d : Nat) : Nat :=
  let below := n / d
  let rest := 2 * (n % d)
  if rest < d || (rest == d && below % 2 == 0) then below else below + 1

namespace BinaryFormat

/-- The quotient `n / d` in units of `2 ^ q`, as a quotient again. -/
def inUnits (n d : Nat) (q : Int) : Nat × Nat := (n * Nat.pow 2 (-q).toNat, d * Nat.pow 2 q.toNat)

/-- The exponent that gives `n / d` a significand of full length, or the least one. The lengths of
`n` and `d` tell it but for one. -/
def exponentFor (f : BinaryFormat) (n d : Nat) : Int :=
  let guess : Int := (n.log2 : Int) - d.log2 - f.fractionBits
  let (n', d') := inUnits n d guess
  let q := if n' / d' < f.fractions then guess - 1 else guess
  if q < f.lowest then f.lowest else q

/-- The number of the format nearest to `n / d`, a tie to the one with the even fraction. -/
def nearest (f : BinaryFormat) (negative : Bool) (n d : Nat) : BinaryNumber :=
  if n == 0 then .finite negative 0 f.lowest false
  else
    let q := f.exponentFor n d
    let (n', d') := inUnits n d q
    let rounded := roundQuotient n' d'
    let (m, q) := if rounded == 2 * f.fractions then (f.fractions, q + 1) else (rounded, q)
    if f.highest < q then .infinite negative
    else .finite negative m q (m == f.fractions && f.lowest < q)

end BinaryFormat

def Numeral.nearest (n : Numeral) (f : BinaryFormat) : BinaryNumber :=
  f.nearest n.negative (n.mantissa * Nat.pow 10 n.exponent.toNat) (Nat.pow 10 (-n.exponent).toNat)

end Reflection
