import Reflection.Path.Basic
import Reflection.Text.Numeral
/-!
# Paths as data

In data of a self-describing format a path is a text, its canonical one when it is written. Any
other datum is refused, and described in the refusal.
-/

namespace Reflection

/-- A datum. Of a sequence or map nothing is looked at. -/
inductive Datum
  | null
  | bool (b : Bool)
  | number (n : Numeral)
  | text (s : String)
  | sequence
  | map
deriving DecidableEq, Repr

namespace Datum

/-- Numbers are positional from 0.00001 to below 10 ^ 16. -/
def numberLayout : DecimalLayout :=
  { lowest := -4, highest := 16, plus := true, tie := .even, nan := "NaN", infinity := "inf" }

/-- Whether an integer is a signed or an unsigned word of 64 bits. -/
def isWord (i : Int) : Bool := -(Int64.size / 2 : Nat) ≤ i && i < UInt64.size

/-- Integers that are words are described as such, all other numbers as binary fractions. -/
def describeNumber (n : Numeral) : String :=
  match n.integer?.filter isWord with
  | some i => s!"integer `{i}`"
  | none => s!"floating point `{numberLayout.render (n.nearest .double)}`"

def describe : Datum → String
  | .null => "null"
  | .bool b => if b then "boolean `true`" else "boolean `false`"
  | .number n => describeNumber n
  | .text s => s!"string {s}"
  | .sequence => "sequence"
  | .map => "map"

end Datum

inductive PathDataError
  | notText (d : Datum)
  | invalidPath (e : InvalidPath)
deriving DecidableEq, Repr

def PathDataError.message : PathDataError → String
  | .notText d => s!"invalid type: {d.describe}, expected a non-empty access path string"
  | .invalidPath e => e.message

namespace Path

def toDatum (p : Path) : Datum := .text p.text

def ofDatum : Datum → Except PathDataError Path
  | .text s =>
    match parse s with
    | .ok p => .ok p
    | .error e => .error (.invalidPath e)
  | d => .error (.notText d)

end Path

end Reflection
