import Reflection.Value.View
import Reflection.Text.Shown
/-!
# Values as text

Scalars show as literals, structs as records of what they show, and pointers as their target. An
atom that is no scalar shows its kind and its type.
-/

namespace Reflection

/-! ## Scalars -/

/-- Numbers are positional from 0.0001 to below 10 ^ 16. -/
def shownLayout : DecimalLayout :=
  { lowest := -3, highest := 16, plus := false, tie := .up, nan := "NaN", infinity := "inf" }

def Scalar.shown : Scalar → String
  | .bool b => if b then "true" else "false"
  | .char c => Text.quoteChar c
  | .int _ n => toString n
  | .f32 bits => shownLayout.render (BinaryFormat.single.decode bits.toNat)
  | .f64 bits => shownLayout.render (BinaryFormat.double.decode bits.toNat)
  | .str s | .string s => Text.quoteText s

/-! ## Values -/

/-- How an atom shows that has no text of its own. -/
def shownAtom (type : Ty) : Shown := .word (Kind.atom.text ++ "(" ++ type.path ++ ")")

namespace Value

mutual
def shown : Value → Shown
  | .scalar s => .word s.shown
  | .mystery _ => shownAtom (.bespoke .mystery)
  | .list _ items => .list (shownAll items)
  | .array _ items => .list (shownAll items)
  | .pointer (.option _) none => .word "None"
  | .pointer (.option _) (some v) => .applied "Some" v.shown
  | .pointer _ none => .word "null"
  | .pointer _ (some v) => v.shown
  | .struct decl members _ => .record decl.info.type.name (decl.info.names.zip (shownAll members))
  | .facade .ghost x => .record (Facade.ghost.type).name [("x", x.shown)]
  | .facade .liar _ => shownAtom (.bespoke .liar)

def shownAll : List Value → List Shown
  | [] => []
  | v :: vs => v.shown :: shownAll vs
end

def debugText (v : Value) : String := v.shown.compact
def prettyText (v : Value) : String := v.shown.pretty 0

end Value

end Reflection
