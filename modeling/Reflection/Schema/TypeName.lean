import Reflection.Schema.Ty
/-!
# Names of types

A type has a path, which spells out modules at every level, a name, which leaves them out, an
identifier without type arguments, and the module it lives in. `Ty.path` and `Ty.name` are one
recursion, `Ty.text`, over the two ways to write a base.
-/

namespace Reflection

/-- The names of a type without its arguments. -/
structure TypeBase where
  path : String
  ident : String
  module : Option String
deriving DecidableEq, Repr

namespace TypeBase

def bare (ident : String) : TypeBase := ⟨ident, ident, none⟩

def inModule (module ident : String) : TypeBase := ⟨module ++ "::" ++ ident, ident, some module⟩

def text (qualified : Bool) (b : TypeBase) : String := if qualified then b.path else b.ident

end TypeBase

def IntType.ident : IntType → String
  | .i8 => "i8" | .i16 => "i16" | .i32 => "i32" | .i64 => "i64" | .i128 => "i128" | .isize => "isize"
  | .u8 => "u8" | .u16 => "u16" | .u32 => "u32" | .u64 => "u64" | .u128 => "u128" | .usize => "usize"

def ScalarType.base : ScalarType → TypeBase
  | .bool => .bare "bool"
  | .char => .bare "char"
  | .int t => .bare t.ident
  | .f32 => .bare "f32"
  | .f64 => .bare "f64"
  | .str => .bare "&str"
  | .string => .inModule "alloc::string" "String"

def StructName.base (n : StructName) : TypeBase :=
  match n.module with
  | none => .bare n.ident
  | some m => .inModule m n.ident

def Bespoke.ident : Bespoke → String
  | .mystery => "Mystery"
  | .link => "Link"
  | .trio => "Trio"
  | .bag => "Bag"
  | .ghost => "Ghost"
  | .liar => "Liar"

/-- Bespoke types choose a path that is not made of their module. -/
def Bespoke.base (b : Bespoke) : TypeBase := ⟨"hand::" ++ b.ident, b.ident, none⟩

/-- A base with its arguments in angle brackets, if it has any. -/
def applied (base : String) (args : List String) : String :=
  if args.isEmpty then base else base ++ "<" ++ ", ".intercalate args ++ ">"

/-- An array type between brackets. -/
def bracketed (item : String) (len : Nat) : String := "[" ++ item ++ "; " ++ toString len ++ "]"

namespace Ty

def vecBase : TypeBase := .inModule "alloc::vec" "Vec"
def dequeBase : TypeBase := .inModule "alloc::collections" "VecDeque"
def optionBase : TypeBase := .inModule "core::option" "Option"
def boxBase : TypeBase := .inModule "alloc::boxed" "Box"

mutual
/-- A type written with its module paths, or without them. -/
def text (qualified : Bool) : Ty → String
  | .scalar s => s.base.text qualified
  | .vec t => applied (vecBase.text qualified) [t.text qualified]
  | .deque t => applied (dequeBase.text qualified) [t.text qualified]
  | .array t n => bracketed (t.text qualified) n
  | .option t => applied (optionBase.text qualified) [t.text qualified]
  | .box t => applied (boxBase.text qualified) [t.text qualified]
  | .struct n args => applied (n.base.text qualified) (texts qualified args)
  | .bespoke b => b.base.text qualified

def texts (qualified : Bool) : List Ty → List String
  | [] => []
  | t :: ts => t.text qualified :: texts qualified ts
end

def path (t : Ty) : String := t.text true
def name (t : Ty) : String := t.text false

/-- The base of a type that is not an array. -/
def base? : Ty → Option TypeBase
  | .scalar s => some s.base
  | .vec _ => some vecBase
  | .deque _ => some dequeBase
  | .array _ _ => none
  | .option _ => some optionBase
  | .box _ => some boxBase
  | .struct n _ => some n.base
  | .bespoke b => some b.base

/-- The bare identifier. An array brackets the identifier of its items. -/
def ident : Ty → String
  | .array t n => bracketed t.ident n
  | .scalar s => s.base.ident
  | .vec _ => vecBase.ident
  | .deque _ => dequeBase.ident
  | .option _ => optionBase.ident
  | .box _ => boxBase.ident
  | .struct n _ => n.base.ident
  | .bespoke b => b.base.ident

def module? (t : Ty) : Option String := t.base?.bind TypeBase.module

end Ty

end Reflection
