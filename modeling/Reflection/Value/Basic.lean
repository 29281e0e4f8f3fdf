import Reflection.Schema.Info
import Reflection.Text.Decimal
/-!
# Values

A `Value` carries what it needs to describe itself: its type, and for a declared struct the whole
declaration. `Value.type` and `Value.info` read both off.

A struct keeps its members, which can be looked into, apart from its hidden fields, which cannot.
-/

namespace Reflection

/-! ## Atoms -/

/-- Floating-point numbers are kept as their bits. -/
inductive Scalar
  | bool (b : Bool)
  | char (c : Char)
  | int (t : IntType) (n : Int)
  | f32 (bits : UInt32)
  | f64 (bits : UInt64)
  | str (s : String)
  | string (s : String)
deriving DecidableEq, Repr

namespace Scalar

def type : Scalar → ScalarType
  | .bool _ => .bool
  | .char _ => .char
  | .int t _ => .int t
  | .f32 _ => .f32
  | .f64 _ => .f64
  | .str _ => .str
  | .string _ => .string

/-- Whether two scalars of one type are equal, numbers by their value. -/
def equal : Scalar → Scalar → Bool
  | .f32 a, .f32 b => (BinaryFormat.single.decode a.toNat).equal (BinaryFormat.single.decode b.toNat)
  | .f64 a, .f64 b => (BinaryFormat.double.decode a.toNat).equal (BinaryFormat.double.decode b.toNat)
  | a, b => a = b

end Scalar

/-! ## Containers -/

inductive ListType
  | vec (item : Ty)
  | deque (item : Ty)
  | bag
deriving DecidableEq, Repr

inductive ArrayType
  | fixed (item : Ty) (len : Nat)
  | trio
deriving DecidableEq, Repr

inductive PointerType
  | option (target : Ty)
  | box (target : Ty)
  | link (target : Ty)
deriving DecidableEq, Repr

/-- How a struct that answers for itself shows: as a struct, or as an atom. -/
inductive Facade
  | ghost | liar
deriving DecidableEq, Repr

namespace ListType

def type : ListType → Ty
  | .vec t => .vec t
  | .deque t => .deque t
  | .bag => .bespoke .bag

def item : ListType → Ty
  | .vec t | .deque t => t
  | .bag => .i32

/-- By how much the reported length exceeds the number of items. -/
def surplus : ListType → Nat
  | .bag => 2
  | _ => 0

end ListType

namespace ArrayType

def type : ArrayType → Ty
  | .fixed t n => .array t n
  | .trio => .bespoke .trio

def item : ArrayType → Ty
  | .fixed t _ => t
  | .trio => .i32

def len : ArrayType → Nat
  | .fixed _ n => n
  | .trio => 3

end ArrayType

namespace PointerType

def type : PointerType → Ty
  | .option t => .option t
  | .box t => .box t
  | .link _ => .bespoke .link

def target : PointerType → Ty
  | .option t | .box t | .link t => t

def nullable : PointerType → Bool
  | .box _ => false
  | _ => true

end PointerType

/-! ## Declared structs -/

/-- A field that is part of the value and not of its reflection. -/
structure HiddenField where
  name : String
  type : Ty
deriving DecidableEq, Repr

/-- What a struct declares: the members that it shows, and its hidden fields. -/
structure StructDecl where
  info : StructInfo
  hidden : List HiddenField
deriving DecidableEq, Repr

namespace Facade

def type : Facade → Ty
  | .ghost => .bespoke .ghost
  | .liar => .bespoke .liar

/-- The declaration of both facades: five members, two of one name. -/
def info (f : Facade) : StructInfo :=
  .ofMembers f.type
    [ .new "x" .i32,
      .new "y" .i32,
      (MemberInfo.new "z" .i32).withAccess .readOnly,
      (MemberInfo.new "x" (.scalar (.int .u8))).withAccess .writeOnly,
      (MemberInfo.new "w" .i32).withAccess .writeOnly ]
    none

end Facade

/-! ## Values -/

inductive Value
  | scalar (s : Scalar)
  | mystery (n : Int)
  | list (type : ListType) (items : List Value)
  | array (type : ArrayType) (items : List Value)
  | pointer (type : PointerType) (target : Option Value)
  | struct (decl : StructDecl) (members hidden : List Value)
  | facade (f : Facade) (x : Value)
deriving Repr

namespace Value

instance : Inhabited Value := ⟨.scalar (.bool false)⟩

def i32 (n : Int) : Value := .scalar (.int .i32 n)

def type : Value → Ty
  | .scalar s => .scalar s.type
  | .mystery _ => .bespoke .mystery
  | .list t _ => t.type
  | .array t _ => t.type
  | .pointer t _ => t.type
  | .struct decl _ _ => decl.info.type
  | .facade f _ => f.type

def typePath (v : Value) : String := v.type.path

def info : Value → TypeInfo
  | .scalar s => .atom (.scalar s.type)
  | .mystery _ => .atom (.bespoke .mystery)
  | .list t _ => .list t.type t.item
  | .array t _ => .array t.type t.item t.len
  | .pointer t _ => .pointer t.type t.target t.nullable
  | .struct decl _ _ => .struct decl.info
  | .facade f _ => .struct f.info

theorem info_type (v : Value) : v.info.type = v.type := by
  cases v with
  | facade f _ => cases f <;> rfl
  | _ => rfl

end Value

end Reflection
