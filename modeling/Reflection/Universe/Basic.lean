import Reflection.Value.Basic
/-!
# Universes

A universe says what the structs of each name declare for given type arguments. With it a type
alone, without a value, has an info and a default value.
-/

namespace Reflection

structure Universe where
  decl? : StructName → List Ty → Option StructDecl
  /-- The type that links point to. -/
  linkTarget : Ty

/-- A field of a declaration: a member of the reflected struct, or hidden. -/
structure Field where
  name : String
  type : Ty
  access : Access := .readWrite
  docs : Option String := none
  hidden : Bool := false

namespace StructDecl

/-- A declaration from its fields in order. -/
def ofFields (name : StructName) (args : List Ty) (docs : Option String) (fields : List Field) : StructDecl :=
  let shown := fields.filter (!·.hidden)
  ⟨.ofMembers (.struct name args) (shown.map fun f => ⟨f.name, 0, f.access, f.type, f.docs⟩) docs,
    (fields.filter (·.hidden)).map fun f => ⟨f.name, f.type⟩⟩

end StructDecl

namespace Bespoke

def info (linkTarget : Ty) : Bespoke → TypeInfo
  | .mystery => .atom (.bespoke .mystery)
  | .link => .pointer (.bespoke .link) linkTarget true
  | .trio => .array (.bespoke .trio) .i32 3
  | .bag => .list (.bespoke .bag) .i32
  | .ghost => .struct Facade.ghost.info
  | .liar => .struct Facade.liar.info

end Bespoke

namespace Universe

/-- The info of a type, if the universe declares it. -/
def info? (U : Universe) : Ty → Option TypeInfo
  | .scalar s => some (.atom (.scalar s))
  | .vec t => some (.list (.vec t) t)
  | .deque t => some (.list (.deque t) t)
  | .array t n => some (.array (.array t n) t n)
  | .option t => some (.pointer (.option t) t true)
  | .box t => some (.pointer (.box t) t false)
  | .struct name args => (U.decl? name args).map fun decl => .struct decl.info
  | .bespoke b => some (b.info U.linkTarget)

/-! ## Defaults -/

def zero : ScalarType → Scalar
  | .bool => .bool false
  | .char => .char (Char.ofNat 0)
  | .int t => .int t 0
  | .f32 => .f32 0
  | .f64 => .f64 0
  | .str => .str ""
  | .string => .string ""

/-- Zero, false, empty or null. Boxes, arrays and structs hold defaults, to a nesting of `depth`. -/
def default (U : Universe) : Nat → Ty → Value
  | _, .scalar s => .scalar (zero s)
  | _, .vec t => .list (.vec t) []
  | _, .deque t => .list (.deque t) []
  | _, .option t => .pointer (.option t) none
  | _, .bespoke .mystery => .mystery 0
  | _, .bespoke .link => .pointer (.link U.linkTarget) none
  | _, .bespoke .trio => .array .trio [.i32 0, .i32 0, .i32 0]
  | _, .bespoke .bag => .list .bag []
  | _, .bespoke .ghost => .facade .ghost (.i32 0)
  | _, .bespoke .liar => .facade .liar (.i32 0)
  | depth + 1, .array t n => .array (.fixed t n) (List.replicate n (U.default depth t))
  | depth + 1, .box t => .pointer (.box t) (some (U.default depth t))
  | depth + 1, .struct name args =>
    match U.decl? name args with
    | none => .scalar (zero .bool)
    | some decl =>
      .struct decl (decl.info.members.map fun m => U.default depth m.type)
        (decl.hidden.map fun f => U.default depth f.type)
  | 0, .array .. | 0, .box _ | 0, .struct .. => .scalar (zero .bool)

end Universe

end Reflection
