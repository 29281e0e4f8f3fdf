/-!
# Types

The types whose values can be looked into: scalars, sequences, pointers, declared structs with
their type arguments, and six bespoke types that answer for themselves. Two types are the same
exactly if their descriptions are equal, which `DecidableEq Ty` decides.
-/

namespace Reflection

inductive IntType
  | i8 | i16 | i32 | i64 | i128 | isize | u8 | u16 | u32 | u64 | u128 | usize
deriving DecidableEq, Repr

/-- `str` is borrowed text and `string` is owned text. -/
inductive ScalarType
  | bool | char | int (t : IntType) | f32 | f64 | str | string
deriving DecidableEq, Repr

/-- Where a declared struct lives, and its name there. -/
structure StructName where
  module : Option String
  ident : String
deriving DecidableEq, Repr

/-- The bespoke types. `mystery` is an atom around a number, `link` a pointer that can be null,
`trio` three numbers, `bag` a list that claims to be longer than it is, `ghost` a struct that
declares more members than it shows, and `liar` a ghost that passes for an atom. -/
inductive Bespoke
  | mystery | link | trio | bag | ghost | liar
deriving DecidableEq, Repr

inductive Ty
  | scalar (s : ScalarType)
  | vec (item : Ty)
  | deque (item : Ty)
  | array (item : Ty) (len : Nat)
  | option (target : Ty)
  | box (target : Ty)
  | struct (name : StructName) (args : List Ty)
  | bespoke (b : Bespoke)
deriving Repr

namespace Ty

instance : Inhabited Ty := ⟨.scalar .bool⟩

def i32 : Ty := .scalar (.int .i32)

/-! ## Equality is decidable -/

mutual
def same : Ty → Ty → Bool
  | .scalar s, .scalar s' => s = s'
  | .vec t, .vec t' => same t t'
  | .deque t, .deque t' => same t t'
  | .array t n, .array t' n' => same t t' && n = n'
  | .option t, .option t' => same t t'
  | .box t, .box t' => same t t'
  | .struct n as, .struct n' as' => n = n' && sameAll as as'
  | .bespoke b, .bespoke b' => b = b'
  | _, _ => false

def sameAll : List Ty → List Ty → Bool
  | [], [] => true
  | t :: ts, t' :: ts' => same t t' && sameAll ts ts'
  | _, _ => false
end

mutual
theorem same_iff : ∀ t t' : Ty, same t t' = true ↔ t = t'
  | .scalar _, t' => by cases t' <;> simp [same]
  | .vec t, t' => by cases t' <;> simp [same, same_iff t]
  | .deque t, t' => by cases t' <;> simp [same, same_iff t]
  | .array t _, t' => by cases t' <;> simp [same, same_iff t]
  | .option t, t' => by cases t' <;> simp [same, same_iff t]
  | .box t, t' => by cases t' <;> simp [same, same_iff t]
  | .struct _ as, t' => by cases t' <;> simp [same, sameAll_iff as]
  | .bespoke _, t' => by cases t' <;> simp [same]

theorem sameAll_iff : ∀ ts ts' : List Ty, sameAll ts ts' = true ↔ ts = ts'
  | [], ts' => by cases ts' <;> simp [sameAll]
  | t :: ts, ts' => by cases ts' <;> simp [sameAll, same_iff t, sameAll_iff ts]
end

instance : DecidableEq Ty := fun t t' => decidable_of_iff _ (same_iff t t')

end Ty

end Reflection
