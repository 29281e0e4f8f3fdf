import Reflection.Keyed.KeyMap
import Reflection.Schema.Kind
import Reflection.Schema.TypeName
/-!
# Infos

A `TypeInfo` describes a type without a value of it: the members of a struct, the items of a
sequence, the target of a pointer. `StructInfo.ofMembers` numbers members in order of declaration;
where a name is declared twice, the name stands for the last declaration.
-/

namespace Reflection

structure MemberInfo where
  name : String
  index : Nat
  access : Access
  type : Ty
  docs : Option String
deriving DecidableEq, Repr

namespace MemberInfo

/-- A member of a type, readable and writable, without docs. -/
def new (name : String) (type : Ty) : MemberInfo := ⟨name, 0, .readWrite, type, none⟩

def withAccess (m : MemberInfo) (access : Access) : MemberInfo := { m with access }
def withIndex (m : MemberInfo) (index : Nat) : MemberInfo := { m with index }
def withDocs (m : MemberInfo) (docs : Option String) : MemberInfo := { m with docs }

end MemberInfo

structure StructInfo where
  type : Ty
  members : List MemberInfo
  docs : Option String
  /-- Members are numbered in order. -/
  index_eq : ∀ (i : Nat) (m : MemberInfo), members[i]? = some m → m.index = i
deriving DecidableEq, Repr

namespace StructInfo

/-- The members renumbered from `i` on. -/
def numbered (i : Nat) : List MemberInfo → List MemberInfo
  | [] => []
  | m :: ms => m.withIndex i :: numbered (i + 1) ms

theorem index_of_numbered {i k : Nat} {ms : List MemberInfo} {m : MemberInfo}
    (h : (numbered i ms)[k]? = some m) : m.index = i + k := by
  induction ms generalizing i k with
  | nil => simp [numbered] at h
  | cons m' ms ih =>
    cases k with
    | zero =>
      simp only [numbered, List.getElem?_cons_zero, Option.some.injEq] at h
      rw [← h]; rfl
    | succ k =>
      simp only [numbered, List.getElem?_cons_succ] at h
      rw [ih h]; omega

def ofMembers (type : Ty) (members : List MemberInfo) (docs : Option String) : StructInfo :=
  ⟨type, numbered 0 members, docs, fun _ _ h => by simpa using index_of_numbered h⟩

def names (s : StructInfo) : List String := s.members.map MemberInfo.name

/-- The index under each name. Each declaration takes its name over from earlier ones. -/
def indices (s : StructInfo) : KeyMap String Nat :=
  s.members.foldl (fun table m => table.set m.name m.index) .empty

def indexOf? (s : StructInfo) (name : String) : Option Nat := s.indices.get? name

def memberAt? (s : StructInfo) (i : Nat) : Option MemberInfo := s.members[i]?

def member? (s : StructInfo) (name : String) : Option MemberInfo := (s.indexOf? name).bind s.memberAt?

def readableMember? (s : StructInfo) (name : String) : Option MemberInfo :=
  (s.member? name).filter (·.access.isReadable)

def writableMember? (s : StructInfo) (name : String) : Option MemberInfo :=
  (s.member? name).filter (·.access.isWritable)

end StructInfo

/-- What is known of a type without a value of it. -/
inductive TypeInfo
  | struct (info : StructInfo)
  | list (type item : Ty)
  | array (type item : Ty) (len : Nat)
  | pointer (type target : Ty) (nullable : Bool)
  | atom (type : Ty)
deriving DecidableEq, Repr

namespace TypeInfo

def kind : TypeInfo → Kind
  | .struct _ => .struct
  | .list .. => .list
  | .array .. => .array
  | .pointer .. => .pointer
  | .atom _ => .atom

def type : TypeInfo → Ty
  | .struct info => info.type
  | .list type _ | .array type _ _ | .pointer type _ _ | .atom type => type

/-- Only structs are documented. -/
def docs : TypeInfo → Option String
  | .struct info => info.docs
  | _ => none

/-- The info as one of kind `k`. -/
def cast (info : TypeInfo) (k : Kind) : Except KindMismatch TypeInfo :=
  if info.kind = k then .ok info else .error ⟨k, info.kind⟩

def asStruct : TypeInfo → Except KindMismatch StructInfo
  | .struct info => .ok info
  | info => .error ⟨.struct, info.kind⟩

/-- The item or target type, or the type itself where there is none. -/
def inner : TypeInfo → Ty
  | .struct info => info.type
  | .list _ item | .array _ item _ => item
  | .pointer _ target _ => target
  | .atom type => type

end TypeInfo

end Reflection
