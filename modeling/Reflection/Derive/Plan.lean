import Reflection.Derive.Attributes
import Reflection.Schema.Info
/-!
# What is derived

`Plan.ofItem` checks an item and collects what its implementations are made from. A skipped field
is checked too and stays in the plan, but it has no index and is no member.
-/

namespace Reflection.Derive

open Reflection.Code (Token)

/-- A field that has been checked. -/
structure PlannedField where
  name : String
  field : String
  /-- Its number among the fields that are not skipped. -/
  index : Option Nat
  access : Access
  docs : Option String
  type : List Token
deriving DecidableEq, Repr

/-- A field that becomes a member. -/
structure PlannedMember where
  name : String
  field : String
  index : Nat
  access : Access
  docs : Option String
  type : List Token
deriving DecidableEq, Repr

def PlannedField.member? (f : PlannedField) : Option PlannedMember :=
  f.index.map fun i => ⟨f.name, f.field, i, f.access, f.docs, f.type⟩

structure Plan where
  ident : String
  customPath : Option CustomPath
  docs : Option String
  params : List Param
  predicates : List (List Token)
  fields : List PlannedField
deriving DecidableEq, Repr

/-- Checks fields in order, where `earlier` have been checked and `next` is the index of the next member.
Only members have to differ in their names. -/
def planFields (collect : Bool) (earlier : List PlannedField) (next : Nat) (fields : List ItemField) :
    Except DeriveError (List PlannedField) :=
  match fields with
  | [] => .ok earlier
  | f :: rest => do
    let attrs ← FieldAttributes.ofAttributes collect f.attrs
    let name := attrs.rename.getD f.ident
    let index := if attrs.skip then none else some next
    if index.isSome && earlier.any (fun other => other.index.isSome && other.name == name) then
      throw (.duplicateMember name)
    let planned : PlannedField := ⟨name, f.ident, index, attrs.access, attrs.docs.text?, f.type⟩
    planFields collect (earlier ++ [planned]) (if attrs.skip then next else next + 1) rest

def isConst : Param → Bool
  | .const _ => true
  | _ => false

namespace Plan

def ofItem (collect : Bool) (item : Item) : Except DeriveError Plan := do
  if item.params.any isConst then throw .constParameter
  if item.shape ≠ .named then throw (.unsupported item.shape)
  let attrs ← TypeAttributes.ofAttributes collect item.attrs
  let fields ← planFields collect [] 0 item.fields
  return ⟨item.ident, attrs.typePath, attrs.docs.text?, item.params, item.predicates, fields⟩

/-- The fields that are not skipped. -/
def members (plan : Plan) : List PlannedMember := plan.fields.filterMap PlannedField.member?

def typeParams (plan : Plan) : List String :=
  plan.params.filterMap fun p => match p with
    | .type name _ => some name
    | _ => none

def lifetimes (plan : Plan) : List String :=
  plan.params.filterMap fun p => match p with
    | .lifetime name _ => some name
    | _ => none

/-- Lifetimes alone do not make a type generic. -/
def isGeneric (plan : Plan) : Bool := !plan.typeParams.isEmpty

/-- What the type's info declares, where `typeOf` interprets the types of fields. -/
def info (plan : Plan) (typeOf : List Token → Ty) (type : Ty) : StructInfo :=
  .ofMembers type (plan.members.map fun m => ⟨m.name, 0, m.access, typeOf m.type, m.docs⟩) plan.docs

end Plan

/-! ## Access to fields -/

/-- How a field is borrowed. -/
inductive Borrow
  | shared | mutable
deriving DecidableEq, Repr

/-- A field of the value, borrowed. -/
structure FieldRef where
  borrow : Borrow
  field : String
deriving DecidableEq, Repr

/-- What the accessors of a struct are put together from, in columns. -/
structure FieldAccessors where
  shared : List FieldRef
  mutable : List FieldRef
  names : List String
  indices : List Nat
  count : Nat

namespace FieldAccessors

def empty : FieldAccessors := ⟨[], [], [], [], 0⟩

/-- The next member has the number of those before as its index. -/
def push (columns : FieldAccessors) (m : PlannedMember) : FieldAccessors where
  shared := columns.shared ++ [⟨.shared, m.field⟩]
  mutable := columns.mutable ++ [⟨.mutable, m.field⟩]
  names := columns.names ++ [m.name]
  indices := columns.indices ++ [columns.count]
  count := columns.count + 1

end FieldAccessors

namespace Plan

def accessors (plan : Plan) : FieldAccessors := plan.members.foldl .push .empty

def count (plan : Plan) : Nat := plan.accessors.count

/-- The arms by which a name selects a field. -/
def nameArms (plan : Plan) : List (String × FieldRef) := plan.accessors.names.zip plan.accessors.shared

def nameArmsMut (plan : Plan) : List (String × FieldRef) := plan.accessors.names.zip plan.accessors.mutable

/-- The arms by which an index selects a field. -/
def indexArms (plan : Plan) : List (Nat × FieldRef) := plan.accessors.indices.zip plan.accessors.shared

def indexArmsMut (plan : Plan) : List (Nat × FieldRef) := plan.accessors.indices.zip plan.accessors.mutable

/-- The arms by which an index selects a name. -/
def namesByIndex (plan : Plan) : List (Nat × String) := plan.accessors.indices.zip plan.accessors.names

/-! A match takes the first arm that fits. -/

def member? (plan : Plan) (name : String) : Option FieldRef := plan.nameArms.lookup name

def memberMut? (plan : Plan) (name : String) : Option FieldRef := plan.nameArmsMut.lookup name

def memberAt? (plan : Plan) (i : Nat) : Option FieldRef := plan.indexArms.lookup i

def memberAtMut? (plan : Plan) (i : Nat) : Option FieldRef := plan.indexArmsMut.lookup i

def nameAt? (plan : Plan) (i : Nat) : Option String := plan.namesByIndex.lookup i

end Plan

end Reflection.Derive
