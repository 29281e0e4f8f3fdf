import Reflection.Access.Event
import Reflection.Keyed.TypeMap
import Reflection.Text.Shown
/-!
# Finding members

A walk finds the member of a struct that a name stands for by a `Lookup`, which may remember
something from one call to the next. `Lookup.direct` asks the declaration every time;
`Lookup.cached` asks it once for each type and name, and remembers what it found. A name that a
type does not declare is never remembered.
-/

namespace Reflection

structure Lookup (σ : Type) where
  find : StructInfo → String → σ → Option MemberInfo × σ × List Event

def Lookup.direct : Lookup Unit := ⟨fun info name _ => (info.member? name, (), [])⟩

/-- The members found so far, for each type under their names. -/
structure MemberCache where
  members : TypeMap Ty (KeyMap String MemberInfo)

namespace MemberCache

def empty : MemberCache := ⟨.empty⟩

def size (cache : MemberCache) : Nat := cache.members.values.foldr (fun names n => names.size + n) 0

def isEmpty (cache : MemberCache) : Bool := cache.size == 0

def debugText (cache : MemberCache) : String :=
  (Shown.record "MemberCache" [("len", .word (toString cache.size))]).compact

def get? (cache : MemberCache) (type : Ty) (name : String) : Option MemberInfo :=
  (cache.members.getType? type).bind (·.get? name)

/-- Remembers a member. A type gets a map for its names with the first of them. -/
def hold (cache : MemberCache) (type : Ty) (name : String) (m : MemberInfo) : MemberCache :=
  let (_, members) := cache.members.getOrInsert (.of type) fun _ => .empty
  ⟨(members.modify (.of type) fun names => (names.insert name m).2).2⟩

def find (info : StructInfo) (name : String) (cache : MemberCache) :
    Option MemberInfo × MemberCache × List Event :=
  match cache.get? info.type name with
  | some m => (some m, cache, [])
  | none =>
    match info.member? name with
    | none => (none, cache, [])
    | some m => (some m, cache.hold info.type name m, [.cached name info.type.path])

end MemberCache

def Lookup.cached : Lookup MemberCache := ⟨MemberCache.find⟩

end Reflection
