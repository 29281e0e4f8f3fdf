import Reflection.Access.Typed
/-!
# Sessions

A `Session` holds a root value and a member cache over a run of accesses. An access goes through
the cache or past it; either way it answers with the session after it and the events in order.
-/

namespace Reflection

/-- Whether an access goes through the session's cache. -/
inductive Via
  | direct | cache
deriving DecidableEq, Repr

structure Session where
  root : Value
  cache : MemberCache

structure Answer (α : Type) where
  result : Except PathError α
  session : Session
  log : List Event

namespace Session
variable {α : Type}

def start (root : Value) : Session := ⟨root, .empty⟩

def get (s : Session) (via : Via) (route : Route) : Answer Value :=
  match via with
  | .direct =>
    let walk := Reflection.get .direct s.root route ()
    ⟨walk.result, s, walk.log⟩
  | .cache =>
    let walk := Reflection.get .cached s.root route s.cache
    ⟨walk.result, { s with cache := walk.memory }, walk.log⟩

def edit (s : Session) (via : Via) (route : Route) (f : Value → Value × α) : Answer α :=
  match via with
  | .direct =>
    let walk := Reflection.edit .direct s.root route f ()
    ⟨walk.result, { s with root := walk.root }, walk.log⟩
  | .cache =>
    let walk := Reflection.edit .cached s.root route f s.cache
    ⟨walk.result, ⟨walk.root, walk.memory⟩, walk.log⟩

def assign (s : Session) (via : Via) (route : Route) (x : Value) : Answer Unit :=
  match via with
  | .direct =>
    let walk := Reflection.assign .direct s.root route x ()
    ⟨walk.result, { s with root := walk.root }, walk.log⟩
  | .cache =>
    let walk := Reflection.assign .cached s.root route x s.cache
    ⟨walk.result, ⟨walk.root, walk.memory⟩, walk.log⟩

/-- Typed access goes past the cache. -/
def getAs (s : Session) (route : Route) (t : Ty) : Answer Value :=
  let walk := Reflection.getAs .direct s.root route t ()
  ⟨walk.result, s, walk.log⟩

def editAs (s : Session) (route : Route) (t : Ty) (f : Value → Value × α) : Answer α :=
  let walk := Reflection.editAs .direct s.root route t f ()
  ⟨walk.result, { s with root := walk.root }, walk.log⟩

/-- Asks for a member of a struct type by name. -/
def findMember (s : Session) (via : Via) (info : StructInfo) (name : String) : Answer (Option MemberInfo) :=
  match via with
  | .direct =>
    let (found, _, log) := Lookup.direct.find info name ()
    ⟨.ok found, s, log⟩
  | .cache =>
    let (found, cache, log) := MemberCache.find info name s.cache
    ⟨.ok found, { s with cache }, log⟩

def clearCache (s : Session) : Session := { s with cache := .empty }

end Session

end Reflection
