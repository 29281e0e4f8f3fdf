/-!
# Kinds and access

Every type is of one of five kinds, which decides how values of it are looked into. A member of a
struct may be read, written, or both.
-/

namespace Reflection

/-- The five ways to look into a value. An atom cannot be looked into. -/
inductive Kind
  | struct | list | array | pointer | atom
deriving DecidableEq, Repr

namespace Kind

def text : Kind → String
  | .struct => "Struct"
  | .list => "List"
  | .array => "Array"
  | .pointer => "Pointer"
  | .atom => "Opaque"

def isIndexable : Kind → Bool
  | .list | .array => true
  | _ => false

end Kind

/-- A value or an info of one kind was asked for, and another one was met. -/
structure KindMismatch where
  expected : Kind
  received : Kind
deriving DecidableEq, Repr

def KindMismatch.message (e : KindMismatch) : String :=
  s!"reflect kind mismatch: expected {e.expected.text}, received {e.received.text}"

/-! ## Access -/

/-- What a member's declaration allows. -/
inductive Access
  | readWrite | readOnly | writeOnly
deriving DecidableEq, Repr

namespace Access

def text : Access → String
  | .readWrite => "read-write"
  | .readOnly => "read-only"
  | .writeOnly => "write-only"

def isReadable (a : Access) : Bool := a != .writeOnly
def isWritable (a : Access) : Bool := a != .readOnly

end Access

/-- What a segment is resolved for. -/
inductive Mode
  | read | write
deriving DecidableEq, Repr

namespace Mode

def text : Mode → String
  | .read => "readable"
  | .write => "writable"

def allows : Mode → Access → Bool
  | .read, a => a.isReadable
  | .write, a => a.isWritable

end Mode

end Reflection
