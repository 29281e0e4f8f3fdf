import Reflection.Keyed.KeyMap
/-!
# Maps by type

A `TypeMap` holds values under the identities of types. It is asked by identity, or by a type that is
turned into its identity first.
-/

namespace Reflection

/-- The identity of a type. Different types have different identities, and each identity is that of a type. -/
structure TypeId (τ : Type) where
  of ::
  type : τ
deriving DecidableEq, Repr

abbrev TypeMap (τ α : Type) := KeyMap (TypeId τ) α

namespace TypeMap
variable {τ α : Type} [DecidableEq τ]

def getType? (m : TypeMap τ α) (t : τ) : Option α := m.get? (.of t)

def containsType (m : TypeMap τ α) (t : τ) : Bool := m.contains (.of t)

/-- The value that the type had before, and the map with `x` for it. -/
def insertType (m : TypeMap τ α) (t : τ) (x : α) : Option α × TypeMap τ α := m.insert (.of t) x

end TypeMap

end Reflection
