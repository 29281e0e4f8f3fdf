import Reflection.Value.View
/-!
# Iterating over values

An `Iterator` asks a container at one index after the other. Sequences are asked for an item, structs for
a name and then for a member. The next index is asked only after something was given at the one before, so
an iterator stops for good at the first index without a value, whatever length the container reports.
-/

namespace Reflection

/-- `step` is a call at an index: what it gives, and the index that the next call asks at. -/
structure Iterator (α : Type) where
  step : Nat → Option α × Nat
  len : Nat
  index : Nat

namespace Iterator
variable {α : Type}

/-- Counts an item if there is one. -/
def ofItems (itemAt? : Nat → Option α) (len : Nat) : Iterator α where
  step i :=
    let item := itemAt? i
    (item, i + item.isSome.toNat)
  len := len
  index := 0

/-- Gives up at a missing name or a missing member, and counts when both are there. -/
def ofMembers (nameAt? : Nat → Option String) (memberAt? : Nat → Option α) (len : Nat) : Iterator (String × α) where
  step i :=
    match nameAt? i with
    | none => (none, i)
    | some name =>
      match memberAt? i with
      | none => (none, i)
      | some member => (some (name, member), i + 1)
  len := len
  index := 0

def next (it : Iterator α) : Option α × Iterator α :=
  let (x, index) := it.step it.index
  (x, { it with index })

/-- How many items are still to come by the reported length; both bounds are the same. -/
def sizeHint (it : Iterator α) : Nat × Nat := (it.len - it.index, it.len - it.index)

/-- The answers of `n` calls, each with the size hint after it. -/
def run : Nat → Iterator α → List (Option α × (Nat × Nat))
  | 0, _ => []
  | n + 1, it =>
    let (x, later) := it.next
    (x, later.sizeHint) :: later.run n

end Iterator

def SequenceView.iterator (s : SequenceView) : Iterator Value := .ofItems (fun i => s.items[i]?) s.len

def StructView.iterator (s : StructView) : Iterator (String × Value) := .ofMembers s.nameAt? s.memberAt? s.len

end Reflection
