import Reflection.Value.View
/-!
# Growing and shrinking lists

Items are added only if they have the list's item type; a refused value is handed back and the list
stays as it was. Vectors and deques behave alike, though their own operations differ: neither lets an
item in behind its end, and only a deque can be asked for an item that it does not hold. Where the
container would break off there is no result. A bag cannot be changed in the middle.
-/

namespace Reflection

/-- A list after an attempt to add an item, with the item if it was refused. -/
structure Added where
  list : Value
  refused : Option Value

/-- A list after an attempt to take an item out, with the item if there was one. -/
structure Removed where
  list : Value
  removed : Option Value

/-! ## The containers' own operations -/

/-- A vector or deque with an item before position `i`. It breaks off behind the end. -/
def insertAt (items : List Value) (i : Nat) (x : Value) : Option (List Value) :=
  if i ≤ items.length then some (items.insertIdx i x) else none

/-- A vector without the item at position `i`, and the item. It breaks off where there is none. -/
def removeFromVec (items : List Value) (i : Nat) : Option (List Value × Value) :=
  (items[i]?).map fun x => (items.eraseIdx i, x)

/-- A deque without the item at position `i`, and the item if there is one. -/
def removeFromDeque (items : List Value) (i : Nat) : List Value × Option Value :=
  match items[i]? with
  | some x => (items.eraseIdx i, some x)
  | none => (items, none)

/-- How a list takes an item out. A vector is only asked for an item that it holds. -/
def ListType.removeAt (t : ListType) (items : List Value) (i : Nat) : Option (List Value × Option Value) :=
  match t with
  | .vec _ =>
    if i < items.length then (removeFromVec items i).map fun (rest, x) => (rest, some x) else some (items, none)
  | .deque _ => some (removeFromDeque items i)
  | .bag => some (items, none)

/-! ## Lists as values -/

namespace Value

/-- The value as one of a type, or the value handed back. -/
def take (t : Ty) (x : Value) : Except Value Value := if x.type = t then .ok x else .error x

/-- Adds an item at the end. -/
def push (v x : Value) : Added :=
  match v with
  | .list t items =>
    match x.take t.item with
    | .ok x => ⟨.list t (items ++ [x]), none⟩
    | .error x => ⟨v, some x⟩
  | v => ⟨v, some x⟩

/-- Adds an item before position `i`, which may be the end. -/
def insert (v : Value) (i : Nat) (x : Value) : Option Added :=
  match v with
  | .list .bag _ => some ⟨v, some x⟩
  | .list t items =>
    if items.length < i then some ⟨v, some x⟩
    else
      match x.take t.item with
      | .ok x => (insertAt items i x).map fun items => ⟨.list t items, none⟩
      | .error x => some ⟨v, some x⟩
  | v => some ⟨v, some x⟩

/-- Takes the last item out. -/
def pop (v : Value) : Removed :=
  match v with
  | .list t items => ⟨.list t items.dropLast, items.getLast?⟩
  | v => ⟨v, none⟩

/-- Takes the item at position `i` out. -/
def remove (v : Value) (i : Nat) : Option Removed :=
  match v with
  | .list t items => (t.removeAt items i).map fun (rest, x) => ⟨.list t rest, x⟩
  | v => some ⟨v, none⟩

end Value

end Reflection
