import Reflection.Keyed.KeyMap
import Reflection.Schema.Ty
/-!
# Computed once per type

A `TypeCell` keeps one value for each type, computed when it is first asked for. The computation may
ask the same cell for other types. What is in the cell stays: if the computation has put a value for
its own type there meanwhile, that one wins.
-/

namespace Reflection

abbrev TypeCell (α : Type) := KeyMap Ty α

/-- The cell's value for a type, after the computation if there was none; the flag tells whether it
ran. -/
def TypeCell.getOrInsert {α : Type} (cell : TypeCell α) (t : Ty) (init : TypeCell α → α × TypeCell α) :
    (α × Bool) × TypeCell α :=
  match cell.get? t with
  | some x => ((x, false), cell)
  | none =>
    let (x, later) := init cell
    match later.get? t with
    | some first => ((first, true), later)
    | none => ((x, true), (later.insert t x).2)

/-- The cell's value for a type. If there is none, it is made of what the computation gives. -/
def TypeCell.made {α β : Type} (t : Ty) (make : β → α) (parts : TypeCell α → β × TypeCell α) (cell : TypeCell α) :
    α × TypeCell α :=
  let ((x, _), cell) := cell.getOrInsert t fun cell =>
    let (y, cell) := parts cell
    (make y, cell)
  (x, cell)

/-- One value, computed when it is first asked for. -/
def onceInit {α : Type} (cell : Option α) (init : Unit → α) : (α × Bool) × Option α :=
  match cell with
  | some x => ((x, false), cell)
  | none => ((init (), true), some (init ()))

end Reflection
