import Reflection.Value.View
/-!
# Equality seen from outside

Two values are compared by what they show. Structs agree if each has the members of the other,
whatever their order and type; lists and arrays agree item by item; pointers agree if both are null
or their targets agree; scalars agree if they have the same type and are equal. The bespoke types
do not compare, so the answer may be open (`none`), and the first answer other than yes is final.
-/

namespace Reflection

/-- Walks down two sequences, up to the first pair that is not equal. -/
def compareItems : List (Value → Option Bool) → List Value → Option Bool
  | f :: fs, y :: ys => if f y = some true then compareItems fs ys else f y
  | _, _ => some true

/-- Compares each member of `entries` with the comparison that stands under its name. -/
def compareMembers (comparisons : List (String × (Value → Option Bool))) :
    List (String × Value) → Option Bool
  | [] => some true
  | (name, y) :: rest =>
    match comparisons.lookup name with
    | none => some false
    | some f => if f y = some true then compareMembers comparisons rest else f y

namespace Value

mutual
/-- What the left value answers when it is compared with the right one. -/
def equals : Value → Value → Option Bool
  | .scalar s, y =>
    match y with
    | .scalar s' => some (s.type = s'.type && s.equal s')
    | _ => some false
  | .list .bag _, _ | .array .trio _, _ | .pointer (.link _) _, _ => none
  | .mystery _, _ | .facade _ _, _ => none
  | .list _ items, y =>
    match y.view with
    | .list s => if items.length = s.len then compareItems (comparisons items) s.items else some false
    | _ => some false
  | .array _ items, y =>
    match y.view with
    | .array s => if items.length = s.len then compareItems (comparisons items) s.items else some false
    | _ => some false
  | .pointer _ (some x), y =>
    match y.view with
    | .pointer (some y) => x.equals y
    | _ => some false
  | .pointer _ none, y =>
    match y.view with
    | .pointer none => some true
    | _ => some false
  | .struct decl members _, y =>
    match y.view with
    | .struct s =>
      if decl.info.names.length = s.len then
        compareMembers (decl.info.names.zip (comparisons members)) s.entries
      else some false
    | _ => some false

def comparisons : List Value → List (Value → Option Bool)
  | [] => []
  | v :: vs => v.equals :: comparisons vs
end

end Value

end Reflection
