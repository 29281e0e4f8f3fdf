import Reflection.Value.View
/-!
# Dumps

A `Dump` is all that looking into a value, into its members and items and so on, can show.
-/

namespace Reflection

inductive Dump
  | struct (members : List (String × Dump))
  | list (items : List Dump)
  | array (items : List Dump)
  | pointer (target : Option Dump)
  | atom (v : Value)

namespace Value

mutual
def dump : Value → Dump
  | .scalar s => .atom (.scalar s)
  | .mystery n => .atom (.mystery n)
  | .list _ items => .list (dumps items)
  | .array _ items => .array (dumps items)
  | .pointer _ (some v) => .pointer (some v.dump)
  | .pointer _ none => .pointer none
  | .struct decl members _ => .struct (decl.info.names.zip (dumps members))
  | .facade .ghost x => .struct [("x", x.dump)]
  | .facade .liar x => .atom (.facade .liar x)

def dumps : List Value → List Dump
  | [] => []
  | v :: vs => v.dump :: dumps vs
end

end Value

end Reflection
