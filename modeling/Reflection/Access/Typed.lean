import Reflection.Access.Walk
/-!
# Typed access

A value is asked for as one of a given type. The value found may have that type itself, or be a
pointer to it, or a pointer to a pointer to it, and so on.
-/

namespace Reflection

namespace Value

/-- The first value of type `t` on the pointer chain that starts here. -/
def through? (t : Ty) (v : Value) : Option Value :=
  if v.type = t then some v
  else match v with
    | .pointer _ (some w) => w.through? t
    | _ => none

/-- The first value of type `t` on the pointer chain, held to be changed. While a value has another type its
pointer is followed, and where there is none to follow, the error is the one given. -/
def focusThrough (t : Ty) (e : PathError) (v : Value) : Except PathError Focus :=
  if v.type ≠ t then
    match v with
    | .pointer p (some w) => (w.focusThrough t e).map (Focus.within ⟨w, fun x => .pointer p (some x)⟩)
    | _ => .error e
  else
    match v.as? t with
    | some w => .ok ⟨w, fun x => x⟩
    | none => .error e

/-- Changes the first value of type `t` on the pointer chain. The error names the value itself, not what it
points to. -/
def editThrough {α : Type} (t : Ty) (f : Value → Value × α) (v : Value) : Value × Except PathError α :=
  match v.focusThrough t (.invalidDowncast t.path v.typePath) with
  | .ok focus => (focus.whole (f focus.part).1, .ok (f focus.part).2)
  | .error e => (v, .error e)

theorem error_of_focusThrough {t : Ty} {e e' : PathError} {v : Value} (h : v.focusThrough t e = .error e') :
    e' = e := by
  fun_induction focusThrough t e v with
  | case1 p w ht ih =>
    cases hw : w.focusThrough t e with
    | error e'' => rw [hw] at h; cases h; exact ih hw
    | ok focus => rw [hw] at h; cases h
  | case2 v ht hv => exact (Except.error.inj h).symm
  | case3 v ht w hw => cases h
  | case4 v ht hv => exact (Except.error.inj h).symm

theorem error_of_editThrough {α : Type} {t : Ty} {f : Value → Value × α} {v : Value} {e : PathError}
    (h : (v.editThrough t f).2 = .error e) : e = .invalidDowncast t.path v.typePath := by
  unfold editThrough at h
  cases hfocus : v.focusThrough t (.invalidDowncast t.path v.typePath) with
  | ok focus => rw [hfocus] at h; cases h
  | error e' => rw [hfocus] at h; cases h; exact error_of_focusThrough hfocus

end Value

variable {σ α : Type}

/-- The value at the route as one of type `t`. The error names the value found, not what it points
to. -/
def getAs (lookup : Lookup σ) (root : Value) (route : Route) (t : Ty) (memory : σ) :
    Walk σ (Except PathError Value) :=
  let walk := get lookup root route memory
  { walk with
    result := walk.result.bind fun v =>
      match v.through? t with
      | some w => .ok w
      | none => .error (.invalidDowncast t.path v.typePath) }

/-- Changes the value at the route as one of type `t`. -/
def editAs (lookup : Lookup σ) (root : Value) (route : Route) (t : Ty) (f : Value → Value × α)
    (memory : σ) : Edit σ α :=
  let walk := edit lookup root route (Value.editThrough t f) memory
  { result := walk.result.bind fun answer => answer
    root := walk.root
    memory := walk.memory
    log := walk.log }

end Reflection
