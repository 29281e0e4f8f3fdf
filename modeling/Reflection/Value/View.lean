import Reflection.Value.Basic
/-!
# Looking into values

A `View` is what a value shows of itself: the members of a struct, the items of a sequence, the
target of a pointer. A `Slot` names one place of a view; `Value.child?` reads it and
`Value.setChild` replaces it. An `EditView` is what a value hands out to be changed in place: parts of
it, each in a `Focus`. Only the accessors here know the bespoke types.
-/

namespace Reflection

/-- The names a struct shows, each with the value behind it if it gives one. -/
structure StructView where
  names : List String
  members : List (Option Value)

/-- The items of a sequence, and the length that it reports. -/
structure SequenceView where
  items : List Value
  len : Nat

inductive View
  | struct (s : StructView)
  | list (s : SequenceView)
  | array (s : SequenceView)
  | pointer (target : Option Value)
  | atom

def View.kind : View → Kind
  | .struct _ => .struct
  | .list _ => .list
  | .array _ => .array
  | .pointer _ => .pointer
  | .atom => .atom

/-! ## Struct views -/

namespace StructView

def len (s : StructView) : Nat := s.names.length

def nameAt? (s : StructView) (i : Nat) : Option String := s.names[i]?

def memberAt? (s : StructView) (i : Nat) : Option Value := (s.members[i]?).join

/-- The index of the first member of a name. -/
def indexOf? (s : StructView) (name : String) : Option Nat := s.names.findIdx? (· == name)

def member? (s : StructView) (name : String) : Option Value := (s.indexOf? name).bind s.memberAt?

/-- Names and values up to the first name without a value. -/
def pairs : List String → List (Option Value) → List (String × Value)
  | n :: ns, some v :: vs => (n, v) :: pairs ns vs
  | _, _ => []

def entries (s : StructView) : List (String × Value) := pairs s.names s.members

end StructView

/-! ## Views of values -/

namespace Value

def view : Value → View
  | .scalar _ | .mystery _ => .atom
  | .list t items => .list ⟨items, items.length + t.surplus⟩
  | .array _ items => .array ⟨items, items.length⟩
  | .pointer _ target => .pointer target
  | .struct decl members _ => .struct ⟨decl.info.names, members.map some⟩
  | .facade .ghost x => .struct ⟨["x", "y", "z"], [some x, none, none]⟩
  | .facade .liar _ => .atom

def kind (v : Value) : Kind := v.view.kind

/-- The value as one of a kind that it must show. -/
def asStruct (v : Value) : Except KindMismatch StructView :=
  match v.view with
  | .struct s => .ok s
  | other => .error ⟨.struct, other.kind⟩

def asList (v : Value) : Except KindMismatch SequenceView :=
  match v.view with
  | .list s => .ok s
  | other => .error ⟨.list, other.kind⟩

def asArray (v : Value) : Except KindMismatch SequenceView :=
  match v.view with
  | .array s => .ok s
  | other => .error ⟨.array, other.kind⟩

def asPointer (v : Value) : Except KindMismatch (Option Value) :=
  match v.view with
  | .pointer target => .ok target
  | other => .error ⟨.pointer, other.kind⟩

end Value

/-! ## Slots -/

inductive Slot
  | item (i : Nat)
  | member (i : Nat)
  | target
deriving DecidableEq, Repr

namespace Value

/-- The value in a slot. -/
def child? (v : Value) : Slot → Option Value
  | .item i =>
    match v.view with
    | .list s | .array s => s.items[i]?
    | _ => none
  | .member i =>
    match v.view with
    | .struct s => s.memberAt? i
    | _ => none
  | .target =>
    match v.view with
    | .pointer target => target
    | _ => none

/-- The value, if it has the type. -/
def as? (t : Ty) (v : Value) : Option Value := if v.type = t then some v else none

/-- The value with another one in a slot. A slot that holds nothing stays empty. -/
def setChild (v : Value) (slot : Slot) (x : Value) : Value :=
  match v, slot with
  | .list t items, .item i => .list t (items.set i x)
  | .array t items, .item i => .array t (items.set i x)
  | .pointer t (some _), .target => .pointer t (some x)
  | .struct decl members hidden, .member i => .struct decl (members.set i x) hidden
  | .facade .ghost _, .member 0 => .facade .ghost x
  | v, _ => v

/-- The first value behind a chain of pointers, unless the chain ends in null. -/
def chainEnd? : Value → Option Value
  | .pointer _ (some v) => v.chainEnd?
  | .pointer _ none => none
  | v => some v

/-- The value with the end of its pointer chain replaced. -/
def mapChainEnd (f : Value → Value) : Value → Value
  | .pointer t (some v) => .pointer t (some (v.mapChainEnd f))
  | .pointer t none => .pointer t none
  | v => f v

end Value

/-! ## Parts to be changed in place -/

/-- A part of a value that is held to be changed: the part as it is, and the whole for each part that
may come in its place. -/
structure Focus where
  part : Value
  whole : Value → Value

/-- A part of a part is a part of the whole. -/
def Focus.within (outer inner : Focus) : Focus := ⟨inner.part, fun x => outer.whole (inner.whole x)⟩

/-- What a value hands out to be changed. -/
inductive EditView
  | struct (memberAt? : Nat → Option Focus)
  | list (itemAt? : Nat → Option Focus) (len : Nat)
  | array (itemAt? : Nat → Option Focus) (len : Nat)
  | pointer (target : Option Focus)
  | atom

def EditView.kind : EditView → Kind
  | .struct _ => .struct
  | .list .. => .list
  | .array .. => .array
  | .pointer _ => .pointer
  | .atom => .atom

/-- One of several values in a whole. -/
def Focus.ofItem? (items : List Value) (whole : List Value → Value) (i : Nat) : Option Focus :=
  (items[i]?).map fun x => ⟨x, fun y => whole (items.set i y)⟩

namespace Value

def editView : Value → EditView
  | .scalar _ | .mystery _ => .atom
  | .list t items => .list (Focus.ofItem? items (.list t)) (items.length + t.surplus)
  | .array t items => .array (Focus.ofItem? items (.array t)) items.length
  | .pointer t target => .pointer (target.map fun v => ⟨v, fun x => .pointer t (some x)⟩)
  | .struct decl members hidden => .struct (Focus.ofItem? members (.struct decl · hidden))
  | .facade .ghost x => .struct fun i => if i = 0 then some ⟨x, .facade .ghost⟩ else none
  | .facade .liar _ => .atom

/-- The first value behind a chain of pointers, held to be changed. -/
def focusEnd? : Value → Option Focus
  | .pointer t (some v) => v.focusEnd?.map (Focus.within ⟨v, fun x => .pointer t (some x)⟩)
  | .pointer _ none => none
  | v => some ⟨v, fun x => x⟩

/-! ## Assigning -/

/-- Puts `x` in the place of a value if it has the same type. A refused value is handed back. -/
def assign (old x : Value) : Except Value Value :=
  if x.type = old.type then .ok x else .error x

/-- What became of a value that was to be put somewhere. -/
inductive Put
  | done
  | refused (x : Value)
  | noSlot

/-- Puts `x` in the place of the value itself. -/
def replace (v x : Value) : Value × Put :=
  match v.assign x with
  | .ok new => (new, .done)
  | .error x => (v, .refused x)

/-- Puts `x` in a slot. Members are written whatever their declaration allows. -/
def put (v : Value) (slot : Slot) (x : Value) : Value × Put :=
  match v.child? slot with
  | none => (v, .noSlot)
  | some old =>
    match old.assign x with
    | .ok new => (v.setChild slot new, .done)
    | .error x => (v, .refused x)

/-- Puts `x` in the first slot that shows a name. -/
def putMember (v : Value) (name : String) (x : Value) : Value × Put :=
  match v.view with
  | .struct s =>
    match s.indexOf? name with
    | some i => v.put (.member i) x
    | none => (v, .noSlot)
  | _ => (v, .noSlot)

end Value

end Reflection
