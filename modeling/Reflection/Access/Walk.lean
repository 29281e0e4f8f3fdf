import Reflection.Access.Lookup
import Reflection.Value.View
/-!
# Walking along a path

A walk starts at a root and applies one segment after the other, each to what lies behind the
pointers of the value reached so far. `get` ends with the value it has reached. `edit` holds each value
on the way to be changed and then changes the last one in its place; `assign` walks like `edit` up to
the last segment and replaces what that stands for.

A walk threads the memory of its `Lookup` through, and lists the events in order.
-/

namespace Reflection

/-- What a step or a walk gives, the memory of the lookup after it, and what it reported. -/
structure Walk (σ α : Type) where
  result : α
  memory : σ
  log : List Event

/-- What an edit gives, and the root after it. -/
structure Edit (σ α : Type) where
  result : Except PathError α
  root : Value
  memory : σ
  log : List Event

variable {σ α : Type}

/-! ## Members by name -/

def Value.memberNotFound (v : Value) (name : String) (mode : Mode) : Cause :=
  .memberNotFound name v.typePath mode

/-- The index of the member that a name stands for, if its declaration allows the access. -/
def findMember (lookup : Lookup σ) (mode : Mode) (v : Value) (name : String) (memory : σ) :
    Walk σ (Except Cause Nat) :=
  match v.info with
  | .struct info =>
    let (found, memory, log) := lookup.find info name memory
    let result := match found.filter fun m => mode.allows m.access with
      | some m => .ok m.index
      | none => .error (v.memberNotFound name mode)
    ⟨result, memory, log⟩
  | _ => ⟨.error (v.memberNotFound name mode), memory, []⟩

/-! ## One segment, to look -/

/-- The slot that a segment stands for on a value that is no pointer, and the value in it. A name
stands for the slot of its declaration, if that allows the access. -/
def locate (lookup : Lookup σ) (mode : Mode) (v : Value) (segment : Segment) (memory : σ) :
    Walk σ (Except Cause (Slot × Value)) :=
  match segment with
  | .index i =>
    let slot := Slot.item i.toNat
    let result := match v.view with
      | .list s | .array s =>
        match v.child? slot with
        | some x => .ok (slot, x)
        | none => .error (.indexOutOfRange i s.len v.typePath)
      | other => .error (.notIndexable other.kind v.typePath)
    ⟨result, memory, []⟩
  | .member name =>
    let found := findMember lookup mode v name memory
    let result := found.result.bind fun i =>
      match v.child? (.member i) with
      | some x => .ok (.member i, x)
      | none => .error (v.memberNotFound name mode)
    ⟨result, found.memory, found.log⟩

/-- Follows pointers, then finds the slot of a segment. -/
def enter (lookup : Lookup σ) (mode : Mode) (v : Value) (segment : Segment) (memory : σ) :
    Walk σ (Except Cause (Slot × Value)) :=
  match v.chainEnd? with
  | none => ⟨.error .nullIntermediate, memory, []⟩
  | some w => locate lookup mode w segment memory

/-! ## One segment, to change what it stands for -/

/-- The item at an index, held in its sequence. -/
def Value.focusItem (v : Value) (i : UInt64) : Except Cause Focus :=
  match v.editView with
  | .list itemAt? len | .array itemAt? len =>
    match itemAt? i.toNat with
    | some focus => .ok focus
    | none => .error (.indexOutOfRange i len v.typePath)
  | other => .error (.notIndexable other.kind v.typePath)

/-- The member at an index, held in its struct. The name is what an error reports. -/
def Value.focusMember (v : Value) (index : Nat) (name : String) (mode : Mode) : Except Cause Focus :=
  match v.editView with
  | .struct memberAt? =>
    match memberAt? index with
    | some focus => .ok focus
    | none => .error (v.memberNotFound name mode)
  | _ => .error (v.memberNotFound name mode)

/-- What a segment stands for on a value that is no pointer, held to be changed. -/
def focusOn (lookup : Lookup σ) (mode : Mode) (v : Value) (segment : Segment) (memory : σ) :
    Walk σ (Except Cause Focus) :=
  match segment with
  | .index i => ⟨v.focusItem i, memory, []⟩
  | .member name =>
    let found := findMember lookup mode v name memory
    ⟨found.result.bind fun i => v.focusMember i name mode, found.memory, found.log⟩

/-- Follows pointers, then holds what a segment stands for. -/
def hold (lookup : Lookup σ) (v : Value) (segment : Segment) (memory : σ) : Walk σ (Except Cause Focus) :=
  match v.focusEnd? with
  | none => ⟨.error .nullIntermediate, memory, []⟩
  | some behind =>
    let step := focusOn lookup .read behind.part segment memory
    ⟨step.result.map behind.within, step.memory, step.log⟩

/-! ## Reading -/

/-- Walks over one segment and lets `later` go on from what it stands for. -/
def visit (lookup : Lookup σ) (position : Nat) (v : Value) (segment : Segment)
    (later : Value → σ → Walk σ (Except PathError Value)) (memory : σ) : Walk σ (Except PathError Value) :=
  let step := enter lookup .read v segment memory
  match step.result with
  | .error cause =>
    let e := PathError.lookup ⟨cause, segment, position⟩
    ⟨.error e, step.memory, step.log ++ [.failed e]⟩
  | .ok (_, x) =>
    let done := later x step.memory
    ⟨done.result, done.memory, step.log ++ .resolved segment position x.typePath :: done.log⟩

-- The walks go down with the size of their source. They are semireducible, so that one of a closed root
-- along a closed path can still be run by `rfl`.

/-- Walks from a value on, where `position` segments lie behind. -/
@[semireducible]
def getFrom (lookup : Lookup σ) (position : Nat) (v : Value) (source : SegmentSource) (memory : σ) :
    Walk σ (Except PathError Value) :=
  match _h : source.next? with
  | none => ⟨.ok v, memory, []⟩
  | some (segment, rest) =>
    visit lookup position v segment (fun x memory => getFrom lookup (position + 1) x rest memory) memory
termination_by source.size
decreasing_by exact SegmentSource.size_lt_of_next? _h

def get (lookup : Lookup σ) (root : Value) (route : Route) (memory : σ) :
    Walk σ (Except PathError Value) :=
  match route.source with
  | .error e => ⟨.error (.invalidPath e), memory, []⟩
  | .ok source => getFrom lookup 0 root source memory

/-! ## Changing in place -/

/-- Walks over one segment and lets `later` go on with what it stands for, which is changed in place. -/
def descend (lookup : Lookup σ) (position : Nat) (v : Value) (segment : Segment) (later : Value → σ → Edit σ α)
    (memory : σ) : Edit σ α :=
  let step := hold lookup v segment memory
  match step.result with
  | .error cause =>
    let e := PathError.lookup ⟨cause, segment, position⟩
    ⟨.error e, v, step.memory, step.log ++ [.failed e]⟩
  | .ok focus =>
    let done := later focus.part step.memory
    ⟨done.result, focus.whole done.root, done.memory,
      step.log ++ .resolved segment position focus.part.typePath :: done.log⟩

/-- Walks from a value on and lets `act` change the value it reaches, where it stands. -/
@[semireducible]
def editFrom (lookup : Lookup σ) (act : Value → σ → Edit σ α) (position : Nat) (v : Value)
    (source : SegmentSource) (memory : σ) : Edit σ α :=
  match _h : source.next? with
  | none => act v memory
  | some (segment, rest) =>
    descend lookup position v segment (fun x memory => editFrom lookup act (position + 1) x rest memory) memory
termination_by source.size
decreasing_by exact SegmentSource.size_lt_of_next? _h

/-- Walks to the place and changes the value there by `f`. -/
def edit (lookup : Lookup σ) (root : Value) (route : Route) (f : Value → Value × α) (memory : σ) :
    Edit σ α :=
  match route.source with
  | .error e => ⟨.error (.invalidPath e), root, memory, []⟩
  | .ok source => editFrom lookup (fun v memory => ⟨.ok (f v).2, (f v).1, memory, []⟩) 0 root source memory

/-! ## Writing -/

/-- Writes a value into the slot that the last segment stands for. Only a null in front of the slot
is still a failure of the walk. -/
def write (lookup : Lookup σ) (segment : Segment) (position : Nat) (x : Value) (parent : Value)
    (memory : σ) : Edit σ Unit :=
  let fail (e : PathError) (memory : σ) (log : List Event) : Edit σ Unit :=
    ⟨.error e, parent, memory, log ++ [.failed e]⟩
  match parent.focusEnd? with
  | none => fail (.lookup ⟨.nullIntermediate, segment, position⟩) memory []
  | some behind =>
    let step := focusOn lookup .write behind.part segment memory
    match step.result with
    | .error cause => fail (.assign ⟨cause, segment, position⟩) step.memory step.log
    | .ok slot =>
      match slot.part.assign x with
      | .ok new => ⟨.ok (), behind.whole (slot.whole new), step.memory, step.log⟩
      | .error refused =>
        fail (.assign ⟨.rejected refused.typePath slot.part.typePath, segment, position⟩) step.memory step.log

/-- Walks from a value on and writes `x` into the slot of the last segment, which is the one that no other
is behind. -/
@[semireducible]
def assignFrom (lookup : Lookup σ) (x : Value) (position : Nat) (v : Value) (source : SegmentSource)
    (memory : σ) : Edit σ Unit :=
  match _h : source.next? with
  | none => ⟨.error (.invalidPath ⟨""⟩), v, memory, []⟩
  | some (segment, rest) =>
    if rest.next?.isSome then
      descend lookup position v segment (fun y memory => assignFrom lookup x (position + 1) y rest memory) memory
    else write lookup segment position x v memory
termination_by source.size
decreasing_by exact SegmentSource.size_lt_of_next? _h

/-- Puts `x` in the place that the route names. -/
def assign (lookup : Lookup σ) (root : Value) (route : Route) (x : Value) (memory : σ) : Edit σ Unit :=
  match route.source with
  | .error e => ⟨.error (.invalidPath e), root, memory, []⟩
  | .ok source => assignFrom lookup x 0 root source memory

end Reflection
