import Reflection.Access.Error
/-!
# Events

An access reports each segment it resolves, each member it caches, and its failure.
-/

namespace Reflection

inductive Event
  | resolved (segment : Segment) (position : Nat) (type : String)
  | cached (name type : String)
  | failed (e : PathError)
deriving DecidableEq, Repr

namespace Event

/-- Failures are for debugging, all else is for tracing. -/
def level : Event → String
  | .failed _ => "DEBUG"
  | _ => "TRACE"

def message : Event → String
  | .resolved segment position type => s!"resolved `{segment.text}` at position {position} to `{type}`"
  | .cached name type => s!"cache member `{name}` of `{type}`"
  | .failed e => e.message

def line (e : Event) : String := s!"{e.level} {e.message}"

end Event

end Reflection
