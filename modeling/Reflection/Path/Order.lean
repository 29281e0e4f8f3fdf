import Reflection.Path.Basic
/-!
# The order of paths

Paths are compared segment by segment, and a path comes before its extensions. A member comes
before an index, names compare by their UTF-8 bytes and indices by their number.
-/

namespace Reflection

/-- The UTF-8 bytes of a name. -/
def nameBytes (name : String) : List UInt8 := name.toByteArray.data.toList

def compareNames (a b : String) : Ordering := compare (nameBytes a) (nameBytes b)

def Segment.compare : Segment → Segment → Ordering
  | .member a, .member b => compareNames a b
  | .member _, .index _ => .lt
  | .index _, .member _ => .gt
  | .index i, .index j => Ord.compare i j

namespace Path

def compareSegments : List Segment → List Segment → Ordering
  | [], [] => .eq
  | [], _ :: _ => .lt
  | _ :: _, [] => .gt
  | a :: as, b :: bs => (a.compare b).then (compareSegments as bs)

def compare (p q : Path) : Ordering := compareSegments p.segments q.segments

/-- Leaves out a path that equals the one before it. -/
def dropRepeats : List Path → List Path
  | p :: q :: rest => if p = q then dropRepeats (q :: rest) else p :: dropRepeats (q :: rest)
  | rest => rest

/-- Ascending, each path once. -/
def sortDistinct (ps : List Path) : List Path :=
  dropRepeats (ps.mergeSort (fun p q => (p.compare q).isLE))

end Path

end Reflection
