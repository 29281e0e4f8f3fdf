import Reflection.Path.Scanner
/-!
# Paths

A `Path` is a non-empty sequence of segments. `Path.parse` reads one from text and `Path.text`
writes its canonical text: a point stands before a member that is not the first segment. A `Route`
is what an access may be given instead of a path: text, a path, or nothing at all. An access takes
the segments of its route one by one from a `SegmentSource`, so text is read no further than the access
gets.
-/

namespace Reflection

/-- Text, or a sequence, without a single segment. -/
structure InvalidPath where
  path : String
deriving DecidableEq, Repr

def InvalidPath.message (e : InvalidPath) : String := s!"access path `{e.path}` contains no segments"

structure Path where
  segments : List Segment
  segments_ne_nil : segments ≠ []
deriving DecidableEq, Repr

namespace Path

/-- A path from its segments; `text` is what an error reports. -/
def ofSegments (segments : List Segment) (text : String) : Except InvalidPath Path :=
  if h : segments = [] then .error ⟨text⟩ else .ok ⟨segments, h⟩

def parse (text : String) : Except InvalidPath Path := ofSegments (Scanner.ofText text).segments text

def length (p : Path) : Nat := p.segments.length

/-- The segments of `p`, then those of `q`. -/
def concat (p q : Path) : Path :=
  ⟨p.segments ++ q.segments, fun h => p.segments_ne_nil (List.append_eq_nil_iff.1 h).1⟩

/-! ## Canonical text -/

/-- A segment that is not the first one: a member follows a point. -/
def laterChars (s : Segment) : List Char := if s.isMember then '.' :: s.chars else s.chars

def segmentChars : List Segment → List Char
  | [] => []
  | s :: rest => s.chars ++ rest.flatMap laterChars

def text (p : Path) : String := String.ofList (segmentChars p.segments)

end Path

/-! ## Segments one by one -/

/-- Where segments come from: text that a scanner stands in front of, or a sequence. -/
inductive SegmentSource
  | text (scanner : Scanner)
  | list (segments : List Segment)

namespace SegmentSource

instance : Coe (List Segment) SegmentSource := ⟨.list⟩

/-- The next segment, and the source of those behind it. -/
def next? : SegmentSource → Option (Segment × SegmentSource)
  | .text scanner => scanner.next?.map fun (s, rest) => (s, .text rest)
  | .list [] => none
  | .list (s :: rest) => some (s, .list rest)

/-- A bound on the number of segments that are left. -/
def size : SegmentSource → Nat
  | .text scanner => scanner.rest.length
  | .list segments => segments.length

theorem size_lt_of_next? {source rest : SegmentSource} {s : Segment} (h : source.next? = some (s, rest)) :
    rest.size < source.size := by
  cases source with
  | text scanner =>
    obtain ⟨⟨t, later⟩, hnext, hfound⟩ := Option.map_eq_some_iff.1 h
    cases hfound
    exact Scanner.rest_length_lt_of_next? hnext
  | list segments =>
    cases segments with
    | nil => cases h
    | cons t later => cases h; exact Nat.lt_succ_self _

end SegmentSource

/-! ## Routes -/

/-- What an access follows. Text is read segment by segment as the walk goes on. -/
inductive Route
  | text (s : String)
  | path (p : Path)
  | empty

/-- The source of a route's segments. Only text is refused for having none, before a segment is used. -/
def Route.source : Route → Except InvalidPath SegmentSource
  | .text s =>
    let source := SegmentSource.text (Scanner.ofText s)
    if source.next?.isNone then .error ⟨s⟩ else .ok source
  | .path p => .ok p.segments
  | .empty => .ok (.list [])

/-- All segments of a route together. -/
def Route.segments : Route → Except InvalidPath (List Segment)
  | .text s => (Path.parse s).map Path.segments
  | .path p => .ok p.segments
  | .empty => .ok []

end Reflection
