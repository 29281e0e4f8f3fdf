import Reflection.Path.Segment
/-!
# Scanning path text

A `Scanner` stands in front of text that has not been read. `next?` skips separators, takes the
piece that follows and gives its segment, so segments can be used before the rest of the text is
looked at. `segments` runs it to the end.

`pieces` states the same grammar without a scanner: the text is cut at every separator and empty
pieces are dropped.
-/

namespace Reflection

structure Scanner where
  rest : List Char
deriving DecidableEq, Repr

namespace Scanner

def ofText (text : String) : Scanner := ⟨text.toList⟩

/-- Characters up to the next separator, and what follows them. -/
def splitPiece (cs : List Char) : List Char × List Char :=
  (cs.takeWhile (!isSeparator ·), cs.dropWhile (!isSeparator ·))

/-- The next segment and the scanner behind it, or nothing if only separators are left. -/
def next? (s : Scanner) : Option (Segment × Scanner) :=
  match s.rest.dropWhile isSeparator with
  | [] => none
  | c :: cs => some (.ofPiece (splitPiece (c :: cs)).1, ⟨(splitPiece (c :: cs)).2⟩)

theorem length_dropWhile_le {α : Type} (p : α → Bool) (l : List α) : (l.dropWhile p).length ≤ l.length :=
  (List.dropWhile_sublist p).length_le

theorem rest_length_lt_of_next? {s t : Scanner} {seg : Segment} (h : s.next? = some (seg, t)) :
    t.rest.length < s.rest.length := by
  unfold next? at h
  split at h
  · simp at h
  · rename_i c cs hd
    have hc : isSeparator c = false := by
      have := List.head?_dropWhile_not isSeparator s.rest
      simpa [hd] using this
    have hl := length_dropWhile_le isSeparator s.rest
    have ht := length_dropWhile_le (fun d => !isSeparator d) cs
    simp only [Option.some.injEq, Prod.mk.injEq] at h
    obtain ⟨-, rfl⟩ := h
    simp only [splitPiece, List.dropWhile_cons, hc, Bool.not_false, if_true]
    rw [hd] at hl
    simp only [List.length_cons] at hl
    omega

/-- All segments that are left. -/
def segments (s : Scanner) : List Segment :=
  match _h : s.next? with
  | none => []
  | some (seg, t) => seg :: t.segments
termination_by s.rest.length
decreasing_by exact rest_length_lt_of_next? _h

/-- One call of the iterator: at the end it gives nothing and stays where it is. -/
def step (s : Scanner) : Option Segment × Scanner :=
  match s.next? with
  | none => (none, ⟨[]⟩)
  | some (seg, t) => (some seg, t)

/-- The answers of `n` calls, and the scanner after them. -/
def take : Nat → Scanner → List (Option Segment) × Scanner
  | 0, s => ([], s)
  | n + 1, s =>
    let (seg, t) := s.step
    let (segs, u) := t.take n
    (seg :: segs, u)

end Scanner

/-! ## The grammar -/

/-- The text cut at every separator. The cut pieces are one more than the separators. -/
def cutAtSeparators : List Char → List (List Char)
  | [] => [[]]
  | c :: cs =>
    if isSeparator c then [] :: cutAtSeparators cs
    else match cutAtSeparators cs with
      | [] => [[c]]
      | p :: ps => (c :: p) :: ps

/-- The pieces of path text: what stands between separators, without the empty ones. -/
def pieces (cs : List Char) : List (List Char) := (cutAtSeparators cs).filter (!·.isEmpty)

end Reflection
