import Reflection.Access.Walk
import Reflection.Proofs.Scanning
/-!
# Segments one by one

A walk takes a segment from its source when it needs one, and a write looks one segment ahead to find
out which is the last. Either way it goes as it would along the list of all segments that the source has
(`getFrom_segments`, `editFrom_segments`, `assignFrom_segments`). So what an access does depends on the
segments of its route alone, not on when they are read (`get_eq`, `edit_eq`, `assign_eq`).
-/

namespace Reflection

namespace SegmentSource
variable {source rest : SegmentSource} {s : Segment}

/-- All segments that a source has. -/
def segments : SegmentSource → List Segment
  | .text scanner => scanner.segments
  | .list segments => segments

theorem segments_of_end (h : source.next? = none) : source.segments = [] := by
  cases source with
  | text scanner =>
    have hnext : scanner.next? = none := Option.map_eq_none_iff.1 h
    rw [segments, Scanner.segments, hnext]
  | list segments =>
    cases segments with
    | nil => rfl
    | cons s rest => cases h

theorem segments_of_next (h : source.next? = some (s, rest)) : source.segments = s :: rest.segments := by
  cases source with
  | text scanner =>
    obtain ⟨⟨t, later⟩, hnext, hfound⟩ := Option.map_eq_some_iff.1 h
    cases hfound
    rw [segments, Scanner.segments, hnext]
    rfl
  | list segments =>
    cases segments with
    | nil => cases h
    | cons t later => cases h; rfl

/-- A source ends, or has a segment and others behind it. -/
theorem induction {P : SegmentSource → Prop} (source : SegmentSource)
    (ends : ∀ source, source.next? = none → P source)
    (goesOn : ∀ source s rest, source.next? = some (s, rest) → P rest → P source) : P source := by
  generalize hsize : source.size = n
  induction n using Nat.strongRecOn generalizing source with
  | ind n ih =>
    cases hnext : source.next? with
    | none => exact ends source hnext
    | some found =>
      have hlt := size_lt_of_next? hnext
      exact goesOn source found.1 found.2 hnext (ih found.2.size (hsize ▸ hlt) found.2 rfl)

/-- Looking ahead shows whether there is another segment. -/
theorem isSome_next? (source : SegmentSource) :
    source.next?.isSome = (SegmentSource.list source.segments).next?.isSome := by
  cases h : source.next? with
  | none => rw [segments_of_end h]; rfl
  | some found => rw [segments_of_next h]; rfl

end SegmentSource

theorem Route.segments_eq (route : Route) : route.segments = route.source.map SegmentSource.segments := by
  cases route with
  | text s =>
    simp only [segments, source, Path.parse, Path.ofSegments]
    cases h : (SegmentSource.text (Scanner.ofText s)).next? with
    | none =>
      have hnil : (Scanner.ofText s).segments = [] := SegmentSource.segments_of_end h
      simp [hnil, Except.map]
    | some found =>
      have hcons : (Scanner.ofText s).segments = _ := SegmentSource.segments_of_next h
      simp [hcons, Except.map, SegmentSource.segments]
  | path p => rfl
  | empty => rfl

variable {σ α : Type} {lookup : Lookup σ} {act : Value → σ → Edit σ α} {position : Nat} {v x : Value}
  {source rest : SegmentSource} {s : Segment} {memory : σ}

/-! ## One segment of a walk -/

theorem getFrom_end (h : source.next? = none) : getFrom lookup position v source memory = ⟨.ok v, memory, []⟩ := by
  rw [getFrom]
  split
  · rfl
  · simp_all

theorem getFrom_next (h : source.next? = some (s, rest)) :
    getFrom lookup position v source memory =
      visit lookup position v s (fun x memory => getFrom lookup (position + 1) x rest memory) memory := by
  rw [getFrom]
  split
  · simp_all
  · simp_all

theorem editFrom_end (h : source.next? = none) : editFrom lookup act position v source memory = act v memory := by
  rw [editFrom]
  split
  · rfl
  · simp_all

theorem editFrom_next (h : source.next? = some (s, rest)) :
    editFrom lookup act position v source memory =
      descend lookup position v s (fun x memory => editFrom lookup act (position + 1) x rest memory) memory := by
  rw [editFrom]
  split
  · simp_all
  · simp_all

theorem assignFrom_end (h : source.next? = none) :
    assignFrom lookup x position v source memory = ⟨.error (.invalidPath ⟨""⟩), v, memory, []⟩ := by
  rw [assignFrom]
  split
  · rfl
  · simp_all

theorem assignFrom_next (h : source.next? = some (s, rest)) :
    assignFrom lookup x position v source memory =
      if rest.next?.isSome then
        descend lookup position v s (fun y memory => assignFrom lookup x (position + 1) y rest memory) memory
      else write lookup s position x v memory := by
  rw [assignFrom]
  split
  · simp_all
  · simp_all

section List
variable {rest : List Segment}

theorem assignFrom_nil :
    assignFrom lookup x position v ↑([] : List Segment) memory = ⟨.error (.invalidPath ⟨""⟩), v, memory, []⟩ :=
  assignFrom_end rfl

theorem getFrom_nil : getFrom lookup position v ↑([] : List Segment) memory = ⟨.ok v, memory, []⟩ :=
  getFrom_end rfl

theorem getFrom_cons :
    getFrom lookup position v ↑(s :: rest) memory =
      visit lookup position v s (fun x memory => getFrom lookup (position + 1) x rest memory) memory :=
  getFrom_next rfl

theorem editFrom_cons :
    editFrom lookup act position v ↑(s :: rest) memory =
      descend lookup position v s (fun x memory => editFrom lookup act (position + 1) x rest memory) memory :=
  editFrom_next rfl

theorem assignFrom_cons :
    assignFrom lookup x position v ↑(s :: rest) memory =
      if (SegmentSource.list rest).next?.isSome then
        descend lookup position v s (fun y memory => assignFrom lookup x (position + 1) y rest memory) memory
      else write lookup s position x v memory :=
  assignFrom_next rfl
end List

/-! ## Whole walks -/

theorem getFrom_segments (lookup : Lookup σ) (position : Nat) (v : Value) (source : SegmentSource) (memory : σ) :
    getFrom lookup position v source memory = getFrom lookup position v source.segments memory := by
  induction source using SegmentSource.induction generalizing position v memory with
  | ends source h => rw [getFrom_end h, SegmentSource.segments_of_end h, getFrom_end rfl]
  | goesOn source s rest h ih =>
    rw [getFrom_next h, SegmentSource.segments_of_next h, getFrom_cons]
    simp only [ih]

theorem editFrom_segments (lookup : Lookup σ) (act : Value → σ → Edit σ α) (position : Nat) (v : Value)
    (source : SegmentSource) (memory : σ) :
    editFrom lookup act position v source memory = editFrom lookup act position v source.segments memory := by
  induction source using SegmentSource.induction generalizing position v memory with
  | ends source h => rw [editFrom_end h, SegmentSource.segments_of_end h, editFrom_end rfl]
  | goesOn source s rest h ih =>
    rw [editFrom_next h, SegmentSource.segments_of_next h, editFrom_cons]
    simp only [ih]

theorem assignFrom_segments (lookup : Lookup σ) (x : Value) (position : Nat) (v : Value) (source : SegmentSource)
    (memory : σ) :
    assignFrom lookup x position v source memory = assignFrom lookup x position v source.segments memory := by
  induction source using SegmentSource.induction generalizing position v memory with
  | ends source h => rw [assignFrom_end h, SegmentSource.segments_of_end h, assignFrom_end rfl]
  | goesOn source s rest h ih =>
    rw [assignFrom_next h, SegmentSource.segments_of_next h, assignFrom_cons,
      rest.isSome_next?]
    simp only [ih]

/-- A write walks like an edit up to the last segment. -/
theorem assignFrom_concat (lookup : Lookup σ) (x : Value) (position : Nat) (v : Value) (init : List Segment)
    (last : Segment) (memory : σ) :
    assignFrom lookup x position v ↑(init ++ [last]) memory =
      editFrom lookup (write lookup last (position + init.length) x) position v init memory := by
  induction init generalizing position v memory with
  | nil =>
    rw [assignFrom_next rfl, editFrom_end rfl]
    rfl
  | cons s init ih =>
    have hahead : (SegmentSource.list (init ++ [last])).next?.isSome = true := by cases init <;> rfl
    rw [List.cons_append, assignFrom_cons, editFrom_cons, if_pos hahead,
      List.length_cons, ← Nat.add_assoc, Nat.add_right_comm]
    simp only [ih]

/-! ## Accesses -/

theorem get_eq (lookup : Lookup σ) (root : Value) (route : Route) (memory : σ) :
    get lookup root route memory =
      match route.segments with
      | .error e => ⟨.error (.invalidPath e), memory, []⟩
      | .ok path => getFrom lookup 0 root path memory := by
  rw [get, Route.segments_eq]
  cases route.source with
  | error e => rfl
  | ok source => exact getFrom_segments lookup 0 root source memory

theorem edit_eq (lookup : Lookup σ) (root : Value) (route : Route) (f : Value → Value × α) (memory : σ) :
    edit lookup root route f memory =
      match route.segments with
      | .error e => ⟨.error (.invalidPath e), root, memory, []⟩
      | .ok path => editFrom lookup (fun v memory => ⟨.ok (f v).2, (f v).1, memory, []⟩) 0 root path memory := by
  rw [edit, Route.segments_eq]
  cases route.source with
  | error e => rfl
  | ok source => exact editFrom_segments lookup _ 0 root source memory

theorem assign_eq (lookup : Lookup σ) (root : Value) (route : Route) (x : Value) (memory : σ) :
    assign lookup root route x memory =
      match route.segments with
      | .error e => ⟨.error (.invalidPath e), root, memory, []⟩
      | .ok path => assignFrom lookup x 0 root path memory := by
  rw [assign, Route.segments_eq]
  cases route.source with
  | error e => rfl
  | ok source => exact assignFrom_segments lookup x 0 root source memory

end Reflection
