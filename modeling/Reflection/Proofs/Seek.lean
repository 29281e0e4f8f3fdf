import Reflection.Proofs.Holding
import Reflection.Proofs.Results
import Reflection.Proofs.Source
/-!
# What a walk finds

`seek` walks along a path and gives the place that it has reached with the value there, or the
failure. A read and a write differ in the mode of the last segment alone. All three accesses are
described by it: `get` gives the value that `seek` finds (`getFrom_seek`), `edit` changes the value
at the place found (`editFrom_seek`), and `assign` puts a value of the same type there
(`assign_seek`).
-/

namespace Reflection

variable {σ α : Type}

/-! ## Seeking a place -/

/-- The mode of a segment that is followed by others. -/
def Mode.before (mode : Mode) (rest : List Segment) : Mode := if rest.isEmpty then mode else .read

/-- How a segment fails that is used in a mode. A null in front of it is a failure of the walk. -/
def Mode.failure (mode : Mode) (e : AccessError) : PathError :=
  if mode = .write ∧ e.cause ≠ .nullIntermediate then .assign e else .lookup e

@[simp] theorem Mode.read_before (rest : List Segment) : Mode.read.before rest = .read := ite_self _

@[simp] theorem Mode.before_nil (mode : Mode) : mode.before [] = mode := rfl

@[simp] theorem Mode.before_cons (mode : Mode) (s : Segment) (rest : List Segment) :
    mode.before (s :: rest) = .read := rfl

@[simp] theorem Mode.read_failure (e : AccessError) : Mode.read.failure e = .lookup e := if_neg (by simp)

/-- Walks from a value on, where `position` segments lie behind, and gives the place of the last
segment, which is used in a mode of its own, and the value there. -/
def seek (lookup : Lookup σ) (mode : Mode) (position : Nat) (v : Value) (path : List Segment) (memory : σ) :
    Except PathError (Value.Place × Value) × σ :=
  match path with
  | [] => (.ok ([], v), memory)
  | s :: rest =>
    let step := enter lookup (mode.before rest) v s memory
    match step.result with
    | .error cause => (.error ((mode.before rest).failure ⟨cause, s, position⟩), step.memory)
    | .ok (slot, x) =>
      let later := seek lookup mode (position + 1) x rest step.memory
      (later.1.map fun found => (v.chain ++ slot :: found.1, found.2), later.2)

section Seek
variable {lookup : Lookup σ} {mode : Mode} {position : Nat} {v x : Value} {s : Segment} {rest : List Segment}
  {memory : σ} {slot : Slot}

theorem seek_error {cause : Cause} (h : (enter lookup (mode.before rest) v s memory).result = .error cause) :
    seek lookup mode position v (s :: rest) memory =
      (.error ((mode.before rest).failure ⟨cause, s, position⟩),
        (enter lookup (mode.before rest) v s memory).memory) := by
  simp only [seek, h]

theorem seek_ok (h : (enter lookup (mode.before rest) v s memory).result = .ok (slot, x)) :
    seek lookup mode position v (s :: rest) memory =
      let later := seek lookup mode (position + 1) x rest (enter lookup (mode.before rest) v s memory).memory
      (later.1.map fun found => (v.chain ++ slot :: found.1, found.2), later.2) := by
  simp only [seek, h]
end Seek

/-- The value found is the one at the place found. -/
theorem at?_seek {lookup : Lookup σ} {mode : Mode} {position : Nat} {v w : Value} {path : List Segment} {memory : σ}
    {place : Value.Place} (h : (seek lookup mode position v path memory).1 = .ok (place, w)) :
    v.at? place = some w := by
  induction path generalizing position v memory place with
  | nil => cases h; rfl
  | cons s rest ih =>
    cases hs : (enter lookup (mode.before rest) v s memory).result with
    | error cause => rw [seek_error hs] at h; cases h
    | ok found =>
      obtain ⟨slot, x⟩ := found
      rw [seek_ok hs] at h
      obtain ⟨later, hl, hfound⟩ := map_eq_ok h
      cases hfound
      rw [Value.at?_enter hs, ih hl]

/-- A walk along two paths, the one after the other. -/
theorem seek_append (lookup : Lookup σ) (mode : Mode) (position : Nat) (v : Value) (a : List Segment) {b : List Segment}
    (hb : b ≠ []) (memory : σ) :
    seek lookup mode position v (a ++ b) memory =
      match seek lookup .read position v a memory with
      | (.ok (place, w), memory) =>
        let later := seek lookup mode (position + a.length) w b memory
        (later.1.map fun found => (place ++ found.1, found.2), later.2)
      | (.error e, memory) => (.error e, memory) := by
  induction a generalizing position v memory with
  | nil =>
    simp only [List.nil_append, seek, List.length_nil, Nat.add_zero]
    rcases seek lookup mode position v b memory with ⟨_ | _, _⟩ <;> rfl
  | cons s rest ih =>
    -- The second path follows, so on the first one every segment is read.
    have hbefore : mode.before (rest ++ b) = .read := by
      rcases hr : rest ++ b with _ | ⟨t, ts⟩
      · exact absurd (List.append_eq_nil_iff.1 hr).2 hb
      · rfl
    rw [List.cons_append]
    cases h : (enter lookup .read v s memory).result with
    | error cause =>
      rw [seek_error (by rw [hbefore]; exact h), seek_error (by rw [Mode.read_before]; exact h), hbefore, Mode.read_before]
    | ok found =>
      obtain ⟨slot, x⟩ := found
      rw [seek_ok (by rw [hbefore]; exact h), seek_ok (by rw [Mode.read_before]; exact h), hbefore, Mode.read_before,
        ih, List.length_cons, Nat.add_right_comm, Nat.add_assoc]
      rcases seek lookup .read (position + 1) x rest (enter lookup .read v s memory).memory with ⟨_ | ⟨place, w⟩, memory'⟩
      · rfl
      · simp only [Except.map]
        cases (seek lookup mode (position + (rest.length + 1)) w b memory').1 <;> simp

/-! ## Reading -/

theorem getFrom_seek (lookup : Lookup σ) (position : Nat) (v : Value) (path : List Segment) (memory : σ) :
    let walk := getFrom lookup position v path memory
    let found := seek lookup .read position v path memory
    walk.result = found.1.map Prod.snd ∧ walk.memory = found.2 := by
  induction path generalizing position v memory with
  | nil => exact ⟨rfl, rfl⟩
  | cons s rest ih =>
    cases h : (enter lookup .read v s memory).result with
    | error cause =>
      rw [seek_error (by rw [Mode.read_before]; exact h)]
      simp only [getFrom_cons, visit_error h, Mode.read_before, Mode.read_failure]
      exact ⟨rfl, trivial⟩
    | ok found =>
      obtain ⟨slot, x⟩ := found
      obtain ⟨hresult, hmemory⟩ := ih (position + 1) x (enter lookup .read v s memory).memory
      rw [seek_ok (by rw [Mode.read_before]; exact h)]
      simp only [getFrom_cons, visit_ok h, Mode.read_before]
      refine ⟨?_, hmemory⟩
      rw [hresult]
      cases (seek lookup .read (position + 1) x rest (enter lookup .read v s memory).memory).1 <;> rfl

/-! ## Changing in place -/

/-- What an edit gives, and the root after it. -/
def Edit.outcome (e : Edit σ α) : Except PathError α × Value := (e.result, e.root)

/-- An edit of the value that was found, where it stands in `v`. -/
def actFound (v : Value) (act : Value → σ → Edit σ α) :
    Except PathError (Value.Place × Value) × σ → (Except PathError α × Value) × σ
  | (.ok (place, w), memory) =>
    (((act w memory).result, v.setAt place (act w memory).root), (act w memory).memory)
  | (.error e, memory) => ((.error e, v), memory)

theorem editFrom_seek (lookup : Lookup σ) (act : Value → σ → Edit σ α) (position : Nat) (v : Value)
    (path : List Segment) (memory : σ) :
    let done := editFrom lookup act position v path memory
    (done.outcome, done.memory) = actFound v act (seek lookup .read position v path memory) := by
  induction path generalizing position v memory with
  | nil => rfl
  | cons s rest ih =>
    cases h : (enter lookup .read v s memory).result with
    | error cause =>
      rw [seek_error (by rw [Mode.read_before]; exact h)]
      simp only [editFrom_cons, descend_error h, Edit.outcome, actFound, Mode.read_before, Mode.read_failure]
    | ok found =>
      obtain ⟨slot, x⟩ := found
      have hlater := ih (position + 1) x (enter lookup .read v s memory).memory
      rw [seek_ok (by rw [Mode.read_before]; exact h)]
      simp only [editFrom_cons, descend_ok h, Mode.read_before]
      generalize editFrom lookup act (position + 1) x rest _ = later at hlater ⊢
      generalize seek lookup .read (position + 1) x rest _ = found at hlater ⊢
      obtain ⟨found, memory'⟩ := found
      cases found with
      | error e =>
        simp only [Edit.outcome, actFound, Prod.mk.injEq] at hlater
        obtain ⟨⟨hresult, hroot⟩, hmemory⟩ := hlater
        -- The walk puts back what it has found on the way.
        simp only [Edit.outcome, actFound, Except.map, hresult, hroot, hmemory, Value.mapChainEnd_enter h]
      | ok p =>
        simp only [Edit.outcome, actFound, Prod.mk.injEq] at hlater
        obtain ⟨⟨hresult, hroot⟩, hmemory⟩ := hlater
        simp only [Edit.outcome, actFound, Except.map, hresult, hroot, hmemory, Value.setAt_enter h]

/-- A change of the value that was found in `v`, which needs no memory. -/
def changeFound (v : Value) (f : Value → Value × α) :
    Except PathError (Value.Place × Value) → Except PathError α × Value
  | .ok (place, w) => (.ok (f w).2, v.setAt place (f w).1)
  | .error e => (.error e, v)

theorem edit_seek (lookup : Lookup σ) (root : Value) {route : Route} {path : List Segment} (h : route.segments = .ok path)
    (f : Value → Value × α) (memory : σ) :
    let done := edit lookup root route f memory
    let found := seek lookup .read 0 root path memory
    done.outcome = changeFound root f found.1 ∧ done.memory = found.2 := by
  have hdone := editFrom_seek lookup (fun v memory => (⟨.ok (f v).2, (f v).1, memory, []⟩ : Edit σ α)) 0 root path memory
  simp only [edit_eq, h]
  rcases hs : seek lookup .read 0 root path memory with ⟨e | p, memory'⟩
  · rw [hs] at hdone
    exact ⟨congrArg Prod.fst hdone, congrArg Prod.snd hdone⟩
  · rw [hs] at hdone
    exact ⟨congrArg Prod.fst hdone, congrArg Prod.snd hdone⟩

/-! ## Writing -/

/-- A write of `x` to the place that was found in `v` by a path that ends in `last`. -/
def putFound (v x : Value) (last : Segment) (position : Nat) :
    Except PathError (Value.Place × Value) → Except PathError Unit × Value
  | .ok (place, old) =>
    if x.type = old.type then (.ok (), v.setAt place x)
    else (.error (.assign ⟨.rejected x.typePath old.typePath, last, position⟩), v)
  | .error e => (.error e, v)

/-- Whether a write succeeds is up to the value found, wherever it stands. -/
theorem putFound_result (v x : Value) (last : Segment) (position : Nat)
    (found : Except PathError (Value.Place × Value)) :
    (putFound v x last position found).1 =
      (found.map Prod.snd).bind fun old =>
        if x.type = old.type then .ok () else .error (.assign ⟨.rejected x.typePath old.typePath, last, position⟩) := by
  cases found with
  | error e => rfl
  | ok found =>
    simp only [putFound, Except.map, Except.bind]
    split <;> rfl

theorem putFound_append {v parent : Value} {place : Value.Place} (h : v.at? place = some parent) (x : Value)
    (last : Segment) (position : Nat) (found : Except PathError (Value.Place × Value)) :
    putFound v x last position (found.map fun f => (place ++ f.1, f.2)) =
      ((putFound parent x last position found).1, v.setAt place (putFound parent x last position found).2) := by
  cases found with
  | error e => simp only [Except.map, putFound, Value.setAt_at? h]
  | ok f =>
    simp only [Except.map, putFound]
    split
    · rw [Value.setAt_append h]
    · rw [Value.setAt_at? h]

theorem write_seek (lookup : Lookup σ) (s : Segment) (position : Nat) (x v : Value) (memory : σ) :
    let done := write lookup s position x v memory
    let found := seek lookup .write position v [s] memory
    done.outcome = putFound v x s position found.1 ∧ done.memory = found.2 := by
  cases h : (enter lookup .write v s memory).result with
  | error cause =>
    rw [write_eq, seek_error (by exact h)]
    cases cause <;> simp [h, Edit.outcome, putFound, Mode.failure]
  | ok found =>
    obtain ⟨slot, old⟩ := found
    have hset := Value.setAt_enter h [] x
    rw [write_eq, seek_ok (by exact h)]
    by_cases ht : x.type = old.type
    · simp [h, Edit.outcome, putFound, seek, Except.map, Value.assign, ht, hset]
    · simp [h, Edit.outcome, putFound, seek, Except.map, Value.assign, ht]

theorem writeFrom_seek (lookup : Lookup σ) (position : Nat) (v x : Value) (init : List Segment) (last : Segment)
    (memory : σ) :
    let done := editFrom lookup (write lookup last (position + init.length) x) position v init memory
    let found := seek lookup .write position v (init ++ [last]) memory
    done.outcome = putFound v x last (position + init.length) found.1 ∧ done.memory = found.2 := by
  intro done found
  have hdone : (done.outcome, done.memory) = _ :=
    editFrom_seek lookup (write lookup last (position + init.length) x) position v init memory
  have hfound : found = _ := seek_append lookup .write position v init (List.cons_ne_nil last []) memory
  -- The walk stops in front of the last segment, or at the value that `write` then acts on.
  rcases hinit : seek lookup .read position v init memory with ⟨e | ⟨place, parent⟩, memory'⟩
  · rw [hinit] at hdone hfound
    rw [hfound]
    exact ⟨congrArg Prod.fst hdone, congrArg Prod.snd hdone⟩
  · rw [hinit] at hdone hfound
    obtain ⟨houtcome, hmemory⟩ := write_seek lookup last (position + init.length) x parent memory'
    have hplace : v.at? place = some parent := at?_seek (congrArg Prod.fst hinit)
    rw [hfound]
    refine ⟨?_, (congrArg Prod.snd hdone).trans hmemory⟩
    rw [putFound_append hplace, ← houtcome]
    exact congrArg Prod.fst hdone

theorem assign_seek (lookup : Lookup σ) (root x : Value) {route : Route} {path : List Segment}
    (h : route.segments = .ok path) (hne : path ≠ []) (memory : σ) :
    let done := assign lookup root route x memory
    let found := seek lookup .write 0 root path memory
    done.outcome = putFound root x (path.getLast hne) (path.length - 1) found.1 ∧ done.memory = found.2 := by
  have hwrite := writeFrom_seek lookup 0 root x path.dropLast (path.getLast hne) memory
  have hlength : 0 + path.dropLast.length = path.length - 1 := by rw [List.length_dropLast, Nat.zero_add]
  rw [← assignFrom_concat, hlength, List.dropLast_concat_getLast hne] at hwrite
  simp only [assign_eq, h]
  exact hwrite

end Reflection
