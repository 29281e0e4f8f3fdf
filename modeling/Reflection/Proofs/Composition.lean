import Reflection.Proofs.Find
/-!
# Paths in two parts

Following `a` and then `b` is following `a.concat b`: a read gives what a read of `b` gives on the
value that `a` leads to, and a write writes `b` in place, on that value where it stands. A failure
further down is moved by the length of `a`.
-/

namespace Reflection

theorem putFound_shift (v x : Value) (last : Segment) (position n : Nat)
    (found : Except PathError (Value.Place × Value)) :
    putFound v x last (position + n) (found.mapError (·.shift n)) =
      ((putFound v x last position found).1.mapError (·.shift n), (putFound v x last position found).2) := by
  cases found with
  | error e => rfl
  | ok f =>
    show putFound v x last (position + n) (.ok f) = _
    simp only [putFound]
    split <;> rfl

/-- A write to a path in two parts is a write in place, on the value that the first part leads to. -/
theorem assign_concat {root v : Value} {a : Path} {place : Value.Place}
    (h : root.find .read 0 a.segments = .ok (place, v)) (b : Path) (x : Value) :
    let whole := assign .direct root (.path (a.concat b)) x ()
    let done := assign .direct v (.path b) x ()
    whole.result = done.result.mapError (·.shift a.length) ∧ whole.root = root.setAt place done.root := by
  have hlast : (a.concat b).segments.getLast (a.concat b).segments_ne_nil = b.segments.getLast b.segments_ne_nil :=
    List.getLast_append_of_ne_nil _ b.segments_ne_nil
  have hlength : (a.concat b).length - 1 = (b.length - 1) + a.length := by
    have hb := List.length_pos_iff.2 b.segments_ne_nil
    simp only [Path.length, Path.concat, List.length_append]
    omega
  have hfind : root.find .write 0 (a.concat b).segments =
      ((v.find .write 0 b.segments).mapError (·.shift a.length)).map fun f => (place ++ f.1, f.2) := by
    rw [← Value.find_shift]
    exact (Value.find_append .write 0 root a.segments b.segments_ne_nil).trans (by rw [h]; rfl)
  have hwhole := assign_find root x (a.concat b)
  rw [hlast, hlength, hfind, putFound_append (Value.at?_find h), putFound_shift, ← assign_find v x b] at hwhole
  exact ⟨congrArg Prod.fst hwhole, congrArg Prod.snd hwhole⟩

/-- A read along a path in two parts is a read on the value that the first part leads to. -/
theorem get_concat {root v : Value} {a : Path} {place : Value.Place}
    (h : root.find .read 0 a.segments = .ok (place, v)) (b : Path) :
    (get .direct root (.path (a.concat b)) ()).result =
      (get .direct v (.path b) ()).result.mapError (·.shift a.length) := by
  have hfind := Value.find_append .read 0 root a.segments b.segments_ne_nil
  rw [h] at hfind
  rw [get_find, get_find, Path.concat, hfind, Except.bind, Value.find_shift]
  cases v.find .read 0 b.segments <;> rfl

/-- If the first part fails, it fails in the same way with anything behind it. -/
theorem find_concat_error {root : Value} {a : Path} {e : PathError} (h : root.find .read 0 a.segments = .error e)
    (mode : Mode) (b : Path) : root.find mode 0 (a.concat b).segments = .error e := by
  rw [Path.concat, Value.find_append mode 0 root a.segments b.segments_ne_nil, h]
  rfl

/-- Access along `a.concat b` is access along `b` to the value that `a` leads to, at the place that an
edit along `a` changes. -/
theorem access_concat (α : Type) (root : Value) (a b : Path) :
    let whole := (get .direct root (.path (a.concat b)) ()).result
    let edited (f : Value → Value × α) := (edit .direct root (.path a) f ()).outcome
    let written (x : Value) := (assign .direct root (.path (a.concat b)) x ()).outcome
    match (get .direct root (.path a) ()).result with
    | .ok v =>
      whole = (get .direct v (.path b) ()).result.mapError (·.shift a.length) ∧
      ∃ place, root.at? place = some v ∧ (∀ f, edited f = (.ok (f v).2, root.setAt place (f v).1)) ∧
        ∀ x,
          let inPlace := assign .direct v (.path b) x ()
          written x = (inPlace.result.mapError (·.shift a.length), root.setAt place inPlace.root)
    | .error e =>
      e.isLookup = true ∧ whole = .error e ∧ (∀ f, edited f = (.error e, root)) ∧ ∀ x, written x = (.error e, root) := by
  intro whole edited written
  have hedited : ∀ f, edited f = changeFound root f (root.find .read 0 a.segments) := edit_find root a
  rw [get_find]
  cases h : root.find .read 0 a.segments with
  | ok found =>
    obtain ⟨place, v⟩ := found
    refine ⟨get_concat h b, place, Value.at?_find h, ?_, ?_⟩
    · intro f
      rw [hedited, h]
      rfl
    · intro x inPlace
      obtain ⟨hresult, hroot⟩ := assign_concat h b x
      exact Prod.ext hresult hroot
  | error e =>
    have hwhole : whole = _ := get_find root (a.concat b)
    rw [find_concat_error h] at hwhole
    refine ⟨Value.isLookup_of_find h, hwhole, ?_, ?_⟩
    · intro f
      rw [hedited, h]
      rfl
    · intro x
      have hwritten : written x = _ := assign_find root x (a.concat b)
      rw [find_concat_error h] at hwritten
      exact hwritten

end Reflection
