import Reflection.Proofs.Seek
/-!
# Finding without a memory

`Value.find` is `seek` where the declarations are asked every time. Its laws are those of a lens
that is chosen by a path: what is found at a place is replaced there (`find_setAt_self`), a path
that forks off finds what it found before (`find_setAt_fork`), and a path in two parts is followed
part by part (`find_append`).
-/

namespace Reflection

/-! ## Errors further down -/

def AccessError.shift (n : Nat) (e : AccessError) : AccessError := { e with position := e.position + n }

/-- The failure of a walk that starts `n` segments further down. -/
def PathError.shift (n : Nat) : PathError → PathError
  | .lookup e => .lookup (e.shift n)
  | .assign e => .assign (e.shift n)
  | e => e

theorem Mode.failure_shift (mode : Mode) (e : AccessError) (n : Nat) :
    mode.failure (e.shift n) = (mode.failure e).shift n := by
  unfold Mode.failure
  split
  · rw [if_pos (by assumption)]; rfl
  · rw [if_neg (by assumption)]; rfl

namespace Value

/-! ## One segment after the other -/

/-- The place that a path leads to, and the value there. -/
def find (mode : Mode) (position : Nat) (v : Value) (path : List Segment) : Except PathError (Place × Value) :=
  (seek .direct mode position v path ()).1

section
variable {mode : Mode} {position : Nat} {v w x : Value} {s : Segment} {rest : List Segment} {slot : Slot}
  {place : Place}

theorem find_nil (mode : Mode) (position : Nat) (v : Value) : v.find mode position [] = .ok ([], v) := rfl

theorem find_error {cause : Cause} (h : v.step (mode.before rest) s = .error cause) :
    v.find mode position (s :: rest) = .error ((mode.before rest).failure ⟨cause, s, position⟩) := by
  rw [find, seek_error h]

theorem find_ok (h : v.step (mode.before rest) s = .ok (slot, x)) :
    v.find mode position (s :: rest) =
      (x.find mode (position + 1) rest).map fun found => (v.chain ++ slot :: found.1, found.2) := by
  rw [find, seek_ok h]
  rfl

theorem find_cons_eq_ok (h : v.find mode position (s :: rest) = .ok (place, w)) :
    ∃ slot x later, v.step (mode.before rest) s = .ok (slot, x) ∧
      x.find mode (position + 1) rest = .ok (later, w) ∧ place = v.chain ++ slot :: later := by
  cases hs : v.step (mode.before rest) s with
  | error cause => rw [find_error hs] at h; cases h
  | ok found =>
    obtain ⟨slot, x⟩ := found
    rw [find_ok hs] at h
    obtain ⟨later, hl, hfound⟩ := map_eq_ok h
    cases hfound
    exact ⟨slot, x, _, rfl, hl, rfl⟩

theorem at?_find {path : List Segment} (h : v.find mode position path = .ok (place, w)) : v.at? place = some w :=
  at?_seek h
end

/-- A walk that only reads fails on the way. -/
theorem isLookup_of_find {position : Nat} {v : Value} {path : List Segment} {e : PathError}
    (h : v.find .read position path = .error e) : e.isLookup = true := by
  induction path generalizing v position with
  | nil => rw [find_nil] at h; cases h
  | cons s rest ih =>
    cases hs : v.step (Mode.read.before rest) s with
    | error cause =>
      rw [find_error hs, Mode.read_before, Mode.read_failure] at h
      cases h
      rfl
    | ok found =>
      obtain ⟨slot, x⟩ := found
      rw [find_ok hs] at h
      exact ih (map_eq_error h)

theorem getFrom_find (position : Nat) (v : Value) (path : List Segment) :
    (getFrom .direct position v path ()).result = (v.find .read position path).map Prod.snd :=
  (getFrom_seek .direct position v path ()).1

/-- The value that segments lead to, behind its pointers: the one that the next segment is used on. -/
def behind? (root : Value) (segments : List Segment) : Option Value :=
  match (getFrom .direct 0 root segments ()).result with
  | .ok v => v.chainEnd?
  | .error _ => none

theorem behind?_of_find {root v : Value} {segments : List Segment} {place : Place}
    (h : root.find .read 0 segments = .ok (place, v)) : root.behind? segments = v.chainEnd? := by
  rw [behind?, getFrom_find, h]
  rfl

/-! ## A path in two parts -/

theorem find_append (mode : Mode) (position : Nat) (v : Value) (a : List Segment) {b : List Segment} (hb : b ≠ []) :
    v.find mode position (a ++ b) =
      (v.find .read position a).bind fun found =>
        (found.2.find mode (position + a.length) b).map fun later => (found.1 ++ later.1, later.2) := by
  rw [find, seek_append .direct mode position v a hb, find]
  rcases seek .direct .read position v a () with ⟨_ | _, _⟩ <;> rfl

theorem find_append_eq_ok {mode : Mode} {position : Nat} {v w : Value} {a b : List Segment} {place : Place} (hb : b ≠ [])
    (h : v.find mode position (a ++ b) = .ok (place, w)) :
    ∃ front u later, v.find .read position a = .ok (front, u) ∧
      u.find mode (position + a.length) b = .ok (later, w) ∧ place = front ++ later := by
  rw [find_append mode position v a hb] at h
  obtain ⟨found, ha, h⟩ := bind_eq_ok h
  obtain ⟨later, hl, hfound⟩ := map_eq_ok h
  cases hfound
  exact ⟨_, _, _, ha, hl, rfl⟩

theorem find_shift (mode : Mode) (position n : Nat) (v : Value) (path : List Segment) :
    v.find mode (position + n) path = (v.find mode position path).mapError (·.shift n) := by
  induction path generalizing v position with
  | nil => rfl
  | cons s rest ih =>
    cases h : v.step (mode.before rest) s with
    | error cause =>
      rw [find_error h, find_error h]
      exact congrArg Except.error ((mode.before rest).failure_shift ⟨cause, s, position⟩ n)
    | ok found =>
      obtain ⟨slot, x⟩ := found
      rw [find_ok h, find_ok h, Nat.add_right_comm, ih]
      cases x.find mode (position + 1) rest <;> rfl

/-! ## A new value at the place found -/

theorem find_setAt_self {mode : Mode} {position : Nat} {v w : Value} {path : List Segment} {place : Place}
    (h : v.find mode position path = .ok (place, w)) (y : Value) :
    (v.setAt place y).find mode position path = .ok (place, y) := by
  induction path generalizing v position place with
  | nil => rw [find_nil] at h; cases h; rfl
  | cons s rest ih =>
    obtain ⟨slot, x, later, hs, hx, rfl⟩ := find_cons_eq_ok h
    obtain ⟨-, -, -, -, -, hchain⟩ := chain_mapChainEnd hs (x.setAt later y)
    -- The segment finds its slot again, and in it the changed value that the rest is followed on.
    rw [setAt_enter hs, find_ok (step_mapChainEnd_self hs _), ih hx, hchain]
    rfl

theorem before_of_not_prefix (mode : Mode) {p q : List Segment} (h : ¬ p <+: q) : mode.before p = .read := by
  cases p with
  | nil => exact absurd List.nil_prefix h
  | cons s p => rfl

/-- A path that forks off from another one does not see a change at the end of it. -/
theorem find_setAt_fork {mode mode' : Mode} {position position' : Nat} {v w : Value} {p q : List Segment} {place : Place}
    (h : v.find mode position p = .ok (place, w)) (hpq : ¬ p <+: q) (hqp : ¬ q <+: p) (y : Value) :
    (v.setAt place y).find mode' position' q = v.find mode' position' q := by
  induction p generalizing v position position' q place with
  | nil => exact absurd List.nil_prefix hpq
  | cons s p ih =>
    cases q with
    | nil => exact absurd List.nil_prefix hqp
    | cons t q =>
      obtain ⟨slot, x, later, hs, hx, rfl⟩ := find_cons_eq_ok h
      obtain ⟨-, -, -, -, -, hchain⟩ := chain_mapChainEnd hs (x.setAt later y)
      rw [setAt_enter hs]
      by_cases hst : s = t
      · subst hst
        -- The paths fork further down, so for both of them this segment is read.
        have hpq' : ¬ p <+: q := fun hp => hpq ((List.prefix_cons_inj s).2 hp)
        have hqp' : ¬ q <+: p := fun hq => hqp ((List.prefix_cons_inj s).2 hq)
        have hp : mode.before p = .read := before_of_not_prefix mode hpq'
        have hq : mode'.before q = .read := before_of_not_prefix mode' hqp'
        rw [hp] at hs
        rw [find_ok (by rw [hq]; exact step_mapChainEnd_self hs _), find_ok (by rw [hq]; exact hs), ih hx hpq' hqp', hchain]
      · -- Already this segment stands for another slot.
        have hstep : (v.mapChainEnd (·.setChild slot (x.setAt later y))).step (mode'.before q) t = _ :=
          step_mapChainEnd_ne hs hst (x.setAt later y)
        cases ht : v.step (mode'.before q) t with
        | error cause => rw [find_error (hstep.trans ht), find_error ht]
        | ok found => rw [find_ok (hstep.trans ht), find_ok ht, hchain]

end Value

/-! ## The accesses -/

section Route
variable {route : Route} {p : List Segment} (h : route.segments = .ok p)
include h

theorem get_route (root : Value) :
    (get .direct root route ()).result = (root.find .read 0 p).map Prod.snd := by
  simp only [get_eq, h, Value.getFrom_find]

theorem edit_route {α : Type} (root : Value) (f : Value → Value × α) :
    (edit .direct root route f ()).outcome = changeFound root f (root.find .read 0 p) :=
  (edit_seek .direct root h f ()).1

theorem assign_route (hne : p ≠ []) (root x : Value) :
    (assign .direct root route x ()).outcome = putFound root x (p.getLast hne) (p.length - 1) (root.find .write 0 p) :=
  (assign_seek .direct root x h hne ()).1
end Route

theorem get_find (root : Value) (p : Path) :
    (get .direct root (.path p) ()).result = (root.find .read 0 p.segments).map Prod.snd :=
  get_route rfl root

theorem edit_find {α : Type} (root : Value) (p : Path) (f : Value → Value × α) :
    (edit .direct root (.path p) f ()).outcome = changeFound root f (root.find .read 0 p.segments) :=
  edit_route rfl root f

theorem assign_find (root x : Value) (p : Path) :
    (assign .direct root (.path p) x ()).outcome =
      putFound root x (p.segments.getLast p.segments_ne_nil) (p.length - 1) (root.find .write 0 p.segments) :=
  assign_route rfl p.segments_ne_nil root x

theorem get_eq_ok {root v : Value} {p : Path} (h : (get .direct root (.path p) ()).result = .ok v) :
    ∃ place, root.find .read 0 p.segments = .ok (place, v) := by
  rw [get_find] at h
  obtain ⟨⟨place, w⟩, hf, rfl⟩ := map_eq_ok h
  exact ⟨place, hf⟩

section Assign
variable {root x old : Value} {p : Path} {place : Value.Place}

theorem assign_of_find (h : root.find .write 0 p.segments = .ok (place, old)) (ht : x.type = old.type) :
    (assign .direct root (.path p) x ()).result = .ok () ∧
      (assign .direct root (.path p) x ()).root = root.setAt place x := by
  have hp := assign_find root x p
  rw [h, putFound, if_pos ht] at hp
  exact ⟨congrArg Prod.fst hp, congrArg Prod.snd hp⟩

/-- A write that succeeds has found a value of the same type, and replaces it. -/
theorem assign_eq_ok (h : (assign .direct root (.path p) x ()).result = .ok ()) :
    ∃ place old, root.find .write 0 p.segments = .ok (place, old) ∧ x.type = old.type ∧
      (assign .direct root (.path p) x ()).root = root.setAt place x := by
  have hp := congrArg Prod.fst (assign_find root x p)
  rw [Edit.outcome, h] at hp
  cases hf : root.find .write 0 p.segments with
  | error e => rw [hf] at hp; cases hp
  | ok found =>
    obtain ⟨place, old⟩ := found
    by_cases ht : x.type = old.type
    · exact ⟨place, old, rfl, ht, (assign_of_find hf ht).2⟩
    · rw [hf, putFound, if_neg ht] at hp; cases hp
end Assign

end Reflection
