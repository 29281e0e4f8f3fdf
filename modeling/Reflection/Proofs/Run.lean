import Reflection.Access.Session
import Reflection.Proofs.Transparency
/-!
# Runs of writes

A `Write` is asked of a session, which makes it directly or through its cache. Whatever it is asked,
it can do one of two things to the root (`assign_cases`): nothing, and then it fails, or put the value
into one place that holds a value of the same type. In a session whose structs and cache come from one
universe the way a write takes makes no difference (`write_direct`), and a write leaves it in that universe
(`declaredIn_write`).
-/

namespace Reflection

/-! ## What a write does to the root -/

/-- A route without a segment is refused, whatever is to be written. -/
theorem assign_of_no_segments {route : Route} (h : ∀ p, route.segments = .ok p → p = []) :
    ∃ e, ∀ root x : Value, (assign .direct root route x ()).outcome = (.error e, root) := by
  cases hroute : route.segments with
  | error e => exact ⟨.invalidPath e, fun root x => by simp only [Edit.outcome, assign_eq, hroute]⟩
  | ok p =>
    obtain rfl := h p hroute
    exact ⟨.invalidPath ⟨""⟩, fun root x => by simp only [Edit.outcome, assign_eq, hroute, assignFrom_nil]⟩

/-- A write fails and changes nothing, or it replaces what its path leads to. -/
theorem assign_cases (root x : Value) (route : Route) :
    let done := assign .direct root route x ()
    (∃ e, done.result = .error e ∧ done.root = root) ∨
    ∃ p place old, route.segments = .ok p ∧ p ≠ [] ∧ root.find .write 0 p = .ok (place, old) ∧ x.type = old.type ∧
      done.result = .ok () ∧ done.root = root.setAt place x := by
  intro done
  by_cases h : ∃ p, route.segments = .ok p ∧ p ≠ []
  · obtain ⟨p, hp, hne⟩ := h
    have hdone : (done.result, done.root) = _ := assign_route hp hne root x
    cases hfind : root.find .write 0 p with
    | error e =>
      rw [hfind, putFound] at hdone
      exact .inl ⟨e, Prod.mk.inj hdone⟩
    | ok found =>
      obtain ⟨place, old⟩ := found
      rw [hfind, putFound] at hdone
      by_cases ht : x.type = old.type
      · rw [if_pos ht] at hdone
        exact .inr ⟨p, place, old, hp, hne, hfind, ht, Prod.mk.inj hdone⟩
      · rw [if_neg ht] at hdone
        exact .inl ⟨_, Prod.mk.inj hdone⟩
  · have hnone : ∀ p, route.segments = .ok p → p = [] := by simpa using h
    obtain ⟨e, he⟩ := assign_of_no_segments hnone
    exact .inl ⟨e, Prod.mk.inj (he root x)⟩

theorem declaredIn_assign {U : Universe} {root x : Value} (h : root.DeclaredIn U) (hx : x.DeclaredIn U)
    (route : Route) : (assign .direct root route x ()).root.DeclaredIn U := by
  rcases assign_cases root x route with ⟨e, -, hroot⟩ | ⟨p, place, old, -, -, hfind, -, -, hroot⟩
  · rw [hroot]
    exact h
  · rw [hroot]
    exact Value.declaredIn_setAt h (Value.at?_find hfind) hx

/-! ## Writes of a session -/

structure Write where
  via : Via
  route : Route
  value : Value

namespace Session

def write (s : Session) (w : Write) : Answer Unit := s.assign w.via w.route w.value

/-- The session after one write after the other. -/
def writeAll (s : Session) (writes : List Write) : Session := writes.foldl (fun s w => (s.write w).session) s

@[simp] theorem writeAll_cons (s : Session) (w : Write) (writes : List Write) :
    s.writeAll (w :: writes) = (s.write w).session.writeAll writes := rfl

/-- The structs of a session are declared in a universe, and its cache knows no other declarations. -/
structure DeclaredIn (U : Universe) (s : Session) : Prop where
  root : s.root.DeclaredIn U
  cache : s.cache.Faithful U

variable {U : Universe} {s : Session} {w : Write}

theorem get_direct (h : s.DeclaredIn U) (via : Via) (route : Route) :
    (s.get via route).result = (Reflection.get .direct s.root route ()).result := by
  cases via with
  | direct => rfl
  | cache => exact (get_agrees (MemberCache.agrees U) route h.root h.cache).1

theorem edit_direct {α : Type} (h : s.DeclaredIn U) (via : Via) (route : Route) (f : Value → Value × α) :
    (s.edit via route f).result = (Reflection.edit .direct s.root route f ()).result := by
  cases via with
  | direct => rfl
  | cache => exact congrArg Prod.fst (edit_agrees (MemberCache.agrees U) route f h.root h.cache).1

/-- The way that a write takes cannot be seen, but in the cache. -/
theorem write_direct (h : s.DeclaredIn U) (w : Write) :
    let direct := Reflection.assign .direct s.root w.route w.value ()
    (s.write w).result = direct.result ∧ (s.write w).session.root = direct.root ∧
      (s.write w).session.cache.Faithful U := by
  unfold write assign
  cases w.via with
  | direct => exact ⟨rfl, rfl, h.cache⟩
  | cache =>
    obtain ⟨houtcome, hcache⟩ := assign_agrees (MemberCache.agrees U) w.route w.value h.root h.cache
    exact ⟨congrArg Prod.fst houtcome, congrArg Prod.snd houtcome, hcache⟩

theorem declaredIn_write (h : s.DeclaredIn U) (hw : w.value.DeclaredIn U) : (s.write w).session.DeclaredIn U := by
  obtain ⟨-, hroot, hcache⟩ := write_direct h w
  refine ⟨?_, hcache⟩
  rw [hroot]
  exact declaredIn_assign h.root hw w.route

end Session

end Reflection
