import Reflection.Proofs.Run
/-!
# Paths that fork

Neither of two paths is a part of the other if they fork somewhere. Then the places that they lead to
fork as well (`find_forks`), values put into such places do not get into each other's way
(`setAt_comm`), and so writes along the two paths can change places (`writes_commute`).
-/

namespace Reflection

namespace Value

/-! ## Places that fork -/

theorem setChild_comm {slot slot' : Slot} (hne : slot ≠ slot') (v x y : Value) :
    (v.setChild slot x).setChild slot' y = (v.setChild slot' y).setChild slot x := by
  cases v with
  | list t items =>
    cases slot <;> cases slot' <;> try rfl
    exact congrArg (list t) (List.set_comm x y fun h => hne (congrArg Slot.item h))
  | array t items =>
    cases slot <;> cases slot' <;> try rfl
    exact congrArg (array t) (List.set_comm x y fun h => hne (congrArg Slot.item h))
  | pointer t target =>
    -- A pointer has one slot only.
    cases slot <;> cases slot' <;> try (cases target <;> rfl)
    exact absurd rfl hne
  | struct decl members hidden =>
    cases slot <;> cases slot' <;> try rfl
    exact congrArg (struct decl · hidden) (List.set_comm x y fun h => hne (congrArg Slot.member h))
  | facade f z =>
    rcases f with _ | _ <;> rcases slot with i | (_ | i) | _ <;> rcases slot' with j | (_ | j) | _ <;> try rfl
    exact absurd rfl hne
  | _ => cases slot <;> cases slot' <;> rfl

theorem setAt_comm {v c d : Value} {place place' : Place} (hc : v.at? place = some c) (hd : v.at? place' = some d)
    (hfork : ¬ place <+: place') (hfork' : ¬ place' <+: place) (x y : Value) :
    (v.setAt place x).setAt place' y = (v.setAt place' y).setAt place x := by
  induction place generalizing v place' with
  | nil => exact absurd List.nil_prefix hfork
  | cons slot place ih =>
    cases place' with
    | nil => exact absurd List.nil_prefix hfork'
    | cons slot' place' =>
      obtain ⟨a, ha, hc⟩ := at?_cons_eq_some hc
      obtain ⟨b, hb, hd⟩ := at?_cons_eq_some hd
      rw [setAt_cons ha, setAt_cons hb]
      by_cases hslot : slot = slot'
      · -- The places fork further down, in the value of this slot.
        subst hslot
        obtain rfl : a = b := Option.some.inj (ha.symm.trans hb)
        rw [setAt_cons (child?_setChild_self ha _), setAt_cons (child?_setChild_self ha _), setChild_setChild,
          setChild_setChild, ih hc hd (fun h => hfork ((List.prefix_cons_inj slot).2 h))
            fun h => hfork' ((List.prefix_cons_inj slot).2 h)]
      · rw [setAt_cons ((child?_setChild_ne hslot v _).trans hb), setAt_cons ((child?_setChild_ne (Ne.symm hslot) v _).trans ha),
          setChild_comm hslot]

/-! ## Paths that fork lead to places that fork -/

theorem find_forks {mode mode' : Mode} {position position' : Nat} {v w w' : Value} {p q : List Segment}
    {place place' : Place} (h : v.find mode position p = .ok (place, w)) (h' : v.find mode' position' q = .ok (place', w'))
    (hpq : ¬ p <+: q) (hqp : ¬ q <+: p) : ¬ place <+: place' ∧ ¬ place' <+: place := by
  induction p generalizing v position position' q place place' with
  | nil => exact absurd List.nil_prefix hpq
  | cons s p ih =>
    cases q with
    | nil => exact absurd List.nil_prefix hqp
    | cons t q =>
      obtain ⟨slot, x, later, hs, hx, rfl⟩ := find_cons_eq_ok h
      obtain ⟨slot', y, later', ht, hy, rfl⟩ := find_cons_eq_ok h'
      simp only [List.prefix_append_right_inj]
      by_cases hst : s = t
      · subst hst
        have hpq' : ¬ p <+: q := fun hp => hpq ((List.prefix_cons_inj s).2 hp)
        have hqp' : ¬ q <+: p := fun hq => hqp ((List.prefix_cons_inj s).2 hq)
        -- Both paths go on, so both read the segment, and they come to the same slot.
        have hp : mode.before p = .read := before_of_not_prefix mode hpq'
        have hq : mode'.before q = .read := before_of_not_prefix mode' hqp'
        rw [hp] at hs
        rw [hq, hs] at ht
        cases ht
        simp only [List.prefix_cons_inj]
        exact ih hx hy hpq' hqp'
      · obtain ⟨u, hu, hslot, -⟩ := step_eq_ok hs
        obtain ⟨u', hu', hslot', -⟩ := step_eq_ok ht
        obtain rfl : u = u' := Option.some.inj (hu.symm.trans hu')
        have hne : slot ≠ slot' := slot?_ne hst hslot hslot'
        exact ⟨fun hp => hne (List.cons_prefix_cons.1 hp).1, fun hp => hne (List.cons_prefix_cons.1 hp).1.symm⟩

end Value

/-! ## Writes along them -/

/-- Two writes to one root, each of what its path has found there, in either order. -/
theorem putFound_comm {root x y : Value} {found found' : Except PathError (Value.Place × Value)} {s t : Segment}
    {m n : Nat}
    (hfork : ∀ place old place' old', found = .ok (place, old) → found' = .ok (place', old') →
      root.at? place = some old ∧ root.at? place' = some old' ∧ ¬ place <+: place' ∧ ¬ place' <+: place) :
    (putFound (putFound root x s m found).2 y t n found').2 = (putFound (putFound root y t n found').2 x s m found).2 := by
  cases found with
  | error e => rfl
  | ok f =>
    cases found' with
    | error e => rfl
    | ok f' =>
      obtain ⟨hat, hat', hf, hf'⟩ := hfork _ _ _ _ rfl rfl
      simp only [putFound]
      split <;> split <;> try rfl
      exact Value.setAt_comm hat hat' hf hf' x y

section Assign
variable {route route' : Route} {p q : List Segment} (hp : route.segments = .ok p)
  (hq : route'.segments = .ok q) (hpq : ¬ p <+: q) (hqp : ¬ q <+: p)
include hp hpq hqp

/-- A write does not change what a path finds that forks off from its own. -/
theorem find_assign_fork (root x : Value) (mode : Mode) (position : Nat) :
    (assign .direct root route x ()).root.find mode position q = root.find mode position q := by
  rcases assign_cases root x route with ⟨e, -, hroot⟩ | ⟨p', place, old, hp', -, hfind, -, -, hroot⟩
  · rw [hroot]
  · obtain rfl : p = p' := Except.ok.inj (hp.symm.trans hp')
    rw [hroot, Value.find_setAt_fork hfind hpq hqp]

include hq

theorem assign_comm (root x y : Value) :
    let first := assign .direct root route x ()
    let second := assign .direct first.root route' y ()
    let first' := assign .direct root route' y ()
    let second' := assign .direct first'.root route x ()
    first.result = second'.result ∧ second.result = first'.result ∧ second.root = second'.root := by
  intro first second first' second'
  have hpne : p ≠ [] := fun h => hpq (h ▸ List.nil_prefix)
  have hqne : q ≠ [] := fun h => hqp (h ▸ List.nil_prefix)
  have hfirst : first.outcome = _ := assign_route hp hpne root x
  have hfirst' : first'.outcome = _ := assign_route hq hqne root y
  have hsecond : second.outcome = _ := assign_route hq hqne first.root y
  have hsecond' : second'.outcome = _ := assign_route hp hpne first'.root x
  -- Each path finds in the root that the other one has left what it finds in the first root.
  rw [find_assign_fork hp hpq hqp root x] at hsecond
  rw [find_assign_fork hq hqp hpq root y] at hsecond'
  refine ⟨?_, ?_, ?_⟩
  · show first.outcome.1 = second'.outcome.1
    rw [hfirst, hsecond', putFound_result, putFound_result]
  · show second.outcome.1 = first'.outcome.1
    rw [hsecond, hfirst', putFound_result, putFound_result]
  · show second.outcome.2 = second'.outcome.2
    rw [hsecond, hsecond', show first.root = _ from congrArg Prod.snd hfirst,
      show first'.root = _ from congrArg Prod.snd hfirst']
    refine putFound_comm fun place old place' old' hfound hfound' => ?_
    exact ⟨Value.at?_find hfound, Value.at?_find hfound', Value.find_forks hfound hfound' hpq hqp⟩
end Assign

/-- Two writes along paths that fork give the same answers and the same root in either order, be they made
directly or through the cache of a session. -/
theorem writes_commute {w w' : Write} {p q : List Segment} (hp : w.route.segments = .ok p)
    (hq : w'.route.segments = .ok q) (hpq : ¬ p <+: q) (hqp : ¬ q <+: p) :
    (∀ root : Value,
      let first := assign .direct root w.route w.value ()
      let second := assign .direct first.root w'.route w'.value ()
      let first' := assign .direct root w'.route w'.value ()
      let second' := assign .direct first'.root w.route w.value ()
      first.result = second'.result ∧ second.result = first'.result ∧ second.root = second'.root) ∧
    ∀ (U : Universe) (s : Session), s.DeclaredIn U → w.value.DeclaredIn U → w'.value.DeclaredIn U →
      let first := s.write w
      let second := first.session.write w'
      let first' := s.write w'
      let second' := first'.session.write w
      first.result = second'.result ∧ second.result = first'.result ∧ second.session.root = second'.session.root := by
  refine ⟨fun root => assign_comm hp hq hpq hqp root w.value w'.value, ?_⟩
  intro U s hs hw hw' first second first' second'
  obtain ⟨hfirst, hroot, -⟩ := Session.write_direct hs w
  obtain ⟨hfirst', hroot', -⟩ := Session.write_direct hs w'
  obtain ⟨hsecond, hsecondRoot, -⟩ := Session.write_direct (Session.declaredIn_write hs hw) w'
  obtain ⟨hsecond', hsecondRoot', -⟩ := Session.write_direct (Session.declaredIn_write hs hw') w
  rw [hroot] at hsecond hsecondRoot
  rw [hroot'] at hsecond' hsecondRoot'
  obtain ⟨hx, hy, hboth⟩ := assign_comm hp hq hpq hqp s.root w.value w'.value
  refine ⟨?_, ?_, ?_⟩
  · exact hfirst.trans (hx.trans hsecond'.symm)
  · exact hsecond.trans (hy.trans hfirst'.symm)
  · exact hsecondRoot.trans (hboth.trans hsecondRoot'.symm)

/-- A text in a struct in a struct is written directly, and through the cache a member of the outer
struct, which is refused for being read-only. -/
theorem writes_commute_refused :
    let s := Session.start Sample.valueA
    let w : Write := ⟨.direct, .path Sample.textOfB, .scalar (.string "one")⟩
    let w' : Write := ⟨.cache, .path ⟨[.member "id"], List.cons_ne_nil _ _⟩, .scalar (.int .u32 7)⟩
    (s.write w).result = .ok () ∧
    ((s.write w').session.write w).result = .ok () ∧
    ((s.write w).session.write w').result =
      .error (.assign ⟨.memberNotFound "id" "pwdrv::fix::A" .write, .member "id", 0⟩) ∧
    ((s.write w).session.write w').session.root = ((s.write w').session.write w).session.root := by
  intro s w w'
  have hroot : s.root.DeclaredIn Sample.types := Universe.declaredIn_default Sample.types_named 2 Sample.tyA
  have hs : s.DeclaredIn Sample.types := ⟨hroot, MemberCache.faithful_empty Sample.types⟩
  have hp : w.route.segments = .ok Sample.textOfB.segments := rfl
  have hq : w'.route.segments = .ok [.member "id"] := rfl
  obtain ⟨-, hsession⟩ := writes_commute hp hq (by decide) (by decide)
  obtain ⟨hfirst, hsecond, hboth⟩ := hsession Sample.types s hs trivial trivial
  exact ⟨rfl, hfirst.symm.trans rfl, hsecond.trans rfl, hboth⟩

end Reflection
