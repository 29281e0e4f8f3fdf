import Reflection.Proofs.Conforming
import Reflection.Proofs.Frame
/-!
# All or nothing

A write that fails has done nothing, whichever lookup it used (`root_of_assign_error`), and one that
succeeds depends on the root alone (`write_same_root`). So the writes of a run that fail can be left out:
the others succeed without them too, and lead to the same root (`run_succeeded`). Each root on the way is
made of values of the declared types, and the sequences that a write goes through keep their lengths
(`writes_atomic`).
-/

namespace Reflection

variable {σ : Type}

/-! ## One write -/

theorem putFound_error {v x : Value} {last : Segment} {position : Nat}
    {found : Except PathError (Value.Place × Value)} {e : PathError}
    (h : (putFound v x last position found).1 = .error e) : (putFound v x last position found).2 = v := by
  cases found with
  | error e' => rfl
  | ok found =>
    simp only [putFound] at h ⊢
    split at h
    · cases h
    · rw [if_neg (by assumption)]

/-- A write that fails leaves the whole root as it was. -/
theorem root_of_assign_error {lookup : Lookup σ} {root x : Value} {route : Route} {memory : σ} {e : PathError}
    (h : (assign lookup root route x memory).result = .error e) : (assign lookup root route x memory).root = root := by
  cases hroute : route.segments with
  | error e' => simp only [assign_eq, hroute]
  | ok path =>
    by_cases hne : path = []
    · subst hne
      simp only [assign_eq, hroute, assignFrom_nil]
    · have houtcome := (assign_seek lookup root x hroute hne memory).1
      have hroot : (assign lookup root route x memory).root = _ := congrArg Prod.snd houtcome
      rw [hroot]
      exact putFound_error ((congrArg Prod.fst houtcome).symm.trans h)

/-- A write of a typed value leaves a typed root, be it refused or not. -/
theorem hasType_assign {U : Universe} {root x : Value} {t : Ty} (h : root.HasType U t) (hx : x.HasType U x.type)
    (route : Route) : (assign .direct root route x ()).root.HasType U t := by
  rcases assign_cases root x route with ⟨e, -, hroot⟩ | ⟨p, place, old, -, -, hfind, ht, -, hroot⟩
  · rw [hroot]
    exact h
  · rw [hroot]
    refine Value.hasType_setAt h (Value.at?_find hfind) fun u hold => ?_
    rw [← Value.type_of_hasType hold, ← ht]
    exact hx

/-- What a write goes through keeps its type and its length. -/
theorem behind?_assign {root x v : Value} {route : Route} {a b : List Segment} (hroute : route.segments = .ok (a ++ b))
    (hb : b ≠ []) (hv : root.behind? a = some v) :
    ∃ v', (assign .direct root route x ()).root.behind? a = some v' ∧ v'.type = v.type ∧ v'.kind = v.kind ∧
      v'.shownLen = v.shownLen := by
  rcases assign_cases root x route with ⟨e, -, hroot⟩ | ⟨p, place, old, hp, -, hfind, -, -, hroot⟩
  · rw [hroot]
    exact ⟨v, hv, rfl, rfl, rfl⟩
  · obtain rfl : a ++ b = p := Except.ok.inj (hroute.symm.trans hp)
    obtain ⟨slot, c, y, -, hbehind⟩ := Value.behind?_setAt_setChild (x := x) hfind hb hv
    rw [hroot]
    exact ⟨_, hbehind, Value.type_setChild .., Value.kind_setChild .., Value.shownLen_setChild ..⟩

/-! ## Runs -/

namespace Session

/-- What the writes of a run answer. -/
def answers (s : Session) : List Write → List (Except PathError Unit)
  | [] => []
  | w :: writes => (s.write w).result :: (s.write w).session.answers writes

/-- The writes of a run that succeed. -/
def succeeded (s : Session) (writes : List Write) : List Write :=
  ((writes.zip (s.answers writes)).filter (·.2.isOk)).map Prod.fst

variable {U : Universe} {s s' : Session} {w : Write} {writes : List Write}

theorem succeeded_cons_ok (h : (s.write w).result = .ok ()) (writes : List Write) :
    s.succeeded (w :: writes) = w :: (s.write w).session.succeeded writes := by
  simp [succeeded, answers, h, Except.isOk, Except.toBool]

theorem succeeded_cons_error {e : PathError} (h : (s.write w).result = .error e) (writes : List Write) :
    s.succeeded (w :: writes) = (s.write w).session.succeeded writes := by
  simp [succeeded, answers, h, Except.isOk, Except.toBool]

/-- What fails does nothing, through the cache or past it. -/
theorem root_of_write_error {e : PathError} (h : (s.write w).result = .error e) : (s.write w).session.root = s.root := by
  unfold write assign at h ⊢
  cases hvia : w.via <;> rw [hvia] at h
  · exact root_of_assign_error h
  · exact root_of_assign_error h

/-- Two sessions with one root answer a write alike, and have one root after it. -/
theorem write_same_root (hs : s.DeclaredIn U) (hs' : s'.DeclaredIn U) (h : s.root = s'.root) (w : Write) :
    (s.write w).result = (s'.write w).result ∧ (s.write w).session.root = (s'.write w).session.root := by
  obtain ⟨hresult, hroot, -⟩ := write_direct hs w
  obtain ⟨hresult', hroot', -⟩ := write_direct hs' w
  rw [hresult, hroot, hresult', hroot', h]
  exact ⟨rfl, rfl⟩

/-- The writes that succeed in a run succeed by themselves in any session with the same root, and lead to the
same root. -/
theorem run_succeeded (hs : s.DeclaredIn U) (hs' : s'.DeclaredIn U) (h : s.root = s'.root)
    (hw : ∀ w ∈ writes, w.value.DeclaredIn U) :
    s'.answers (s.succeeded writes) = (s.succeeded writes).map (fun _ => .ok ()) ∧
      (s'.writeAll (s.succeeded writes)).root = (s.writeAll writes).root := by
  induction writes generalizing s s' with
  | nil => exact ⟨rfl, h.symm⟩
  | cons w writes ih =>
    have hvalue := hw w List.mem_cons_self
    have hlater : ∀ w ∈ writes, w.value.DeclaredIn U := fun w' hw' => hw w' (List.mem_cons_of_mem _ hw')
    have hnext := declaredIn_write hs hvalue
    cases hresult : (s.write w).result with
    | error e =>
      -- The second run stays where it is, and so does the first.
      rw [succeeded_cons_error hresult, writeAll_cons]
      exact ih hnext hs' ((root_of_write_error hresult).trans h) hlater
    | ok done =>
      obtain ⟨hsame, hroot⟩ := write_same_root hs hs' h w
      obtain ⟨hanswers, hend⟩ := ih hnext (declaredIn_write hs' hvalue) hroot hlater
      rw [succeeded_cons_ok hresult, writeAll_cons, writeAll_cons, answers, List.map_cons, hanswers, ← hsame, hresult]
      exact ⟨rfl, hend⟩

theorem hasType_write {t : Ty} (hs : s.DeclaredIn U) (h : s.root.HasType U t) (hw : w.value.HasType U w.value.type) :
    (s.write w).session.root.HasType U t := by
  obtain ⟨-, hroot, -⟩ := write_direct hs w
  rw [hroot]
  exact hasType_assign h hw w.route

theorem hasType_writeAll {t : Ty} (hs : s.DeclaredIn U) (h : s.root.HasType U t)
    (hdeclared : ∀ w ∈ writes, w.value.DeclaredIn U) (hw : ∀ w ∈ writes, w.value.HasType U w.value.type) :
    (s.writeAll writes).root.HasType U t := by
  induction writes generalizing s with
  | nil => exact h
  | cons w writes ih =>
    have hmem : w ∈ w :: writes := List.mem_cons_self
    rw [writeAll_cons]
    exact ih (declaredIn_write hs (hdeclared w hmem)) (hasType_write hs h (hw w hmem))
      (fun w' hw' => hdeclared w' (List.mem_cons_of_mem _ hw')) fun w' hw' => hw w' (List.mem_cons_of_mem _ hw')

theorem behind?_write (hs : s.DeclaredIn U) {v : Value} {a b : List Segment}
    (hroute : w.route.segments = .ok (a ++ b)) (hb : b ≠ []) (hv : s.root.behind? a = some v) :
    ∃ v', (s.write w).session.root.behind? a = some v' ∧ v'.type = v.type ∧ v'.kind = v.kind ∧
      v'.shownLen = v.shownLen := by
  obtain ⟨-, hroot, -⟩ := write_direct hs w
  rw [hroot]
  exact behind?_assign hroute hb hv

end Session

/-- Over a run of writes, each write that fails leaves the whole root as it was. Where root and values are
made of values of the declared types, so is the root after each write, it has the type that it had, and all
that the write has gone through has its type and its length. The writes that have succeeded then do so
without the others as well, with any cache that is right, and lead to the same root. -/
theorem writes_atomic (s : Session) (writes : List Write) :
    (∀ earlier w later, writes = earlier ++ w :: later →
      let before := s.writeAll earlier
      ∀ e, (before.write w).result = .error e → (before.write w).session.root = before.root) ∧
    ∀ U : Universe, s.TypedIn U → (∀ w ∈ writes, w.value.TypedIn U) →
      (∀ earlier w later, writes = earlier ++ w :: later →
        let before := s.writeAll earlier
        let after := (before.write w).session.root
        after.TypedIn U ∧ after.type = s.root.type ∧
        (∀ t, s.root.HasType U t → (∀ w ∈ writes, w.value.HasType U w.value.type) → after.HasType U t) ∧
        ∀ a b v, w.route.segments = .ok (a ++ b) → b ≠ [] → before.root.behind? a = some v →
          ∃ v', after.behind? a = some v' ∧ v'.type = v.type ∧ v'.kind = v.kind ∧ v'.shownLen = v.shownLen) ∧
      ∀ cache : MemberCache, cache.Faithful U →
        let again : Session := ⟨s.root, cache⟩
        let kept := s.succeeded writes
        again.answers kept = kept.map (fun _ => .ok ()) ∧ (again.writeAll kept).root = (s.writeAll writes).root := by
  refine ⟨fun earlier w later _ e he => Session.root_of_write_error he, fun U hs hw => ⟨?_, ?_⟩⟩
  · intro earlier w later hsplit before after
    have hvalue : w.value.TypedIn U := hw w (by simp [hsplit])
    have hearlier : ∀ u ∈ earlier, u ∈ writes := fun u hu => by simp [hsplit, hu]
    obtain ⟨hbefore, hbeforeType⟩ := Session.typedIn_writeAll hs fun u hu => hw u (hearlier u hu)
    obtain ⟨hafter, hafterType⟩ := Session.typedIn_write hbefore hvalue
    refine ⟨hafter.root, hafterType.trans hbeforeType, ?_, ?_⟩
    · intro t ht htyped
      have hbeforeTyped : before.root.HasType U t :=
        Session.hasType_writeAll hs.declaredIn ht (fun u hu => (hw u (hearlier u hu)).declared)
          fun u hu => htyped u (hearlier u hu)
      exact Session.hasType_write hbefore.declaredIn hbeforeTyped (htyped w (by simp [hsplit]))
    · exact fun a b v hroute hb hv => Session.behind?_write hbefore.declaredIn hroute hb hv
  · intro cache hcache again kept
    have hagain : again.DeclaredIn U := ⟨hs.root.declared, hcache⟩
    exact Session.run_succeeded hs.declaredIn hagain rfl fun w hmem => (hw w hmem).declared

/-- Of three writes the one to a read-only member and the one of a wrong type fail, and can be left out. -/
theorem writes_atomic_text :
    let s := Session.start Sample.valueA
    let one : Write := ⟨.cache, .path Sample.textOfB, .scalar (.string "one")⟩
    let flag : Write := ⟨.direct, .path Sample.textOfB, .scalar (.bool true)⟩
    let seven : Write := ⟨.cache, .path ⟨[.member "id"], List.cons_ne_nil _ _⟩, .scalar (.int .u32 7)⟩
    s.succeeded [seven, one, flag] = [one] ∧
    s.answers [one] = [.ok ()] ∧ (s.writeAll [one]).root = (s.writeAll [seven, one, flag]).root ∧
    (s.writeAll [seven]).root = s.root ∧ (s.writeAll [seven, one]).root.HasType Sample.types Sample.tyA := by
  intro s one flag seven
  have hs : s.TypedIn Sample.types := ⟨Sample.valueA_typedIn, MemberCache.faithful_empty Sample.types⟩
  have hscalar : ∀ x, (Value.scalar x).HasType Sample.types (Value.scalar x).type := fun x => .scalar x
  have htyped : ∀ w ∈ [seven, one, flag], w.value.HasType Sample.types w.value.type := by
    simp only [List.forall_mem_cons, List.not_mem_nil, false_implies, implies_true, and_true]
    exact ⟨hscalar _, hscalar _, hscalar _⟩
  have hw : ∀ w ∈ [seven, one, flag], w.value.TypedIn Sample.types := by
    simp only [List.forall_mem_cons, List.not_mem_nil, false_implies, implies_true, and_true]
    exact ⟨Value.typedIn_of_hasType trivial (hscalar _), Value.typedIn_of_hasType trivial (hscalar _),
      Value.typedIn_of_hasType trivial (hscalar _)⟩
  obtain ⟨hrefused, hall⟩ := writes_atomic s [seven, one, flag]
  obtain ⟨hstep, hkept⟩ := hall Sample.types hs hw
  obtain ⟨hanswers, hend⟩ := hkept .empty (MemberCache.faithful_empty Sample.types)
  obtain ⟨-, -, hafter, -⟩ := hstep [seven] one [flag] rfl
  exact ⟨rfl, hanswers, hend, hrefused [] seven [one, flag] rfl _ rfl,
    hafter Sample.tyA Sample.valueA_hasType htyped⟩

end Reflection
