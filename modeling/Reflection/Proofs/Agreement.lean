import Reflection.Proofs.AccessControl
import Reflection.Proofs.Stages
/-!
# Looking and changing go one way

A walk that holds what it passes goes as one that only looks does, segment by segment
(`editFrom_getFrom`). So a value that can be read can be changed where it stands, and what cannot be
read cannot be changed, for the same reason. Where the declaration of the last segment allows both,
a write ends at the value that is read as well (`find_write_iff`), and comes to the same as putting the
new value in the place of that one (`walks_agree`).
-/

namespace Reflection

variable {σ α : Type}

/-! ## Walks that look and walks that change -/

/-- A change is made to the value that is read, and nothing else of the walk differs. -/
theorem editFrom_getFrom (lookup : Lookup σ) (f : Value → Value × α) (position : Nat) (v : Value) (path : List Segment)
    (memory : σ) :
    let walk := getFrom lookup position v path memory
    let done := editFrom lookup (fun v memory => ⟨.ok (f v).2, (f v).1, memory, []⟩) position v path memory
    done.result = walk.result.map (fun v => (f v).2) ∧ done.memory = walk.memory ∧ done.log = walk.log := by
  induction path generalizing position v memory with
  | nil =>
    rw [getFrom_end rfl, editFrom_end rfl]
    exact ⟨rfl, rfl, rfl⟩
  | cons s rest ih =>
    rw [getFrom_cons, editFrom_cons]
    cases h : (enter lookup .read v s memory).result with
    | error cause =>
      rw [visit_error h, descend_error h]
      exact ⟨rfl, rfl, rfl⟩
    | ok found =>
      obtain ⟨slot, x⟩ := found
      obtain ⟨hresult, hmemory, hlog⟩ := ih (position + 1) x (enter lookup .read v s memory).memory
      rw [visit_ok h, descend_ok h]
      refine ⟨hresult, hmemory, ?_⟩
      simp only [hlog]

theorem edit_get (lookup : Lookup σ) (root : Value) (route : Route) (f : Value → Value × α) (memory : σ) :
    let walk := get lookup root route memory
    let done := edit lookup root route f memory
    done.result = walk.result.map (fun v => (f v).2) ∧ done.memory = walk.memory ∧ done.log = walk.log := by
  simp only [get_eq, edit_eq]
  cases route.segments with
  | error e => exact ⟨rfl, rfl, rfl⟩
  | ok path => exact editFrom_getFrom lookup f 0 root path memory

section Outcome
variable {lookup : Lookup σ} {root v : Value} {route : Route} {e : PathError} {memory : σ}

/-- What cannot be read is left alone. -/
theorem edit_of_get_error (h : (get lookup root route memory).result = .error e) (f : Value → Value × α) :
    (edit lookup root route f memory).outcome = (.error e, root) := by
  rw [get_eq] at h
  cases hroute : route.segments with
  | error e' =>
    rw [hroute] at h
    cases h
    rw [edit_eq, hroute]
    rfl
  | ok path =>
    rw [hroute] at h
    have hfound := map_eq_error ((getFrom_seek lookup 0 root path memory).1.symm.trans h)
    rw [(edit_seek lookup root hroute f memory).1, hfound]
    rfl

/-- What can be read is changed at the place where it is read. -/
theorem edit_of_get_ok (h : (get lookup root route memory).result = .ok v) :
    ∃ place, readPlace? lookup root route memory = some place ∧ root.at? place = some v ∧
      ∀ f : Value → Value × α, (edit lookup root route f memory).outcome = (.ok (f v).2, root.setAt place (f v).1) := by
  rw [get_eq] at h
  cases hroute : route.segments with
  | error e =>
    rw [hroute] at h
    cases h
  | ok path =>
    rw [hroute] at h
    obtain ⟨⟨place, w⟩, hfound, rfl⟩ := map_eq_ok ((getFrom_seek lookup 0 root path memory).1.symm.trans h)
    refine ⟨place, ?_, at?_seek hfound, fun f => ?_⟩
    · simp only [readPlace?, hroute, hfound, Except.toOption, Option.map_some]
    · rw [(edit_seek lookup root hroute f memory).1, hfound]
      rfl
end Outcome

/-! ## Writes where both is allowed -/

section Write
variable {root : Value} {p : Path} {found : Value.Place × Value}

theorem lastAccess?_of_find {mode : Mode} (h : root.find mode 0 p.segments = .ok found) :
    ∃ access, lastAccess? root p = some access := by
  rw [← p.front_append_last] at h
  obtain ⟨access, hdeclared, -⟩ := Value.declared_of_find h
  exact ⟨access, hdeclared⟩

/-- A write ends where a read does if the last segment may be used for both. -/
theorem find_write_iff (h : ∀ access, lastAccess? root p = some access → access = .readWrite) :
    root.find .write 0 p.segments = .ok found ↔ root.find .read 0 p.segments = .ok found := by
  constructor
  · intro hfind
    obtain ⟨access, ha⟩ := lastAccess?_of_find hfind
    obtain rfl := h access ha
    exact find_of_allows hfind ha rfl
  · intro hfind
    obtain ⟨access, ha⟩ := lastAccess?_of_find hfind
    obtain rfl := h access ha
    exact find_of_allows hfind ha rfl

/-- Such a write is a replacement of the value that is read. If it is refused, the error tells of the
last segment. -/
theorem assign_replace {route : Route} (hroute : route.segments = .ok p.segments)
    (h : ∀ access, lastAccess? root p = some access → access = .readWrite) (x : Value) :
    let put := edit .direct root route (·.replace x) ()
    let done := assign .direct root route x ()
    done.root = put.root ∧
    ((put.result = .ok .done ∧ done.result = .ok ()) ∨
      (∃ v, (get .direct root route ()).result = .ok v ∧ put.result = .ok (.refused x) ∧
        done.result = .error (.assign ⟨.rejected x.typePath v.typePath, p.last, p.length - 1⟩)) ∨
      ∃ e e', put.result = .error e ∧ done.result = .error e') := by
  intro put done
  have hput : (put.result, put.root) = _ := edit_route hroute root (·.replace x)
  have hdone : (done.result, done.root) = _ := assign_route hroute p.segments_ne_nil root x
  have hread := get_route hroute root
  cases hfind : root.find .read 0 p.segments with
  | ok found =>
    rw [hfind] at hput hread
    rw [(find_write_iff h).2 hfind] at hdone
    by_cases ht : x.type = found.2.type
    · simp only [changeFound, putFound, Value.replace, Value.assign, if_pos ht, Prod.mk.injEq] at hput hdone
      exact ⟨hdone.2.trans hput.2.symm, .inl ⟨hput.1, hdone.1⟩⟩
    · simp only [changeFound, putFound, Value.replace, Value.assign, if_neg ht, Prod.mk.injEq] at hput hdone
      rw [Value.setAt_at? (Value.at?_find hfind)] at hput
      exact ⟨hdone.2.trans hput.2.symm, .inr (.inl ⟨found.2, hread, hput.1, hdone.1⟩)⟩
  | error e =>
    rw [hfind] at hput
    cases hwrite : root.find .write 0 p.segments with
    | ok found =>
      rw [(find_write_iff h).1 hwrite] at hfind
      cases hfind
    | error e' =>
      rw [hwrite] at hdone
      simp only [changeFound, putFound, Prod.mk.injEq] at hput hdone
      exact ⟨hdone.2.trans hput.2.symm, .inr (.inr ⟨e, e', hput.1, hdone.1⟩)⟩
end Write

/-- The read and the change of a place agree: on the value, on where it stands, and on the error if
there is none. A write to a segment that may be read and written succeeds where the value that is read
accepts the new one, with the root that the change gives. If that value refuses it, the error tells so. -/
theorem walks_agree (α : Type) (root : Value) (route : Route) :
    let read := (get .direct root route ()).result
    (∀ v, read = .ok v → ∃ place, readPlace? .direct root route () = some place ∧ root.at? place = some v ∧
      ∀ f : Value → Value × α, (edit .direct root route f ()).outcome = (.ok (f v).2, root.setAt place (f v).1)) ∧
    (∀ e, read = .error e → ∀ f : Value → Value × α, (edit .direct root route f ()).outcome = (.error e, root)) ∧
    ∀ p : Path, route.segments = .ok p.segments →
      (∀ access, lastAccess? root p = some access → access = .readWrite) → ∀ x : Value,
        let put := edit .direct root route (·.replace x) ()
        let done := assign .direct root route x ()
        (done.result = .ok () ↔ put.result = .ok .done) ∧ done.root = put.root ∧
        ∀ v, read = .ok v → put.result = .ok (.refused x) →
          done.result = .error (.assign ⟨.rejected x.typePath v.typePath, p.last, p.length - 1⟩) := by
  intro read
  refine ⟨fun v hv => edit_of_get_ok hv, fun e he f => edit_of_get_error he f, ?_⟩
  intro p hroute h x put done
  obtain ⟨hroot, ⟨hput, hdone⟩ | ⟨v, hv, hput, hdone⟩ | ⟨e, e', hput, hdone⟩⟩ := assign_replace hroute h x
  · refine ⟨iff_of_true hdone hput, hroot, fun v _ hrefused => ?_⟩
    cases hput.symm.trans hrefused
  · refine ⟨iff_of_false ?_ ?_, hroot, fun v' hv' _ => ?_⟩
    · exact fun hok => nomatch hdone.symm.trans hok
    · exact fun hok => nomatch hput.symm.trans hok
    · obtain rfl : v = v' := Except.ok.inj (hv.symm.trans hv')
      exact hdone
  · refine ⟨iff_of_false ?_ ?_, hroot, fun v _ hrefused => ?_⟩
    · exact fun hok => nomatch hdone.symm.trans hok
    · exact fun hok => nomatch hput.symm.trans hok
    · cases hput.symm.trans hrefused

/-- A text is put in the place of a text, and refuses a flag. -/
theorem walks_agree_text :
    let root := Sample.valueA
    let route := Route.path Sample.textOfB
    let one := Value.scalar (.string "one")
    let flag := Value.scalar (.bool true)
    (assign .direct root route one ()).result = .ok () ∧
    (assign .direct root route one ()).root = (edit .direct root route (·.replace one) ()).root ∧
    (assign .direct root route flag ()).result =
      .error (.assign ⟨.rejected flag.typePath one.typePath, .member "text", 1⟩) := by
  intro root route one flag
  have haccess : ∀ access, lastAccess? root Sample.textOfB = some access → access = .readWrite := by
    intro access h
    exact (Option.some.inj h).symm
  obtain ⟨-, -, hwrite⟩ := walks_agree Unit root route
  obtain ⟨hdone, hroot, -⟩ := hwrite Sample.textOfB rfl haccess one
  obtain ⟨-, -, hrefused⟩ := hwrite Sample.textOfB rfl haccess flag
  exact ⟨hdone.2 rfl, hroot, hrefused (.scalar (.string "")) rfl rfl⟩

end Reflection
