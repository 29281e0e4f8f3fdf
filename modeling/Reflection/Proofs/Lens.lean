import Reflection.Proofs.Composition
import Reflection.Proofs.Universe
/-!
# Writing and reading back

Reads and writes go to the same slot wherever the declaration of the last segment allows both
(`find_of_allows`). So a path that may be read gives back what was written to it, the last of two
writes wins, and writing what was read changes nothing (`lens_laws`).
-/

namespace Reflection

namespace Value

/-- What a value declares of a segment. Items are there to be read and written. -/
def declared? (v : Value) : Segment → Option Access
  | .index _ => some .readWrite
  | .member name =>
    match v.info with
    | .struct info => (info.member? name).map MemberInfo.access
    | _ => none

/-- A segment stands for the same slot in each mode that its declaration allows. -/
theorem slot?_of_allows {mode mode' : Mode} {v : Value} {s : Segment} {slot : Slot} {access : Access}
    (h : v.slot? mode s = some slot) (ha : v.declared? s = some access) (hm : mode'.allows access = true) :
    v.slot? mode' s = some slot := by
  cases s with
  | index i => exact h
  | member name =>
    obtain ⟨info, m, hinfo, hmember, -, rfl⟩ := slot?_member h
    simp only [declared?, hinfo, hmember, Option.map_some, Option.some.injEq] at ha
    subst ha
    simp only [slot?, slotBy, hinfo, hmember, Option.bind_some, if_pos hm]

theorem find_single_of_allows {mode mode' : Mode} {position : Nat} {v w : Value} {s : Segment} {place : Place}
    {access : Access} (h : v.find mode position [s] = .ok (place, w))
    (ha : v.chainEnd?.bind (·.declared? s) = some access) (hm : mode'.allows access = true) :
    v.find mode' position [s] = .ok (place, w) := by
  obtain ⟨slot, x, later, hs, hx, rfl⟩ := find_cons_eq_ok h
  obtain ⟨u, hu, hslot, hc⟩ := step_eq_ok hs
  rw [hu, Option.bind_some] at ha
  rw [find_nil] at hx
  cases hx
  have hstep : v.step (mode'.before []) s = .ok (slot, w) := by
    rw [Mode.before_nil]
    exact step_ok hu (slot?_of_allows hslot ha hm) hc
  rw [find_ok hstep, find_nil]
  rfl

end Value

/-- What is declared of the last segment of a path, by the value that it is used on. -/
def lastAccess? (root : Value) (p : Path) : Option Access :=
  (root.behind? p.segments.dropLast).bind (·.declared? (p.segments.getLast p.segments_ne_nil))

/-- A path leads to the same place in each mode that is allowed for its last segment. -/
theorem find_of_allows {mode mode' : Mode} {root w : Value} {p : Path} {place : Value.Place} {access : Access}
    (h : root.find mode 0 p.segments = .ok (place, w)) (ha : lastAccess? root p = some access)
    (hm : mode'.allows access = true) : root.find mode' 0 p.segments = .ok (place, w) := by
  have hne := List.cons_ne_nil (p.segments.getLast p.segments_ne_nil) []
  have hsplit := List.dropLast_concat_getLast p.segments_ne_nil
  rw [← hsplit] at h ⊢
  obtain ⟨front, parent, later, hfront, hlast, rfl⟩ := Value.find_append_eq_ok hne h
  rw [lastAccess?, Value.behind?_of_find hfront] at ha
  rw [Value.find_append mode' 0 root _ hne, hfront, Except.bind, Value.find_single_of_allows hlast ha hm]
  rfl

/-- The laws of a lens, for the place that a path leads to. -/
theorem lens_laws (root : Value) (p : Path) :
    (∀ x access, (assign .direct root (.path p) x ()).result = .ok () → lastAccess? root p = some access →
      access.isReadable = true →
        let root' := (assign .direct root (.path p) x ()).root
        (get .direct root' (.path p) ()).result = .ok x ∧
        (∀ q : Path, (get .direct root' (.path (p.concat q)) ()).result =
          (get .direct x (.path q) ()).result.mapError (·.shift p.length)) ∧
        (∀ y, (assign .direct root' (.path p) y ()).result = .ok () →
          (assign .direct root (.path p) y ()).result = .ok () ∧
          (assign .direct root' (.path p) y ()).root = (assign .direct root (.path p) y ()).root)) ∧
    (∀ w, (get .direct root (.path p) ()).result = .ok w → lastAccess? root p = some .readWrite →
      (assign .direct root (.path p) w ()).result = .ok () ∧ (assign .direct root (.path p) w ()).root = root) := by
  constructor
  · intro x access hx ha hreadable root'
    obtain ⟨place, old, hfind, ht, hroot⟩ := assign_eq_ok hx
    have hroot' : root' = root.setAt place x := hroot
    have hset : ∀ mode, root.find mode 0 p.segments = .ok (place, old) →
        root'.find mode 0 p.segments = .ok (place, x) := by
      intro mode h
      rw [hroot']
      exact Value.find_setAt_self h x
    have hread := hset .read (find_of_allows hfind ha hreadable)
    refine ⟨?_, fun q => get_concat hread q, ?_⟩
    · rw [get_find, hread]; rfl
    · intro y hy
      -- The second write finds the first value where the first write has found the old one.
      obtain ⟨place', x', hfind', hty, htwice⟩ := assign_eq_ok hy
      rw [hset .write hfind] at hfind'
      cases hfind'
      obtain ⟨hok, honce⟩ := assign_of_find hfind (hty.trans ht)
      refine ⟨hok, ?_⟩
      rw [htwice, honce, hroot', Value.setAt_setAt (Value.at?_find hfind)]
  · intro w hw ha
    obtain ⟨place, hfind⟩ := get_eq_ok hw
    have hwrite : root.find .write 0 p.segments = .ok (place, w) := find_of_allows hfind ha rfl
    obtain ⟨hok, hroot⟩ := assign_of_find hwrite rfl
    exact ⟨hok, by rw [hroot, Value.setAt_at? (Value.at?_find hfind)]⟩

/-- The laws for a text in a struct in a struct. -/
theorem lens_laws_text :
    let root := Sample.valueA
    let route := Route.path Sample.textOfB
    let one := Value.scalar (.string "one")
    let two := Value.scalar (.string "two")
    let root' := (assign .direct root route one ()).root
    (get .direct root' route ()).result = .ok one ∧
    (assign .direct root' route two ()).root = (assign .direct root route two ()).root ∧
    (assign .direct root route (.scalar (.string "")) ()).root = root := by
  intro root route one two root'
  obtain ⟨hwritten, hsame⟩ := lens_laws root Sample.textOfB
  obtain ⟨hget, -, hlast⟩ := hwritten one .readWrite rfl rfl rfl
  exact ⟨hget, (hlast two rfl).2, (hsame (.scalar (.string "")) rfl rfl).2⟩

end Reflection
