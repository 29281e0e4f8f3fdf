import Reflection.Proofs.Conforming
/-!
# Access control

A path resolves a segment by the declaration that the value in front of it has of the segment, and the
declaration allows the use that is made of it (`declared_of_find`). In a session the types stay, so what is
declared of a segment once is declared for good (`declaredAt?_eq`). Therefore over a run of writes no write to a
read-only member succeeds, its value changes only by writes above or below it, and nothing is reached through a
write-only member (`access_control`).
-/

namespace Reflection

/-! ## Declarations along a path -/

namespace Value

/-- What is declared of a segment that follows others, by the value that it is used on. -/
def declaredAt? (root : Value) (segments : List Segment) (s : Segment) : Option Access :=
  (root.behind? segments).bind (·.declared? s)

variable {U : Universe} {mode : Mode} {v w : Value} {s : Segment} {slot : Slot}

theorem declared?_eq (h : v.info = w.info) (s : Segment) : v.declared? s = w.declared? s := by
  cases s <;> simp only [declared?, h]

/-- A segment that stands for a slot is declared, and may be used. -/
theorem declared?_of_slot? (h : v.slot? mode s = some slot) :
    ∃ access, v.declared? s = some access ∧ mode.allows access = true := by
  cases s with
  | index i => exact ⟨.readWrite, rfl, by cases mode <;> rfl⟩
  | member name =>
    obtain ⟨info, m, hinfo, hm, hallows, -⟩ := slot?_member h
    exact ⟨m.access, by simp only [declared?, hinfo, hm, Option.map_some], hallows⟩

theorem find_of_behind? {root : Value} {segments : List Segment} (h : root.behind? segments = some w) :
    ∃ place v, root.find .read 0 segments = .ok (place, v) ∧ v.chainEnd? = some w := by
  rw [behind?, getFrom_find] at h
  cases hfind : root.find .read 0 segments with
  | error e => rw [hfind] at h; cases h
  | ok found =>
    rw [hfind] at h
    exact ⟨found.1, found.2, rfl, h⟩

/-- A path that leads somewhere uses each of its segments as it is declared. -/
theorem declared_of_find {root : Value} {a b : List Segment} {found : Place × Value}
    (h : root.find mode 0 (a ++ s :: b) = .ok found) :
    ∃ access, root.declaredAt? a s = some access ∧ (mode.before b).allows access = true := by
  obtain ⟨front, u, later, hfront, hlater, -⟩ := find_append_eq_ok (List.cons_ne_nil s b) h
  obtain ⟨slot, x, rest, hs, -, -⟩ := find_cons_eq_ok hlater
  obtain ⟨w, hw, hslot, -⟩ := step_eq_ok hs
  rw [declaredAt?, behind?_of_find hfront, hw]
  exact declared?_of_slot? hslot

/-- Roots of one type declare the same of a segment. -/
theorem declaredAt?_eq {root root' : Value} {segments : List Segment} {access access' : Access} (hroot : root.TypedIn U)
    (hroot' : root'.TypedIn U) (ht : root.type = root'.type) (h : root.declaredAt? segments s = some access)
    (h' : root'.declaredAt? segments s = some access') : access = access' := by
  obtain ⟨w, hw, hs⟩ := Option.bind_eq_some_iff.1 h
  obtain ⟨w', hw', hs'⟩ := Option.bind_eq_some_iff.1 h'
  obtain ⟨place, v, hv, hend⟩ := find_of_behind? hw
  obtain ⟨place', v', hv', hend'⟩ := find_of_behind? hw'
  have htype : v.type = v'.type := type_of_find hroot hroot' ht hv hv'
  have hinfo : w.info = w'.info := by
    rw [← Option.some.injEq, ← behind?_chainEnd? (typedIn_at? hroot (at?_find hv)) hend,
      ← behind?_chainEnd? (typedIn_at? hroot' (at?_find hv')) hend', htype]
  rw [declared?_eq hinfo, hs'] at hs
  exact Option.some.inj hs.symm

theorem child?_of_atom (h : v.kind = .atom) (slot : Slot) : v.child? slot = none := by
  cases hc : v.child? slot with
  | none => rfl
  | some c => cases holds_of_child? hc <;> cases h

/-- No path goes on from an atom. -/
theorem find_of_atom {position : Nat} {path : List Segment} {found : Place × Value} (hv : v.kind = .atom)
    (h : v.find mode position path = .ok found) : path = [] := by
  cases path with
  | nil => rfl
  | cons s rest =>
    obtain ⟨slot, x, later, hs, -, -⟩ := find_cons_eq_ok h
    obtain ⟨w, hw, -, hc⟩ := step_eq_ok hs
    rw [(chainEnd?_of_kind (by rw [hv]; nofun)).1] at hw
    cases hw
    rw [child?_of_atom hv] at hc
    cases hc

end Value

/-! ## One write -/

section Write
variable {U : Universe} {root : Value} {m : Path} {s : Session} (hroot : root.TypedIn U)
  (hm : lastAccess? root m = some .readOnly) (hs : s.TypedIn U) (ht : s.root.type = root.type)
include hroot hm hs ht

/-- What is read-only in some root of the session's type cannot be written. -/
theorem write_readOnly {w : Write} (hp : w.route.segments = .ok m.segments) : (s.write w).result ≠ .ok () := by
  intro hok
  obtain ⟨hresult, -, -⟩ := Session.write_direct hs.declaredIn w
  rw [hok] at hresult
  rcases assign_cases s.root w.value w.route with ⟨e, he, -⟩ | ⟨p, place, old, hp', hne, hfind, -, -, -⟩
  · rw [he] at hresult
    cases hresult
  · obtain rfl : m.segments = p := Except.ok.inj (hp.symm.trans hp')
    rw [← List.dropLast_concat_getLast m.segments_ne_nil] at hfind
    obtain ⟨access, haccess, hallows⟩ := Value.declared_of_find hfind
    obtain rfl : access = .readOnly := Value.declaredAt?_eq hs.root hroot ht haccess hm
    cases hallows

/-- The value at a read-only member differs after a write only if the write succeeded above or below it. -/
theorem write_differs {w : Write}
    (hne : (get .direct (s.write w).session.root (.path m) ()).result ≠ (get .direct s.root (.path m) ()).result) :
    (s.write w).result = .ok () ∧ ∃ p found, w.route.segments = .ok p ∧ p ≠ [] ∧ s.root.find .write 0 p = .ok found ∧
      p ≠ m.segments ∧ (p <+: m.segments ∨ m.segments <+: p) := by
  obtain ⟨hresult, hdirect, -⟩ := Session.write_direct hs.declaredIn w
  rcases assign_cases s.root w.value w.route with ⟨e, -, hsame⟩ | ⟨p, place, old, hp, hnil, hfind, -, hok, hset⟩
  · rw [hdirect, hsame] at hne
    exact absurd rfl hne
  · have hdone : (s.write w).result = .ok () := hresult.trans hok
    have hpm : p ≠ m.segments := fun h => write_readOnly hroot hm hs ht (h ▸ hp) hdone
    refine ⟨hdone, p, (place, old), hp, hnil, hfind, hpm, ?_⟩
    by_cases hpq : p <+: m.segments
    · exact .inl hpq
    · by_cases hqp : m.segments <+: p
      · exact .inr hqp
      · rw [hdirect, hset, get_find, get_find, Value.find_setAt_fork hfind hpq hqp] at hne
        exact absurd rfl hne

/-- An atom in a read-only member of the root stays as it is. -/
theorem write_keeps_atom {t : Segment} {v : Value} (hsingle : m.segments = [t])
    (hget : (get .direct s.root (.path m) ()).result = .ok v) (hv : v.kind = .atom) (w : Write) :
    (get .direct (s.write w).session.root (.path m) ()).result = .ok v := by
  refine Classical.byContradiction fun hne => ?_
  rw [← hget] at hne
  obtain ⟨-, p, found, -, hnil, hfind, hpm, hnested⟩ := write_differs hroot hm hs ht hne
  rcases hnested with hp | ⟨rest, rfl⟩
  · -- The path would be all of the single segment.
    rw [hsingle] at hp hpm
    exact hpm (hp.eq_of_length (Nat.le_antisymm hp.length_le (List.length_pos_iff.2 hnil)))
  · -- The path would go on from the atom.
    have hrest : rest ≠ [] := fun h => hpm (by rw [h, List.append_nil])
    obtain ⟨place, hread⟩ := get_eq_ok hget
    obtain ⟨front, u, later, hfront, hlater, -⟩ := Value.find_append_eq_ok hrest hfind
    rw [hread] at hfront
    cases hfront
    exact hrest (Value.find_of_atom hv hlater)

theorem writeAll_keeps_atom {t : Segment} {v : Value} {writes : List Write} (hsingle : m.segments = [t])
    (hget : (get .direct s.root (.path m) ()).result = .ok v) (hv : v.kind = .atom)
    (hw : ∀ w ∈ writes, w.value.TypedIn U) : (get .direct (s.writeAll writes).root (.path m) ()).result = .ok v := by
  induction writes generalizing s with
  | nil => exact hget
  | cons w writes ih =>
    obtain ⟨htyped, ht'⟩ := Session.typedIn_write hs (hw w List.mem_cons_self)
    exact ih htyped (ht'.trans ht) (write_keeps_atom hroot hm hs ht hsingle hget hv w)
      fun w' hw' => hw w' (List.mem_cons_of_mem _ hw')

end Write

/-! ## Reaching through members -/

/-- A segment that follows others is declared, and not as write-only. -/
def Value.Readable (root : Value) (segments : List Segment) (s : Segment) : Prop :=
  ∃ access, root.declaredAt? segments s = some access ∧ access ≠ .writeOnly

theorem Value.readable_of_find {mode : Mode} {root : Value} {a b : List Segment} {s : Segment} {found : Place × Value}
    (h : root.find mode 0 (a ++ s :: b) = .ok found) (hread : mode.before b = .read) : root.Readable a s := by
  obtain ⟨access, haccess, hallows⟩ := declared_of_find h
  refine ⟨access, haccess, ?_⟩
  rintro rfl
  rw [hread] at hallows
  cases hallows

section Reach
variable {U : Universe} {s : Session} {route : Route} {a b : List Segment} {t : Segment} (hs : s.TypedIn U)
  (hroute : route.segments = .ok (a ++ t :: b))
include hs hroute

theorem readable_of_get {via : Via} {v : Value} (h : (s.get via route).result = .ok v) : s.root.Readable a t := by
  rw [Session.get_direct hs.declaredIn, get_route hroute] at h
  obtain ⟨found, hfind, -⟩ := map_eq_ok h
  exact Value.readable_of_find hfind (Mode.read_before b)

theorem readable_of_edit {α : Type} {via : Via} {f : Value → Value × α} {x : α} (h : (s.edit via route f).result = .ok x) :
    s.root.Readable a t := by
  rw [Session.edit_direct hs.declaredIn] at h
  have hdone := congrArg Prod.fst (edit_route hroute s.root f)
  rw [Edit.outcome, h] at hdone
  cases hfind : s.root.find .read 0 (a ++ t :: b) with
  | error e => rw [hfind] at hdone; cases hdone
  | ok found => exact Value.readable_of_find hfind (Mode.read_before b)

/-- The last segment of a write is not read. -/
theorem readable_of_assign {via : Via} {x : Value} (h : (s.assign via route x).result = .ok ()) (hb : b ≠ []) :
    s.root.Readable a t := by
  obtain ⟨hresult, -, -⟩ := Session.write_direct hs.declaredIn ⟨via, route, x⟩
  rw [Session.write, h] at hresult
  rcases assign_cases s.root x route with ⟨e, he, -⟩ | ⟨p, place, old, hp, -, hfind, -, -, -⟩
  · rw [he] at hresult
    cases hresult
  · obtain rfl : a ++ t :: b = p := Except.ok.inj (hroute.symm.trans hp)
    obtain ⟨u, rest, rfl⟩ := List.exists_cons_of_ne_nil hb
    exact Value.readable_of_find hfind (Mode.before_cons .write u rest)

end Reach

/-! ## Runs -/

/-- Over a run of writes, where `m` is a path whose last segment is read-only in some root of the run: no write
to `m` succeeds, and what is read there differs after a write only if that succeeded above or below `m`. An atom
in a read-only member of the root stays. And at each time nothing is reached through a write-only member. -/
theorem access_control {U : Universe} {s : Session} {writes : List Write} (hs : s.TypedIn U)
    (hw : ∀ w ∈ writes, w.value.TypedIn U) :
    (∀ (m : Path) (seen : List Write), seen <+: writes → lastAccess? (s.writeAll seen).root m = some .readOnly →
      ∀ earlier w later, writes = earlier ++ w :: later →
        let before := s.writeAll earlier
        let answer := before.write w
        (w.route.segments = .ok m.segments → answer.result ≠ .ok ()) ∧
        ((get .direct answer.session.root (.path m) ()).result ≠ (get .direct before.root (.path m) ()).result →
          answer.result = .ok () ∧ ∃ p, w.route.segments = .ok p ∧ p ≠ m.segments ∧
            (p <+: m.segments ∨ m.segments <+: p))) ∧
    (∀ (m : Path) (t : Segment) (v : Value), m.segments = [t] → lastAccess? s.root m = some .readOnly →
      (get .direct s.root (.path m) ()).result = .ok v → v.kind = .atom →
        (get .direct (s.writeAll writes).root (.path m) ()).result = .ok v) ∧
    ∀ earlier, earlier <+: writes →
      let now := s.writeAll earlier
      ∀ (via : Via) (route : Route) (a b : List Segment) (t : Segment), route.segments = .ok (a ++ t :: b) →
        (∀ v, (now.get via route).result = .ok v → now.root.Readable a t) ∧
        (∀ (α : Type) (f : Value → Value × α) (x : α), (now.edit via route f).result = .ok x → now.root.Readable a t) ∧
        ∀ x, (now.assign via route x).result = .ok () → b ≠ [] → now.root.Readable a t := by
  -- The sessions of the run are typed, and their roots have one type.
  have hrun : ∀ {earlier}, earlier <+: writes → (s.writeAll earlier).TypedIn U ∧ (s.writeAll earlier).root.type = s.root.type :=
    fun hearlier => Session.typedIn_writeAll hs fun w hmem => hw w (hearlier.subset hmem)
  refine ⟨?_, ?_, ?_⟩
  · intro m seen hseen hm earlier w later hsplit before answer
    obtain ⟨hroot, hrootType⟩ := hrun hseen
    obtain ⟨hbefore, hbeforeType⟩ := hrun ⟨w :: later, hsplit.symm⟩
    have ht : before.root.type = (s.writeAll seen).root.type := hbeforeType.trans hrootType.symm
    refine ⟨write_readOnly hroot.root hm hbefore ht, fun hne => ?_⟩
    obtain ⟨hok, p, -, hp, -, -, hpm, hnested⟩ := write_differs hroot.root hm hbefore ht hne
    exact ⟨hok, p, hp, hpm, hnested⟩
  · intro m t v hsingle hm hget hv
    exact writeAll_keeps_atom hs.root hm hs rfl hsingle hget hv hw
  · intro earlier hearlier now via route a b t hroute
    obtain ⟨hnow, -⟩ := hrun hearlier
    exact ⟨fun v h => readable_of_get hnow hroute h, fun α f x h => readable_of_edit hnow hroute h,
      fun x h hb => readable_of_assign hnow hroute h hb⟩

/-- A run that tries to write the read-only `id`, and writes a text next to it. -/
theorem access_control_id :
    let s := Session.start Sample.valueA
    let m : Path := ⟨[.member "id"], List.cons_ne_nil _ _⟩
    let seven := Value.scalar (.int .u32 7)
    let w : Write := ⟨.cache, .path m, seven⟩
    let w' : Write := ⟨.direct, .path Sample.textOfB, .scalar (.string "one")⟩
    lastAccess? s.root m = some .readOnly ∧
    ((s.write w').session.write w).result ≠ .ok () ∧
    (get .direct (s.writeAll [w', w]).root (.path m) ()).result = .ok (.scalar (.int .u32 0)) ∧
    (s.write w').session.root.Readable [] (.member "b") := by
  intro s m seven w w'
  have hroot : Sample.valueA.TypedIn Sample.types :=
    Value.typedIn_of_hasType (Universe.declaredIn_default Sample.types_named 2 Sample.tyA) Sample.valueA_hasType
  have hs : s.TypedIn Sample.types := ⟨hroot, MemberCache.faithful_empty Sample.types⟩
  have hscalar : ∀ x, (Value.scalar x).TypedIn Sample.types :=
    fun x => Value.typedIn_of_hasType trivial (.scalar x)
  have hw : ∀ u ∈ [w', w], u.value.TypedIn Sample.types := by
    intro u hu
    simp only [List.mem_cons, List.not_mem_nil, or_false] at hu
    rcases hu with rfl | rfl
    · exact hscalar _
    · exact hscalar _
  obtain ⟨hreadOnly, hatom, hreach⟩ := access_control hs hw
  refine ⟨rfl, ?_, ?_, ?_⟩
  · exact (hreadOnly m [] List.nil_prefix rfl [w'] w [] rfl).1 rfl
  · exact hatom m _ _ rfl rfl rfl rfl
  · exact (hreach [w'] (List.prefix_append _ _) .direct (.path Sample.textOfB) [] [.member "text"] (.member "b") rfl).1 _ rfl

end Reflection
