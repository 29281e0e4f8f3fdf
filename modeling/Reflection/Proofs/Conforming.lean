import Reflection.Proofs.Lens
import Reflection.Proofs.Run
import Reflection.Proofs.Typing
/-!
# Types that stay

A value conforms to a universe if it has the info that the universe has for its type, and what is in its slots has
the types that the info says. Unlike `HasType` this asks nothing of slots that are empty, so the facades conform.

Writes keep it so (`typedIn_assign`), and the type of the root stays. Hence a path that leads anywhere in two
roots of a session leads to values of one type (`type_of_find`), and what is declared of its last segment is
declared for good (`lastAccess?_eq`).
-/

namespace Reflection

/-- The type that an info has for a slot. -/
def TypeInfo.slotType? : TypeInfo → Slot → Option Ty
  | .list _ item, .item _ | .array _ item _, .item _ => some item
  | .pointer _ target _, .target => some target
  | .struct info, .member i => (info.memberAt? i).map MemberInfo.type
  | _, _ => none

namespace Value

structure Conforms (U : Universe) (v : Value) : Prop where
  info : U.info? v.type = some v.info
  slots : ∀ slot c, v.child? slot = some c → v.info.slotType? slot = some c.type

/-- All that can be looked into conforms, and the structs carry their declarations. -/
structure TypedIn (U : Universe) (v : Value) : Prop where
  declared : v.DeclaredIn U
  conforms : ∀ place w, v.at? place = some w → w.Conforms U

variable {U : Universe} {v w c x : Value} {slot : Slot} {place : Place}

theorem typedIn_child? (h : v.TypedIn U) (hc : v.child? slot = some c) : c.TypedIn U :=
  ⟨declaredIn_child? h.declared hc, fun place w hw => h.conforms (slot :: place) w ((at?_cons hc place).trans hw)⟩

theorem typedIn_at? (h : v.TypedIn U) (hw : v.at? place = some w) : w.TypedIn U := by
  induction place generalizing v with
  | nil => cases hw; exact h
  | cons slot place ih =>
    obtain ⟨c, hc, hw⟩ := at?_cons_eq_some hw
    exact ih (typedIn_child? h hc) hw

theorem conforms_setChild (h : v.Conforms U) (hc : v.child? slot = some c) (ht : x.type = c.type) :
    (v.setChild slot x).Conforms U := by
  refine ⟨by rw [type_setChild, info_setChild, h.info], fun slot' d hd => ?_⟩
  rw [info_setChild]
  by_cases hslot : slot = slot'
  · subst hslot
    obtain rfl : x = d := Option.some.inj ((child?_setChild_self hc x).symm.trans hd)
    rw [ht]
    exact h.slots slot c hc
  · rw [child?_setChild_ne hslot] at hd
    exact h.slots slot' d hd

theorem typedIn_setChild (h : v.TypedIn U) (hc : v.child? slot = some c) (hx : x.TypedIn U) (ht : x.type = c.type) :
    (v.setChild slot x).TypedIn U := by
  refine ⟨declaredIn_setChild h.declared hc hx.declared, fun place w hw => ?_⟩
  cases place with
  | nil =>
    cases hw
    exact conforms_setChild (h.conforms [] v rfl) hc ht
  | cons slot' place =>
    obtain ⟨d, hd, hw⟩ := at?_cons_eq_some hw
    by_cases hslot : slot = slot'
    · subst hslot
      obtain rfl : x = d := Option.some.inj ((child?_setChild_self hc x).symm.trans hd)
      exact hx.conforms place w hw
    · rw [child?_setChild_ne hslot] at hd
      exact h.conforms (slot' :: place) w ((at?_cons hd place).trans hw)

theorem type_setAt (hc : v.at? place = some c) (ht : x.type = c.type) : (v.setAt place x).type = v.type := by
  cases place with
  | nil => cases hc; exact ht
  | cons slot place =>
    obtain ⟨d, hd, -⟩ := at?_cons_eq_some hc
    rw [setAt_cons hd, type_setChild]

theorem typedIn_setAt (h : v.TypedIn U) (hc : v.at? place = some c) (hx : x.TypedIn U) (ht : x.type = c.type) :
    (v.setAt place x).TypedIn U := by
  induction place generalizing v with
  | nil => exact hx
  | cons slot place ih =>
    obtain ⟨d, hd, hc⟩ := at?_cons_eq_some hc
    rw [setAt_cons hd]
    exact typedIn_setChild h hd (ih (typedIn_child? h hd) hc) (type_setAt hc ht)

theorem typedIn_chainEnd? (h : v.TypedIn U) (hw : v.chainEnd? = some w) : w.TypedIn U :=
  typedIn_at? h (at?_chain hw)

/-! ## Typed values conform -/

theorem hasType_child? {t : Ty} (h : v.HasType U t) (hc : v.child? slot = some c) :
    ∃ u, v.info.slotType? slot = some u ∧ c.HasType U u := by
  cases holds_of_child? hc with
  | listItem hc =>
    cases h with
    | list hitems => exact ⟨_, rfl, hitems c (List.mem_of_getElem? hc)⟩
  | arrayItem hc =>
    cases h with
    | array hlen hitems => exact ⟨_, rfl, hitems c (List.mem_of_getElem? hc)⟩
  | target p c =>
    cases h with
    | pointer hinfo htarget => exact ⟨_, rfl, htarget⟩
  | member hc =>
    rename_i decl members hidden i _
    cases h with
    | struct hinfo hlen hmembers =>
      obtain ⟨hi, -⟩ := List.getElem?_eq_some_iff.1 hc
      have hm : decl.info.memberAt? i = some decl.info.members[i] := List.getElem?_eq_getElem (hlen ▸ hi)
      exact ⟨_, congrArg (Option.map MemberInfo.type) hm, hmembers i c _ hc hm⟩
  | ghost c => cases h

theorem typedIn_of_hasType {t : Ty} (hdeclared : v.DeclaredIn U) (h : v.HasType U t) : v.TypedIn U := by
  refine ⟨hdeclared, fun place w hw => ?_⟩
  clear hdeclared
  induction place generalizing v t with
  | nil =>
    cases hw
    refine ⟨by rw [type_of_hasType h, info?_of_hasType h], fun slot c hc => ?_⟩
    obtain ⟨u, hu, hcu⟩ := hasType_child? h hc
    rw [hu, type_of_hasType hcu]
  | cons slot place ih =>
    obtain ⟨c, hc, hw⟩ := at?_cons_eq_some hw
    obtain ⟨u, -, hcu⟩ := hasType_child? h hc
    exact ih hcu hw

/-! ## Two values of one type -/

theorem info_kind_ne_pointer (h : v.kind ≠ .pointer) : v.info.kind ≠ .pointer := by
  cases v with
  | pointer => exact absurd rfl h
  | _ => nofun

theorem behind?_chainEnd? (h : v.TypedIn U) (hend : v.chainEnd? = some w) : U.behind? v.type = some w.info := by
  fun_induction chainEnd? v with
  | case1 p v ih =>
    have hc : (pointer p (some v)).child? .target = some v := rfl
    have hself := h.conforms [] _ rfl
    have htarget : p.target = v.type := Option.some.inj (hself.slots .target v hc)
    rw [Universe.behind?_pointer hself.info, htarget]
    exact ih (typedIn_child? h hc) hend
  | case2 p => cases hend
  | case3 v hsome hnone =>
    cases hend
    have hself : w.chainEnd? = some w := by
      rw [chainEnd?]
      · exact hsome
      · exact hnone
    exact Universe.behind?_of_kind (h.conforms [] w rfl).info (info_kind_ne_pointer (kind_ne_of_chainEnd? hself))

/-- A segment stands for the same slot of values that have one info. -/
theorem slot?_unique {mode mode' : Mode} {s : Segment} {slot' : Slot} (hinfo : v.info = w.info)
    (h : v.slot? mode s = some slot) (h' : w.slot? mode' s = some slot') : slot = slot' := by
  cases s with
  | index i => rw [slot?_index h, slot?_index h']
  | member name =>
    obtain ⟨info, m, hv, hm, -, rfl⟩ := slot?_member h
    obtain ⟨info', m', hw, hm', -, rfl⟩ := slot?_member h'
    obtain rfl : info = info' := TypeInfo.struct.inj (hv.symm.trans (hinfo.trans hw))
    rw [Option.some.inj (hm.symm.trans hm')]

section Agree
variable {mode mode' : Mode} {position position' : Nat} {place' : Place} {d : Value}

theorem type_of_step {s : Segment} {slot' : Slot} (hv : v.TypedIn U) (hw : w.TypedIn U) (ht : v.type = w.type)
    (h : v.step mode s = .ok (slot, c)) (h' : w.step mode' s = .ok (slot', d)) : c.type = d.type := by
  obtain ⟨a, ha, hslot, hc⟩ := step_eq_ok h
  obtain ⟨b, hb, hslot', hd⟩ := step_eq_ok h'
  have hinfo : a.info = b.info := by
    rw [← Option.some.injEq, ← behind?_chainEnd? hv ha, ← behind?_chainEnd? hw hb, ht]
  obtain rfl : slot = slot' := slot?_unique hinfo hslot hslot'
  have hcslot := ((typedIn_chainEnd? hv ha).conforms [] a rfl).slots slot c hc
  have hdslot := ((typedIn_chainEnd? hw hb).conforms [] b rfl).slots slot d hd
  rw [← hinfo, hcslot] at hdslot
  exact Option.some.inj hdslot

/-- A path that leads anywhere in two values of one type leads to values of one type. -/
theorem type_of_find {path : List Segment} (hv : v.TypedIn U) (hw : w.TypedIn U) (ht : v.type = w.type)
    (h : v.find mode position path = .ok (place, c)) (h' : w.find mode' position' path = .ok (place', d)) :
    c.type = d.type := by
  induction path generalizing v w position position' place place' with
  | nil => cases h; cases h'; exact ht
  | cons s rest ih =>
    obtain ⟨slot, x, later, hs, hx, rfl⟩ := find_cons_eq_ok h
    obtain ⟨slot', y, later', hs', hy, rfl⟩ := find_cons_eq_ok h'
    obtain ⟨a, ha, -, hxa⟩ := step_eq_ok hs
    obtain ⟨b, hb, -, hyb⟩ := step_eq_ok hs'
    have htx : x.type = y.type := type_of_step hv hw ht hs hs'
    exact ih (typedIn_child? (typedIn_chainEnd? hv ha) hxa) (typedIn_child? (typedIn_chainEnd? hw hb) hyb) htx hx hy

end Agree

end Value

/-! ## Writes -/

theorem typedIn_assign {U : Universe} {root x : Value} (h : root.TypedIn U) (hx : x.TypedIn U) (route : Route) :
    (assign .direct root route x ()).root.TypedIn U ∧ (assign .direct root route x ()).root.type = root.type := by
  rcases assign_cases root x route with ⟨e, -, hroot⟩ | ⟨p, place, old, -, -, hfind, ht, -, hroot⟩
  · rw [hroot]
    exact ⟨h, rfl⟩
  · have hold := Value.at?_find hfind
    rw [hroot]
    exact ⟨Value.typedIn_setAt h hold hx ht, Value.type_setAt hold ht⟩

namespace Session

/-- The root of a session is typed, and its cache knows no declarations but those of the universe. -/
structure TypedIn (U : Universe) (s : Session) : Prop where
  root : s.root.TypedIn U
  cache : s.cache.Faithful U

variable {U : Universe} {s : Session} {w : Write}

theorem TypedIn.declaredIn (h : s.TypedIn U) : s.DeclaredIn U := ⟨h.root.declared, h.cache⟩

theorem typedIn_write (h : s.TypedIn U) (hw : w.value.TypedIn U) :
    (s.write w).session.TypedIn U ∧ (s.write w).session.root.type = s.root.type := by
  obtain ⟨-, hroot, hcache⟩ := write_direct h.declaredIn w
  obtain ⟨htyped, ht⟩ := typedIn_assign h.root hw w.route
  rw [← hroot] at htyped ht
  exact ⟨⟨htyped, hcache⟩, ht⟩

theorem typedIn_writeAll {writes : List Write} (h : s.TypedIn U) (hw : ∀ w ∈ writes, w.value.TypedIn U) :
    (s.writeAll writes).TypedIn U ∧ (s.writeAll writes).root.type = s.root.type := by
  induction writes generalizing s with
  | nil => exact ⟨h, rfl⟩
  | cons w writes ih =>
    obtain ⟨hfirst, ht⟩ := typedIn_write h (hw w List.mem_cons_self)
    obtain ⟨hall, ht'⟩ := ih hfirst fun w' hw' => hw w' (List.mem_cons_of_mem _ hw')
    exact ⟨hall, ht'.trans ht⟩

end Session

/-! ## The sample -/

theorem Sample.valueA_typedIn : Sample.valueA.TypedIn Sample.types :=
  Value.typedIn_of_hasType (Universe.declaredIn_default Sample.types_named 2 Sample.tyA) Sample.valueA_hasType

end Reflection
