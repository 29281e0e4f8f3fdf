import Reflection.Proofs.Composition
import Reflection.Proofs.Universe
/-!
# What a write leaves alone

A write changes one place. A path that forks off from the written one gives what it gave before
(`Value.find_setAt_fork`), a part of the written path gives the old value with the rest written into
it (`assign_concat`), and of the structs on the way one member changes, while their hidden fields
stay (`frame_laws`).
-/

namespace Reflection

namespace Value

/-- In a struct only the member of a slot is replaced. -/
theorem setChild_struct {decl : StructDecl} {members hidden : List Value} {slot : Slot} {c : Value}
    (h : (struct decl members hidden).child? slot = some c) (y : Value) :
    ∃ i, (struct decl members hidden).setChild slot y = struct decl (members.set i y) hidden := by
  cases holds_of_child? h with
  | member _ => exact ⟨_, rfl⟩

/-- A write along a path replaces what is in one slot of a value that the path goes through. -/
theorem behind?_setAt_setChild {mode : Mode} {root w x v : Value} {a b : List Segment} {place : Place}
    (h : root.find mode 0 (a ++ b) = .ok (place, w)) (hb : b ≠ []) (ha : root.behind? a = some v) :
    ∃ slot c y, v.child? slot = some c ∧ (root.setAt place x).behind? a = some (v.setChild slot y) := by
  obtain ⟨front, u, later, hfront, hlater, rfl⟩ := find_append_eq_ok hb h
  rw [behind?_of_find hfront] at ha
  obtain ⟨s, rest, rfl⟩ := List.exists_cons_of_ne_nil hb
  obtain ⟨slot, c, last, hs, -, rfl⟩ := find_cons_eq_ok hlater
  -- The first segment of the rest is used on the value behind the pointers, and finds the slot there.
  obtain ⟨parent, hparent, -, hc, hend, -⟩ := chain_mapChainEnd hs (c.setAt last x)
  rw [ha, Option.some.injEq] at hparent
  subst hparent
  refine ⟨slot, c, c.setAt last x, hc, ?_⟩
  rw [setAt_append (at?_find hfront), behind?_of_find (find_setAt_self hfront _), setAt_enter hs, hend]

/-- A write along a path replaces one member of a struct that the path goes through. -/
theorem behind?_setAt {mode : Mode} {root w x : Value} {a b : List Segment} {place : Place} {decl : StructDecl}
    {members hidden : List Value} (h : root.find mode 0 (a ++ b) = .ok (place, w)) (hb : b ≠ [])
    (ha : root.behind? a = some (.struct decl members hidden)) :
    ∃ i y, (root.setAt place x).behind? a = some (.struct decl (members.set i y) hidden) := by
  obtain ⟨slot, c, y, hc, hbehind⟩ := behind?_setAt_setChild (x := x) h hb ha
  obtain ⟨i, hset⟩ := setChild_struct hc y
  exact ⟨i, y, by rw [hbehind, hset]⟩

end Value

/-- What a write that succeeds leaves as it was. -/
theorem frame_laws (root x : Value) (p : Path) (h : (assign .direct root (.path p) x ()).result = .ok ()) :
    let root' := (assign .direct root (.path p) x ()).root
    (∀ q : Path, ¬ p.segments <+: q.segments → ¬ q.segments <+: p.segments →
      (get .direct root' (.path q) ()).result = (get .direct root (.path q) ()).result) ∧
    (∀ (q b : Path) (v : Value), p = q.concat b → (get .direct root (.path q) ()).result = .ok v →
      (assign .direct v (.path b) x ()).result = .ok () ∧
      (get .direct root' (.path q) ()).result = .ok (assign .direct v (.path b) x ()).root) ∧
    (∀ (a b : List Segment) (decl : StructDecl) (members hidden : List Value), p.segments = a ++ b → b ≠ [] →
      root.behind? a = some (.struct decl members hidden) →
      ∃ i y, root'.behind? a = some (.struct decl (members.set i y) hidden)) := by
  intro root'
  obtain ⟨place, old, hfind, -, hroot⟩ := assign_eq_ok h
  have hroot' : root' = root.setAt place x := hroot
  refine ⟨?_, ?_, ?_⟩
  · intro q hpq hqp
    rw [get_find, get_find, hroot', Value.find_setAt_fork hfind hpq hqp]
  · intro q b v hp hv
    subst hp
    obtain ⟨front, hfront⟩ := get_eq_ok hv
    obtain ⟨hresult, hwhole⟩ := assign_concat hfront b x
    have hdone : (assign .direct v (.path b) x ()).result = .ok () := by
      rw [h] at hresult
      cases hd : (assign .direct v (.path b) x ()).result with
      | error e => rw [hd] at hresult; cases hresult
      | ok u => rfl
    refine ⟨hdone, ?_⟩
    have hfound := Value.find_setAt_self hfront (assign .direct v (.path b) x ()).root
    rw [get_find, show root' = _ from hwhole, hfound]
    rfl
  · intro a b decl members hidden hp hb ha
    rw [hp] at hfind
    rw [hroot']
    exact Value.behind?_setAt hfind hb ha

/-- What stays when a text in a struct in a struct is written. -/
theorem frame_laws_text :
    let root := Sample.valueA
    let one := Value.scalar (.string "one")
    let root' := (assign .direct root (.path Sample.textOfB) one ()).root
    let number : Path := ⟨[.member "number"], List.cons_ne_nil _ _⟩
    (assign .direct root (.path Sample.textOfB) one ()).result = .ok () ∧
    (get .direct root' (.path number) ()).result = (get .direct root (.path number) ()).result ∧
    ∀ decl members hidden, root = .struct decl members hidden →
      ∃ i y, root'.behind? [] = some (.struct decl (members.set i y) hidden) := by
  intro root one root' number
  obtain ⟨hfork, -, hstructs⟩ := frame_laws root one Sample.textOfB rfl
  refine ⟨rfl, hfork number (by decide) (by decide), ?_⟩
  intro decl members hidden hroot
  refine hstructs [] Sample.textOfB.segments decl members hidden rfl Sample.textOfB.segments_ne_nil ?_
  rw [hroot]
  rfl

end Reflection
