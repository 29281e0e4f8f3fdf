import Reflection.Access.Walk
import Reflection.Proofs.Place
import Reflection.Proofs.Declaration
/-!
# One segment

`Value.step` is one segment of a walk that asks the declarations every time. It goes behind the
pointers of a value, to the slot that the segment stands for there (`Value.slot?`), which depends on
what the value shows besides its slots. Different segments stand for different slots
(`slot?_ne`), so a new value in the slot of one segment is found by that segment
(`step_mapChainEnd_self`) and by no other (`step_mapChainEnd_ne`).
-/

namespace Reflection

/-! ## Slots of segments -/

namespace Value

/-- The slot that a segment stands for, whether the value has it or not. Members are found by `find`. -/
def slotBy (find : StructInfo → String → Option MemberInfo) (mode : Mode) (v : Value) : Segment → Option Slot
  | .index i => if v.kind.isIndexable then some (.item i.toNat) else none
  | .member name =>
    match v.info with
    | .struct info => (find info name).bind fun m => if mode.allows m.access then some (.member m.index) else none
    | _ => none

/-- The slot that a segment stands for by the declarations. -/
def slot? (mode : Mode) (v : Value) (s : Segment) : Option Slot := v.slotBy StructInfo.member? mode s

/-- A slot with the value in it. -/
def filled? (v : Value) (slot : Slot) : Option (Slot × Value) := (v.child? slot).map (slot, ·)

/-- A slot that is found has a value in it. -/
theorem slot_of_filled {v x : Value} {found : Option Slot} {cause : Cause} {slot : Slot}
    (h : (found.bind v.filled?).elim (.error cause) Except.ok = .ok (slot, x)) :
    found = some slot ∧ v.child? slot = some x := by
  cases found with
  | none => cases h
  | some slot' =>
    rw [Option.bind_some, filled?] at h
    cases hc : v.child? slot' with
    | none => rw [hc] at h; cases h
    | some c => rw [hc] at h; cases h; exact ⟨rfl, hc⟩

/-- Why a segment finds nothing. -/
def absent (mode : Mode) (v : Value) : Segment → Cause
  | .index i => if v.kind.isIndexable then .indexOutOfRange i v.shownLen v.typePath else .notIndexable v.kind v.typePath
  | .member name => v.memberNotFound name mode

theorem absent_ne_null (mode : Mode) (v : Value) (s : Segment) : v.absent mode s ≠ .nullIntermediate := by
  cases s with
  | member name => intro h; cases h
  | index i =>
    rw [absent]
    split
    · nofun
    · nofun

@[simp] theorem slot?_setChild (mode : Mode) (v : Value) (slot : Slot) (x : Value) (s : Segment) :
    (v.setChild slot x).slot? mode s = v.slot? mode s := by
  cases s <;> simp [slot?, slotBy]

@[simp] theorem absent_setChild (mode : Mode) (v : Value) (slot : Slot) (x : Value) (s : Segment) :
    (v.setChild slot x).absent mode s = v.absent mode s := by
  cases s <;> simp [absent, memberNotFound]

theorem slot?_index {mode : Mode} {v : Value} {i : UInt64} {slot : Slot}
    (h : v.slot? mode (.index i) = some slot) : slot = .item i.toNat := by
  rw [slot?, slotBy] at h
  split at h
  · exact (Option.some.inj h).symm
  · cases h

theorem slot?_member {mode : Mode} {v : Value} {name : String} {slot : Slot}
    (h : v.slot? mode (.member name) = some slot) :
    ∃ info m, v.info = .struct info ∧ info.member? name = some m ∧ mode.allows m.access = true ∧
      slot = .member m.index := by
  rw [slot?, slotBy] at h
  split at h
  · rename_i info hinfo
    obtain ⟨m, hm, hslot⟩ := Option.bind_eq_some_iff.1 h
    split at hslot
    · rename_i hallows
      exact ⟨info, m, hinfo, hm, hallows, (Option.some.inj hslot).symm⟩
    · cases hslot
  · cases h

/-- Different segments stand for different slots of a value. -/
theorem slot?_ne {mode mode' : Mode} {v : Value} {s t : Segment} {slot slot' : Slot} (hne : s ≠ t)
    (h : v.slot? mode s = some slot) (h' : v.slot? mode' t = some slot') : slot ≠ slot' := by
  cases s with
  | index i =>
    rw [slot?_index h]
    cases t with
    | index j =>
      rw [slot?_index h']
      intro he
      exact hne (congrArg Segment.index (UInt64.toNat_inj.1 (Slot.item.inj he)))
    | member name =>
      obtain ⟨_, _, -, -, -, rfl⟩ := slot?_member h'
      nofun
  | member name =>
    obtain ⟨info, m, hinfo, hm, -, rfl⟩ := slot?_member h
    cases t with
    | index j =>
      rw [slot?_index h']
      nofun
    | member name' =>
      obtain ⟨info', m', hinfo', hm', -, rfl⟩ := slot?_member h'
      obtain rfl : info = info' := TypeInfo.struct.inj (hinfo.symm.trans hinfo')
      have hn : name ≠ name' := fun e => hne (congrArg Segment.member e)
      intro he
      exact StructInfo.member_index_ne hm hm' hn (Slot.member.inj he)

section Locate
variable {σ : Type} {lookup : Lookup σ} {mode : Mode} {v x : Value} {s : Segment} {memory : σ} {slot : Slot}

/-- A name stands for no slot, or its declaration gives the index of the slot. -/
theorem findMember_cases (lookup : Lookup σ) (mode : Mode) (v : Value) (name : String) (memory : σ) :
    let result := (findMember lookup mode v name memory).result
    let slot := v.slotBy (fun info name => (lookup.find info name memory).1) mode (.member name)
    (result = .error (v.memberNotFound name mode) ∧ slot = none) ∨ ∃ i, result = .ok i ∧ slot = some (.member i) := by
  unfold findMember slotBy
  cases v.info with
  | struct info =>
    cases hf : (lookup.find info name memory).1 with
    | none => exact .inl ⟨by simp [hf], by simp [hf]⟩
    | some m =>
      by_cases hallows : mode.allows m.access = true
      · exact .inr ⟨m.index, by simp [hf, Option.filter_some, hallows], by simp [hf, hallows]⟩
      · exact .inl ⟨by simp [hf, Option.filter_some, hallows], by simp [hf, hallows]⟩
  | _ => exact .inl ⟨rfl, rfl⟩

/-- What a segment finds is what is in the slot that it stands for. -/
theorem locate_result (lookup : Lookup σ) (mode : Mode) (v : Value) (s : Segment) (memory : σ) :
    (locate lookup mode v s memory).result =
      ((v.slotBy (fun info name => (lookup.find info name memory).1) mode s).bind v.filled?).elim
        (.error (v.absent mode s)) .ok := by
  cases s with
  | index i =>
    unfold locate slotBy absent shownLen kind
    cases hv : v.view with
    | list s | array s =>
      cases hc : v.child? (.item i.toNat) <;> simp [filled?, hc, View.kind, Kind.isIndexable]
    | _ => simp [View.kind, Kind.isIndexable]
  | member name =>
    unfold locate
    rcases findMember_cases lookup mode v name memory with ⟨hresult, hslot⟩ | ⟨i, hresult, hslot⟩
    · rw [hslot]
      simp only [hresult]
      rfl
    · rw [hslot, Option.bind_some, filled?]
      simp only [hresult, Except.bind]
      cases v.child? (.member i) <;> rfl

theorem child?_of_locate (h : (locate lookup mode v s memory).result = .ok (slot, x)) : v.child? slot = some x := by
  rw [locate_result] at h
  exact (slot_of_filled h).2

/-- Only a pointer can be null. -/
theorem ne_null_of_locate {cause : Cause} (h : (locate lookup mode v s memory).result = .error cause) :
    cause ≠ .nullIntermediate := by
  rw [locate_result] at h
  cases hf : (v.slotBy (fun info name => (lookup.find info name memory).1) mode s).bind v.filled? with
  | none => rw [hf] at h; cases h; exact absent_ne_null mode v s
  | some found => rw [hf] at h; cases h

end Locate

/-! ## Steps -/

/-- One segment of a walk without a memory. -/
def step (mode : Mode) (v : Value) (s : Segment) : Except Cause (Slot × Value) :=
  (enter .direct mode v s ()).result

theorem step_eq {v w : Value} (h : v.chainEnd? = some w) (mode : Mode) (s : Segment) :
    v.step mode s = ((w.slot? mode s).bind w.filled?).elim (.error (w.absent mode s)) .ok := by
  rw [step, enter, h]
  exact locate_result .direct mode w s ()

theorem step_null {v : Value} (h : v.chainEnd? = none) (mode : Mode) (s : Segment) :
    v.step mode s = .error .nullIntermediate := by
  rw [step, enter, h]

theorem step_eq_ok {mode : Mode} {v x : Value} {s : Segment} {slot : Slot} (h : v.step mode s = .ok (slot, x)) :
    ∃ w, v.chainEnd? = some w ∧ w.slot? mode s = some slot ∧ w.child? slot = some x := by
  cases hv : v.chainEnd? with
  | none => rw [step_null hv] at h; cases h
  | some w =>
    rw [step_eq hv] at h
    obtain ⟨hs, hc⟩ := slot_of_filled h
    exact ⟨w, rfl, hs, hc⟩

theorem step_ok {mode : Mode} {v w x : Value} {s : Segment} {slot : Slot} (hv : v.chainEnd? = some w)
    (hs : w.slot? mode s = some slot) (hc : w.child? slot = some x) : v.step mode s = .ok (slot, x) := by
  rw [step_eq hv, hs, Option.bind_some, filled?, hc]
  rfl

/-- The value behind the pointers, with another value in the slot of a segment. -/
theorem chain_mapChainEnd {mode : Mode} {v x : Value} {s : Segment} {slot : Slot} (h : v.step mode s = .ok (slot, x))
    (z : Value) : ∃ w, v.chainEnd? = some w ∧ w.slot? mode s = some slot ∧ w.child? slot = some x ∧
      (v.mapChainEnd (·.setChild slot z)).chainEnd? = some (w.setChild slot z) ∧
      (v.mapChainEnd (·.setChild slot z)).chain = v.chain := by
  obtain ⟨w, hw, hs, hc⟩ := step_eq_ok h
  have hkind : (w.setChild slot z).kind ≠ .pointer := by
    rw [kind_setChild]
    exact kind_ne_of_chainEnd? hw
  rw [mapChainEnd_eq hw]
  exact ⟨w, hw, hs, hc, chain_setAt_chain hw hkind⟩

theorem step_mapChainEnd_self {mode : Mode} {v x : Value} {s : Segment} {slot : Slot}
    (h : v.step mode s = .ok (slot, x)) (z : Value) :
    (v.mapChainEnd (·.setChild slot z)).step mode s = .ok (slot, z) := by
  obtain ⟨w, hw, hs, hc, hend, -⟩ := chain_mapChainEnd h z
  exact step_ok hend (by rw [slot?_setChild, hs]) (child?_setChild_self hc z)

theorem step_mapChainEnd_ne {mode mode' : Mode} {v x : Value} {s t : Segment} {slot : Slot}
    (h : v.step mode s = .ok (slot, x)) (hne : s ≠ t) (z : Value) :
    (v.mapChainEnd (·.setChild slot z)).step mode' t = v.step mode' t := by
  obtain ⟨w, hw, hs, -, hend, -⟩ := chain_mapChainEnd h z
  -- The other segment stands for a slot that is untouched, or fails as before.
  rw [step_eq hend, step_eq hw, slot?_setChild, absent_setChild]
  cases ht : w.slot? mode' t with
  | none => rfl
  | some slot' =>
    rw [Option.bind_some, Option.bind_some, filled?, filled?, child?_setChild_ne (slot?_ne hne hs ht)]

/-! ## Steps as places -/

section Enter
variable {σ : Type} {lookup : Lookup σ} {mode : Mode} {v x : Value} {s : Segment} {memory : σ} {slot : Slot}

theorem child?_of_enter (h : (enter lookup mode v s memory).result = .ok (slot, x)) :
    ∃ w, v.chainEnd? = some w ∧ w.child? slot = some x := by
  unfold enter at h
  split at h
  · cases h
  · rename_i w hw
    exact ⟨w, hw, child?_of_locate h⟩

theorem at?_enter (h : (enter lookup mode v s memory).result = .ok (slot, x)) (place : Place) :
    v.at? (v.chain ++ slot :: place) = x.at? place := by
  obtain ⟨w, hw, hc⟩ := child?_of_enter h
  rw [at?_append (at?_chain hw), at?_cons hc]

theorem setAt_enter (h : (enter lookup mode v s memory).result = .ok (slot, x)) (place : Place) (y : Value) :
    v.setAt (v.chain ++ slot :: place) y = v.mapChainEnd (·.setChild slot (x.setAt place y)) := by
  obtain ⟨w, hw, hc⟩ := child?_of_enter h
  rw [setAt_append (at?_chain hw), setAt_cons hc, mapChainEnd_eq hw]

/-- Putting back what a step has found changes nothing. -/
theorem mapChainEnd_enter (h : (enter lookup mode v s memory).result = .ok (slot, x)) :
    v.mapChainEnd (·.setChild slot x) = v := by
  obtain ⟨w, hw, hc⟩ := child?_of_enter h
  rw [mapChainEnd_eq hw, setChild_child? hc, setAt_at? (at?_chain hw)]
end Enter

end Value

end Reflection
