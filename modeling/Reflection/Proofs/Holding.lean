import Reflection.Proofs.Step
/-!
# Holding what is found

To change a value in place, a walk holds each value on the way, which goes another way than looking at it
does: by what the values hand out to be changed, and with errors of its own. It comes to the same. What a
segment holds is what it finds, and what comes in its place is put into the slot that it stands for
(`focusOn_eq`, `hold_eq`); where nothing is found, nothing is held, for the same reason.
-/

namespace Reflection

namespace Value

/-- A slot with a value in it, held to be changed. -/
def focusAt (v : Value) (found : Slot × Value) : Focus := ⟨found.2, v.setChild found.1⟩

/-! ## What values hand out -/

theorem focusItem_eq (v : Value) (i : UInt64) :
    v.focusItem i =
      if v.kind.isIndexable then
        (v.filled? (.item i.toNat)).elim (.error (.indexOutOfRange i v.shownLen v.typePath)) (.ok ∘ v.focusAt)
      else .error (.notIndexable v.kind v.typePath) := by
  cases v with
  | list t items =>
    simp only [focusItem, editView, Focus.ofItem?, filled?, child?, view]
    cases items[i.toNat]? <;> rfl
  | array t items =>
    simp only [focusItem, editView, Focus.ofItem?, filled?, child?, view]
    cases items[i.toNat]? <;> rfl
  | facade f x => cases f <;> rfl
  | _ => rfl

theorem focusMember_eq (v : Value) (index : Nat) (name : String) (mode : Mode) :
    v.focusMember index name mode =
      (v.filled? (.member index)).elim (.error (v.memberNotFound name mode)) (.ok ∘ v.focusAt) := by
  cases v with
  | struct decl members hidden =>
    simp only [focusMember, editView, Focus.ofItem?, filled?, child?_struct]
    cases members[index]? <;> rfl
  | facade f x =>
    cases f with
    | ghost => rcases index with _ | _ | _ | index <;> rfl
    | liar => rfl
  | _ => rfl

/-- Behind the pointers the held value is the one that is found there, and what comes in its place
comes to the end of the pointers. -/
theorem focusEnd?_eq (v : Value) :
    v.focusEnd? = v.chainEnd?.map fun w => ⟨w, fun x => v.mapChainEnd fun _ => x⟩ := by
  fun_induction focusEnd? v with
  | case1 t v ih =>
    rw [ih, chainEnd?]
    cases v.chainEnd? <;> rfl
  | case2 t => rfl
  | case3 v hsome hnone =>
    have hend : v.chainEnd? = some v := by
      rw [chainEnd?]
      · exact hsome
      · exact hnone
    rw [hend, Option.map_some]
    congr
    funext x
    rw [mapChainEnd]
    · exact hsome
    · exact hnone

/-- What is found behind the pointers, held to be changed. -/
def focusBehind (v : Value) (found : Slot × Value) : Focus :=
  ⟨found.2, fun x => v.mapChainEnd (·.setChild found.1 x)⟩

theorem focusBehind_eq {v w : Value} (h : v.chainEnd? = some w) (found : Slot × Value) :
    Focus.within ⟨w, fun x => v.mapChainEnd fun _ => x⟩ (w.focusAt found) = v.focusBehind found := by
  simp only [Focus.within, focusAt, focusBehind, mapChainEnd_eq h]

end Value

/-! ## What segments hold -/

section Hold
variable {σ α : Type} {lookup : Lookup σ} {v x : Value} {s : Segment} {position : Nat} {memory : σ} {slot : Slot}

theorem focusOn_eq (lookup : Lookup σ) (mode : Mode) (v : Value) (s : Segment) (memory : σ) :
    focusOn lookup mode v s memory =
      let found := locate lookup mode v s memory
      ⟨found.result.map v.focusAt, found.memory, found.log⟩ := by
  cases s with
  | index i =>
    have hfound := Value.locate_result lookup mode v (.index i) memory
    simp only [focusOn, Value.focusItem_eq, hfound, Value.slotBy, Value.absent]
    split
    · rw [Option.bind_some]
      cases v.filled? (.item i.toNat) <;> rfl
    · rfl
  | member name =>
    simp only [focusOn, locate, Value.focusMember_eq, Value.filled?]
    cases (findMember lookup mode v name memory).result with
    | error cause => rfl
    | ok i =>
      simp only [Except.bind]
      cases v.child? (.member i) <;> rfl

theorem hold_eq (lookup : Lookup σ) (v : Value) (s : Segment) (memory : σ) :
    hold lookup v s memory =
      let found := enter lookup .read v s memory
      ⟨found.result.map v.focusBehind, found.memory, found.log⟩ := by
  unfold hold enter
  rw [Value.focusEnd?_eq]
  cases hend : v.chainEnd? with
  | none => rfl
  | some w =>
    simp only [Option.map_some, focusOn_eq]
    cases (locate lookup .read w s memory).result with
    | error cause => rfl
    | ok found =>
      simp only [Except.map]
      rw [Value.focusBehind_eq hend]

/-! ## One segment of a walk -/

/-- Where a segment finds nothing, a walk that changes things ends as one that looks does. -/
theorem descend_error {later : Value → σ → Edit σ α} {cause : Cause}
    (h : (enter lookup .read v s memory).result = .error cause) :
    descend lookup position v s later memory =
      let step := enter lookup .read v s memory
      let e := PathError.lookup ⟨cause, s, position⟩
      ⟨.error e, v, step.memory, step.log ++ [.failed e]⟩ := by
  simp only [descend, hold_eq, h, Except.map]

/-- Where it finds a value, the walk goes on with the value, and puts what becomes of it into its slot. -/
theorem descend_ok {later : Value → σ → Edit σ α} (h : (enter lookup .read v s memory).result = .ok (slot, x)) :
    descend lookup position v s later memory =
      let step := enter lookup .read v s memory
      let done := later x step.memory
      ⟨done.result, v.mapChainEnd (·.setChild slot done.root), done.memory,
        step.log ++ .resolved s position x.typePath :: done.log⟩ := by
  simp only [descend, hold_eq, h, Except.map, Value.focusBehind]

theorem visit_error {later : Value → σ → Walk σ (Except PathError Value)} {cause : Cause}
    (h : (enter lookup .read v s memory).result = .error cause) :
    visit lookup position v s later memory =
      let step := enter lookup .read v s memory
      let e := PathError.lookup ⟨cause, s, position⟩
      ⟨.error e, step.memory, step.log ++ [.failed e]⟩ := by
  simp only [visit, h]

theorem visit_ok {later : Value → σ → Walk σ (Except PathError Value)}
    (h : (enter lookup .read v s memory).result = .ok (slot, x)) :
    visit lookup position v s later memory =
      let step := enter lookup .read v s memory
      let done := later x step.memory
      ⟨done.result, done.memory, step.log ++ .resolved s position x.typePath :: done.log⟩ := by
  simp only [visit, h]

/-- A write holds the slot of its segment as a walk does, but a null in front of it alone is a failure of
the walk. -/
theorem write_eq (lookup : Lookup σ) (s : Segment) (position : Nat) (x v : Value) (memory : σ) :
    write lookup s position x v memory =
      let step := enter lookup .write v s memory
      let fail (e : PathError) : Edit σ Unit := ⟨.error e, v, step.memory, step.log ++ [.failed e]⟩
      match step.result with
      | .error .nullIntermediate => fail (.lookup ⟨.nullIntermediate, s, position⟩)
      | .error cause => fail (.assign ⟨cause, s, position⟩)
      | .ok (slot, old) =>
        match old.assign x with
        | .ok new => ⟨.ok (), v.mapChainEnd (·.setChild slot new), step.memory, step.log⟩
        | .error refused => fail (.assign ⟨.rejected refused.typePath old.typePath, s, position⟩) := by
  unfold write enter
  rw [Value.focusEnd?_eq]
  cases hend : v.chainEnd? with
  | none => rfl
  | some w =>
    simp only [Option.map_some, focusOn_eq]
    cases hstep : (locate lookup .write w s memory).result with
    | error cause =>
      have hnull := Value.ne_null_of_locate hstep
      cases cause with
      | nullIntermediate => exact absurd rfl hnull
      | _ => rfl
    | ok found =>
      simp only [Except.map, Value.focusAt]
      cases found.2.assign x with
      | error refused => rfl
      | ok new => simp only [Value.mapChainEnd_eq hend]

end Hold

end Reflection
