import Mathlib.Data.List.InsertIdx
import Reflection.Proofs.Iteration
import Reflection.Value.Sequence
/-!
# Lists as sequences

A `ListOp` is one operation of a reflected list; `Value.perform` carries it out on a value and
`ListOp.onItems` says what it does to a plain sequence. A vector and a deque that hold items of their
type do with each operation what the sequence does (`perform_list`), and so they do with any number of
them, without ever breaking off (`lists_refine_sequences`).
-/

namespace Reflection

/-! ## Operations -/

/-- What can be asked of a list: `put` replaces an item in place, `iterate` is `n` calls of an iterator. -/
inductive ListOp
  | push (x : Value)
  | pop
  | insert (i : Nat) (x : Value)
  | remove (i : Nat)
  | get (i : Nat)
  | put (i : Nat) (x : Value)
  | len
  | iterate (n : Nat)

inductive ListAnswer
  | added (refused : Option Value)
  | item (x : Option Value)
  | put (outcome : Value.Put)
  | len (n : Nat)
  | items (calls : List (Option Value × (Nat × Nat)))

namespace Value

/-- A list after an operation and its answer, or nothing if the operation breaks off. -/
def perform (v : Value) : ListOp → Option (Value × ListAnswer)
  | .push x => some ((v.push x).list, .added (v.push x).refused)
  | .pop => some (v.pop.list, .item v.pop.removed)
  | .insert i x => (v.insert i x).map fun done => (done.list, .added done.refused)
  | .remove i => (v.remove i).map fun done => (done.list, .item done.removed)
  | .get i => some (v, .item (v.child? (.item i)))
  | .put i x => some ((v.put (.item i) x).1, .put (v.put (.item i) x).2)
  | .len => v.asList.toOption.map fun s => (v, .len s.len)
  | .iterate n => v.asList.toOption.map fun s => (v, .items (s.iterator.run n))

def performAll (v : Value) : List ListOp → Option (Value × List ListAnswer)
  | [] => some (v, [])
  | op :: ops => do
    let (v, answer) ← v.perform op
    let (v, answers) ← v.performAll ops
    return (v, answer :: answers)

end Value

namespace ListOp

/-- What an operation does to a plain sequence that takes values of type `t`. -/
def onItems (t : Ty) (items : List Value) : ListOp → List Value × ListAnswer
  | .push x => if x.type = t then (items ++ [x], .added none) else (items, .added (some x))
  | .pop => (items.take (items.length - 1), .item items[items.length - 1]?)
  | .insert i x =>
    if i ≤ items.length ∧ x.type = t then (items.take i ++ x :: items.drop i, .added none)
    else (items, .added (some x))
  | .remove i =>
    if h : i < items.length then (items.take i ++ items.drop (i + 1), .item (some items[i])) else (items, .item none)
  | .get i => (items, if h : i < items.length then .item (some items[i]) else .item none)
  | .put i x =>
    if i < items.length then
      if x.type = t then (items.take i ++ x :: items.drop (i + 1), .put .done) else (items, .put (.refused x))
    else (items, .put .noSlot)
  | .len => (items, .len items.length)
  -- After `i` and one more calls so many items are left.
  | .iterate n =>
    (items, .items ((List.range n).map fun i => (items[i]?, (items.length - (i + 1), items.length - (i + 1)))))

def allOnItems (t : Ty) (items : List Value) : List ListOp → List Value × List ListAnswer
  | [] => (items, [])
  | op :: ops =>
    let (items, answer) := op.onItems t items
    let (items, answers) := allOnItems t items ops
    (items, answer :: answers)

end ListOp

/-! ## Each operation -/

theorem insertIdx_eq_take_append {α : Type} (x : α) {l : List α} {i : Nat} (hi : i ≤ l.length) :
    l.insertIdx i x = l.take i ++ x :: l.drop i := by
  induction l generalizing i with
  | nil =>
    obtain rfl : i = 0 := by simpa using hi
    rfl
  | cons y l ih =>
    cases i with
    | zero => rfl
    | succ i => simp only [List.insertIdx_succ_cons, ih (Nat.le_of_succ_le_succ hi), List.take_succ_cons,
        List.drop_succ_cons, List.cons_append]

namespace Value

theorem take_eq_ok {t : Ty} {x : Value} (h : x.type = t) : x.take t = .ok x := if_pos h

theorem take_eq_error {t : Ty} {x : Value} (h : x.type ≠ t) : x.take t = .error x := if_neg h

variable {t : ListType}

theorem insert_list (ht : t ≠ .bag) (items : List Value) (i : Nat) (x : Value) :
    (list t items).insert i x =
      if i ≤ items.length ∧ x.type = t.item then some ⟨.list t (items.take i ++ x :: items.drop i), none⟩
      else some ⟨.list t items, some x⟩ := by
  by_cases hi : items.length < i
  · rw [if_neg fun h => absurd h.1 (Nat.not_le.2 hi)]
    cases t with
    | bag => exact absurd rfl ht
    | _ => exact if_pos hi
  · have hle : i ≤ items.length := Nat.le_of_not_lt hi
    by_cases hx : x.type = t.item
    · rw [if_pos ⟨hle, hx⟩, ← insertIdx_eq_take_append x hle]
      cases t with
      | bag => exact absurd rfl ht
      | _ => simp only [insert, if_neg hi, take_eq_ok hx, insertAt, if_pos hle, Option.map_some]
    · rw [if_neg fun h => hx h.2]
      cases t with
      | bag => exact absurd rfl ht
      | _ => simp only [insert, if_neg hi, take_eq_error hx]

/-- A vector is asked for its bounds first and a deque is not; they do the same. -/
theorem removeAt_eq (ht : t ≠ .bag) (items : List Value) (i : Nat) :
    t.removeAt items i =
      if h : i < items.length then some (items.take i ++ items.drop (i + 1), some items[i])
      else some (items, none) := by
  by_cases hi : i < items.length
  · rw [dif_pos hi, ← List.eraseIdx_eq_take_drop_succ]
    cases t with
    | vec => simp only [ListType.removeAt, removeFromVec, if_pos hi, List.getElem?_eq_getElem hi, Option.map_some]
    | deque => simp only [ListType.removeAt, removeFromDeque, List.getElem?_eq_getElem hi]
    | bag => exact absurd rfl ht
  · rw [dif_neg hi]
    cases t with
    | vec => exact if_neg hi
    | deque =>
      have hnone : items[i]? = none := List.getElem?_eq_none (Nat.le_of_not_lt hi)
      simp only [ListType.removeAt, removeFromDeque, hnone]
    | bag => exact absurd rfl ht

theorem put_list {items : List Value} (htyped : ∀ v ∈ items, v.type = t.item) (i : Nat) (x : Value) :
    (list t items).put (.item i) x =
      if i < items.length then
        if x.type = t.item then (.list t (items.take i ++ x :: items.drop (i + 1)), .done)
        else (.list t items, .refused x)
      else (.list t items, .noSlot) := by
  by_cases hi : i < items.length
  · have hchild : (list t items).child? (.item i) = some items[i] := List.getElem?_eq_getElem hi
    have htype : items[i].type = t.item := htyped _ (List.getElem_mem hi)
    rw [if_pos hi]
    simp only [put, hchild, assign, htype]
    by_cases hx : x.type = t.item
    · simp only [if_pos hx, setChild, List.set_eq_take_append_cons_drop, if_pos hi]
    · simp only [if_neg hx]
  · have hchild : (list t items).child? (.item i) = none := List.getElem?_eq_none (Nat.le_of_not_lt hi)
    rw [if_neg hi]
    simp only [put, hchild]

/-- One operation does to a vector or deque what it does to the sequence of its items. -/
theorem perform_list (ht : t ≠ .bag) {items : List Value} (htyped : ∀ v ∈ items, v.type = t.item) (op : ListOp) :
    (list t items).perform op = some (.list t (op.onItems t.item items).1, (op.onItems t.item items).2) := by
  have hlen : (list t items).asList = .ok ⟨items, items.length⟩ := by
    cases t with
    | bag => exact absurd rfl ht
    | _ => rfl
  cases op with
  | push x =>
    by_cases hx : x.type = t.item
    · simp only [perform, push, take_eq_ok hx, ListOp.onItems, if_pos hx]
    · simp only [perform, push, take_eq_error hx, ListOp.onItems, if_neg hx]
  | pop => simp only [perform, pop, ListOp.onItems, List.dropLast_eq_take, List.getLast?_eq_getElem?]
  | insert i x =>
    simp only [perform, insert_list ht, ListOp.onItems]
    split <;> rfl
  | remove i =>
    simp only [perform, remove, removeAt_eq ht, ListOp.onItems]
    split <;> rfl
  | get i =>
    have hchild : (list t items).child? (.item i) = items[i]? := rfl
    simp only [perform, hchild, ListOp.onItems]
    split
    · rename_i hi
      rw [List.getElem?_eq_getElem hi]
    · rename_i hi
      rw [List.getElem?_eq_none (Nat.le_of_not_lt hi)]
  | put i x =>
    simp only [perform, put_list htyped, ListOp.onItems]
    split
    · split <;> rfl
    · rfl
  | len => simp only [perform, hlen, Except.toOption, Option.map_some, ListOp.onItems]
  | iterate n =>
    have hrun := Iterator.run_of_getElem? (fun i => (rfl : items[i]? = items[i]?)) items.length n
    -- The hints after the last item are zero, however many calls follow.
    have hleft : ∀ i, items.length - min (i + 1) items.length = items.length - (i + 1) := by omega
    simp only [perform, hlen, Except.toOption, Option.map_some, ListOp.onItems, SequenceView.iterator, hrun, hleft]

end Value

/-! ## Runs -/

/-- An operation lets no value of another type in. -/
theorem ListOp.type_onItems {t : Ty} {items : List Value} (htyped : ∀ v ∈ items, v.type = t) (op : ListOp) :
    ∀ v ∈ (op.onItems t items).1, v.type = t := by
  have htake : ∀ i, ∀ v ∈ items.take i, v.type = t := fun i v hv => htyped v (List.mem_of_mem_take hv)
  have hdrop : ∀ i, ∀ v ∈ items.drop i, v.type = t := fun i v hv => htyped v (List.mem_of_mem_drop hv)
  cases op with
  | push x =>
    simp only [onItems]
    split
    · rename_i hx
      simpa [or_imp, forall_and] using ⟨htyped, hx⟩
    · exact htyped
  | pop => exact htake _
  | insert i x =>
    simp only [onItems]
    split
    · rename_i h
      simpa [or_imp, forall_and] using ⟨htake i, h.2, hdrop i⟩
    · exact htyped
  | remove i =>
    simp only [onItems]
    split
    · simpa [or_imp, forall_and] using ⟨htake i, hdrop (i + 1)⟩
    · exact htyped
  | put i x =>
    simp only [onItems]
    split
    · split
      · rename_i hx
        simpa [or_imp, forall_and] using ⟨htake i, hx, hdrop (i + 1)⟩
      · exact htyped
    · exact htyped
  | _ => exact htyped

theorem Value.performAll_list {t : ListType} (ht : t ≠ .bag) {items : List Value}
    (htyped : ∀ v ∈ items, v.type = t.item) (ops : List ListOp) :
    (list t items).performAll ops =
        some (.list t (ListOp.allOnItems t.item items ops).1, (ListOp.allOnItems t.item items ops).2) ∧
      ∀ v ∈ (ListOp.allOnItems t.item items ops).1, v.type = t.item := by
  induction ops generalizing items with
  | nil => exact ⟨rfl, htyped⟩
  | cons op ops ih =>
    obtain ⟨hrun, hkept⟩ := ih (op.type_onItems htyped)
    refine ⟨?_, hkept⟩
    simp only [performAll, perform_list ht htyped, hrun, ListOp.allOnItems, Option.bind_eq_bind, Option.bind_some,
      Option.pure_def]

/-- A vector and a deque of one item type give the answers of the same plain sequence and hold its items,
whatever they are asked and in whichever order; no operation breaks off. -/
theorem lists_refine_sequences (t : Ty) (items : List Value) (htyped : ∀ v ∈ items, v.type = t) (ops : List ListOp) :
    let (after, answers) := ListOp.allOnItems t items ops
    (Value.list (.vec t) items).performAll ops = some (.list (.vec t) after, answers) ∧
      (Value.list (.deque t) items).performAll ops = some (.list (.deque t) after, answers) ∧
      ∀ v ∈ after, v.type = t := by
  have hvec := Value.performAll_list (t := .vec t) (by simp) htyped ops
  have hdeque := Value.performAll_list (t := .deque t) (by simp) htyped ops
  exact ⟨hvec.1, hdeque.1, hvec.2⟩

/-- Items behind the end and of another type are handed back, and nothing is taken from behind the end. -/
theorem lists_refine_sequences_bounds :
    (∀ v ∈ [Value.i32 1, .i32 2], v.type = .i32) ∧
      let ops : List ListOp :=
        [.insert 3 (.i32 9), .insert 2 (.i32 3), .remove 3, .remove 0, .push (.scalar (.str "4"))]
      let after := [Value.i32 2, .i32 3]
      let answers : List ListAnswer := [.added (some (.i32 9)), .added none, .item none, .item (some (.i32 1)),
        .added (some (.scalar (.str "4")))]
      (Value.list (.vec .i32) [.i32 1, .i32 2]).performAll ops = some (.list (.vec .i32) after, answers) ∧
        (Value.list (.deque .i32) [.i32 1, .i32 2]).performAll ops = some (.list (.deque .i32) after, answers) := by
  have htyped : ∀ v ∈ [Value.i32 1, .i32 2], v.type = .i32 := by simp [Value.i32, Value.type, Scalar.type, Ty.i32]
  obtain ⟨hvec, hdeque, -⟩ := lists_refine_sequences .i32 [.i32 1, .i32 2] htyped
    [.insert 3 (.i32 9), .insert 2 (.i32 3), .remove 3, .remove 0, .push (.scalar (.str "4"))]
  exact ⟨htyped, hvec, hdeque⟩

end Reflection
