import Reflection.Value.Iterator
/-!
# Iterators are exact and stop for good

What an iterator gives is decided by the first index at which its container gives nothing (`StopsAt`). The
invariant over its calls is the index: it is the number of calls, until it has come to where the container
stops, and stays there (`next_moved`, `after_moved`). So the items are given in order, each once, and the size
hint is exact if the container reports the length at which it stops (`Enumerates`). Iterators over members
count elsewhere than iterators over items, but they are iterators over the pairs that an index has both
parts of (`ofMembers_eq`).
-/

namespace Reflection

namespace Iterator

variable {α : Type} {get : Nat → Option α} {n : Nat}

/-! ## What a container gives -/

/-- At each index before `n` the accessor gives something, and at `n` nothing. -/
structure StopsAt (get : Nat → Option α) (n : Nat) : Prop where
  isSome_of_lt : ∀ i, i < n → (get i).isSome = true
  eq_none : get n = none

/-- The name and the member at an index, if there are both. -/
def entryAt? (nameAt? : Nat → Option String) (memberAt? : Nat → Option α) (i : Nat) : Option (String × α) :=
  (nameAt? i).bind fun name => (memberAt? i).map fun member => (name, member)

theorem ofMembers_eq (nameAt? : Nat → Option String) (memberAt? : Nat → Option α) (len : Nat) :
    ofMembers nameAt? memberAt? len = ofItems (entryAt? nameAt? memberAt?) len := by
  unfold ofMembers ofItems
  congr 1
  funext i
  unfold entryAt?
  cases nameAt? i with
  | none => rfl
  | some name => cases memberAt? i <;> rfl

theorem stopsAt_of_getElem? {xs : List α} (h : ∀ i, i ≤ xs.length → get i = xs[i]?) : StopsAt get xs.length where
  isSome_of_lt i hi := by rw [h i (Nat.le_of_lt hi), List.getElem?_eq_getElem hi, Option.isSome_some]
  eq_none := by rw [h _ (Nat.le_refl _), List.getElem?_eq_none (Nat.le_refl _)]

theorem stopsAt_items (items : List α) : StopsAt (fun i => items[i]?) items.length :=
  stopsAt_of_getElem? fun _ _ => rfl

/-- The entries of a struct end where a name or a member is missing. -/
theorem entryAt?_eq_getElem?_pairs (names : List String) (members : List (Option Value)) (i : Nat)
    (h : i ≤ (StructView.pairs names members).length) :
    entryAt? (fun i => names[i]?) (fun i => members[i]?.join) i = (StructView.pairs names members)[i]? := by
  fun_induction StructView.pairs names members generalizing i with
  | case1 name names v members ih =>
    cases i with
    | zero => rfl
    | succ i =>
      have hi : i ≤ (StructView.pairs names members).length := Nat.le_of_succ_le_succ h
      simpa [entryAt?] using ih i hi
  | case2 names members hother =>
    -- Here one of the lists is empty, or the first name has no member.
    obtain rfl : i = 0 := by simpa using h
    rcases names with _ | ⟨name, names⟩
    · rfl
    · rcases members with _ | ⟨_ | v, members⟩
      · rfl
      · rfl
      · exact absurd rfl (hother name names v members rfl)

theorem stopsAt_entries (s : StructView) : StopsAt (entryAt? s.nameAt? s.memberAt?) s.entries.length :=
  stopsAt_of_getElem? (entryAt?_eq_getElem?_pairs s.names s.members)

/-! ## Calls -/

/-- The iterator after `k` calls. -/
def after (it : Iterator α) : Nat → Iterator α
  | 0 => it
  | k + 1 => it.next.2.after k

/-- What `k` calls have given, in order. -/
def given (it : Iterator α) (k : Nat) : List α := (it.run k).filterMap Prod.fst

/-- The iterator where it asks at index `i` next. -/
def moved (it : Iterator α) (i : Nat) : Iterator α := { it with index := i }

/-- It gives the first `n` values of the accessor in order, where the container reports the length `len`: `k` calls
have given as many of them as there are, this number is missing in the size hint, and from call `n` on nothing is
given any more and the iterator stays as it is. -/
structure Enumerates (it : Iterator α) (get : Nat → Option α) (n len : Nat) : Prop where
  given_eq : ∀ k, (it.given k).map some = (List.range (min k n)).map get
  sizeHint_eq : ∀ k, (it.after k).sizeHint = (len - min k n, len - min k n)
  next_eq : ∀ k, n ≤ k → (it.after k).next = (none, it.after k)

section StopsAt
variable (h : StopsAt get n) (len : Nat)
include h

theorem next_moved (i : Nat) :
    ((ofItems get len).moved (min i n)).next =
      (if i < n then get i else none, (ofItems get len).moved (min (i + 1) n)) := by
  unfold next moved ofItems
  by_cases hi : i < n
  · have hhere : min i n = i := by omega
    have hnext : min (i + 1) n = i + 1 := by omega
    simp only [hhere, hnext, h.isSome_of_lt i hi, if_pos hi, Bool.toNat_true]
  · -- Nothing is given here, so the index stays.
    have hhere : min i n = n := by omega
    have hnext : min (i + 1) n = n := by omega
    simp only [hhere, hnext, h.eq_none, if_neg hi, Option.isSome_none, Bool.toNat_false, Nat.add_zero]

theorem after_moved (k i : Nat) :
    ((ofItems get len).moved (min i n)).after k = (ofItems get len).moved (min (i + k) n) := by
  induction k generalizing i with
  | zero => rfl
  | succ k ih =>
    rw [after, next_moved h, ih]
    congr 2
    omega

theorem run_moved (k i : Nat) :
    ((ofItems get len).moved (min i n)).run k =
      (List.range' i k).map fun j =>
        (if j < n then get j else none, (len - min (j + 1) n, len - min (j + 1) n)) := by
  induction k generalizing i with
  | zero => rfl
  | succ k ih =>
    rw [List.range'_succ, List.map_cons, ← ih, run, next_moved h]
    rfl

/-- Call `i` gives what the accessor has at `i`, if this is before the end. -/
theorem run_ofItems (k : Nat) :
    (ofItems get len).run k =
      (List.range k).map fun i =>
        (if i < n then get i else none, (len - min (i + 1) n, len - min (i + 1) n)) := by
  have hrun := run_moved h len k 0
  rwa [Nat.zero_min, ← List.range_eq_range'] at hrun

theorem after_ofItems (k : Nat) : (ofItems get len).after k = (ofItems get len).moved (min k n) := by
  have hafter := after_moved h len k 0
  rwa [Nat.zero_min, Nat.zero_add] at hafter

theorem given_ofItems (k : Nat) : ((ofItems get len).given k).map some = (List.range (min k n)).map get := by
  unfold given
  rw [run_ofItems h]
  induction k with
  | zero => rw [Nat.zero_min]; rfl
  | succ k ih =>
    rw [List.range_succ, List.map_append, List.filterMap_append, List.map_append, ih]
    by_cases hk : k < n
    · obtain ⟨x, hx⟩ := Option.isSome_iff_exists.1 (h.isSome_of_lt k hk)
      have hhere : min k n = k := by omega
      have hnext : min (k + 1) n = k + 1 := by omega
      rw [hhere, hnext, List.range_succ, List.map_append]
      simp [hk, hx]
    · have hsame : min (k + 1) n = min k n := by omega
      rw [hsame]
      simp [hk]

theorem enumerates_ofItems : (ofItems get len).Enumerates get n len where
  given_eq := given_ofItems h len
  sizeHint_eq k := by
    rw [after_ofItems h]
    rfl
  next_eq k hk := by
    have hsame : min (k + 1) n = min k n := by omega
    rw [after_ofItems h, next_moved h, if_neg (Nat.not_lt.2 hk), hsame]

end StopsAt

theorem enumerates_ofMembers {nameAt? : Nat → Option String} {memberAt? : Nat → Option α}
    (h : StopsAt (entryAt? nameAt? memberAt?) n) (len : Nat) :
    (ofMembers nameAt? memberAt? len).Enumerates (entryAt? nameAt? memberAt?) n len := by
  rw [ofMembers_eq]
  exact enumerates_ofItems h len

/-- An accessor that has what a list has answers every call itself. -/
theorem run_of_getElem? {xs : List α} (h : ∀ i, get i = xs[i]?) (len k : Nat) :
    (ofItems get len).run k =
      (List.range k).map fun i => (get i, (len - min (i + 1) xs.length, len - min (i + 1) xs.length)) := by
  rw [run_ofItems (stopsAt_of_getElem? fun i _ => h i)]
  apply List.map_congr_left
  intro i _
  by_cases hi : i < xs.length
  · rw [if_pos hi]
  · rw [if_neg hi, h i, List.getElem?_eq_none (Nat.le_of_not_lt hi)]

/-- What is given is the front of a list that has what the accessor has. -/
theorem given_eq_take {xs : List α} (h : ∀ i, i ≤ xs.length → get i = xs[i]?) (len k : Nat) :
    (ofItems get len).given k = xs.take k := by
  rw [← List.map_inj_right fun _ _ => Option.some.inj, given_ofItems (stopsAt_of_getElem? h)]
  apply List.ext_getElem
  · simp
  · intro i hi _
    have hlt : i < min k xs.length := by simpa using hi
    have hget : get i = xs[i]? := h i (by omega)
    simp [hget]

end Iterator

/-! ## Containers -/

open Iterator

theorem SequenceView.enumerates_iterator (s : SequenceView) :
    s.iterator.Enumerates (fun i => s.items[i]?) s.items.length s.len :=
  enumerates_ofItems (stopsAt_items s.items) s.len

theorem StructView.enumerates_iterator (s : StructView) :
    s.iterator.Enumerates (entryAt? s.nameAt? s.memberAt?) s.entries.length s.len :=
  enumerates_ofMembers (stopsAt_entries s) s.len

/-- The entries of a struct are what its iterator gives. -/
theorem StructView.given_iterator (s : StructView) (k : Nat) : s.iterator.given k = s.entries.take k := by
  unfold iterator
  rw [ofMembers_eq]
  exact given_eq_take (entryAt?_eq_getElem?_pairs s.names s.members) s.len k

/-- Every vector, deque, array and declared struct of `n` values is enumerated to its end by an iterator with an exact
size hint. A bag and a ghost report more than they give: their iterators give what there is and stop as well, though
the size hint does not come to zero. So does every iterator at the first index for which the container gives nothing,
whatever it would give behind it and whatever length it reports. -/
theorem iterators_exact :
    (∀ (t : ListType) (items : List Value), t ≠ .bag → ∃ s, (Value.list t items).asList = .ok s ∧
      s.iterator.Enumerates (fun i => (Value.list t items).child? (.item i)) items.length items.length) ∧
    (∀ (t : ArrayType) (items : List Value), ∃ s, (Value.array t items).asArray = .ok s ∧
      s.iterator.Enumerates (fun i => (Value.array t items).child? (.item i)) items.length items.length) ∧
    (∀ (decl : StructDecl) (members hidden : List Value), members.length = decl.info.names.length →
      ∃ s, (Value.struct decl members hidden).asStruct = .ok s ∧
        s.iterator.Enumerates
          (entryAt? (fun i => decl.info.names[i]?) fun i => (Value.struct decl members hidden).child? (.member i))
          members.length members.length) ∧
    (∀ items : List Value, ∃ s, (Value.list .bag items).asList = .ok s ∧
      s.iterator.Enumerates (fun i => (Value.list .bag items).child? (.item i)) items.length (items.length + 2)) ∧
    (∀ x : Value, ∃ s, (Value.facade .ghost x).asStruct = .ok s ∧
      s.iterator.Enumerates
        (entryAt? (fun i => ["x", "y", "z"][i]?) fun i => (Value.facade .ghost x).child? (.member i)) 1 3 ∧
      ∀ k, s.iterator.given (k + 1) = [("x", x)]) ∧
    (∀ (α : Type) (itemAt? : Nat → Option α) (n len : Nat), StopsAt itemAt? n →
      (Iterator.ofItems itemAt? len).Enumerates itemAt? n len) ∧
    (∀ (α : Type) (nameAt? : Nat → Option String) (memberAt? : Nat → Option α) (n len : Nat),
      StopsAt (entryAt? nameAt? memberAt?) n →
      (Iterator.ofMembers nameAt? memberAt? len).Enumerates (entryAt? nameAt? memberAt?) n len) := by
  refine ⟨?_, ?_, ?_, ?_, ?_, ?_, ?_⟩
  · intro t items ht
    let s : SequenceView := ⟨items, items.length⟩
    refine ⟨s, ?_, s.enumerates_iterator⟩
    cases t with
    | bag => exact absurd rfl ht
    | _ => rfl
  · intro t items
    let s : SequenceView := ⟨items, items.length⟩
    exact ⟨s, rfl, s.enumerates_iterator⟩
  · intro decl members hidden hlength
    let s : StructView := ⟨decl.info.names, members.map some⟩
    have hstops : StopsAt (entryAt? s.nameAt? s.memberAt?) members.length := by
      constructor
      · intro i hi
        have hname : i < decl.info.names.length := hlength ▸ hi
        simp [s, entryAt?, StructView.nameAt?, StructView.memberAt?, hi, hname]
      · have hname : decl.info.names[members.length]? = none := List.getElem?_eq_none (Nat.le_of_eq hlength.symm)
        simp [s, entryAt?, StructView.nameAt?, hname]
    have hlen : s.len = members.length := hlength.symm
    have hiterator : s.iterator.Enumerates _ members.length s.len := enumerates_ofMembers hstops s.len
    rw [hlen] at hiterator
    exact ⟨s, rfl, hiterator⟩
  · intro items
    let s : SequenceView := ⟨items, items.length + 2⟩
    exact ⟨s, rfl, s.enumerates_iterator⟩
  · intro x
    let s : StructView := ⟨["x", "y", "z"], [some x, none, none]⟩
    refine ⟨s, rfl, s.enumerates_iterator, ?_⟩
    intro k
    rw [s.given_iterator]
    exact List.take_of_length_le (Nat.le_add_left 1 k)
  · intro α itemAt? n len h
    exact enumerates_ofItems h len
  · intro α nameAt? memberAt? n len h
    exact enumerates_ofMembers h len

/-- A deque and a declared struct, and two containers that have something behind the index at which they give nothing:
it is never given. -/
theorem iterators_exact_gap :
    let items := [Value.i32 1, .i32 2]
    let decl : StructDecl := ⟨.ofMembers (.struct ⟨none, "Slot"⟩ []) [.new "first" .i32, .new "second" .i32] none, []⟩
    let itemAt? (i : Nat) : Option Nat := if i = 1 then none else some i
    let nameAt? (i : Nat) : Option String := ["x", "y", "z"][i]?
    ListType.deque .i32 ≠ .bag ∧ items.length = decl.info.names.length ∧ StopsAt itemAt? 1 ∧
      StopsAt (entryAt? nameAt? itemAt?) 1 ∧
      (∃ s, (Value.list (.deque .i32) items).asList = .ok s ∧ (s.iterator.after 3).sizeHint = (0, 0) ∧
        (s.iterator.after 3).next = (none, s.iterator.after 3)) ∧
      (∃ s, (Value.struct decl items []).asStruct = .ok s ∧
        (s.iterator.given 5).map some = [some ("first", .i32 1), some ("second", .i32 2)]) ∧
      (Iterator.ofItems itemAt? 7).given 5 = [0] ∧
      (Iterator.ofMembers nameAt? itemAt? 3).given 5 = [("x", 0)] := by
  intro items decl itemAt? nameAt?
  obtain ⟨hlists, -, hstructs, -, -, hitems, hmembers⟩ := iterators_exact
  have hstops : StopsAt itemAt? 1 := by
    refine ⟨fun i hi => ?_, rfl⟩
    obtain rfl : i = 0 := by omega
    rfl
  have hends : StopsAt (entryAt? nameAt? itemAt?) 1 := by
    refine ⟨fun i hi => ?_, rfl⟩
    obtain rfl : i = 0 := by omega
    rfl
  refine ⟨by decide, rfl, hstops, hends, ?_, ?_, ?_, ?_⟩
  · obtain ⟨s, hs, hiterator⟩ := hlists (.deque .i32) items (by decide)
    exact ⟨s, hs, hiterator.sizeHint_eq 3, hiterator.next_eq 3 (by decide)⟩
  · obtain ⟨s, hs, hiterator⟩ := hstructs decl items [] rfl
    exact ⟨s, hs, hiterator.given_eq 5⟩
  · have hgiven := (hitems Nat itemAt? 1 7 hstops).given_eq 5
    exact List.map_inj_right (fun _ _ => Option.some.inj) |>.1 hgiven
  · have hgiven := (hmembers Nat nameAt? itemAt? 1 3 hends).given_eq 5
    exact List.map_inj_right (fun _ _ => Option.some.inj) |>.1 hgiven

end Reflection
