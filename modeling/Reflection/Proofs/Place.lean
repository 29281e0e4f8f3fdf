import Reflection.Value.View
/-!
# Places

A `Place` is the list of slots on the way from a value to one inside it, pointers included: what a
reference into the value stands for. `Value.at?` reads a place and `Value.setAt` replaces what is
there.

Slots obey the laws of a store: a slot gives back what was put into it (`child?_setChild_self`), the
others are untouched (`child?_setChild_ne`), and all that a value shows besides its slots stays
(`info_setChild`, `kind_setChild`, `shownLen_setChild`). The laws of places follow by induction on
the place.
-/

namespace Reflection

namespace Value

/-! ## Slots -/

/-- The values with slots, and what is in them. -/
inductive Holds : Value → Slot → Value → Prop
  | listItem {t : ListType} {items : List Value} {i : Nat} {c : Value} (h : items[i]? = some c) :
    Holds (.list t items) (.item i) c
  | arrayItem {t : ArrayType} {items : List Value} {i : Nat} {c : Value} (h : items[i]? = some c) :
    Holds (.array t items) (.item i) c
  | target (t : PointerType) (c : Value) : Holds (.pointer t (some c)) .target c
  | member {decl : StructDecl} {members hidden : List Value} {i : Nat} {c : Value}
    (h : members[i]? = some c) : Holds (.struct decl members hidden) (.member i) c
  | ghost (c : Value) : Holds (.facade .ghost c) (.member 0) c

theorem child?_struct (decl : StructDecl) (members hidden : List Value) (i : Nat) :
    (struct decl members hidden).child? (.member i) = members[i]? := by
  simp only [child?, view, StructView.memberAt?, List.getElem?_map]
  cases members[i]? <;> rfl

theorem holds_of_child? {v c : Value} {slot : Slot} (h : v.child? slot = some c) : Holds v slot c := by
  cases v with
  | scalar s => cases slot <;> cases h
  | mystery n => cases slot <;> cases h
  | list t items =>
    cases slot with
    | item i => exact .listItem h
    | member i => cases h
    | target => cases h
  | array t items =>
    cases slot with
    | item i => exact .arrayItem h
    | member i => cases h
    | target => cases h
  | pointer t target =>
    cases slot with
    | item i => cases h
    | member i => cases h
    | target => cases h; exact .target t c
  | struct decl members hidden =>
    cases slot with
    | item i => cases h
    | member i => rw [child?_struct] at h; exact .member h
    | target => cases h
  | facade f x =>
    cases f with
    | liar => cases slot <;> cases h
    | ghost =>
      rcases slot with i | (_ | _ | _ | i) | _ <;> cases h
      exact .ghost c

theorem child?_of_holds {v c : Value} {slot : Slot} (h : Holds v slot c) : v.child? slot = some c := by
  cases h with
  | listItem h => exact h
  | arrayItem h => exact h
  | target t c => rfl
  | member h => rw [child?_struct, h]
  | ghost c => rfl

theorem holds_setChild {v c : Value} {slot : Slot} (h : Holds v slot c) (x : Value) :
    Holds (v.setChild slot x) slot x := by
  cases h with
  | listItem h =>
    exact .listItem (List.getElem?_set_self (List.getElem?_eq_some_iff.1 h).1)
  | arrayItem h =>
    exact .arrayItem (List.getElem?_set_self (List.getElem?_eq_some_iff.1 h).1)
  | target t c => exact .target t x
  | member h =>
    exact .member (List.getElem?_set_self (List.getElem?_eq_some_iff.1 h).1)
  | ghost c => exact .ghost x

/-- A slot gives back what was put into it. -/
theorem child?_setChild_self {v c : Value} {slot : Slot} (h : v.child? slot = some c) (x : Value) :
    (v.setChild slot x).child? slot = some x :=
  child?_of_holds (holds_setChild (holds_of_child? h) x)

/-- The other slots are untouched. -/
theorem child?_setChild_ne {slot slot' : Slot} (hne : slot ≠ slot') (v x : Value) :
    (v.setChild slot x).child? slot' = v.child? slot' := by
  cases v with
  | scalar s => cases slot <;> rfl
  | mystery n => cases slot <;> rfl
  | list t items =>
    cases slot <;> cases slot' <;> try rfl
    rename_i i j
    exact List.getElem?_set_ne (fun h => hne (congrArg Slot.item h))
  | array t items =>
    cases slot <;> cases slot' <;> try rfl
    rename_i i j
    exact List.getElem?_set_ne (fun h => hne (congrArg Slot.item h))
  | pointer t target =>
    cases slot' with
    | target =>
      cases slot with
      | target => exact absurd rfl hne
      | _ => cases target <;> rfl
    | _ => cases target <;> cases slot <;> rfl
  | struct decl members hidden =>
    cases slot <;> cases slot' <;> try rfl
    rename_i i j
    simp only [setChild, child?_struct]
    exact List.getElem?_set_ne (fun h => hne (congrArg Slot.member h))
  | facade f y =>
    cases f with
    | liar => cases slot <;> rfl
    | ghost =>
      rcases slot with i | (_ | i) | _ <;> try rfl
      rcases slot' with j | (_ | _ | _ | j) | _ <;> try rfl
      exact absurd rfl hne

theorem setChild_setChild (v : Value) (slot : Slot) (x y : Value) :
    (v.setChild slot x).setChild slot y = v.setChild slot y := by
  cases v with
  | list t items => cases slot <;> simp [setChild]
  | array t items => cases slot <;> simp [setChild]
  | pointer t target => cases target <;> cases slot <;> rfl
  | struct decl members hidden => cases slot <;> simp [setChild]
  | facade f z => rcases f with _ | _ <;> rcases slot with i | (_ | i) | _ <;> rfl
  | _ => cases slot <;> rfl

/-- Putting back what a slot holds changes nothing. -/
theorem setChild_child? {v c : Value} {slot : Slot} (h : v.child? slot = some c) : v.setChild slot c = v := by
  have hset : ∀ {l : List Value} {i : Nat}, l[i]? = some c → l.set i c = l := fun hc => by
    obtain ⟨hi, rfl⟩ := List.getElem?_eq_some_iff.1 hc
    exact List.set_getElem_self hi
  cases holds_of_child? h with
  | listItem hc => simp only [setChild, hset hc]
  | arrayItem hc => simp only [setChild, hset hc]
  | target t c => rfl
  | member hc => simp only [setChild, hset hc]
  | ghost c => rfl

/-! ## What does not depend on the slots -/

@[simp] theorem info_setChild (v : Value) (slot : Slot) (x : Value) : (v.setChild slot x).info = v.info := by
  cases v with
  | pointer t target => cases target <;> cases slot <;> rfl
  | facade f y => rcases f with _ | _ <;> rcases slot with i | (_ | i) | _ <;> rfl
  | _ => cases slot <;> rfl

@[simp] theorem typePath_setChild (v : Value) (slot : Slot) (x : Value) :
    (v.setChild slot x).typePath = v.typePath := by
  rw [typePath, ← info_type, info_setChild, info_type, typePath]

@[simp] theorem type_setChild (v : Value) (slot : Slot) (x : Value) : (v.setChild slot x).type = v.type := by
  rw [← info_type, info_setChild, info_type]

@[simp] theorem kind_setChild (v : Value) (slot : Slot) (x : Value) : (v.setChild slot x).kind = v.kind := by
  cases v with
  | pointer t target => cases target <;> cases slot <;> rfl
  | facade f y => rcases f with _ | _ <;> rcases slot with i | (_ | i) | _ <;> rfl
  | _ => cases slot <;> rfl

/-- The length that a sequence reports. -/
def shownLen (v : Value) : Nat :=
  match v.view with
  | .list s | .array s => s.len
  | _ => 0

@[simp] theorem shownLen_setChild (v : Value) (slot : Slot) (x : Value) :
    (v.setChild slot x).shownLen = v.shownLen := by
  cases v with
  | list t items => cases slot <;> simp [setChild, shownLen, view]
  | array t items => cases slot <;> simp [setChild, shownLen, view]
  | pointer t target => cases target <;> cases slot <;> rfl
  | facade f y => rcases f with _ | _ <;> rcases slot with i | (_ | i) | _ <;> rfl
  | _ => cases slot <;> rfl

/-! ## Places -/

abbrev Place := List Slot

/-- The value at a place. -/
def at? (v : Value) : Place → Option Value
  | [] => some v
  | slot :: rest => (v.child? slot).bind (·.at? rest)

/-- The value with `x` at a place. -/
def setAt (v : Value) (place : Place) (x : Value) : Value :=
  match place with
  | [] => x
  | slot :: rest =>
    match v.child? slot with
    | some c => v.setChild slot (c.setAt rest x)
    | none => v

@[simp] theorem at?_nil (v : Value) : v.at? [] = some v := rfl
@[simp] theorem setAt_nil (v x : Value) : v.setAt [] x = x := rfl

theorem at?_cons {v c : Value} {slot : Slot} (h : v.child? slot = some c) (place : Place) :
    v.at? (slot :: place) = c.at? place := by
  rw [at?, h, Option.bind_some]

theorem setAt_cons {v c : Value} {slot : Slot} (h : v.child? slot = some c) (place : Place) (x : Value) :
    v.setAt (slot :: place) x = v.setChild slot (c.setAt place x) := by
  rw [setAt, h]

theorem at?_cons_eq_some {v w : Value} {slot : Slot} {place : Place} (h : v.at? (slot :: place) = some w) :
    ∃ c, v.child? slot = some c ∧ c.at? place = some w :=
  Option.bind_eq_some_iff.1 h

theorem at?_append {v c : Value} {place : Place} (h : v.at? place = some c) (rest : Place) :
    v.at? (place ++ rest) = c.at? rest := by
  induction place generalizing v with
  | nil => rw [at?_nil, Option.some.injEq] at h; rw [h, List.nil_append]
  | cons slot place ih =>
    obtain ⟨d, hd, hc⟩ := at?_cons_eq_some h
    rw [List.cons_append, at?_cons hd, ih hc]

theorem setAt_append {v c : Value} {place : Place} (h : v.at? place = some c) (rest : Place) (x : Value) :
    v.setAt (place ++ rest) x = v.setAt place (c.setAt rest x) := by
  induction place generalizing v with
  | nil => rw [at?_nil, Option.some.injEq] at h; rw [h, List.nil_append, setAt_nil]
  | cons slot place ih =>
    obtain ⟨d, hd, hc⟩ := at?_cons_eq_some h
    rw [List.cons_append, setAt_cons hd, setAt_cons hd, ih hc]

/-- The second of two replacements at a place wins. -/
theorem setAt_setAt {v w : Value} {place : Place} (h : v.at? place = some w) (x y : Value) :
    (v.setAt place x).setAt place y = v.setAt place y := by
  induction place generalizing v with
  | nil => rfl
  | cons slot place ih =>
    obtain ⟨c, hc, hw⟩ := at?_cons_eq_some h
    rw [setAt_cons hc, setAt_cons (child?_setChild_self hc _), setChild_setChild, ih hw, setAt_cons hc]

/-- Putting back what is at a place changes nothing. -/
theorem setAt_at? {v w : Value} {place : Place} (h : v.at? place = some w) : v.setAt place w = v := by
  induction place generalizing v with
  | nil => exact (Option.some.inj h).symm
  | cons slot place ih =>
    obtain ⟨c, hc, hw⟩ := at?_cons_eq_some h
    rw [setAt_cons hc, ih hw, setChild_child? hc]

/-! ## Chains of pointers -/

/-- The place behind the pointers that a value starts with. -/
def chain : Value → Place
  | .pointer _ (some v) => .target :: v.chain
  | _ => []

theorem kind_ne_of_chainEnd? {v w : Value} (h : v.chainEnd? = some w) : w.kind ≠ .pointer := by
  fun_induction chainEnd? v with
  | case1 t v ih => exact ih h
  | case2 t => cases h
  | case3 v hsome hnone =>
    cases h
    cases w with
    | pointer t target => cases target with
      | none => exact (hnone t rfl).elim
      | some v => exact (hsome t v rfl).elim
    | facade f x => cases f <;> nofun
    | _ => nofun

/-- A value that is no pointer has none in front. -/
theorem chainEnd?_of_kind {w : Value} (h : w.kind ≠ .pointer) : w.chainEnd? = some w ∧ w.chain = [] := by
  cases w with
  | pointer t target => exact absurd rfl h
  | _ => exact ⟨rfl, rfl⟩

theorem at?_chain {v w : Value} (h : v.chainEnd? = some w) : v.at? v.chain = some w := by
  fun_induction chainEnd? v with
  | case1 t v ih => exact ih h
  | case2 t => cases h
  | case3 v hsome hnone =>
    cases h
    rw [chain, at?_nil]
    exact hsome

theorem mapChainEnd_eq {v w : Value} (h : v.chainEnd? = some w) (f : Value → Value) :
    v.mapChainEnd f = v.setAt v.chain (f w) := by
  fun_induction chainEnd? v with
  | case1 t v ih => rw [mapChainEnd, ih h, chain]; rfl
  | case2 t => cases h
  | case3 v hsome hnone =>
    cases h
    rw [mapChainEnd, chain, setAt_nil]
    · exact hsome
    · exact hsome
    · exact hnone

/-- Replacing what the pointers in front lead to leaves the pointers. -/
theorem chain_setAt_chain {v w u : Value} (h : v.chainEnd? = some w) (hu : u.kind ≠ .pointer) :
    (v.setAt v.chain u).chainEnd? = some u ∧ (v.setAt v.chain u).chain = v.chain := by
  fun_induction chainEnd? v with
  | case1 t v ih =>
    obtain ⟨hend, hchain⟩ := ih h
    rw [chain, setAt_cons (c := v) rfl]
    exact ⟨hend, congrArg _ hchain⟩
  | case2 t => cases h
  | case3 v hsome hnone =>
    rw [chain, setAt_nil]
    · exact chainEnd?_of_kind hu
    · exact hsome

end Value

end Reflection
