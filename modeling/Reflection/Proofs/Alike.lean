import Reflection.Access.Typed
import Reflection.Proofs.Run
/-!
# Values that differ behind a veil

A `Veil` says what of a value may be anything of its type: members of some accesses, none of which can be
read, and hidden fields or not. Two values are `Alike` if they differ only there, however deep inside. What
they show of themselves is the same (`info_eq`, `kind_eq`, `shownLen_eq`), a path leads to the same place in
both or fails in both for the same reason (`find`), and what is read there is alike again. So the accesses
answer both alike, and leave alike what they change (`get_alike`, `edit_alike`, `assign_alike`).
-/

namespace Reflection

/-! ## Results of two runs -/

/-- Both fail with the same error, or both succeed with related results. -/
inductive Matches {ε α β : Type} (R : α → β → Prop) : Except ε α → Except ε β → Prop
  | error (e : ε) : Matches R (.error e) (.error e)
  | ok {a : α} {b : β} (h : R a b) : Matches R (.ok a) (.ok b)

theorem rel_cases {α β : Type} {R : α → β → Prop} {a? : Option α} {b? : Option β} (h : Option.Rel R a? b?) :
    (a? = none ∧ b? = none) ∨ ∃ a b, a? = some a ∧ b? = some b ∧ R a b := by
  cases h with
  | some h => exact .inr ⟨_, _, rfl, rfl, h⟩
  | none => exact .inl ⟨rfl, rfl⟩

namespace Matches
variable {ε α β γ δ : Type} {R : α → β → Prop} {S : γ → δ → Prop} {r : Except ε α} {r' : Except ε β}

theorem cases (h : Matches R r r') :
    (∃ e, r = .error e ∧ r' = .error e) ∨ ∃ a b, r = .ok a ∧ r' = .ok b ∧ R a b := by
  cases h with
  | error e => exact .inl ⟨e, rfl, rfl⟩
  | ok h => exact .inr ⟨_, _, rfl, rfl, h⟩

theorem bind {f : α → Except ε γ} {g : β → Except ε δ} (h : Matches R r r')
    (hfg : ∀ a b, R a b → Matches S (f a) (g b)) : Matches S (r.bind f) (r'.bind g) := by
  cases h with
  | error e => exact .error e
  | ok h => exact hfg _ _ h

theorem map {f : α → γ} {g : β → δ} (h : Matches R r r') (hfg : ∀ a b, R a b → S (f a) (g b)) :
    Matches S (r.map f) (r'.map g) := by
  cases h with
  | error e => exact .error e
  | ok h => exact .ok (hfg _ _ h)

end Matches

/-! ## Veils -/

/-- What may differ between two values. Nothing that can be read is behind a veil. -/
structure Veil where
  members : Access → Bool
  hidden : Bool
  unreadable : ∀ access, members access = true → access.isReadable = false

namespace Veil

/-- Members that can only be written. -/
def writeOnly : Veil := ⟨(· == .writeOnly), false, by rintro (_ | _ | _) h <;> first | rfl | cases h⟩

/-- The fields that are no members. -/
def hiddenFields : Veil := ⟨fun _ => false, true, fun _ h => nomatch h⟩

/-- Whether a slot of a value is behind the veil, by the info of the value. -/
def covers (veil : Veil) : TypeInfo → Slot → Bool
  | .struct info, .member i => (info.memberAt? i).any fun m => veil.members m.access
  | _, _ => false

theorem covers_hiddenFields (info : TypeInfo) (slot : Slot) : hiddenFields.covers info slot = false := by
  unfold covers hiddenFields
  split
  · simp
  · rfl

theorem members_of_readable (veil : Veil) {access : Access} (h : access.isReadable = true) :
    veil.members access = false := by
  cases hveiled : veil.members access with
  | false => rfl
  | true => rw [veil.unreadable access hveiled] at h; cases h

/-- What a segment stands for that is read is not behind a veil. -/
theorem covers_of_read (veil : Veil) {v : Value} {s : Segment} {slot : Slot} (h : v.slot? .read s = some slot) :
    veil.covers v.info slot = false := by
  cases s with
  | index i =>
    rw [Value.slot?_index h]
    cases v.info <;> rfl
  | member name =>
    obtain ⟨info, m, hinfo, hm, hallows, rfl⟩ := Value.slot?_member h
    obtain ⟨-, hat⟩ := StructInfo.member?_eq_some hm
    rw [hinfo, covers, hat, Option.any_some]
    exact veil.members_of_readable hallows

end Veil

namespace Value

/-- Two values that differ only behind a veil. What is behind it has the same types. -/
inductive Alike (veil : Veil) : Value → Value → Prop
  | scalar (s : Scalar) : Alike veil (.scalar s) (.scalar s)
  | mystery (n : Int) : Alike veil (.mystery n) (.mystery n)
  | list {t : ListType} {items items' : List Value} (hlen : items.length = items'.length)
    (hitems : ∀ (i : Nat) (c d : Value), items[i]? = some c → items'[i]? = some d → Alike veil c d) :
    Alike veil (.list t items) (.list t items')
  | array {t : ArrayType} {items items' : List Value} (hlen : items.length = items'.length)
    (hitems : ∀ (i : Nat) (c d : Value), items[i]? = some c → items'[i]? = some d → Alike veil c d) :
    Alike veil (.array t items) (.array t items')
  | null (t : PointerType) : Alike veil (.pointer t none) (.pointer t none)
  | pointer (t : PointerType) {c d : Value} (h : Alike veil c d) : Alike veil (.pointer t (some c)) (.pointer t (some d))
  | struct {decl : StructDecl} {members members' hidden hidden' : List Value}
    (htypes : members.map type = members'.map type)
    (hmembers : ∀ (i : Nat) (c d : Value), members[i]? = some c → members'[i]? = some d →
      veil.covers (.struct decl.info) (.member i) = false → Alike veil c d)
    (hhiddenTypes : hidden.map type = hidden'.map type)
    (hhidden : ∀ (i : Nat) (c d : Value), hidden[i]? = some c → hidden'[i]? = some d → veil.hidden = false → Alike veil c d) :
    Alike veil (.struct decl members hidden) (.struct decl members' hidden')
  | ghost {c d : Value} (h : Alike veil c d) : Alike veil (.facade .ghost c) (.facade .ghost d)
  | liar (c : Value) : Alike veil (.facade .liar c) (.facade .liar c)

mutual
theorem alike_refl (veil : Veil) : ∀ v : Value, v.Alike veil v
  | .scalar s => .scalar s
  | .mystery n => .mystery n
  | .list _ items => .list rfl (alike_refl_items veil items)
  | .array _ items => .array rfl (alike_refl_items veil items)
  | .pointer t none => .null t
  | .pointer t (some v) => .pointer t (alike_refl veil v)
  | .struct _ members hidden =>
    .struct rfl (fun i c d hc hd _ => alike_refl_items veil members i c d hc hd) rfl
      fun i c d hc hd _ => alike_refl_items veil hidden i c d hc hd
  | .facade .ghost v => .ghost (alike_refl veil v)
  | .facade .liar v => .liar v

theorem alike_refl_items (veil : Veil) : ∀ (vs : List Value) (i : Nat) (c d : Value),
    vs[i]? = some c → vs[i]? = some d → c.Alike veil d
  | [], _, _, _, hc, _ => by cases hc
  | v :: _, 0, _, _, hc, hd => by
    cases hc
    cases hd
    exact alike_refl veil v
  | _ :: vs, i + 1, c, d, hc, hd => alike_refl_items veil vs i c d hc hd
end

/-! ## Two lists, item by item -/

theorem rel_getElem? {items items' : List Value} {R : Value → Value → Prop} (hlen : items.length = items'.length)
    {i : Nat} (h : ∀ c d, items[i]? = some c → items'[i]? = some d → R c d) : Option.Rel R items[i]? items'[i]? := by
  by_cases hi : i < items.length
  · rw [List.getElem?_eq_getElem hi, List.getElem?_eq_getElem (hlen ▸ hi)]
    exact .some (h _ _ (List.getElem?_eq_getElem hi) (List.getElem?_eq_getElem (hlen ▸ hi)))
  · rw [List.getElem?_eq_none (by omega), List.getElem?_eq_none (by omega)]
    exact .none

theorem length_of_types {items items' : List Value} (h : items.map type = items'.map type) :
    items.length = items'.length := by
  simpa using congrArg List.length h

theorem type_of_getElem? {items items' : List Value} {i : Nat} {c d : Value} (h : items.map type = items'.map type)
    (hc : items[i]? = some c) (hd : items'[i]? = some d) : c.type = d.type := by
  have hi := congrArg (·[i]?) h
  simpa [hc, hd] using hi

theorem set_pointwise {items items' : List Value} {x y : Value} {R : Nat → Value → Value → Prop} {i : Nat}
    (h : ∀ i c d, items[i]? = some c → items'[i]? = some d → R i c d) (hxy : R i x y) :
    ∀ j c d, (items.set i x)[j]? = some c → (items'.set i y)[j]? = some d → R j c d := by
  intro j c d hc hd
  by_cases hij : i = j
  · subst hij
    obtain ⟨hi, rfl⟩ : i < items.length ∧ x = c := by simpa [List.getElem?_set] using hc
    obtain ⟨hi', rfl⟩ : i < items'.length ∧ y = d := by simpa [List.getElem?_set] using hd
    exact hxy
  · rw [List.getElem?_set_ne hij] at hc hd
    exact h j c d hc hd

namespace Alike
variable {veil : Veil} {v w x y : Value}

/-! ## What alike values show -/

theorem info_eq (h : v.Alike veil w) : v.info = w.info := by
  cases h <;> rfl

theorem type_eq (h : v.Alike veil w) : v.type = w.type := by
  rw [← info_type, h.info_eq, info_type]

theorem typePath_eq (h : v.Alike veil w) : v.typePath = w.typePath :=
  congrArg Ty.path h.type_eq

theorem kind_eq (h : v.Alike veil w) : v.kind = w.kind := by
  cases h <;> rfl

theorem shownLen_eq (h : v.Alike veil w) : v.shownLen = w.shownLen := by
  cases h with
  | list hlen => exact congrArg (· + _) hlen
  | array hlen => exact hlen
  | _ => rfl

/-- An atom shows all that it is. -/
theorem eq_of_atom (h : v.Alike veil w) (hv : v.kind = .atom) : v = w := by
  cases h <;> first | rfl | cases hv

theorem slot?_eq (h : v.Alike veil w) (mode : Mode) (s : Segment) : v.slot? mode s = w.slot? mode s := by
  cases s <;> simp only [slot?, slotBy, h.info_eq, h.kind_eq]

theorem absent_eq (h : v.Alike veil w) (mode : Mode) (s : Segment) : v.absent mode s = w.absent mode s := by
  cases s <;> simp only [absent, memberNotFound, h.typePath_eq, h.kind_eq, h.shownLen_eq]

/-! ## Slots of alike values -/

/-- A slot is filled in both or in none, with values of one type that are alike unless the slot is covered. -/
theorem child? (h : v.Alike veil w) (slot : Slot) :
    Option.Rel (fun c d => c.type = d.type ∧ (veil.covers v.info slot = false → c.Alike veil d))
      (v.child? slot) (w.child? slot) := by
  cases h with
  | list hlen hitems =>
    cases slot with
    | item i => exact rel_getElem? hlen fun c d hc hd => ⟨(hitems i c d hc hd).type_eq, fun _ => hitems i c d hc hd⟩
    | _ => exact .none
  | array hlen hitems =>
    cases slot with
    | item i => exact rel_getElem? hlen fun c d hc hd => ⟨(hitems i c d hc hd).type_eq, fun _ => hitems i c d hc hd⟩
    | _ => exact .none
  | pointer t h =>
    cases slot with
    | target => exact .some ⟨h.type_eq, fun _ => h⟩
    | _ => exact .none
  | struct htypes hmembers =>
    cases slot with
    | member i =>
      rw [child?_struct, child?_struct]
      exact rel_getElem? (length_of_types htypes) fun c d hc hd => ⟨type_of_getElem? htypes hc hd, hmembers i c d hc hd⟩
    | _ => exact .none
  | ghost h =>
    -- A ghost has a value for its first member only.
    rcases slot with i | (_ | _ | _ | i) | _ <;> try exact .none
    exact .some ⟨h.type_eq, fun _ => h⟩
  | _ => cases slot <;> exact .none

/-- Values of one type go into a slot, alike ones unless it is covered. -/
theorem setChild {slot : Slot} (h : v.Alike veil w) (ht : x.type = y.type)
    (hxy : veil.covers v.info slot = false → x.Alike veil y) : (v.setChild slot x).Alike veil (w.setChild slot y) := by
  cases h with
  | list hlen hitems =>
    cases slot with
    | item i => exact .list (by simpa using hlen) (set_pointwise hitems (hxy rfl))
    | _ => exact .list hlen hitems
  | array hlen hitems =>
    cases slot with
    | item i => exact .array (by simpa using hlen) (set_pointwise hitems (hxy rfl))
    | _ => exact .array hlen hitems
  | null t => cases slot <;> exact .null t
  | pointer t h =>
    cases slot with
    | target => exact .pointer t (hxy rfl)
    | _ => exact .pointer t h
  | struct htypes hmembers hhiddenTypes hhidden =>
    cases slot with
    | member i =>
      refine .struct ?_ (set_pointwise hmembers hxy) hhiddenTypes hhidden
      rw [List.map_set, List.map_set, htypes, ht]
    | _ => exact .struct htypes hmembers hhiddenTypes hhidden
  | ghost h =>
    rcases slot with i | (_ | i) | _ <;> try exact .ghost h
    exact .ghost (hxy (veil.members_of_readable rfl))
  | liar c => cases slot <;> exact .liar c
  | scalar s => cases slot <;> exact .scalar s
  | mystery n => cases slot <;> exact .mystery n

/-- Putting another value of the same type into a covered slot is not seen. -/
theorem of_covered {slot : Slot} {c : Value} (hc : v.child? slot = some c) (ht : c.type = x.type)
    (hcovers : veil.covers v.info slot = true) : v.Alike veil (v.setChild slot x) := by
  have h : (v.setChild slot c).Alike veil (v.setChild slot x) := by
    refine (alike_refl veil v).setChild ht fun hshown => ?_
    rw [hcovers] at hshown
    cases hshown
  rwa [setChild_child? hc] at h

/-! ## Behind the pointers -/

theorem chain_eq (h : v.Alike veil w) : v.chain = w.chain := by
  induction h with
  | pointer t h ih => exact congrArg (Slot.target :: ·) ih
  | _ => rfl

theorem chainEnd? (h : v.Alike veil w) : Option.Rel (Alike veil) v.chainEnd? w.chainEnd? := by
  induction h with
  | pointer t h ih => exact ih
  | null t => exact .none
  | scalar s => exact .some (.scalar s)
  | mystery n => exact .some (.mystery n)
  | list hlen hitems => exact .some (.list hlen hitems)
  | array hlen hitems => exact .some (.array hlen hitems)
  | struct htypes hmembers hhiddenTypes hhidden => exact .some (.struct htypes hmembers hhiddenTypes hhidden)
  | ghost h => exact .some (.ghost h)
  | liar c => exact .some (.liar c)

theorem mapChainEnd {f g : Value → Value} (h : v.Alike veil w)
    (hfg : ∀ c d, v.chainEnd? = some c → w.chainEnd? = some d → (f c).Alike veil (g d)) :
    (v.mapChainEnd f).Alike veil (w.mapChainEnd g) := by
  induction h with
  | pointer t h ih => exact .pointer t (ih hfg)
  | null t => exact .null t
  | _ => exact hfg _ _ rfl rfl

end Alike

/-! ## Paths into alike values -/

/-- What one path finds in two values: the same place, with values of one type there, that are alike if they
were read. `put` and `put'` put a value into a place; alike values can take the place of what was found. -/
structure FoundAlike {P : Type} (veil : Veil) (mode : Mode) (put put' : P → Value → Value) (found found' : P × Value) :
    Prop where
  place : found.1 = found'.1
  type : found.2.type = found'.2.type
  value : mode = .read → found.2.Alike veil found'.2
  hole : ∀ x y, x.Alike veil y → (put found.1 x).Alike veil (put' found'.1 y)

namespace Alike
variable {veil : Veil} {v w : Value}

theorem step (h : v.Alike veil w) (mode : Mode) (s : Segment) :
    Matches (FoundAlike veil mode (fun slot x => v.mapChainEnd (·.setChild slot x)) fun slot x => w.mapChainEnd (·.setChild slot x))
      (v.step mode s) (w.step mode s) := by
  obtain ⟨hv, hw⟩ | ⟨a, b, hv, hw, hend⟩ := rel_cases h.chainEnd?
  · rw [step_null hv, step_null hw]
    exact .error _
  · rw [step_eq hv, step_eq hw, hend.slot?_eq, hend.absent_eq]
    cases hs : b.slot? mode s with
    | none => exact .error _
    | some slot =>
      rw [Option.bind_some, Option.bind_some, filled?, filled?]
      obtain ⟨hc, hd⟩ | ⟨c, d, hc, hd, htype, hcd⟩ := rel_cases (hend.child? slot)
      · rw [hc, hd]
        exact .error _
      · rw [hc, hd]
        refine .ok ⟨rfl, htype, ?_, ?_⟩
        · rintro rfl
          exact hcd (hend.info_eq ▸ veil.covers_of_read hs)
        · intro x y hxy
          refine h.mapChainEnd fun a' b' ha' hb' => ?_
          obtain rfl : a = a' := Option.some.inj (hv.symm.trans ha')
          obtain rfl : b = b' := Option.some.inj (hw.symm.trans hb')
          exact hend.setChild hxy.type_eq fun _ => hxy

theorem find (h : v.Alike veil w) (mode : Mode) (position : Nat) (path : List Segment) :
    Matches (FoundAlike veil mode v.setAt w.setAt) (v.find mode position path) (w.find mode position path) := by
  induction path generalizing v w position with
  | nil => exact .ok ⟨rfl, h.type_eq, fun _ => h, fun x y hxy => hxy⟩
  | cons s rest ih =>
    obtain ⟨cause, hv, hw⟩ | ⟨⟨slot, c⟩, ⟨slot', d⟩, hv, hw, hslot, htype, hvalue, hhole⟩ := (h.step (mode.before rest) s).cases
    · rw [find_error hv, find_error hw]
      exact .error _
    · obtain rfl : slot = slot' := hslot
      -- What the last segment finds need not be alike if it is written; what was found before is read.
      have hlater : Matches (FoundAlike veil mode c.setAt d.setAt)
          (c.find mode (position + 1) rest) (d.find mode (position + 1) rest) := by
        cases rest with
        | nil => exact .ok ⟨rfl, htype, hvalue, fun x y hxy => hxy⟩
        | cons t rest => exact ih (hvalue rfl) (position + 1)
      rw [find_ok hv, find_ok hw]
      refine hlater.map fun ⟨place, a⟩ ⟨place', b⟩ hfound => ?_
      obtain rfl : place = place' := hfound.place
      refine ⟨congrArg (· ++ slot :: place) h.chain_eq, hfound.type, hfound.value, fun x y hxy => ?_⟩
      rw [setAt_enter hv, setAt_enter hw]
      exact hhole _ _ (hfound.hole x y hxy)

/-! ## Typed access -/

/-- What is no pointer to something leads to nothing. -/
theorem target_eq_none (h : v.Alike veil w) (hv : ∀ p c, v = .pointer p (some c) → False) :
    ∀ p d, w = .pointer p (some d) → False := by
  cases h with
  | pointer p h => exact (hv p _ rfl).elim
  | _ => nofun

theorem through? (h : v.Alike veil w) (t : Ty) : Option.Rel (Alike veil) (v.through? t) (w.through? t) := by
  fun_induction Value.through? t v generalizing w with
  | case1 v ht =>
    unfold Value.through?
    rw [if_pos (h.type_eq ▸ ht)]
    exact .some h
  | case2 p c ht ih =>
    cases h with
    | pointer p h =>
      rename_i d
      have htd : ¬ (Value.pointer p (some d)).type = t := ht
      rw [Value.through?, if_neg htd]
      exact ih h
  | case3 v ht hv =>
    unfold Value.through?
    rw [if_neg (h.type_eq ▸ ht)]
    split
    · exact (h.target_eq_none hv _ _ rfl).elim
    · exact .none

theorem focusThrough (h : v.Alike veil w) (t : Ty) (e : PathError) :
    Matches (fun focus focus' => focus.part.Alike veil focus'.part ∧
        ∀ x y, x.Alike veil y → (focus.whole x).Alike veil (focus'.whole y))
      (v.focusThrough t e) (w.focusThrough t e) := by
  fun_induction Value.focusThrough t e v generalizing w with
  | case1 p c ht ih =>
    cases h with
    | pointer p h =>
      rename_i d
      have htd : (Value.pointer p (some d)).type ≠ t := ht
      rw [Value.focusThrough, if_pos htd]
      refine (ih h).map fun focus focus' hfocus => ⟨hfocus.1, fun x y hxy => .pointer p (hfocus.2 x y hxy)⟩
  | case2 v ht hv =>
    unfold Value.focusThrough
    rw [if_pos (h.type_eq ▸ ht)]
    split
    · exact (h.target_eq_none hv _ _ rfl).elim
    · exact .error e
  | case3 v ht u hu =>
    have htw : w.type = t := h.type_eq ▸ Decidable.of_not_not ht
    obtain rfl : v = u := Option.some.inj ((if_pos (Decidable.of_not_not ht)).symm.trans hu)
    unfold Value.focusThrough
    rw [if_neg (not_not_intro htw), as?, if_pos htw]
    exact .ok ⟨h, fun x y hxy => hxy⟩
  | case4 v ht hv =>
    rw [as?, if_pos (Decidable.of_not_not ht)] at hv
    cases hv

theorem editThrough {α : Type} {R : α → α → Prop} {f g : Value → Value × α} (h : v.Alike veil w)
    (hfg : ∀ x y, x.Alike veil y → (f x).1.Alike veil (g y).1 ∧ R (f x).2 (g y).2) (t : Ty) :
    (v.editThrough t f).1.Alike veil (w.editThrough t g).1 ∧ Matches R (v.editThrough t f).2 (w.editThrough t g).2 := by
  rw [Value.editThrough, Value.editThrough, h.typePath_eq]
  obtain ⟨e, hv, hw⟩ | ⟨focus, focus', hv, hw, hpart, hwhole⟩ :=
    (h.focusThrough t (.invalidDowncast t.path w.typePath)).cases
  · rw [hv, hw]
    exact ⟨h, .error e⟩
  · rw [hv, hw]
    obtain ⟨hnew, hanswer⟩ := hfg _ _ hpart
    exact ⟨hwhole _ _ hnew, .ok hanswer⟩

end Alike

end Value

/-! ## Accesses to alike roots -/

section Access
variable {veil : Veil} {v w : Value}

theorem get_alike (h : v.Alike veil w) (route : Route) :
    Matches (Value.Alike veil) (get .direct v route ()).result (get .direct w route ()).result := by
  rw [get_eq, get_eq]
  cases route.segments with
  | error e => exact .error _
  | ok path =>
    rw [Value.getFrom_find, Value.getFrom_find]
    exact (h.find .read 0 path).map fun found found' hfound => hfound.value rfl

theorem edit_alike {α : Type} {R : α → α → Prop} {f g : Value → Value × α} (h : v.Alike veil w)
    (hfg : ∀ x y, x.Alike veil y → (f x).1.Alike veil (g y).1 ∧ R (f x).2 (g y).2) (route : Route) :
    Matches R (edit .direct v route f ()).result (edit .direct w route g ()).result ∧
      (edit .direct v route f ()).root.Alike veil (edit .direct w route g ()).root := by
  cases hroute : route.segments with
  | error e =>
    simp only [edit_eq, hroute]
    exact ⟨.error _, h⟩
  | ok path =>
    show Matches R (edit .direct v route f ()).outcome.1 (edit .direct w route g ()).outcome.1 ∧
      (edit .direct v route f ()).outcome.2.Alike veil (edit .direct w route g ()).outcome.2
    rw [edit_route hroute, edit_route hroute]
    obtain ⟨e, hv, hw⟩ | ⟨found, found', hv, hw, hfound⟩ := (h.find .read 0 path).cases
    · rw [hv, hw]
      exact ⟨.error e, h⟩
    · rw [hv, hw]
      obtain ⟨hroot, hanswer⟩ := hfg _ _ (hfound.value rfl)
      exact ⟨.ok hanswer, hfound.hole _ _ hroot⟩

theorem getAs_alike (h : v.Alike veil w) (route : Route) (t : Ty) :
    Matches (Value.Alike veil) (getAs .direct v route t ()).result (getAs .direct w route t ()).result := by
  refine (get_alike h route).bind fun x y hxy => ?_
  obtain ⟨hx, hy⟩ | ⟨a, b, hx, hy, hab⟩ := rel_cases (hxy.through? t)
  · simp only [hx, hy, hxy.typePath_eq]
    exact .error _
  · simp only [hx, hy]
    exact .ok hab

theorem editAs_alike {α : Type} {R : α → α → Prop} {f g : Value → Value × α} (h : v.Alike veil w)
    (hfg : ∀ x y, x.Alike veil y → (f x).1.Alike veil (g y).1 ∧ R (f x).2 (g y).2) (route : Route) (t : Ty) :
    Matches R (editAs .direct v route t f ()).result (editAs .direct w route t g ()).result ∧
      (editAs .direct v route t f ()).root.Alike veil (editAs .direct w route t g ()).root := by
  have hedit := edit_alike (R := Matches R) h (fun x y hxy => hxy.editThrough hfg t) route
  exact ⟨hedit.1.bind fun a b hab => hab, hedit.2⟩

/-- Alike values can be written to alike roots with the same answer. -/
theorem assign_alike {x y : Value} (h : v.Alike veil w) (hxy : x.Alike veil y) (route : Route) :
    (assign .direct v route x ()).result = (assign .direct w route y ()).result ∧
      (assign .direct v route x ()).root.Alike veil (assign .direct w route y ()).root := by
  show (assign .direct v route x ()).outcome.1 = (assign .direct w route y ()).outcome.1 ∧
    (assign .direct v route x ()).outcome.2.Alike veil (assign .direct w route y ()).outcome.2
  by_cases hroute : ∃ p, route.segments = .ok p ∧ p ≠ []
  · obtain ⟨p, hp, hne⟩ := hroute
    rw [assign_route hp hne, assign_route hp hne]
    obtain ⟨e, hv, hw⟩ | ⟨⟨place, old⟩, ⟨place', old'⟩, hv, hw, hplace, htype, -, hhole⟩ := (h.find .write 0 p).cases
    · rw [hv, hw]
      exact ⟨rfl, h⟩
    · obtain rfl : place = place' := hplace
      obtain htype : old.type = old'.type := htype
      have hpath : old.typePath = old'.typePath := congrArg Ty.path htype
      rw [hv, hw, putFound, putFound, hxy.type_eq, hxy.typePath_eq, htype, hpath]
      by_cases ht : y.type = old'.type
      · rw [if_pos ht, if_pos ht]
        exact ⟨rfl, hhole x y hxy⟩
      · rw [if_neg ht, if_neg ht]
        exact ⟨rfl, h⟩
  · have hnone : ∀ p, route.segments = .ok p → p = [] := by simpa using hroute
    obtain ⟨e, he⟩ := assign_of_no_segments hnone
    rw [he, he]
    exact ⟨rfl, h⟩

/-- Two roots answer each access of a route alike, and are alike after it. An edit hands out what it finds, and
does not look behind the veil. -/
structure AnswerAlike (veil : Veil) (v w : Value) (route : Route) : Prop where
  get : Matches (Value.Alike veil) (get .direct v route ()).result (get .direct w route ()).result
  getAs : ∀ t, Matches (Value.Alike veil) (getAs .direct v route t ()).result (getAs .direct w route t ()).result
  edit : ∀ f : Value → Value, (∀ x y, x.Alike veil y → (f x).Alike veil (f y)) →
    let done := edit .direct v route (fun c => (f c, c)) ()
    let done' := edit .direct w route (fun c => (f c, c)) ()
    Matches (Value.Alike veil) done.result done'.result ∧ done.root.Alike veil done'.root
  editAs : ∀ (f : Value → Value) (t : Ty), (∀ x y, x.Alike veil y → (f x).Alike veil (f y)) →
    let done := editAs .direct v route t (fun c => (f c, c)) ()
    let done' := editAs .direct w route t (fun c => (f c, c)) ()
    Matches (Value.Alike veil) done.result done'.result ∧ done.root.Alike veil done'.root
  assign : ∀ x : Value,
    let done := assign .direct v route x ()
    let done' := assign .direct w route x ()
    done.result = done'.result ∧ done.root.Alike veil done'.root

theorem Value.Alike.answer (h : v.Alike veil w) (route : Route) : AnswerAlike veil v w route where
  get := get_alike h route
  getAs := getAs_alike h route
  edit _ hf := edit_alike h (fun x y hxy => ⟨hf x y hxy, hxy⟩) route
  editAs _ t hf := editAs_alike h (fun x y hxy => ⟨hf x y hxy, hxy⟩) route t
  assign x := assign_alike h (Value.alike_refl veil x) route

end Access

/-! ## Write-only members -/

theorem Matches.eq_of_atom {veil : Veil} {r r' : Except PathError Value} {a b : Value} (h : Matches (Value.Alike veil) r r')
    (ha : r = .ok a) (hb : r' = .ok b) (hatom : a.kind = .atom) : a = b := by
  subst ha hb
  cases h with
  | ok hab => exact hab.eq_of_atom hatom

/-- What stands in write-only members cannot be told by any access at a path: the answers are alike, and those
that are atoms are the same. -/
theorem writeOnly_unseen {v w : Value} (h : v.Alike .writeOnly w) (route : Route) :
    AnswerAlike .writeOnly v w route ∧
    (∀ a b, (get .direct v route ()).result = .ok a → (get .direct w route ()).result = .ok b → a.kind = .atom → a = b) ∧
    ∀ f : Value → Value, (∀ x y, x.Alike .writeOnly y → (f x).Alike .writeOnly (f y)) → ∀ a b,
      (edit .direct v route (fun c => (f c, c)) ()).result = .ok a →
      (edit .direct w route (fun c => (f c, c)) ()).result = .ok b → a.kind = .atom → a = b := by
  have hanswer := h.answer route
  refine ⟨hanswer, ?_, ?_⟩
  · intro a b ha hb hatom
    exact hanswer.get.eq_of_atom ha hb hatom
  · intro f hf a b ha hb hatom
    exact (hanswer.edit f hf).1.eq_of_atom ha hb hatom

/-- Two values that differ in `secret`: it is refused in both, and it can be written in both. -/
theorem writeOnly_unseen_secret :
    let v := Sample.valueA
    let w := v.setChild (.member 4) (.scalar (.string "open"))
    let secret : Route := .path ⟨[.member "secret"], List.cons_ne_nil _ _⟩
    v ≠ w ∧ v.Alike .writeOnly w ∧
    (get .direct w secret ()).result = .error (.lookup ⟨.memberNotFound "secret" "pwdrv::fix::A" .read, .member "secret", 0⟩) ∧
    (assign .direct w secret (.scalar (.string "one")) ()).result = .ok () := by
  intro v w secret
  have hne : v ≠ w := by
    intro h
    have hsecret : some (Value.scalar (.string "")) = some (.scalar (.string "open")) := congrArg (·.child? (.member 4)) h
    exact absurd (Value.scalar.inj (Option.some.inj hsecret)) (by decide)
  have halike : v.Alike .writeOnly w := .of_covered (c := .scalar (.string "")) rfl rfl rfl
  obtain ⟨hanswer, -, -⟩ := writeOnly_unseen halike secret
  refine ⟨hne, halike, ?_, (hanswer.assign _).1.symm.trans rfl⟩
  have hget := hanswer.get
  generalize (get .direct w secret ()).result = r at hget ⊢
  cases hget with
  | error e => rfl

end Reflection
