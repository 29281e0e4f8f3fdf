import Reflection.Proofs.Agreement
/-!
# Typed access through pointers

The links of a value are the value itself, what it points to, what that points to, and so on, up to the first
that is no pointer, or is null (`Value.links_eq`). To read as a type is to look for the first link of the type
(`through?_eq`). To change as a type is to go on while a link is of another type, and comes to hold the same
link, in the place that so many pointers lead to (`focusThrough_eq`). What is put there takes the place of the
rest of the chain, and the pointers in front of it stay (`links_setAt`).
-/

namespace Reflection

namespace Value

/-! ## The links of a value -/

/-- The chain of pointers that starts with a value, up to the first value that is no pointer, or is null. -/
def links : Value → List Value
  | .pointer p (some w) => .pointer p (some w) :: w.links
  | v => [v]

variable {v w : Value} {t : Ty}

theorem links_eq (v : Value) : v.links = v :: (v.child? .target).elim [] links := by
  rcases v with _ | _ | _ | _ | ⟨p, _ | w⟩ | _ | ⟨_ | _, x⟩ <;> rfl

/-- What is put in the place of a link comes with its own links, behind pointers of the types that were there. None
of them is null. -/
theorem links_setAt {n : Nat} (h : v.links[n]? = some w) (x : Value) :
    ∃ before, (v.setAt (List.replicate n .target) x).links = before ++ x.links ∧
      before.map type = (v.links.take n).map type ∧ ∀ u ∈ before, u.kind = .pointer ∧ u.child? .target ≠ none := by
  induction n generalizing v with
  | zero => exact ⟨[], rfl, rfl, nofun⟩
  | succ n ih =>
    rw [links_eq, List.getElem?_cons_succ] at h
    cases hv : v.child? .target with
    | none => rw [hv] at h; cases h
    | some c =>
      rw [hv] at h
      obtain ⟨before, hlinks, htypes, hfull⟩ := ih h
      let y := c.setAt (List.replicate n .target) x
      have hy : (v.setChild .target y).child? .target = some y := child?_setChild_self hv y
      have hpointer : (v.setChild .target y).kind = .pointer := by
        rw [kind_setChild]
        cases holds_of_child? hv
        rfl
      refine ⟨v.setChild .target y :: before, ?_, ?_, ?_⟩
      · rw [List.replicate_succ, setAt_cons hv, links_eq, hy, Option.elim_some, hlinks, List.cons_append]
      · rw [List.map_cons, type_setChild, htypes, links_eq v, hv]
        rfl
      · rw [List.forall_mem_cons, hy]
        exact ⟨⟨hpointer, nofun⟩, hfull⟩

/-! ## The first link of a type -/

theorem through?_eq (t : Ty) (v : Value) : v.through? t = v.links.find? (fun u => u.type = t) := by
  fun_induction through? t v with
  | case1 v ht => simp [links_eq v, ht]
  | case2 p w ht ih => simp [links, ht, ih]
  | case3 v ht hv =>
    rw [links]
    · simp [ht]
    · exact hv

/-- How many pointers are in front of the first link of the type. -/
def linksBefore (t : Ty) (v : Value) : Nat := v.links.findIdx (fun u => u.type = t)

/-- To change goes on as to read does, and holds what is read in its place. -/
theorem focusThrough_eq (t : Ty) (e : PathError) (v : Value) :
    v.focusThrough t e =
      (v.through? t).elim (.error e) fun w => .ok ⟨w, v.setAt (List.replicate (v.linksBefore t) .target)⟩ := by
  fun_induction focusThrough t e v with
  | case1 p w ht ih =>
    have hfirst : (pointer p (some w)).through? t = w.through? t := by rw [through?, if_neg ht]
    have hbefore : (pointer p (some w)).linksBefore t = w.linksBefore t + 1 := by
      simp [linksBefore, links, List.findIdx_cons, ht]
    rw [ih, hfirst, hbefore]
    cases w.through? t <;> rfl
  | case2 v ht hv =>
    rw [through?, if_neg ht]
    · rfl
    · exact hv
  | case3 v ht w hw =>
    have ht : v.type = t := Decidable.of_not_not ht
    obtain rfl : v = w := by simpa [as?, ht] using hw
    have hbefore : v.linksBefore t = 0 := by simp [linksBefore, links_eq v, List.findIdx_cons, ht]
    unfold through?
    rw [hbefore, if_pos ht]
    rfl
  | case4 v ht hv => simp [as?, ht] at hv

theorem editThrough_eq {α : Type} (t : Ty) (f : Value → Value × α) (v : Value) :
    v.editThrough t f =
      (v.through? t).elim (v, .error (.invalidDowncast t.path v.typePath)) fun w =>
        (v.setAt (List.replicate (v.linksBefore t) .target) (f w).1, .ok (f w).2) := by
  rw [editThrough, focusThrough_eq]
  cases v.through? t <;> rfl

theorem getElem?_linksBefore (h : v.through? t = some w) : v.links[v.linksBefore t]? = some w := by
  rw [through?_eq] at h
  exact List.find?_eq_getElem?_findIdx.symm.trans h

/-- What is put in the place of the first link of its type is the first one then. -/
theorem through?_setAt {x : Value} (h : v.through? t = some w) (hx : x.type = t) :
    (v.setAt (List.replicate (v.linksBefore t) .target) x).through? t = some x := by
  obtain ⟨before, hlinks, htypes, -⟩ := links_setAt (getElem?_linksBefore h) x
  have hbefore : before.find? (fun u => u.type = t) = none := by
    rw [List.find?_eq_none]
    intro u hu
    obtain ⟨u', hu', htype⟩ := List.mem_map.1 (htypes ▸ List.mem_map_of_mem hu)
    obtain ⟨i, hi, rfl⟩ := List.mem_take_iff_getElem.1 hu'
    rw [← htype, List.not_of_lt_findIdx (Nat.lt_of_lt_of_le hi (Nat.min_le_left _ _))]
    exact Bool.false_ne_true
  rw [through?_eq, hlinks, List.find?_append, hbefore, Option.none_or, links_eq]
  exact List.find?_cons_of_pos (by simp [hx])

end Value

/-! ## The accesses -/

section Access
variable {root v w x : Value} {route : Route} {p : List Segment} {place : Value.Place} {t : Ty}

theorem find_of_get (h : (get .direct root route ()).result = .ok v) :
    ∃ p place, route.segments = .ok p ∧ root.find .read 0 p = .ok (place, v) := by
  cases hp : route.segments with
  | error e => rw [get_eq, hp] at h; cases h
  | ok p =>
    rw [get_route hp] at h
    obtain ⟨⟨place, w⟩, hfind, rfl⟩ := map_eq_ok h
    exact ⟨p, place, rfl, hfind⟩

theorem getAs_of_get (h : (get .direct root route ()).result = .ok v) (t : Ty) :
    (getAs .direct root route t ()).result =
      (v.through? t).elim (.error (.invalidDowncast t.path v.typePath)) .ok := by
  simp only [getAs, h, Except.bind]
  cases v.through? t <;> rfl

theorem editAs_outcome {α : Type} (root : Value) (route : Route) (t : Ty) (f : Value → Value × α) :
    (editAs .direct root route t f ()).outcome =
      let (result, root) := (edit .direct root route (Value.editThrough t f) ()).outcome
      (result.bind fun answer => answer, root) := rfl

/-- A change as a type is made to the first link of the type, in its place. -/
theorem editAs_of_find {α : Type} (hp : route.segments = .ok p) (h : root.find .read 0 p = .ok (place, v)) (t : Ty)
    (f : Value → Value × α) :
    (editAs .direct root route t f ()).outcome =
      (v.through? t).elim (.error (.invalidDowncast t.path v.typePath), root) fun w =>
        (.ok (f w).2, root.setAt (place ++ List.replicate (v.linksBefore t) .target) (f w).1) := by
  have hat : root.at? place = some v := Value.at?_find h
  rw [editAs_outcome, edit_route hp, h, changeFound, Value.editThrough_eq]
  cases v.through? t with
  | none => exact congrArg _ (Value.setAt_at? hat)
  | some w => exact congrArg _ (Value.setAt_append hat _ _).symm

/-- What the root `root'` shows after `x` has been stored in `root` as a value of type `t`, where `v` was read: `x`
itself, behind as many pointers as were in front of the first link of the type, and nothing new on the paths that
fork off. -/
structure Stored (root : Value) (route : Route) (t : Ty) (v x root' : Value) : Prop where
  typed : (getAs .direct root' route t ()).result = .ok x
  links : ∃ v' front, (get .direct root' route ()).result = .ok v' ∧ v'.links = front ++ x.links ∧
    front.map Value.type = (v.links.take (v.linksBefore t)).map Value.type ∧
    ∀ u ∈ front, u.kind = .pointer ∧ u.child? .target ≠ none
  others : ∀ (other : Route) (p q : List Segment), route.segments = .ok p → other.segments = .ok q →
    ¬ p <+: q → ¬ q <+: p →
      (get .direct root' other ()).result = (get .direct root other ()).result ∧
      ∀ t, (getAs .direct root' other t ()).result = (getAs .direct root other t ()).result

theorem stored_setAt (hp : route.segments = .ok p) (h : root.find .read 0 p = .ok (place, v))
    (hw : v.through? t = some w) (hx : x.type = t) :
    Stored root route t v x (root.setAt (place ++ List.replicate (v.linksBefore t) .target) x) := by
  rw [Value.setAt_append (Value.at?_find h)]
  have hfirst := Value.through?_setAt hw hx
  obtain ⟨front, hlinks, htypes, hfull⟩ := Value.links_setAt (Value.getElem?_linksBefore hw) x
  generalize v.setAt (List.replicate (v.linksBefore t) .target) x = v' at hfirst hlinks ⊢
  have hget : (get .direct (root.setAt place v') route ()).result = .ok v' := by
    rw [get_route hp, Value.find_setAt_self h]
    rfl
  refine ⟨?_, ⟨v', front, hget, hlinks, htypes, hfull⟩, ?_⟩
  · rw [getAs_of_get hget, hfirst, Option.elim_some]
  · intro other p' q hp' hq hpq hqp
    obtain rfl : p = p' := Except.ok.inj (hp.symm.trans hp')
    have hsame : (get .direct (root.setAt place v') other ()).result = (get .direct root other ()).result := by
      rw [get_route hq, get_route hq, Value.find_setAt_fork h hpq hqp]
    exact ⟨hsame, fun t => by simp only [getAs, hsame]⟩

end Access

/-- Typed access reads and changes the first link of the type. If there is none, the error names the value
that the chain starts with, and where nothing is read, nothing is read as a type. A new value of the type that is
stored comes to stand in the place of the link. -/
theorem typed_access (root : Value) (route : Route) (t : Ty) :
    (∀ e, (get .direct root route ()).result = .error e →
      (getAs .direct root route t ()).result = .error e ∧
      ∀ (α : Type) (f : Value → Value × α), (editAs .direct root route t f ()).outcome = (.error e, root)) ∧
    ∀ v, (get .direct root route ()).result = .ok v →
      (v.links.find? (fun u => u.type = t) = none →
        let e := PathError.invalidDowncast t.path v.typePath
        (getAs .direct root route t ()).result = .error e ∧
        ∀ (α : Type) (f : Value → Value × α), (editAs .direct root route t f ()).outcome = (.error e, root)) ∧
      ∀ w, v.links.find? (fun u => u.type = t) = some w →
        (getAs .direct root route t ()).result = .ok w ∧
        ∀ (α : Type) (f : Value → Value × α),
          let done := editAs .direct root route t f ()
          done.result = .ok (f w).2 ∧ ((f w).1.type = t → Stored root route t v (f w).1 done.root) := by
  constructor
  · intro e he
    refine ⟨by simp only [getAs, he, Except.bind], fun α f => ?_⟩
    rw [editAs_outcome, edit_of_get_error he]
    rfl
  · intro v hv
    obtain ⟨p, place, hp, hfind⟩ := find_of_get hv
    have hread := getAs_of_get hv t
    rw [← Value.through?_eq]
    constructor
    · intro hnone
      rw [hnone] at hread
      refine ⟨hread, fun α f => ?_⟩
      rw [editAs_of_find hp hfind, hnone, Option.elim_none]
    · intro w hw
      rw [hw] at hread
      refine ⟨hread, fun α f => ?_⟩
      have hedit := editAs_of_find hp hfind t f
      rw [hw, Option.elim_some] at hedit
      refine ⟨congrArg Prod.fst hedit, fun hx => ?_⟩
      rw [show (editAs .direct root route t f ()).root = _ from congrArg Prod.snd hedit]
      exact stored_setAt hp hfind hw hx

/-- A struct behind a box in an option is read and replaced through both. As a text the option cannot be read. -/
theorem typed_access_boxed :
    let toB : Path := ⟨[.member "instanceB"], List.cons_ne_nil _ _⟩
    let number : Path := ⟨[.member "number"], List.cons_ne_nil _ _⟩
    let box (b : Value) : Value := .pointer (.option (.box Sample.tyB)) (some (.pointer (.box Sample.tyB) (some b)))
    let old := Sample.types.default 1 Sample.tyB
    let root := (assign .direct Sample.valueA (.path toB) (box old) ()).root
    let new := (assign .direct old (.text "text") (.scalar (.string "inner!")) ()).root
    let root' := (editAs .direct root (.path toB) Sample.tyB (fun b => (new, b)) ()).root
    (getAs .direct root (.path toB) Sample.tyB ()).result = .ok old ∧
    (getAs .direct root' (.path toB) Sample.tyB ()).result = .ok new ∧
    (get .direct root' (.path number) ()).result = (get .direct root (.path number) ()).result ∧
    (getAs .direct root (.path toB) Sample.text ()).result =
      .error (.invalidDowncast "alloc::string::String" "core::option::Option<alloc::boxed::Box<pwdrv::fix::B>>") := by
  intro toB number box old root new root'
  have hv : (get .direct root (.path toB) ()).result = .ok (box old) := rfl
  obtain ⟨hread, hstore⟩ := ((typed_access root (.path toB) Sample.tyB).2 _ hv).2 old rfl
  obtain ⟨htyped, -, hothers⟩ := (hstore Value fun b => (new, b)).2 rfl
  obtain ⟨hnone, -⟩ := ((typed_access root (.path toB) Sample.text).2 _ hv).1 rfl
  exact ⟨hread, htyped, (hothers (.path number) _ _ rfl rfl (by decide) (by decide)).1, hnone.trans rfl⟩

end Reflection
