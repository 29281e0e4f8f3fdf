import Reflection.Proofs.Find
import Reflection.Proofs.Universe
/-!
# Typed values

`v.HasType U t` says that `v` is made as values of type `t` are made in the universe `U`: the items of
a list have its item type, an array has as many items as its type says, a pointer that cannot be null
is not, and a struct holds a value for each member that is declared. The facades have no type here,
since they show less than they declare.

What a typed value shows is what the info of its type says: the universe has its info
(`info?_of_hasType`), its pointers lead to what the targets of its type lead to
(`behind?_of_chainEnd?`), and a segment finds a value of the type that the info has for it
(`TypeInfo.step`), or fails as the info fails, but for an item that a list does not hold
(`step_of_hasType`). A value of the same types in a slot leaves a typed value (`hasType_setAt`).
-/

namespace Reflection

/-! ## Types of values -/

namespace Value

inductive HasType (U : Universe) : Value → Ty → Prop
  | scalar (s : Scalar) : HasType U (.scalar s) (.scalar s.type)
  | mystery (n : Int) : HasType U (.mystery n) (.bespoke .mystery)
  | list {t : ListType} {items : List Value} (hitems : ∀ v ∈ items, HasType U v t.item) :
    HasType U (.list t items) t.type
  | array {t : ArrayType} {items : List Value} (hlen : items.length = t.len)
    (hitems : ∀ v ∈ items, HasType U v t.item) : HasType U (.array t items) t.type
  | null {t : PointerType} (hinfo : U.info? t.type = some (.pointer t.type t.target t.nullable))
    (hnullable : t.nullable = true) : HasType U (.pointer t none) t.type
  | pointer {t : PointerType} {v : Value} (hinfo : U.info? t.type = some (.pointer t.type t.target t.nullable))
    (htarget : HasType U v t.target) : HasType U (.pointer t (some v)) t.type
  | struct {decl : StructDecl} {members hidden : List Value}
    (hinfo : U.info? decl.info.type = some (.struct decl.info))
    (hlen : members.length = decl.info.members.length)
    (hmembers : ∀ i v m, members[i]? = some v → decl.info.memberAt? i = some m → HasType U v m.type) :
    HasType U (.struct decl members hidden) decl.info.type

variable {U : Universe} {v w : Value} {t : Ty}

theorem type_of_hasType (h : v.HasType U t) : v.type = t := by
  cases h <;> rfl

/-- A typed value has the info that the universe has for its type. -/
theorem info?_of_hasType (h : v.HasType U t) : U.info? t = some v.info := by
  cases h with
  | list => rename_i t items _; cases t <;> rfl
  | array => rename_i t items _ _; cases t <;> rfl
  | null hinfo => exact hinfo
  | pointer hinfo => exact hinfo
  | struct hinfo => exact hinfo
  | _ => rfl

end Value

/-! ## Behind the pointers of a type -/

namespace Universe

/-- `behind?` with `linked` for what is behind a link. -/
def behindOr? (U : Universe) (linked : Option TypeInfo) : Ty → Option TypeInfo
  | .option t => U.behindOr? linked t
  | .box t => U.behindOr? linked t
  | .bespoke .link => linked
  | t => U.info? t

/-- The info of the first type that is no pointer, from a type along the targets of pointers. There is
none if the targets go round, which takes a link to come back to, or lead to a type that is not declared. -/
def behind? (U : Universe) : Ty → Option TypeInfo := U.behindOr? (U.behindOr? none U.linkTarget)

/-- From a type along the targets of pointers there is a pointer that can be null. -/
inductive MeetsNullable (U : Universe) : Ty → Prop
  | here {t u target : Ty} (h : U.info? t = some (.pointer u target true)) : MeetsNullable U t
  | target {t u target : Ty} {nullable : Bool} (h : U.info? t = some (.pointer u target nullable))
    (htarget : MeetsNullable U target) : MeetsNullable U t

theorem behindOr?_cases (U : Universe) (t : Ty) :
    (∀ linked, U.behindOr? linked t = linked) ∨ ∀ linked linked', U.behindOr? linked t = U.behindOr? linked' t := by
  induction t using behindOr?.induct with
  | case1 t ih => exact ih
  | case2 t ih => exact ih
  | case3 => exact .inl fun linked => rfl
  | case4 t hoption hbox hlink =>
    refine .inr fun linked linked' => ?_
    simp only [behindOr?]

/-- A link leads where its target leads. -/
theorem behind?_link (U : Universe) : U.behind? (.bespoke .link) = U.behind? U.linkTarget := by
  show U.behindOr? none U.linkTarget = U.behindOr? (U.behindOr? none U.linkTarget) U.linkTarget
  rcases U.behindOr?_cases U.linkTarget with h | h
  · rw [h, h]
  · exact h _ _

theorem behind?_pointer {U : Universe} {t u target : Ty} {nullable : Bool}
    (h : U.info? t = some (.pointer u target nullable)) : U.behind? t = U.behind? target := by
  cases t with
  | option => cases h; rfl
  | box => cases h; rfl
  | bespoke b =>
    cases b with
    | link => cases h; exact U.behind?_link
    | _ => cases h
  | struct name args =>
    obtain ⟨decl, -, hinfo⟩ := Option.map_eq_some_iff.1 h
    cases hinfo
  | _ => cases h

theorem behind?_of_kind {U : Universe} {t : Ty} {info : TypeInfo} (h : U.info? t = some info)
    (hkind : info.kind ≠ .pointer) : U.behind? t = some info := by
  cases t with
  | option => cases h; exact absurd rfl hkind
  | box => cases h; exact absurd rfl hkind
  | bespoke b =>
    cases b with
    | link => cases h; exact absurd rfl hkind
    | _ => exact h
  | _ => exact h

end Universe

namespace Value

variable {U : Universe} {v w : Value} {t : Ty}

/-- Where the pointers of a typed value end, there end those of its type. -/
theorem behind?_of_chainEnd? (h : v.HasType U t) (hend : v.chainEnd? = some w) :
    ∃ u, w.HasType U u ∧ U.behind? t = some w.info := by
  fun_induction chainEnd? v generalizing t with
  | case1 p v ih =>
    cases h with
    | pointer hinfo htarget =>
      rw [Universe.behind?_pointer hinfo]
      exact ih htarget hend
  | case2 p => cases hend
  | case3 v hsome hnone =>
    cases hend
    refine ⟨t, h, Universe.behind?_of_kind (info?_of_hasType h) ?_⟩
    cases h with
    | null => exact absurd rfl (hnone _)
    | pointer => exact absurd rfl (hsome _ _)
    | _ => intro hkind; cases hkind

/-- A chain that ends in null has a pointer in it that can be null. -/
theorem meetsNullable_of_chainEnd? (h : v.HasType U t) (hend : v.chainEnd? = none) : U.MeetsNullable t := by
  fun_induction chainEnd? v generalizing t with
  | case1 p v ih =>
    cases h with
    | pointer hinfo htarget => exact .target hinfo (ih htarget hend)
  | case2 p =>
    cases h with
    | null hinfo hnullable =>
      rw [hnullable] at hinfo
      exact .here hinfo
  | case3 v hsome hnone => cases hend

end Value

/-! ## One segment on a type -/

/-- The type that a segment leads to by an info alone, or why it leads nowhere. Of a list nothing is
known of its length. -/
def TypeInfo.step (info : TypeInfo) : Segment → Except Cause Ty
  | .index i =>
    match info with
    | .list _ item => .ok item
    | .array type item len => if i.toNat < len then .ok item else .error (.indexOutOfRange i len type.path)
    | info => .error (.notIndexable info.kind info.type.path)
  | .member name =>
    match info with
    | .struct s =>
      match s.readableMember? name with
      | some m => .ok m.type
      | none => .error (.memberNotFound name s.type.path .read)
    | info => .error (.memberNotFound name info.type.path .read)

namespace Value

variable {U : Universe} {w : Value} {u : Ty}

/-- A list holds no item at an index, which its info does not tell. -/
def Lacks (w : Value) (s : Segment) (cause : Cause) : Prop :=
  ∃ t item i, w.info = .list t item ∧ s = .index i ∧ w.child? (.item i.toNat) = none ∧
    cause = .indexOutOfRange i w.shownLen t.path

theorem slot?_readable {info : StructInfo} {name : String} (hinfo : w.info = .struct info) :
    w.slot? .read (.member name) = (info.readableMember? name).map fun m => .member m.index := by
  simp only [slot?, slotBy, hinfo, StructInfo.readableMember?]
  cases info.member? name with
  | none => rfl
  | some m => by_cases hr : m.access.isReadable = true <;> simp [Option.filter_some, Mode.allows, hr]

/-- An index finds the item there, if the value has items at all. -/
theorem step_index (hend : w.chainEnd? = some w) (hkind : w.kind.isIndexable = true) (mode : Mode) (i : UInt64) :
    w.step mode (.index i) =
      (w.child? (.item i.toNat)).elim (.error (.indexOutOfRange i w.shownLen w.typePath))
        fun x => .ok (.item i.toNat, x) := by
  rw [step_eq hend, slot?, slotBy, if_pos hkind, absent, if_pos hkind, Option.bind_some, filled?]
  cases w.child? (.item i.toNat) <;> rfl

theorem step_index_of_hasType (h : w.HasType U u) (hend : w.chainEnd? = some w) (i : UInt64) :
    (∃ slot x t, w.step .read (.index i) = .ok (slot, x) ∧ w.info.step (.index i) = .ok t ∧ x.HasType U t) ∨
    (∃ cause, w.step .read (.index i) = .error cause ∧ w.info.step (.index i) = .error cause) ∨
    ∃ cause, w.step .read (.index i) = .error cause ∧ w.Lacks (.index i) cause := by
  cases h with
  | list hitems =>
    rename_i t items
    rw [step_index hend rfl]
    cases hx : (list t items).child? (.item i.toNat) with
    | none => exact .inr (.inr ⟨_, rfl, t.type, t.item, i, rfl, rfl, hx, rfl⟩)
    | some x => exact .inl ⟨_, x, t.item, rfl, rfl, hitems x (List.mem_of_getElem? hx)⟩
  | array hlen hitems =>
    rename_i t items
    rw [step_index hend rfl]
    by_cases hi : i.toNat < t.len
    · obtain ⟨x, hx⟩ : ∃ x, (array t items).child? (.item i.toNat) = some x :=
        ⟨_, List.getElem?_eq_getElem (hlen ▸ hi)⟩
      rw [hx]
      exact .inl ⟨_, x, t.item, rfl, if_pos hi, hitems x (List.mem_of_getElem? hx)⟩
    · have hout : items.length ≤ i.toNat := by omega
      have hx : (array t items).child? (.item i.toNat) = none := List.getElem?_eq_none hout
      have hshown : (array t items).shownLen = t.len := hlen
      rw [hx, hshown]
      exact .inr (.inl ⟨_, rfl, if_neg hi⟩)
  | _ =>
    rw [step_eq hend]
    exact .inr (.inl ⟨_, rfl, rfl⟩)

theorem step_member_of_hasType (h : w.HasType U u) (hend : w.chainEnd? = some w) (name : String) :
    (∃ slot x t, w.step .read (.member name) = .ok (slot, x) ∧ w.info.step (.member name) = .ok t ∧ x.HasType U t) ∨
    ∃ cause, w.step .read (.member name) = .error cause ∧ w.info.step (.member name) = .error cause := by
  rw [step_eq hend]
  cases h with
  | struct hinfo hlen hmembers =>
    rename_i decl members hidden
    have hslot : (struct decl members hidden).slot? .read (.member name) = _ := slot?_readable rfl
    rw [hslot]
    simp only [info, TypeInfo.step]
    cases hread : decl.info.readableMember? name with
    | none => exact .inr ⟨_, rfl, rfl⟩
    | some m =>
      obtain ⟨-, hm⟩ := StructInfo.member?_eq_some (Option.filter_eq_some_iff.1 hread).1
      -- The declaration stands at the index of the slot, so there is a member in it.
      have hi : m.index < members.length := by
        rw [hlen]
        exact (List.getElem?_eq_some_iff.1 hm).1
      obtain ⟨x, hx⟩ : ∃ x, members[m.index]? = some x := ⟨_, List.getElem?_eq_getElem hi⟩
      refine .inl ⟨.member m.index, x, m.type, ?_, rfl, hmembers m.index x m hx hm⟩
      simp [filled?, child?_struct, hx]
  | _ => exact .inr ⟨_, rfl, rfl⟩

/-- A segment finds a value of the type that the info has for it, or fails as the info fails, or is
the index of an item that a list does not hold. -/
theorem step_of_hasType (h : w.HasType U u) (hend : w.chainEnd? = some w) (s : Segment) :
    (∃ slot x t, w.step .read s = .ok (slot, x) ∧ w.info.step s = .ok t ∧ x.HasType U t) ∨
    (∃ cause, w.step .read s = .error cause ∧ w.info.step s = .error cause) ∨
    ∃ cause, w.step .read s = .error cause ∧ w.Lacks s cause := by
  cases s with
  | index i => exact step_index_of_hasType h hend i
  | member name =>
    rcases step_member_of_hasType h hend name with hfound | hcause
    · exact .inl hfound
    · exact .inr (.inl hcause)

end Value

/-! ## Other values in slots -/

namespace Value

variable {U : Universe} {v c x : Value} {t : Ty}

theorem hasType_of_mem_set {items : List Value} {i : Nat} {u : Ty} (hitems : ∀ v ∈ items, v.HasType U u)
    (hc : items[i]? = some c) (hx : ∀ u, c.HasType U u → x.HasType U u) : ∀ v ∈ items.set i x, v.HasType U u := by
  intro w hw
  rcases List.mem_or_eq_of_mem_set hw with hw | rfl
  · exact hitems w hw
  · exact hx u (hitems c (List.mem_of_getElem? hc))

theorem hasType_setChild {slot : Slot} (h : v.HasType U t) (hchild : v.child? slot = some c)
    (hx : ∀ u, c.HasType U u → x.HasType U u) : (v.setChild slot x).HasType U t := by
  cases holds_of_child? hchild with
  | listItem hc =>
    cases h with
    | list hitems => exact .list (hasType_of_mem_set hitems hc hx)
  | arrayItem hc =>
    cases h with
    | array hlen hitems => exact .array (List.length_set.trans hlen) (hasType_of_mem_set hitems hc hx)
  | target p c =>
    cases h with
    | pointer hinfo htarget => exact .pointer hinfo (hx _ htarget)
  | member hc =>
    rename_i i
    cases h with
    | struct hinfo hlen hmembers =>
      refine .struct hinfo (List.length_set.trans hlen) fun j w m hw hm => ?_
      by_cases hij : i = j
      · subst hij
        rw [List.getElem?_set_self (List.getElem?_eq_some_iff.1 hc).1] at hw
        cases hw
        exact hx _ (hmembers i c m hc hm)
      · rw [List.getElem?_set_ne hij] at hw
        exact hmembers j w m hw hm
  | ghost c => cases h

theorem hasType_setAt {place : Place} (h : v.HasType U t) (hc : v.at? place = some c)
    (hx : ∀ u, c.HasType U u → x.HasType U u) : (v.setAt place x).HasType U t := by
  induction place generalizing v t with
  | nil =>
    cases hc
    exact hx t h
  | cons slot place ih =>
    obtain ⟨d, hd, hc⟩ := at?_cons_eq_some hc
    rw [setAt_cons hd]
    exact hasType_setChild h hd fun u hu => ih hu hc

end Value

/-! ## The sample -/

theorem Sample.defaultB_hasType : (Sample.types.default 1 Sample.tyB).HasType Sample.types Sample.tyB := by
  refine .struct rfl rfl ?_
  intro i v m hv hm
  match i with
  | 0 => cases hv; cases hm; exact .scalar (.string "")
  | 1 => cases hv; cases hm; exact .null rfl rfl
  | i + 2 => cases hv

theorem Sample.valueA_hasType : Sample.valueA.HasType Sample.types Sample.tyA := by
  refine .struct rfl rfl ?_
  intro i v m hv hm
  match i with
  | 0 => cases hv; cases hm; exact .scalar (.int .i32 0)
  | 1 => cases hv; cases hm; exact .null rfl rfl
  | 2 => cases hv; cases hm; exact Sample.defaultB_hasType
  | 3 => cases hv; cases hm; exact .scalar (.int .u32 0)
  | 4 => cases hv; cases hm; exact .scalar (.string "")
  | i + 5 => cases hv

end Reflection
