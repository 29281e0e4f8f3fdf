import Reflection.Proofs.Coincidence
import Reflection.Proofs.Hidden
import Reflection.Proofs.Tables
import Reflection.Universe.Sample
/-!
# Equality is structural

Regular values, which are put together from scalars, sequences, pointers and derived structs, always compare.
Equality seen from outside is then coincidence of dumps (`tells_equals`), so it is symmetric and transitive, and
a value is equal to itself if no NaN can be reached in it (`equality_structural`).

Comparing goes through the members of the right struct only. That none of the left struct is left out follows
from the number of members and the distinctness of their names (`matched_entries_iff`).
-/

namespace Reflection

/-! ## Answers -/

/-- An answer that is not open, and that is yes if and only if `p` holds. -/
def Tells (answer : Option Bool) (p : Prop) : Prop := answer ≠ none ∧ (answer = some true ↔ p)

namespace Tells
variable {answer : Option Bool} {p q : Prop}

theorem yes (hp : p) : Tells (some true) p := ⟨nofun, fun _ => hp, fun _ => rfl⟩

theorem no (hp : ¬ p) : Tells (some false) p := ⟨nofun, nofun, fun h => absurd h hp⟩

theorem congr (h : Tells answer p) (hpq : p ↔ q) : Tells answer q := ⟨h.1, h.2.trans hpq⟩

theorem eq_false (h : Tells answer p) (hp : ¬ p) : answer = some false := by
  obtain ⟨hne, hiff⟩ := h
  match answer with
  | none => exact absurd rfl hne
  | some true => exact absurd (hiff.1 rfl) hp
  | some false => rfl

/-- Two answers to one question are the same. -/
theorem unique {answer' : Option Bool} (h : Tells answer p) (h' : Tells answer' p) : answer = answer' := by
  by_cases hp : p
  · rw [h.2.2 hp, h'.2.2 hp]
  · rw [h.eq_false hp, h'.eq_false hp]

/-- A further question is asked after a yes only. -/
theorem and {rest : Option Bool} (h : Tells answer p) (hrest : Tells rest q) :
    Tells (if answer = some true then rest else answer) (p ∧ q) := by
  by_cases hp : p
  · rw [if_pos (h.2.2 hp)]
    exact hrest.congr (and_iff_right hp).symm
  · rw [h.eq_false hp, if_neg (by nofun)]
    exact .no fun hpq => hp hpq.1

end Tells

/-! ## Sequences of comparisons -/

section Comparisons
variable {R : Value → Value → Prop}

theorem tells_compareItems {xs ys : List Value} (hlen : xs.length = ys.length)
    (h : ∀ x ∈ xs, ∀ y ∈ ys, Tells (x.equals y) (R x y)) :
    Tells (compareItems (xs.map Value.equals) ys) (List.Forall₂ R xs ys) := by
  induction xs generalizing ys with
  | nil =>
    rw [List.length_eq_zero_iff.1 hlen.symm]
    exact .yes .nil
  | cons x xs ih =>
    cases ys with
    | nil => cases hlen
    | cons y ys =>
      rw [List.map_cons, compareItems, List.forall₂_cons]
      have hrest := ih (Nat.succ.inj hlen) fun x hx y hy => h x (List.mem_cons_of_mem _ hx) y (List.mem_cons_of_mem _ hy)
      exact (h x List.mem_cons_self y List.mem_cons_self).and hrest

theorem tells_compareMembers {es es' : List (String × Value)} (hnodup : (es.map Prod.fst).Nodup)
    (h : ∀ p ∈ es, ∀ q ∈ es', Tells (p.2.equals q.2) (R p.2 q.2)) :
    Tells (compareMembers (es.map fun p => (p.1, p.2.equals)) es') (∀ q ∈ es', ∃ p ∈ es, p.1 = q.1 ∧ R p.2 q.2) := by
  induction es' with
  | nil => exact .yes nofun
  | cons q rest ih =>
    have hrest := ih fun p hp q hq => h p hp q (List.mem_cons_of_mem _ hq)
    rw [List.forall_mem_cons, compareMembers]
    by_cases hname : q.1 ∈ es.map Prod.fst
    · obtain ⟨p, hp, hpq⟩ := List.mem_map.1 hname
      rw [← hpq, Derive.lookup_rows hnodup hp]
      refine ((h p hp q List.mem_cons_self).congr ?_).and hrest
      -- The only entry of the name is the one that is looked up.
      constructor
      · exact fun hR => ⟨p, hp, rfl, hR⟩
      · rintro ⟨p', hp', hpp', hR⟩
        exact List.inj_on_of_nodup_map hnodup hp' hp hpp' ▸ hR
    · rw [Derive.lookup_rows_eq_none hname]
      refine .no fun hall => hname ?_
      obtain ⟨⟨p, hp, hpq, -⟩, -⟩ := hall
      exact hpq ▸ List.mem_map_of_mem hp

end Comparisons

namespace Value

/-! ## Regular values -/

/-- Values of built-in types and of structs with a name of its own for each member. -/
inductive Regular : Value → Prop
  | scalar (s : Scalar) : Regular (.scalar s)
  | list {t : ListType} {items : List Value} (ht : t ≠ .bag) (h : ∀ v ∈ items, Regular v) : Regular (.list t items)
  | array {t : ArrayType} {items : List Value} (ht : t ≠ .trio) (h : ∀ v ∈ items, Regular v) :
    Regular (.array t items)
  | null {t : PointerType} (ht : ∀ target, t ≠ .link target) : Regular (.pointer t none)
  | pointer {t : PointerType} {v : Value} (ht : ∀ target, t ≠ .link target) (h : Regular v) :
    Regular (.pointer t (some v))
  | struct {decl : StructDecl} {members hidden : List Value} (hnames : decl.info.names.Nodup)
    (hlen : members.length = decl.info.names.length) (h : ∀ v ∈ members, Regular v) :
    Regular (.struct decl members hidden)

variable {a b v : Value}

/-! ## Comparing is coincidence -/

theorem equals_list {t : ListType} (ht : t ≠ .bag) (items : List Value) (y : Value) :
    (list t items).equals y =
      match y.view with
      | .list s => if items.length = s.len then compareItems (items.map equals) s.items else some false
      | _ => some false := by
  cases t with
  | bag => exact absurd rfl ht
  | _ =>
    rw [← comparisons_eq_map]
    rfl

theorem equals_array {t : ArrayType} (ht : t ≠ .trio) (items : List Value) (y : Value) :
    (array t items).equals y =
      match y.view with
      | .array s => if items.length = s.len then compareItems (items.map equals) s.items else some false
      | _ => some false := by
  cases t with
  | trio => exact absurd rfl ht
  | fixed item len =>
    rw [← comparisons_eq_map]
    rfl

theorem equals_pointer {t : PointerType} (ht : ∀ target, t ≠ .link target) (target : Option Value) (y : Value) :
    (pointer t target).equals y =
      match target, y.view with
      | some x, .pointer (some y) => x.equals y
      | none, .pointer none => some true
      | _, _ => some false := by
  cases t with
  | link linked => exact absurd rfl (ht linked)
  | _ =>
    cases target <;> simp only [equals] <;> cases y.view <;> try rfl
    all_goals rename_i target; cases target <;> rfl

/-- A struct is compared through the entries that it shows. -/
def entries (decl : StructDecl) (members : List Value) : List (String × Value) := decl.info.names.zip members

theorem dump_struct (decl : StructDecl) (members hidden : List Value) :
    (struct decl members hidden).dump = .struct ((entries decl members).map fun p => (p.1, p.2.dump)) := by
  rw [dump, dumps_eq_map, List.zip_map_right, entries]
  rfl

theorem equals_struct (decl decl' : StructDecl) (members hidden members' hidden' : List Value) :
    (struct decl members hidden).equals (struct decl' members' hidden') =
      if decl.info.names.length = decl'.info.names.length then
        compareMembers ((entries decl members).map fun p => (p.1, p.2.equals)) (entries decl' members')
      else some false := by
  simp only [equals, view, StructView.len, StructView.entries, pairs_map_some, comparisons_eq_map, List.zip_map_right,
    entries]
  rfl

theorem map_fst_entries {decl : StructDecl} {members : List Value} (hlen : members.length = decl.info.names.length) :
    (entries decl members).map Prod.fst = decl.info.names :=
  List.map_fst_zip hlen.ge

theorem kind_eq_of_coincides (h : a.dump.Coincides b.dump) : a.kind = b.kind := by
  have hkind : ∀ v : Value, v.kind = v.dump.kind := by
    intro v
    cases v with
    | pointer t target => cases target <;> rfl
    | facade f x => cases f <;> rfl
    | _ => rfl
  rw [hkind, hkind, h.kind_eq]

theorem equals_of_kind_ne (ha : a.Regular) (h : a.kind ≠ b.kind) : a.equals b = some false := by
  unfold kind at h
  cases ha with
  | scalar s => cases b <;> first | rfl | exact absurd rfl h
  | list ht hitems =>
    rw [equals_list ht]
    cases hview : b.view <;> first | rfl | (rw [hview] at h; exact absurd rfl h)
  | array ht hitems =>
    rw [equals_array ht]
    cases hview : b.view <;> first | rfl | (rw [hview] at h; exact absurd rfl h)
  | null ht =>
    rw [equals_pointer ht]
    cases hview : b.view <;> first | rfl | (rw [hview] at h; exact absurd rfl h)
  | pointer ht hv =>
    rw [equals_pointer ht]
    cases hview : b.view <;> first | rfl | (rw [hview] at h; exact absurd rfl h)
  | struct hnames hlen hmembers =>
    rw [equals]
    cases hview : b.view <;> first | rfl | (rw [hview] at h; exact absurd rfl h)

theorem tells_of_kinds (ha : a.Regular) (h : a.kind = b.kind → Tells (a.equals b) (a.dump.Coincides b.dump)) :
    Tells (a.equals b) (a.dump.Coincides b.dump) := by
  by_cases hkind : a.kind = b.kind
  · exact h hkind
  · rw [equals_of_kind_ne ha hkind]
    exact .no fun h => hkind (kind_eq_of_coincides h)

theorem tells_items {xs ys : List Value} (h : ∀ x ∈ xs, ∀ y ∈ ys, Tells (x.equals y) (x.dump.Coincides y.dump)) :
    Tells (if xs.length = ys.length then compareItems (xs.map equals) ys else some false)
      (List.Forall₂ Dump.Coincides (dumps xs) (dumps ys)) := by
  rw [dumps_eq_map, dumps_eq_map, List.forall₂_map_left_iff, List.forall₂_map_right_iff]
  split
  · exact tells_compareItems ‹_› h
  · exact .no fun hall => ‹¬ _› hall.length_eq

theorem tells_members {es es' : List (String × Value)} (hnodup : (es.map Prod.fst).Nodup)
    (hnodup' : (es'.map Prod.fst).Nodup)
    (h : ∀ p ∈ es, ∀ q ∈ es', Tells (p.2.equals q.2) (p.2.dump.Coincides q.2.dump)) :
    Tells (if es.length = es'.length then compareMembers (es.map fun p => (p.1, p.2.equals)) es' else some false)
      ((Dump.struct (es.map fun p => (p.1, p.2.dump))).Coincides (.struct (es'.map fun p => (p.1, p.2.dump)))) := by
  have hcoincide : (Dump.struct (es.map fun p => (p.1, p.2.dump))).Coincides (.struct (es'.map fun p => (p.1, p.2.dump))) ↔
      Matched (fun p q : String × Value => p.1 = q.1 ∧ p.2.dump.Coincides q.2.dump) es es' := by
    rw [Dump.coincides_struct_iff, matched_map_iff]
  split
  · rw [hcoincide, matched_entries_iff (R := fun x y : Value => x.dump.Coincides y.dump) hnodup hnodup' ‹_›]
    exact tells_compareMembers (R := fun x y => x.dump.Coincides y.dump) hnodup h
  · exact .no fun hall => ‹¬ _› (hcoincide.1 hall).length_eq

theorem tells_equals (ha : a.Regular) (hb : b.Regular) : Tells (a.equals b) (a.dump.Coincides b.dump) := by
  induction ha generalizing b with
  | scalar s =>
    refine tells_of_kinds (.scalar s) fun hkind => ?_
    cases hb with
    | scalar s' =>
      rw [equals, dump, dump, Dump.coincides_atom_iff, Scalar.coincides_iff]
      exact ⟨Option.some_ne_none _, by simp⟩
    | _ => cases hkind
  | list ht h ih =>
    refine tells_of_kinds (.list ht h) fun hkind => ?_
    cases hb with
    | @list t' items' ht' h' =>
      rw [equals_list ht, dump, dump, Dump.coincides_list_iff]
      have hsurplus : t'.surplus = 0 := by cases t' <;> first | rfl | exact absurd rfl ht'
      simp only [view, hsurplus, Nat.add_zero]
      exact tells_items fun x hx y hy => ih x hx (h' y hy)
    | _ => cases hkind
  | array ht h ih =>
    refine tells_of_kinds (.array ht h) fun hkind => ?_
    cases hb with
    | array ht' h' =>
      rw [equals_array ht, dump, dump, Dump.coincides_array_iff]
      exact tells_items fun x hx y hy => ih x hx (h' y hy)
    | _ => cases hkind
  | null ht =>
    refine tells_of_kinds (.null ht) fun hkind => ?_
    cases hb with
    | null ht' =>
      rw [equals_pointer ht, dump, dump]
      exact .yes .null
    | pointer ht' h' =>
      rw [equals_pointer ht, dump, dump]
      exact .no (by rintro ⟨⟩)
    | _ => cases hkind
  | pointer ht h ih =>
    refine tells_of_kinds (.pointer ht h) fun hkind => ?_
    cases hb with
    | null ht' =>
      rw [equals_pointer ht, dump, dump]
      exact .no (by rintro ⟨⟩)
    | pointer ht' h' =>
      rw [equals_pointer ht, dump, dump, Dump.coincides_pointer_iff]
      exact ih h'
    | _ => cases hkind
  | struct hnames hlen h ih =>
    refine tells_of_kinds (.struct hnames hlen h) fun hkind => ?_
    cases hb with
    | struct hnames' hlen' h' =>
      have hfst := map_fst_entries hlen
      have hfst' := map_fst_entries hlen'
      rw [equals_struct, dump_struct, dump_struct, ← hfst, ← hfst', List.length_map, List.length_map]
      refine tells_members (hfst ▸ hnames) (hfst' ▸ hnames') fun p hp q hq => ?_
      exact ih p.2 (List.of_mem_zip hp).2 (h' q.2 (List.of_mem_zip hq).2)
    | _ => cases hkind

/-! ## Values that equal themselves -/

/-- A NaN stands at a place in the value. -/
def ReachesNaN (v : Value) : Prop := ∃ (place : Place) (s : Scalar), v.at? place = some (.scalar s) ∧ s.IsNaN

/-- The values in the slots of a value. -/
def parts : Value → List Value
  | .list _ items | .array _ items | .struct _ items _ => items
  | .pointer _ target => target.toList
  | .facade .ghost x => [x]
  | _ => []

theorem mem_parts_iff (c : Value) : c ∈ v.parts ↔ ∃ slot, v.child? slot = some c := by
  constructor
  · intro h
    cases v with
    | scalar s => cases h
    | mystery n => cases h
    | list t items =>
      obtain ⟨i, hi⟩ := List.mem_iff_getElem?.1 h
      exact ⟨.item i, child?_of_holds (.listItem hi)⟩
    | array t items =>
      obtain ⟨i, hi⟩ := List.mem_iff_getElem?.1 h
      exact ⟨.item i, child?_of_holds (.arrayItem hi)⟩
    | pointer t target =>
      obtain rfl := Option.mem_toList.1 h
      exact ⟨.target, child?_of_holds (.target t c)⟩
    | struct decl members hidden =>
      obtain ⟨i, hi⟩ := List.mem_iff_getElem?.1 h
      exact ⟨.member i, child?_of_holds (.member hi)⟩
    | facade f x =>
      cases f with
      | liar => cases h
      | ghost =>
        obtain rfl := List.mem_singleton.1 h
        exact ⟨.member 0, child?_of_holds (.ghost c)⟩
  · rintro ⟨slot, hc⟩
    cases holds_of_child? hc with
    | listItem hc => exact List.mem_of_getElem? hc
    | arrayItem hc => exact List.mem_of_getElem? hc
    | target t c => exact List.mem_singleton_self c
    | member hc => exact List.mem_of_getElem? hc
    | ghost c => exact List.mem_singleton_self c

theorem reachesNaN_scalar (s : Scalar) : (scalar s).ReachesNaN ↔ s.IsNaN := by
  constructor
  · rintro ⟨place, s', hs', hnan⟩
    cases place with
    | nil =>
      cases hs'
      exact hnan
    | cons slot place =>
      obtain ⟨c, hc, -⟩ := at?_cons_eq_some hs'
      cases holds_of_child? hc
  · exact fun h => ⟨[], s, rfl, h⟩

/-- In a value that is no scalar a NaN is reached through one of its parts. -/
theorem not_reachesNaN_iff (hscalar : ∀ s, v ≠ .scalar s) : ¬ v.ReachesNaN ↔ ∀ c ∈ v.parts, ¬ c.ReachesNaN := by
  constructor
  · rintro h c hmem ⟨place, s, hs, hnan⟩
    obtain ⟨slot, hc⟩ := (mem_parts_iff c).1 hmem
    exact h ⟨slot :: place, s, (at?_cons hc place).trans hs, hnan⟩
  · rintro h ⟨place, s, hs, hnan⟩
    cases place with
    | nil => exact hscalar s (Option.some.inj hs)
    | cons slot place =>
      obtain ⟨c, hc, hs⟩ := at?_cons_eq_some hs
      exact h c ((mem_parts_iff c).2 ⟨slot, hc⟩) ⟨place, s, hs, hnan⟩

/-- Entries of distinct names match themselves if each does. -/
theorem coincides_self_members_iff {es : List (String × Value)} (hnodup : (es.map Prod.fst).Nodup) :
    (Dump.struct (es.map fun p => (p.1, p.2.dump))).Coincides (.struct (es.map fun p => (p.1, p.2.dump))) ↔
      ∀ p ∈ es, p.2.dump.Coincides p.2.dump := by
  rw [Dump.coincides_struct_iff, matched_map_iff,
    matched_entries_iff (R := fun x y : Value => x.dump.Coincides y.dump) hnodup hnodup rfl]
  constructor
  · intro h q hq
    obtain ⟨p, hp, hname, hpq⟩ := h q hq
    exact List.inj_on_of_nodup_map hnodup hp hq hname ▸ hpq
  · exact fun h q hq => ⟨q, hq, rfl, h q hq⟩

theorem dump_coincides_self_iff (ha : a.Regular) : a.dump.Coincides a.dump ↔ ¬ a.ReachesNaN := by
  induction ha with
  | scalar s => rw [dump, Dump.coincides_atom_iff, Scalar.coincides_self_iff, reachesNaN_scalar]
  | list ht h ih =>
    rw [not_reachesNaN_iff (by simp), dump, dumps_eq_map, Dump.coincides_list_iff, List.forall₂_same, List.forall_mem_map]
    exact forall₂_congr ih
  | array ht h ih =>
    rw [not_reachesNaN_iff (by simp), dump, dumps_eq_map, Dump.coincides_array_iff, List.forall₂_same, List.forall_mem_map]
    exact forall₂_congr ih
  | null ht =>
    rw [not_reachesNaN_iff (by simp), dump]
    exact iff_of_true .null (by simp [parts])
  | @pointer t v ht h ih =>
    have hparts : ∀ c ∈ (pointer t (some v)).parts, c = v := fun c hc => List.mem_singleton.1 hc
    rw [not_reachesNaN_iff (by simp), dump, Dump.coincides_pointer_iff, ih]
    exact ⟨fun h c hc => hparts c hc ▸ h, fun h => h v (List.mem_singleton_self v)⟩
  | @struct decl members hidden hnames hlen h ih =>
    have hsnd : (entries decl members).map Prod.snd = members := List.map_snd_zip hlen.le
    have hparts : (struct decl members hidden).parts = (entries decl members).map Prod.snd := hsnd.symm
    rw [not_reachesNaN_iff (by simp), dump_struct, coincides_self_members_iff (map_fst_entries hlen ▸ hnames), hparts,
      List.forall_mem_map]
    exact forall₂_congr fun p hp => ih p.2 (List.of_mem_zip hp).2

end Value

/-- Structs that are derived are regular. -/
theorem Derive.Plan.regular_value {collect : Bool} {item : Item} {plan : Plan} (h : ofItem collect item = .ok plan)
    (typeOf : List Code.Token → Ty) (type : Ty) {state : String → Value} (fields : List HiddenField)
    (hidden : List Value) (hstate : ∀ m ∈ plan.members, (state m.field).Regular) :
    (plan.value typeOf type state fields hidden).Regular := by
  have hnames := names_info typeOf type plan
  refine .struct ?_ ?_ ?_
  · rw [hnames]
    exact names_nodup h
  · rw [hnames, List.length_map, List.length_map]
  · rw [List.forall_mem_map]
    exact hstate

/-- Equality of regular values. Derived structs of regular fields are regular. -/
theorem equality_structural :
    (∀ a b : Value, a.Regular → b.Regular →
      a.equals b ≠ none ∧ (a.equals b = some true ↔ a.dump.Coincides b.dump) ∧ b.equals a = a.equals b ∧
      (a.kind ≠ b.kind → a.equals b = some false) ∧
      ∀ c : Value, c.Regular → a.equals b = some true → b.equals c = some true → a.equals c = some true) ∧
    (∀ a : Value, a.Regular → (a.equals a = some true ↔ ¬ a.ReachesNaN)) ∧
    (∀ (t : PointerType) (v : Value), (Value.pointer t (some v)).Regular →
      (Value.pointer t (some v)).equals v = some false) ∧
    (∀ s s' : Scalar, s.type ≠ s'.type → (Value.scalar s).equals (.scalar s') = some false) ∧
    ∀ (collect : Bool) (item : Derive.Item) (plan : Derive.Plan) (typeOf : List Code.Token → Ty) (type : Ty)
      (state : String → Value) (fields : List HiddenField) (hidden : List Value),
      Derive.Plan.ofItem collect item = .ok plan →
      (∀ m ∈ plan.members, (state m.field).Regular) → (plan.value typeOf type state fields hidden).Regular := by
  refine ⟨fun a b ha hb => ?_, fun a ha => ?_, fun t v hregular => ?_, fun s s' htype => ?_,
    fun collect item plan typeOf type state fields hidden h => Derive.Plan.regular_value h typeOf type fields hidden⟩
  · have hab := Value.tells_equals ha hb
    have hba := (Value.tells_equals hb ha).congr ⟨Dump.Coincides.symm, Dump.Coincides.symm⟩
    refine ⟨hab.1, hab.2, hba.unique hab, Value.equals_of_kind_ne ha, fun c hc h h' => ?_⟩
    have hbc := Value.tells_equals hb hc
    exact (Value.tells_equals ha hc).2.2 ((hab.2.1 h).trans (hbc.2.1 h'))
  · exact (Value.tells_equals ha ha).2.trans (Value.dump_coincides_self_iff ha)
  · cases hregular with
    | pointer ht hv =>
      refine (Value.tells_equals (.pointer ht hv) hv).eq_false ?_
      rw [Value.dump]
      exact Dump.not_coincides_target _
  · refine (Value.tells_equals (.scalar s) (.scalar s')).eq_false ?_
    rw [Value.dump, Value.dump, Dump.coincides_atom_iff, Scalar.coincides_iff]
    exact fun h => htype h.1

/-- Two structs with the same members in another order, the two zeros in two kinds of lists, and a NaN. -/
theorem equality_structural_twin :
    let structOf (name : String) (fields : List Field) (members : List Value) : Value :=
      .struct (.ofFields (Sample.inSample name) [] none fields) members []
    let text : Value := .scalar (.string "Ann")
    let points : Value := .scalar (.int .u32 7)
    let level : Value := .scalar (.int .u8 1)
    let player := structOf "Player" Sample.fieldsPlayer [text, points, level]
    let twin := structOf "Twin" Sample.fieldsTwin [level, text, points]
    let f32 : Ty := .scalar .f32
    let zero : Value := .list (.vec f32) [.scalar (.f32 0)]
    let negativeZero : Value := .list (.deque f32) [.scalar (.f32 0x80000000)]
    let nan : Value := .list (.vec f32) [.scalar (.f32 0x7fc00000)]
    twin.equals player = some true ∧ ¬ player.ReachesNaN ∧ player.equals zero = some false ∧
      zero.dump.Coincides negativeZero.dump ∧ nan.equals nan ≠ none ∧ nan.ReachesNaN := by
  intro structOf text points level player twin f32 zero negativeZero nan
  have hscalars : ∀ v ∈ [text, points, level], v.Regular := by
    intro v hv
    simp only [List.mem_cons, List.not_mem_nil, or_false] at hv
    rcases hv with rfl | rfl | rfl <;> exact .scalar _
  have hplayer : player.Regular := .struct (by decide) rfl hscalars
  have htwin : twin.Regular := .struct (by decide) rfl fun v hv => hscalars v (by simp only [List.mem_cons] at hv ⊢; tauto)
  have hlist : ∀ t s, t ≠ .bag → (Value.list t [.scalar s]).Regular := fun t s ht =>
    .list ht fun v hv => List.mem_singleton.1 hv ▸ .scalar s
  obtain ⟨hpairs, hself, -, -, -⟩ := equality_structural
  have hzero : zero.Regular := hlist _ _ nofun
  have hnan : nan.Regular := hlist _ _ nofun
  obtain ⟨-, -, hsymm, -, htrans⟩ := hpairs player twin hplayer htwin
  have hequal : player.equals twin = some true := rfl
  refine ⟨hsymm.trans hequal, ?_, ?_, ?_, (hpairs nan nan hnan hnan).1, ?_⟩
  · exact (hself player hplayer).1 (htrans player hplayer hequal (hsymm.trans hequal))
  · exact (hpairs player zero hplayer hzero).2.2.2.1 nofun
  · exact (hpairs zero negativeZero hzero (hlist _ _ nofun)).2.1.1 rfl
  · by_contra hnone
    exact absurd ((hself nan hnan).2 hnone) (by decide)

end Reflection
