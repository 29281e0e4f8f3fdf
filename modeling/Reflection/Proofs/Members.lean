import Mathlib.Data.List.Nodup
import Reflection.Derive.Plan
/-!
# Members of a derived struct

The members of a plan are the fields of its item that are not skipped, in order, each with its number
among them (`Plan.members_eq`). No two of them have one name (`Plan.names_nodup`), while a skipped field
may have the name of a member. The columns that the accessors are put together from have one entry for
each member, in the same order (`Plan.accessors_eq`).
-/

namespace Reflection.Derive

open Reflection.Code (Token)

/-! ## Fields that are shown -/

/-- A field that is not skipped, with what its attributes say. -/
structure ShownField where
  field : ItemField
  attrs : FieldAttributes

namespace ShownField

/-- The name that the field has as a member. -/
def name (f : ShownField) : String := f.attrs.rename.getD f.field.ident

/-- The field as the member at an index. -/
def member (f : ShownField) (i : Nat) : PlannedMember :=
  ⟨f.name, f.field.ident, i, f.attrs.access, f.attrs.docs.text?, f.field.type⟩

end ShownField

/-- The field, unless it is skipped or refused. -/
def ItemField.shown? (collect : Bool) (f : ItemField) : Option ShownField :=
  match FieldAttributes.ofAttributes collect f.attrs with
  | .ok attrs => if attrs.skip then none else some ⟨f, attrs⟩
  | .error _ => none

def Item.shown (collect : Bool) (item : Item) : List ShownField := item.fields.filterMap (ItemField.shown? collect)

variable {collect : Bool}

theorem attributes_of_shown {g : ItemField} {f : ShownField} (h : g.shown? collect = some f) :
    f.field = g ∧ FieldAttributes.ofAttributes collect g.attrs = .ok f.attrs := by
  unfold ItemField.shown? at h
  split at h
  · rename_i attrs hattrs
    split at h
    · cases h
    · cases h
      exact ⟨rfl, hattrs⟩
  · cases h

/-! ## Checking fields -/

section Fields
variable {earlier all : List PlannedField} {next : Nat} {f : ItemField} {rest fields : List ItemField}

/-- The names that members have. -/
def memberNames (fields : List PlannedField) : List String :=
  (fields.filterMap PlannedField.member?).map PlannedMember.name

theorem mem_memberNames {name : String} :
    name ∈ memberNames earlier ↔ earlier.any (fun other => other.index.isSome && other.name == name) = true := by
  simp only [memberNames, List.mem_map, List.mem_filterMap, PlannedField.member?, List.any_eq_true, Bool.and_eq_true,
    beq_iff_eq, Option.map_eq_some_iff, Option.isSome_iff_exists]
  constructor
  · rintro ⟨m, ⟨f, hf, i, hi, rfl⟩, hname⟩
    exact ⟨f, hf, ⟨i, hi⟩, hname⟩
  · rintro ⟨f, hf, ⟨i, hi⟩, hname⟩
    exact ⟨_, ⟨f, hf, i, hi, rfl⟩, hname⟩

/-- A field that is accepted is skipped and no member, or it is the next one and has a name of its own. -/
theorem planFields_cons (h : planFields collect earlier next (f :: rest) = .ok all) :
    (∃ attrs, FieldAttributes.ofAttributes collect f.attrs = .ok attrs) ∧ ∃ planned,
      (f.shown? collect = none ∧ planned.member? = none ∧
        planFields collect (earlier ++ [planned]) next rest = .ok all) ∨
      ∃ g, f.shown? collect = some g ∧ g.name ∉ memberNames earlier ∧ planned.member? = some (g.member next) ∧
        planFields collect (earlier ++ [planned]) (next + 1) rest = .ok all := by
  rw [planFields] at h
  cases hattrs : FieldAttributes.ofAttributes collect f.attrs with
  | error e =>
    rw [hattrs] at h
    cases h
  | ok attrs =>
    rw [hattrs] at h
    simp only [bind, Except.bind] at h
    refine ⟨⟨attrs, rfl⟩, ?_⟩
    cases hskip : attrs.skip with
    | true =>
      simp only [hskip, if_true, Option.isSome_none, Bool.false_and, Bool.false_eq_true, if_false] at h
      exact ⟨_, .inl ⟨by simp [ItemField.shown?, hattrs, hskip], rfl, h⟩⟩
    | false =>
      simp only [hskip, Bool.false_eq_true, if_false, Option.isSome_some, Bool.true_and] at h
      split at h
      · cases h
      · rename_i hnew
        refine ⟨_, .inr ⟨⟨f, attrs⟩, by simp [ItemField.shown?, hattrs, hskip], ?_, rfl, h⟩⟩
        rwa [mem_memberNames]

theorem attributes_of_planFields (h : planFields collect earlier next fields = .ok all) :
    ∀ f ∈ fields, ∃ attrs, FieldAttributes.ofAttributes collect f.attrs = .ok attrs := by
  induction fields generalizing earlier next with
  | nil => nofun
  | cons f rest ih =>
    obtain ⟨hattrs, planned, ⟨-, -, hrest⟩ | ⟨g, -, -, -, hrest⟩⟩ := planFields_cons h
    · exact List.forall_mem_cons.2 ⟨hattrs, ih hrest⟩
    · exact List.forall_mem_cons.2 ⟨hattrs, ih hrest⟩

theorem members_of_planFields (h : planFields collect earlier next fields = .ok all) :
    all.filterMap PlannedField.member? = earlier.filterMap PlannedField.member? ++
      ((fields.filterMap (ItemField.shown? collect)).zipIdx next).map fun (f, i) => f.member i := by
  induction fields generalizing earlier next with
  | nil =>
    cases h
    simp
  | cons f rest ih =>
    obtain ⟨-, planned, ⟨hshown, hnone, hrest⟩ | ⟨g, hshown, -, hsome, hrest⟩⟩ := planFields_cons h
    · rw [ih hrest, List.filterMap_cons_none hshown, List.filterMap_append, List.filterMap_cons_none hnone,
        List.filterMap_nil, List.append_nil]
    · rw [ih hrest, List.filterMap_cons_some hshown, List.filterMap_append, List.filterMap_cons_some hsome,
        List.filterMap_nil, List.zipIdx_cons, List.map_cons, List.append_assoc, List.singleton_append]

theorem names_of_planFields (h : planFields collect earlier next fields = .ok all)
    (hearlier : (memberNames earlier).Nodup) : (memberNames all).Nodup := by
  induction fields generalizing earlier next with
  | nil =>
    cases h
    exact hearlier
  | cons f rest ih =>
    obtain ⟨-, planned, ⟨-, hnone, hrest⟩ | ⟨g, -, hnew, hsome, hrest⟩⟩ := planFields_cons h
    · refine ih hrest ?_
      have hsame : memberNames (earlier ++ [planned]) = memberNames earlier := by
        simp [memberNames, List.filterMap_append, List.filterMap_cons_none hnone]
      rwa [hsame]
    · refine ih hrest ?_
      have hsnoc : memberNames (earlier ++ [planned]) = memberNames earlier ++ [g.name] := by
        simp [memberNames, List.filterMap_append, List.filterMap_cons_some hsome, ShownField.member]
      rw [hsnoc, List.nodup_append_comm, List.singleton_append, List.nodup_cons]
      exact ⟨hnew, hearlier⟩

end Fields

/-! ## Members -/

namespace Plan
variable {item : Item} {plan : Plan}

/-- What a plan is made from. -/
theorem ofItem_eq_ok (h : ofItem collect item = .ok plan) :
    ∃ attrs, TypeAttributes.ofAttributes collect item.attrs = .ok attrs ∧
      planFields collect [] 0 item.fields = .ok plan.fields ∧
      plan = ⟨item.ident, attrs.typePath, attrs.docs.text?, item.params, item.predicates, plan.fields⟩ := by
  -- Nothing is planned after a refusal: of the parameters, the shape, the type's attributes, or a field.
  simp only [ofItem, bind, Except.bind] at h
  split at h
  · cases h
  split at h
  · cases h
  split at h
  · cases h
  rename_i attrs hattrs
  split at h
  · cases h
  rename_i hfields
  cases h
  exact ⟨attrs, hattrs, hfields, rfl⟩

theorem planFields_of_ofItem (h : ofItem collect item = .ok plan) :
    planFields collect [] 0 item.fields = .ok plan.fields := by
  obtain ⟨-, -, hfields, -⟩ := ofItem_eq_ok h
  exact hfields

theorem attributes_of_ofItem (h : ofItem collect item = .ok plan) :
    ∀ f ∈ item.fields, ∃ attrs, FieldAttributes.ofAttributes collect f.attrs = .ok attrs :=
  attributes_of_planFields (planFields_of_ofItem h)

/-- The members are the shown fields, numbered in order. -/
theorem members_eq (h : ofItem collect item = .ok plan) :
    plan.members = (item.shown collect).zipIdx.map fun (f, i) => f.member i :=
  members_of_planFields (planFields_of_ofItem h)

theorem names_nodup (h : ofItem collect item = .ok plan) : (plan.members.map PlannedMember.name).Nodup :=
  names_of_planFields (planFields_of_ofItem h) List.nodup_nil

theorem getElem?_members (h : ofItem collect item = .ok plan) (i : Nat) :
    plan.members[i]? = (item.shown collect)[i]?.map (·.member i) := by
  rw [members_eq h, List.getElem?_map, List.getElem?_zipIdx, Option.map_map]
  simp only [Function.comp_def, Nat.zero_add]

theorem length_members (h : ofItem collect item = .ok plan) : plan.members.length = (item.shown collect).length := by
  rw [members_eq h, List.length_map, List.length_zipIdx]

theorem indices_eq (h : ofItem collect item = .ok plan) :
    plan.members.map PlannedMember.index = List.range plan.members.length := by
  have hindex : plan.members.map PlannedMember.index = (item.shown collect).zipIdx.map Prod.snd := by
    rw [members_eq h, List.map_map]
    rfl
  rw [hindex, List.zipIdx_map_snd, length_members h, List.range_eq_range']

/-! ## Columns -/

theorem foldl_push (members : List PlannedMember) (columns : FieldAccessors) :
    members.foldl .push columns =
      ⟨columns.shared ++ members.map fun m => ⟨.shared, m.field⟩,
        columns.mutable ++ members.map fun m => ⟨.mutable, m.field⟩,
        columns.names ++ members.map PlannedMember.name,
        columns.indices ++ List.range' columns.count members.length,
        columns.count + members.length⟩ := by
  induction members generalizing columns with
  | nil => simp
  | cons m members ih =>
    rw [List.foldl_cons, ih]
    simp [FieldAccessors.push, List.range'_succ, Nat.add_comm, Nat.add_left_comm]

theorem accessors_eq (h : ofItem collect item = .ok plan) :
    plan.accessors =
      ⟨plan.members.map fun m => ⟨.shared, m.field⟩, plan.members.map fun m => ⟨.mutable, m.field⟩,
        plan.members.map PlannedMember.name, plan.members.map PlannedMember.index, plan.members.length⟩ := by
  rw [accessors, foldl_push, indices_eq h, List.range_eq_range']
  simp [FieldAccessors.empty]

end Plan

end Reflection.Derive
