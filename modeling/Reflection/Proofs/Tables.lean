import Reflection.Proofs.Declaration
import Reflection.Proofs.Iteration
import Reflection.Proofs.Members
/-!
# Tables of a derived struct

A derived struct has five tables by which a name or an index selects a field or a name, an iterator that
asks two of them, and an info that numbers its members by itself. They are made from one list of members,
whose names and indices differ, so each table has one row for each member (`lookup_rows`), and all of them
agree on which field it is (`Plan.tables_coherent`).
-/

namespace Reflection

namespace Derive

open Reflection.Code (Token)

/-! ## Rows -/

section Rows
variable {α β κ : Type} [BEq κ] [LawfulBEq κ] {rows : List α} {key : α → κ} {value : α → β}

/-- A key that no other row has selects the row. -/
theorem lookup_rows (h : (rows.map key).Nodup) {row : α} (hrow : row ∈ rows) :
    (rows.map fun r => (key r, value r)).lookup (key row) = some (value row) := by
  have hkeys : ((rows.map fun r => (key r, value r)).map Prod.fst).Nodup := by
    rw [List.map_map]
    exact h
  exact (lookup_eq_some_iff_mem hkeys).2 (List.mem_map_of_mem hrow)

theorem lookup_rows_eq_none {k : κ} (h : k ∉ rows.map key) : (rows.map fun r => (key r, value r)).lookup k = none := by
  rw [List.lookup_eq_none_iff]
  intro p hp
  obtain ⟨r, hr, rfl⟩ := List.mem_map.1 hp
  exact bne_iff_ne.2 fun heq => h (heq ▸ List.mem_map_of_mem hr)
end Rows

namespace Plan
variable {collect : Bool} {item : Item} {plan : Plan} {m : PlannedMember}

/-- Goes through the members by index, each with its name. -/
def iterator (plan : Plan) : Iterator (String × FieldRef) := .ofMembers plan.nameAt? plan.memberAt? plan.count

section Accepted
variable (h : ofItem collect item = .ok plan)
include h

theorem indices_nodup : (plan.members.map PlannedMember.index).Nodup := by
  rw [indices_eq h]
  exact List.nodup_range

theorem count_eq : plan.count = plan.members.length := by
  rw [count, accessors_eq h]

/-- Each table has a row for each member, under its name or its index. -/
theorem arms_eq :
    plan.nameArms = plan.members.map (fun m => (m.name, ⟨.shared, m.field⟩)) ∧
    plan.nameArmsMut = plan.members.map (fun m => (m.name, ⟨.mutable, m.field⟩)) ∧
    plan.indexArms = plan.members.map (fun m => (m.index, ⟨.shared, m.field⟩)) ∧
    plan.indexArmsMut = plan.members.map (fun m => (m.index, ⟨.mutable, m.field⟩)) ∧
    plan.namesByIndex = plan.members.map (fun m => (m.index, m.name)) := by
  simp only [nameArms, nameArmsMut, indexArms, indexArmsMut, namesByIndex, accessors_eq h, List.zip_map', and_self]

/-- All tables agree on a member. -/
theorem select_member (hm : m ∈ plan.members) :
    plan.member? m.name = some ⟨.shared, m.field⟩ ∧ plan.memberMut? m.name = some ⟨.mutable, m.field⟩ ∧
      plan.memberAt? m.index = some ⟨.shared, m.field⟩ ∧ plan.memberAtMut? m.index = some ⟨.mutable, m.field⟩ ∧
      plan.nameAt? m.index = some m.name := by
  have hnames := names_nodup h
  have hindices := indices_nodup h
  obtain ⟨hname, hnameMut, hindex, hindexMut, hnameAt⟩ := arms_eq h
  rw [member?, memberMut?, memberAt?, memberAtMut?, nameAt?, hname, hnameMut, hindex, hindexMut, hnameAt]
  exact ⟨lookup_rows hnames hm, lookup_rows hnames hm, lookup_rows hindices hm, lookup_rows hindices hm,
    lookup_rows hindices hm⟩

/-- No table knows a name that no member has. -/
theorem select_other_name {name : String} (hname : name ∉ plan.members.map PlannedMember.name) :
    plan.member? name = none ∧ plan.memberMut? name = none := by
  obtain ⟨hshared, hmutable, -, -, -⟩ := arms_eq h
  rw [member?, memberMut?, hshared, hmutable]
  exact ⟨lookup_rows_eq_none hname, lookup_rows_eq_none hname⟩

/-- No table knows an index beyond the members. -/
theorem select_other_index {i : Nat} (hi : plan.members.length ≤ i) :
    plan.memberAt? i = none ∧ plan.memberAtMut? i = none ∧ plan.nameAt? i = none := by
  have hindex : i ∉ plan.members.map PlannedMember.index := by
    rw [indices_eq h, List.mem_range]
    omega
  obtain ⟨-, -, hshared, hmutable, hnames⟩ := arms_eq h
  rw [memberAt?, memberAtMut?, nameAt?, hshared, hmutable, hnames]
  exact ⟨lookup_rows_eq_none hindex, lookup_rows_eq_none hindex, lookup_rows_eq_none hindex⟩

theorem index_of_getElem? {i : Nat} (hm : plan.members[i]? = some m) : m.index = i := by
  have hi : (plan.members.map PlannedMember.index)[i]? = some m.index := by rw [List.getElem?_map, hm, Option.map_some]
  rw [indices_eq h, List.getElem?_range (List.getElem?_eq_some_iff.1 hm).1] at hi
  exact (Option.some.inj hi).symm

/-- By index the tables have what the list of members has. -/
theorem select_index (i : Nat) :
    plan.memberAt? i = plan.members[i]?.map (fun m => ⟨.shared, m.field⟩) ∧
      plan.memberAtMut? i = plan.members[i]?.map (fun m => ⟨.mutable, m.field⟩) ∧
      plan.nameAt? i = plan.members[i]?.map PlannedMember.name := by
  cases hm : plan.members[i]? with
  | some m =>
    obtain ⟨-, -, hshared, hmutable, hname⟩ := select_member h (List.mem_of_getElem? hm)
    rw [index_of_getElem? h hm] at hshared hmutable hname
    exact ⟨hshared, hmutable, hname⟩
  | none => exact select_other_index h (List.getElem?_eq_none_iff.1 hm)

/-- The iterator gives the members in order, and nothing behind them. -/
theorem answers_iterator (n : Nat) :
    (plan.iterator.run n).map Prod.fst =
      (List.range n).map fun i => plan.members[i]?.map fun m => (m.name, ⟨.shared, m.field⟩) := by
  let entry (m : PlannedMember) : String × FieldRef := (m.name, ⟨.shared, m.field⟩)
  have hget : ∀ i, Iterator.entryAt? plan.nameAt? plan.memberAt? i = (plan.members.map entry)[i]? := by
    intro i
    obtain ⟨hshared, -, hname⟩ := select_index h i
    rw [Iterator.entryAt?, hshared, hname, List.getElem?_map]
    cases plan.members[i]? <;> rfl
  rw [iterator, Iterator.ofMembers_eq, Iterator.run_of_getElem? hget, List.map_map]
  apply List.map_congr_left
  intro i _
  rw [Function.comp_apply, hget, List.getElem?_map]

end Accepted

/-! ## The info -/

section Info
variable (typeOf : List Token → Ty) (type : Ty)

theorem names_info (plan : Plan) : (plan.info typeOf type).names = plan.members.map PlannedMember.name := by
  rw [info, StructInfo.names_ofMembers, List.map_map]
  rfl

theorem memberAt?_info (plan : Plan) (i : Nat) :
    (plan.info typeOf type).memberAt? i =
      plan.members[i]?.map fun m => ⟨m.name, i, m.access, typeOf m.type, m.docs⟩ := by
  rw [info, StructInfo.memberAt?_ofMembers, List.getElem?_map, Option.map_map]
  rfl

/-- The info knows the index of each name that the table of names has. -/
theorem indexOf?_info (h : ofItem collect item = .ok plan) (name : String) (i : Nat) :
    (plan.info typeOf type).indexOf? name = some i ↔ plan.nameAt? i = some name := by
  have hnodup : (plan.info typeOf type).names.Nodup := by
    rw [names_info]
    exact names_nodup h
  rw [StructInfo.indexOf?_eq_some_iff hnodup, names_info, List.getElem?_map, (select_index h i).2.2]

/-- A name that is resolved by the info stands for the field that the table has under the name. -/
theorem member?_info (h : ofItem collect item = .ok plan) (name : String) :
    ((plan.info typeOf type).member? name).bind (fun m => plan.memberAt? m.index) = plan.member? name ∧
      ((plan.info typeOf type).member? name).bind (fun m => plan.memberAtMut? m.index) = plan.memberMut? name := by
  by_cases hname : name ∈ plan.members.map PlannedMember.name
  · obtain ⟨m, hm, rfl⟩ := List.mem_map.1 hname
    obtain ⟨hshared, hmutable, hsharedAt, hmutableAt, hnameAt⟩ := select_member h hm
    obtain ⟨i, hi⟩ := List.mem_iff_getElem?.1 hm
    have hindex : m.index = i := index_of_getElem? h hi
    have hfound := (indexOf?_info typeOf type h m.name m.index).2 hnameAt
    rw [StructInfo.member?, hfound, Option.bind_some, memberAt?_info, hindex, hi, Option.map_some, Option.bind_some,
      Option.bind_some, hshared, hmutable]
    rw [hindex] at hsharedAt hmutableAt
    exact ⟨hsharedAt, hmutableAt⟩
  · obtain ⟨hshared, hmutable⟩ := select_other_name h hname
    have hnone : (plan.info typeOf type).indexOf? name = none := by
      apply StructInfo.indexOf?_eq_none
      rwa [names_info]
    rw [StructInfo.member?, hnone, hshared, hmutable]
    exact ⟨rfl, rfl⟩
end Info

end Plan

/-! ## Values -/

namespace Plan
variable {collect : Bool} {item : Item} {plan : Plan}

/-- A value of the struct, where `state` tells what its fields hold. -/
def value (plan : Plan) (typeOf : List Token → Ty) (type : Ty) (state : String → Value) (fields : List HiddenField)
    (hidden : List Value) : Value :=
  .struct ⟨plan.info typeOf type, fields⟩ (plan.members.map fun m => state m.field) hidden

theorem findIdx?_of_nodup {names : List String} {name : String} {i : Nat} (h : names.Nodup) (hi : names[i]? = some name) :
    names.findIdx? (· == name) = some i := by
  obtain ⟨hlt, rfl⟩ := List.getElem?_eq_some_iff.1 hi
  rw [List.findIdx?_eq_some_iff_getElem]
  refine ⟨hlt, beq_self_eq_true _, fun j hj heq => ?_⟩
  have hij : j = i := (h.getElem_inj_iff).1 (beq_iff_eq.1 heq)
  omega

/-- A value of the struct shows what the tables select. -/
theorem view_value (h : ofItem collect item = .ok plan) (typeOf : List Token → Ty) (type : Ty) (state : String → Value)
    (fields : List HiddenField) (hidden : List Value) :
    ∃ s, (plan.value typeOf type state fields hidden).view = .struct s ∧ s.len = plan.count ∧
      (∀ i, s.nameAt? i = plan.nameAt? i) ∧ (∀ i, s.memberAt? i = (plan.memberAt? i).map fun ref => state ref.field) ∧
      ∀ name, s.member? name = (plan.member? name).map fun ref => state ref.field := by
  let s : StructView := ⟨(plan.info typeOf type).names, (plan.members.map fun m => state m.field).map some⟩
  have hnames : s.names = plan.members.map PlannedMember.name := names_info typeOf type plan
  have hmemberAt : ∀ i, s.memberAt? i = (plan.memberAt? i).map fun ref => state ref.field := by
    intro i
    rw [StructView.memberAt?, (select_index h i).1, List.getElem?_map, List.getElem?_map]
    cases plan.members[i]? <;> rfl
  refine ⟨s, rfl, ?_, ?_, hmemberAt, ?_⟩
  · rw [StructView.len, hnames, List.length_map, count_eq h]
  · intro i
    rw [StructView.nameAt?, hnames, List.getElem?_map, (select_index h i).2.2]
  · intro name
    rw [StructView.member?, StructView.indexOf?, hnames]
    by_cases hname : name ∈ plan.members.map PlannedMember.name
    · obtain ⟨m, hm, rfl⟩ := List.mem_map.1 hname
      obtain ⟨hshared, -, hsharedAt, -, hnameAt⟩ := select_member h hm
      rw [(select_index h m.index).2.2, ← List.getElem?_map] at hnameAt
      rw [findIdx?_of_nodup (names_nodup h) hnameAt, Option.bind_some, hmemberAt, hsharedAt, hshared]
    · have hother : (plan.members.map PlannedMember.name).findIdx? (· == name) = none := by
        rw [List.findIdx?_eq_none_iff]
        exact fun n hn => beq_eq_false_iff_ne.2 fun heq => hname (heq ▸ hn)
      rw [hother, (select_other_name h hname).1]
      rfl

end Plan

/-! ## All tables -/

/-- What the info says of a shown field. -/
def ShownField.info (typeOf : List Token → Ty) (f : ShownField) (i : Nat) : MemberInfo :=
  ⟨f.name, i, f.attrs.access, typeOf f.field.type, f.attrs.docs.text?⟩

/-- The tables of a struct that is accepted, where `f` is the shown field with the number `i`: each of them has
`f` under `i` and under the name of `f`, and so has the info, which knows the index of a name if and only if
the name is found at the index. Nothing is found under other indices and under names that no shown field
has. A name that is resolved by the info leads to the field that the name itself selects. -/
theorem tables_coherent {collect : Bool} {item : Item} {plan : Plan} (h : Plan.ofItem collect item = .ok plan)
    (typeOf : List Token → Ty) (type : Ty) :
    let info := plan.info typeOf type
    let m := (item.shown collect).length
    (∀ f ∈ item.fields, ∃ attrs, FieldAttributes.ofAttributes collect f.attrs = .ok attrs) ∧
    plan.members.map PlannedMember.index = List.range m ∧ info.members.length = m ∧ plan.count = m ∧
    (∀ i f, (item.shown collect)[i]? = some f →
      let shared : FieldRef := ⟨.shared, f.field.ident⟩
      let mutable : FieldRef := ⟨.mutable, f.field.ident⟩
      plan.members[i]? = some (f.member i) ∧ info.memberAt? i = some (f.info typeOf i) ∧
      plan.memberAt? i = some shared ∧ plan.memberAtMut? i = some mutable ∧
      plan.member? f.name = some shared ∧ plan.memberMut? f.name = some mutable ∧ plan.nameAt? i = some f.name) ∧
    (∀ n, (plan.iterator.run n).map Prod.fst =
      (List.range n).map fun i => (item.shown collect)[i]?.map fun f => (f.name, ⟨.shared, f.field.ident⟩)) ∧
    (∀ name i, info.indexOf? name = some i ↔ plan.nameAt? i = some name) ∧
    (∀ i, m ≤ i → info.memberAt? i = none ∧ plan.memberAt? i = none ∧ plan.memberAtMut? i = none ∧
      plan.nameAt? i = none) ∧
    (∀ name, (∀ f ∈ item.shown collect, f.name ≠ name) → info.indexOf? name = none ∧ info.member? name = none ∧
      plan.member? name = none ∧ plan.memberMut? name = none) ∧
    ∀ name, (info.member? name).bind (fun m => plan.memberAt? m.index) = plan.member? name ∧
      (info.member? name).bind (fun m => plan.memberAtMut? m.index) = plan.memberMut? name := by
  intro info m
  have hlength : plan.members.length = m := Plan.length_members h
  have hmembers := Plan.getElem?_members h
  refine ⟨Plan.attributes_of_ofItem h, ?_, ?_, ?_, ?_, ?_, Plan.indexOf?_info typeOf type h, ?_, ?_,
    Plan.member?_info typeOf type h⟩
  · rw [Plan.indices_eq h, hlength]
  · have hnames := congrArg List.length (Plan.names_info typeOf type plan)
    rwa [StructInfo.names, List.length_map, List.length_map, hlength] at hnames
  · rw [Plan.count_eq h, hlength]
  · intro i f hf shared mutable
    have hm : plan.members[i]? = some (f.member i) := by rw [hmembers, hf, Option.map_some]
    obtain ⟨hshared, hmutable, hsharedAt, hmutableAt, hname⟩ := Plan.select_member h (List.mem_of_getElem? hm)
    refine ⟨hm, ?_, hsharedAt, hmutableAt, hshared, hmutable, hname⟩
    rw [Plan.memberAt?_info, hm]
    rfl
  · intro n
    rw [Plan.answers_iterator h]
    refine List.map_congr_left fun i _ => ?_
    rw [hmembers, Option.map_map]
    rfl
  · intro i hi
    obtain ⟨hshared, hmutable, hname⟩ := Plan.select_other_index h (hlength ▸ hi)
    refine ⟨?_, hshared, hmutable, hname⟩
    rw [Plan.memberAt?_info, List.getElem?_eq_none (hlength ▸ hi)]
    rfl
  · intro name hname
    have hother : name ∉ plan.members.map PlannedMember.name := by
      rw [Plan.members_eq h, List.map_map]
      intro hmem
      obtain ⟨⟨f, i⟩, hf, rfl⟩ := List.mem_map.1 hmem
      exact hname f (List.fst_mem_of_mem_zipIdx hf) rfl
    have hindex : info.indexOf? name = none := by
      apply StructInfo.indexOf?_eq_none
      rwa [Plan.names_info]
    obtain ⟨hshared, hmutable⟩ := Plan.select_other_name h hother
    refine ⟨hindex, ?_, hshared, hmutable⟩
    rw [StructInfo.member?, hindex]
    rfl

/-- A struct with a renamed field and a skipped one. -/
def Item.player : Item where
  ident := "Player"
  shape := .named
  params := []
  predicates := []
  attrs := []
  fields :=
    [ ⟨"name", [.ident "String"], []⟩,
      ⟨"hit_points", [.ident "u32"], [.reflect [⟨"rename", .value (.text "hitPoints")⟩]]⟩,
      ⟨"session", [.ident "u64"], [.reflect [⟨"skip", .nothing⟩]]⟩,
      ⟨"level", [.ident "u8"], [.reflect [⟨"readonly", .nothing⟩]]⟩ ]

/-- The skipped field has no index and no name, and the one behind it is the third member. -/
theorem tables_coherent_player :
    let typeOf (_ : List Token) : Ty := .i32
    let type : Ty := .struct ⟨none, "Player"⟩ []
    ∃ plan, Plan.ofItem false .player = .ok plan ∧ plan.memberAtMut? 2 = some ⟨.mutable, "level"⟩ ∧
      plan.member? "session" = none ∧
      ((plan.info typeOf type).member? "hitPoints").bind (fun m => plan.memberAt? m.index) =
        some ⟨.shared, "hit_points"⟩ := by
  intro typeOf type
  obtain ⟨plan, h⟩ : ∃ plan, Plan.ofItem false .player = .ok plan := ⟨_, rfl⟩
  obtain ⟨-, -, -, -, hshown, -, -, -, hother, hresolved⟩ := tables_coherent h typeOf type
  obtain ⟨-, -, -, hlevel, -, -, -⟩ := hshown 2 _ rfl
  obtain ⟨-, -, -, -, hpoints, -, -⟩ := hshown 1 _ rfl
  obtain ⟨-, -, hsession, -⟩ := hother "session" (by decide)
  exact ⟨plan, h, hlevel, hsession, (hresolved "hitPoints").1.trans hpoints⟩

/-- A member may have the name of a skipped field, which then selects the member. -/
theorem skipped_name_selects :
    let item : Item := { Item.player with fields :=
      [ ⟨"a", [.ident "u8"], [.reflect [⟨"skip", .nothing⟩]]⟩,
        ⟨"b", [.ident "u8"], [.reflect [⟨"rename", .value (.text "a")⟩]]⟩ ] }
    ∃ plan f attrs, Plan.ofItem true item = .ok plan ∧ f ∈ item.fields ∧
      FieldAttributes.ofAttributes true f.attrs = .ok attrs ∧ attrs.skip = true ∧ attrs.rename.getD f.ident = "a" ∧
      plan.member? "a" = some ⟨.shared, "b"⟩ := by
  intro item
  exact ⟨_, _, _, rfl, List.mem_cons_self, rfl, rfl, rfl, rfl⟩

end Derive

end Reflection
