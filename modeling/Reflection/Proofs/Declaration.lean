import Reflection.Schema.Info
/-!
# What a name stands for

A struct info finds a member by its name through an index. The index comes from a declaration of
that name, and since members are numbered in order, the member found under it is that declaration
(`member?_eq_some`). Hence different names stand for different members, also where a name is
declared more than once (`member_index_ne`).
-/

namespace Reflection.StructInfo

variable {info : StructInfo} {name : String} {m : MemberInfo}

/-- What is under a name in a table that the declarations of a list have filled. -/
theorem get?_foldl_set (ms : List MemberInfo) (table : KeyMap String Nat) :
    (ms.foldl (fun table m => table.set m.name m.index) table).get? name =
      ms.foldl (fun found m => if m.name = name then some m.index else found) (table.get? name) := by
  induction ms generalizing table with
  | nil => rfl
  | cons m ms ih =>
    rw [List.foldl_cons, List.foldl_cons, ih, KeyMap.get?_set]
    simp only [eq_comm]

theorem indexOf?_eq_foldl :
    info.indexOf? name = info.members.foldl (fun found m => if m.name = name then some m.index else found) none :=
  get?_foldl_set info.members .empty

/-- The index that the names of a list leave behind, after one found before. -/
theorem foldl_index_eq_some {ms : List MemberInfo} {found : Option Nat} {k : Nat}
    (h : ms.foldl (fun found m => if m.name = name then some m.index else found) found = some k) :
    found = some k ∨ ∃ m ∈ ms, m.name = name ∧ m.index = k := by
  induction ms generalizing found with
  | nil => exact .inl h
  | cons m ms ih =>
    rw [List.foldl_cons] at h
    rcases ih h with hm | ⟨m', hmem, hname, hk⟩
    · by_cases hn : m.name = name
      · rw [if_pos hn, Option.some.injEq] at hm
        exact .inr ⟨m, List.mem_cons_self, hn, hm⟩
      · rw [if_neg hn] at hm
        exact .inl hm
    · exact .inr ⟨m', List.mem_cons_of_mem _ hmem, hname, hk⟩

/-- The declaration that has left an index stands at that index. -/
theorem memberAt?_of_indexOf? {i : Nat} (h : info.indexOf? name = some i) :
    ∃ m, info.memberAt? i = some m ∧ m.name = name := by
  rw [indexOf?_eq_foldl] at h
  rcases foldl_index_eq_some h with hnone | ⟨m, hmem, hname, hindex⟩
  · cases hnone
  · obtain ⟨j, hj⟩ := List.mem_iff_getElem?.1 hmem
    obtain rfl : j = i := (info.index_eq j m hj).symm.trans hindex
    exact ⟨m, hj, hname⟩

theorem member?_eq_some (h : info.member? name = some m) : m.name = name ∧ info.memberAt? m.index = some m := by
  obtain ⟨k, hk, hm⟩ := Option.bind_eq_some_iff.1 h
  obtain ⟨m', hm', hname⟩ := memberAt?_of_indexOf? hk
  obtain rfl : m' = m := Option.some.inj (hm'.symm.trans hm)
  rw [info.index_eq k m' hm]
  exact ⟨hname, hm⟩

theorem member_index_ne {name' : String} {m' : MemberInfo} (h : info.member? name = some m)
    (h' : info.member? name' = some m') (hne : name ≠ name') : m.index ≠ m'.index := by
  intro hi
  obtain ⟨hname, hm⟩ := member?_eq_some h
  obtain ⟨hname', hm'⟩ := member?_eq_some h'
  rw [hi, hm', Option.some.injEq] at hm
  exact hne (by rw [← hname, ← hname', hm])

/-- The index of a name is left behind by some declaration, if there is one. -/
theorem foldl_index_eq_none {ms : List MemberInfo} {found : Option Nat}
    (h : ms.foldl (fun found m => if m.name = name then some m.index else found) found = none) :
    found = none ∧ ∀ m ∈ ms, m.name ≠ name := by
  induction ms generalizing found with
  | nil => exact ⟨h, nofun⟩
  | cons m ms ih =>
    rw [List.foldl_cons] at h
    obtain ⟨hm, hms⟩ := ih h
    by_cases hn : m.name = name
    · rw [if_pos hn] at hm
      cases hm
    · rw [if_neg hn] at hm
      refine ⟨hm, ?_⟩
      rw [List.forall_mem_cons]
      exact ⟨hn, hms⟩

theorem indexOf?_eq_none_iff : info.indexOf? name = none ↔ name ∉ info.names := by
  constructor
  · intro h hname
    obtain ⟨m, hm, rfl⟩ := List.mem_map.1 hname
    rw [indexOf?_eq_foldl] at h
    exact (foldl_index_eq_none h).2 m hm rfl
  · intro h
    rw [Option.eq_none_iff_forall_ne_some]
    intro i hi
    obtain ⟨m, hm, hname⟩ := memberAt?_of_indexOf? hi
    exact h (List.mem_map.2 ⟨m, List.mem_of_getElem? hm, hname⟩)

theorem indexOf?_eq_none (h : name ∉ info.names) : info.indexOf? name = none := indexOf?_eq_none_iff.2 h

/-- Where names differ, a name stands for the index at which it is declared. -/
theorem indexOf?_eq_some_iff (h : info.names.Nodup) {i : Nat} :
    info.indexOf? name = some i ↔ info.names[i]? = some name := by
  have hfound : ∀ {k}, info.indexOf? name = some k → info.names[k]? = some name := by
    intro k hk
    obtain ⟨m, hm, rfl⟩ := memberAt?_of_indexOf? hk
    rw [names, List.getElem?_map]
    exact congrArg (Option.map MemberInfo.name) hm
  refine ⟨hfound, fun hi => ?_⟩
  cases hk : info.indexOf? name with
  | none => exact absurd (List.mem_of_getElem? hi) (indexOf?_eq_none_iff.1 hk)
  | some k =>
    have hlt := (List.getElem?_eq_some_iff.1 hi).1
    rw [(List.getElem?_inj hlt h).1 (hi.trans (hfound hk).symm)]

theorem member?_eq_none_iff : info.member? name = none ↔ name ∉ info.names := by
  rw [← indexOf?_eq_none_iff, member?, Option.bind_eq_none_iff]
  constructor
  · intro h
    rw [Option.eq_none_iff_forall_ne_some]
    intro i hi
    obtain ⟨m, hm, -⟩ := memberAt?_of_indexOf? hi
    cases hm.symm.trans (h i hi)
  · intro h i hi
    cases hi.symm.trans h

/-! ## Members as they are numbered -/

theorem getElem?_numbered (i k : Nat) (ms : List MemberInfo) :
    (numbered i ms)[k]? = ms[k]?.map (·.withIndex (i + k)) := by
  induction ms generalizing i k with
  | nil => rfl
  | cons m ms ih =>
    cases k with
    | zero => rfl
    | succ k => rw [numbered, List.getElem?_cons_succ, List.getElem?_cons_succ, ih, Nat.add_right_comm, Nat.add_assoc]

theorem memberAt?_ofMembers (type : Ty) (ms : List MemberInfo) (docs : Option String) (i : Nat) :
    (ofMembers type ms docs).memberAt? i = ms[i]?.map (·.withIndex i) := by
  rw [memberAt?, ofMembers, getElem?_numbered, Nat.zero_add]

theorem names_ofMembers (type : Ty) (ms : List MemberInfo) (docs : Option String) :
    (ofMembers type ms docs).names = ms.map MemberInfo.name := by
  apply List.ext_getElem?
  intro i
  rw [names, List.getElem?_map, List.getElem?_map]
  show ((ofMembers type ms docs).memberAt? i).map MemberInfo.name = _
  rw [memberAt?_ofMembers, Option.map_map]
  rfl

end Reflection.StructInfo
