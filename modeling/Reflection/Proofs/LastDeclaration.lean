import Mathlib.Data.List.Induction
import Mathlib.Order.Bounds.Basic
import Reflection.Proofs.Declaration
import Reflection.Proofs.Transparency
/-!
# The last declaration of a name

A struct info may be made from any list of members, also from one that declares a name twice. The members are
numbered as they stand in the list, whatever numbers they come with. The table of indices is filled in the same
order, so it holds for each name the greatest index at which the name is declared (`indexOf?_isGreatest`). All that
is asked of a name is answered from the declaration there, and walks use that declaration too (`standsFor_usable?`).
-/

namespace Reflection

namespace StructInfo

/-- The positions at which a list declares a name. -/
def declaredAt (ms : List MemberInfo) (name : String) : Set Nat := {i | ∃ m, ms[i]? = some m ∧ m.name = name}

variable {ms : List MemberInfo} {m : MemberInfo} {name : String} {i : Nat}

/-! ## Positions of a name -/

theorem lt_of_declaredAt (h : i ∈ declaredAt ms name) : i < ms.length := by
  obtain ⟨m, hm, -⟩ := h
  exact (List.getElem?_eq_some_iff.1 hm).1

/-- The last member of a list is the last declaration of its own name. -/
theorem isGreatest_declaredAt_concat (ms : List MemberInfo) (m : MemberInfo) :
    IsGreatest (declaredAt (ms ++ [m]) m.name) ms.length := by
  refine ⟨⟨m, by simp, rfl⟩, fun i hi => ?_⟩
  have := lt_of_declaredAt hi
  rw [List.length_append, List.length_singleton] at this
  omega

/-- It is no declaration of another name. -/
theorem declaredAt_concat_of_ne (h : m.name ≠ name) : declaredAt (ms ++ [m]) name = declaredAt ms name := by
  ext i
  constructor
  · rintro ⟨m', hm', hname⟩
    rcases Nat.lt_or_ge i ms.length with hi | hi
    · rw [List.getElem?_append_left hi] at hm'
      exact ⟨m', hm', hname⟩
    · rw [List.getElem?_append_right hi] at hm'
      rw [List.mem_singleton.1 (List.mem_of_getElem? hm')] at hname
      exact absurd hname h
  · rintro ⟨m', hm', hname⟩
    exact ⟨m', (List.getElem?_append_left (lt_of_declaredAt ⟨m', hm', hname⟩)).trans hm', hname⟩

/-! ## The table of indices -/

theorem members_ofMembers (type : Ty) (ms : List MemberInfo) (docs : Option String) :
    (ofMembers type ms docs).members = ms.mapIdx fun i m => m.withIndex i := by
  apply List.ext_getElem?
  intro i
  rw [List.getElem?_mapIdx]
  exact memberAt?_ofMembers type ms docs i

/-- Each declaration takes its name over. -/
theorem indexOf?_concat (type : Ty) (ms : List MemberInfo) (m : MemberInfo) (docs : Option String) (name : String) :
    (ofMembers type (ms ++ [m]) docs).indexOf? name =
      if name = m.name then some ms.length else (ofMembers type ms docs).indexOf? name := by
  have hmembers : (ofMembers type (ms ++ [m]) docs).members =
      (ofMembers type ms docs).members ++ [m.withIndex ms.length] := by
    rw [members_ofMembers, members_ofMembers, List.mapIdx_concat]
  rw [indexOf?, indices, hmembers, List.foldl_append, List.foldl_cons, List.foldl_nil, KeyMap.get?_set]
  rfl

/-- The index that is left under a name is the one of the last declaration. The induction goes along the table as it
is filled, from the first member to the last. -/
theorem indexOf?_isGreatest (type : Ty) (ms : List MemberInfo) (docs : Option String) (name : String) (i : Nat) :
    (ofMembers type ms docs).indexOf? name = some i ↔ IsGreatest (declaredAt ms name) i := by
  induction ms using List.reverseRecOn with
  | nil =>
    refine iff_of_false nofun fun h => ?_
    exact absurd (lt_of_declaredAt h.1) (Nat.not_lt_zero i)
  | append_singleton ms m ih =>
    rw [indexOf?_concat]
    by_cases hname : name = m.name
    · subst hname
      rw [if_pos rfl, Option.some.injEq]
      have hgreatest := isGreatest_declaredAt_concat ms m
      exact ⟨fun h => h ▸ hgreatest, fun h => hgreatest.unique h⟩
    · rw [if_neg hname, declaredAt_concat_of_ne (Ne.symm hname)]
      exact ih

theorem indexOf?_ofMembers_eq_none_iff (type : Ty) (ms : List MemberInfo) (docs : Option String) (name : String) :
    (ofMembers type ms docs).indexOf? name = none ↔ ∀ m ∈ ms, m.name ≠ name := by
  rw [indexOf?_eq_none_iff, names_ofMembers, List.mem_map, not_exists]
  exact forall_congr' fun m => not_and

/-- A name stands for its last declaration. -/
theorem member?_ofMembers (type : Ty) (docs : Option String) (hi : IsGreatest (declaredAt ms name) i)
    (hm : ms[i]? = some m) : (ofMembers type ms docs).member? name = some (m.withIndex i) := by
  rw [member?, (indexOf?_isGreatest type ms docs name i).2 hi, Option.bind_some, memberAt?_ofMembers, hm, Option.map_some]

end StructInfo

/-! ## What walks make of a name -/

/-- The index of the member that a name stands for, if it may be used. -/
def StructInfo.usable? (info : StructInfo) (mode : Mode) (name : String) : Option Nat :=
  ((info.member? name).filter fun m => mode.allows m.access).map MemberInfo.index

/-- A name comes to the slot at an index, be it looked up, looked at or held to be changed, or to nothing. -/
structure Resolves {σ : Type} (lookup : Lookup σ) (memory : σ) (mode : Mode) (v : Value) (name : String)
    (index? : Option Nat) : Prop where
  found : (findMember lookup mode v name memory).result = index?.elim (.error (v.memberNotFound name mode)) .ok
  looked : (locate lookup mode v (.member name) memory).result =
    (index?.bind fun i => v.filled? (.member i)).elim (.error (v.memberNotFound name mode)) .ok
  held : (focusOn lookup mode v (.member name) memory).result =
    (index?.bind fun i => v.filled? (.member i)).elim (.error (v.memberNotFound name mode)) (.ok ∘ v.focusAt)

section Resolves
variable {v : Value} {info : StructInfo} {name : String}

theorem resolves_of_find {σ : Type} {lookup : Lookup σ} {memory : σ} (hv : v.info = .struct info)
    (h : (lookup.find info name memory).1 = info.member? name) (mode : Mode) :
    Resolves lookup memory mode v name (info.usable? mode name) := by
  have hfound : (findMember lookup mode v name memory).result =
      (info.usable? mode name).elim (.error (v.memberNotFound name mode)) .ok := by
    simp only [findMember, hv, h, StructInfo.usable?]
    cases (info.member? name).filter fun m => mode.allows m.access <;> rfl
  have hlooked : (locate lookup mode v (.member name) memory).result =
      ((info.usable? mode name).bind fun i => v.filled? (.member i)).elim (.error (v.memberNotFound name mode)) .ok := by
    simp only [locate, hfound]
    cases info.usable? mode name with
    | none => rfl
    | some i =>
      simp only [Option.elim_some, Except.bind, Option.bind_some, Value.filled?]
      cases v.child? (.member i) <;> rfl
  refine ⟨hfound, hlooked, ?_⟩
  simp only [focusOn_eq, hlooked]
  cases (info.usable? mode name).bind fun i => v.filled? (.member i) <;> rfl

/-- In each mode a name comes to what is said of the mode, without a cache and with one that earlier calls have left. -/
def StandsFor (v : Value) (name : String) (index? : Mode → Option Nat) : Prop :=
  ∀ mode, Resolves .direct () mode v name (index? mode) ∧
    ∀ (U : Universe) (earlier : List Call), (∀ call ∈ earlier, call.DeclaredIn U) → v.DeclaredIn U →
      let cache := (Call.runAll .cached .empty .empty earlier).2
      Resolves .cached cache mode v name (index? mode)

theorem standsFor_usable? (hv : v.info = .struct info) : StandsFor v name (info.usable? · name) := by
  intro mode
  refine ⟨resolves_of_find hv rfl mode, ?_⟩
  intro U earlier hearlier hdeclared cache
  have hempty := MemberCache.faithful_empty U
  have hcache : cache.Faithful U := (Call.runAll_agrees (MemberCache.agrees U) hempty hearlier hempty).2
  exact resolves_of_find hv (MemberCache.agrees U info name cache (Value.info?_of_declaredIn hdeclared hv) hcache).1 mode

end Resolves

/-- What a struct info made from any list of members says of them, and of a name: it is the declaration with the
greatest index that decides, in every query and on every walk. -/
theorem last_declaration_wins (type : Ty) (ms : List MemberInfo) (docs : Option String) :
    let info := StructInfo.ofMembers type ms docs
    info.members.length = ms.length ∧ info.members = ms.mapIdx (fun i m => { m with index := i }) ∧
    (∀ i, info.memberAt? i = ms[i]?.map fun m => { m with index := i }) ∧
    ∀ name,
      (∀ i, info.indexOf? name = some i ↔ IsGreatest (StructInfo.declaredAt ms name) i) ∧
      (info.indexOf? name = none ↔ ∀ m ∈ ms, m.name ≠ name) ∧
      info.member? name = (info.indexOf? name).bind info.memberAt? ∧
      (∀ i m, IsGreatest (StructInfo.declaredAt ms name) i → ms[i]? = some m →
        info.readableMember? name = (if m.access.isReadable then some { m with index := i } else none) ∧
        info.writableMember? name = (if m.access.isWritable then some { m with index := i } else none) ∧
        ∀ v, v.info = .struct info → StandsFor v name fun mode => if mode.allows m.access then some i else none) ∧
      ((∀ m ∈ ms, m.name ≠ name) →
        info.readableMember? name = none ∧ info.writableMember? name = none ∧
        ∀ v, v.info = .struct info → StandsFor v name fun _ => none) := by
  intro info
  have hmembers : info.members = ms.mapIdx fun i m => m.withIndex i := StructInfo.members_ofMembers type ms docs
  refine ⟨by rw [hmembers, List.length_mapIdx], hmembers, StructInfo.memberAt?_ofMembers type ms docs, fun name =>
    ⟨StructInfo.indexOf?_isGreatest type ms docs name, StructInfo.indexOf?_ofMembers_eq_none_iff type ms docs name, rfl,
      fun i m hi hm => ?_, fun hnone => ?_⟩⟩
  · have hmember : info.member? name = some (m.withIndex i) := StructInfo.member?_ofMembers type docs hi hm
    have husable : (info.usable? · name) = fun mode => if mode.allows m.access then some i else none := by
      funext mode
      rw [StructInfo.usable?, hmember, Option.filter_some]
      show Option.map MemberInfo.index (if mode.allows m.access then some (m.withIndex i) else none) = _
      split <;> rfl
    refine ⟨?_, ?_, fun v hv => ?_⟩
    · rw [StructInfo.readableMember?, hmember, Option.filter_some]
      rfl
    · rw [StructInfo.writableMember?, hmember, Option.filter_some]
      rfl
    · rw [← husable]
      exact standsFor_usable? hv
  · have hindex : info.indexOf? name = none := (StructInfo.indexOf?_ofMembers_eq_none_iff type ms docs name).2 hnone
    have hmember : info.member? name = none := by rw [StructInfo.member?, hindex, Option.bind_none]
    have husable : (info.usable? · name) = fun _ => none := by
      funext mode
      rw [StructInfo.usable?, hmember]
      rfl
    refine ⟨?_, ?_, fun v hv => ?_⟩
    · rw [StructInfo.readableMember?, hmember, Option.filter_none]
    · rw [StructInfo.writableMember?, hmember, Option.filter_none]
    · rw [← husable]
      exact standsFor_usable? hv

/-- Of three members two have one name. The first of them could be written, the last one cannot. -/
theorem last_declaration_wins_readOnly :
    let first := (MemberInfo.new "x" .i32).withIndex 9
    let last := ((MemberInfo.new "x" .i32).withAccess .readOnly).withIndex 4
    let info := StructInfo.ofMembers Sample.tyB [first, .new "y" .i32, last] none
    let v := Value.struct ⟨info, []⟩ [.i32 1, .i32 2, .i32 3] []
    info.indexOf? "x" = some 2 ∧ info.readableMember? "x" = some (last.withIndex 2) ∧ info.writableMember? "x" = none ∧
    (locate .direct .read v (.member "x") ()).result = .ok (.member 2, .i32 3) ∧
    (locate .direct .write v (.member "x") ()).result = .error (v.memberNotFound "x" .write) ∧
    info.readableMember? "z" = none := by
  intro first last info v
  obtain ⟨-, -, -, hname⟩ := last_declaration_wins Sample.tyB [first, .new "y" .i32, last] none
  obtain ⟨hindex, -, -, hlast, -⟩ := hname "x"
  obtain ⟨-, -, -, -, hnone⟩ := hname "z"
  have hx : info.indexOf? "x" = some 2 := rfl
  obtain ⟨hread, hwrite, hwalks⟩ := hlast 2 last ((hindex 2).1 hx) rfl
  have hwalks := hwalks v rfl
  exact ⟨hx, hread, hwrite, (hwalks .read).1.looked, (hwalks .write).1.looked, (hnone (by decide)).1⟩

end Reflection
