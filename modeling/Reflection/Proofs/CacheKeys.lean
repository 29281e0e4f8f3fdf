import Mathlib.Data.List.Nodup
import Mathlib.Data.Nat.Find
import Reflection.Proofs.Transparency
/-!
# Keys of a member cache

A segment asks for a member if it is the name of one in the declaration of the struct that it is used on
(`Value.keyAt?`), whether it may then be used or not. A walk adds to the cache the keys that its segments ask
for and that are not held yet, each in its turn (`Value.newKeyAt?`, `keys_seek`), and reports each key that it
adds (`keys_enter`).
-/

namespace Reflection

/-! ## Asking for a member -/

namespace Value

/-- The type and name of the declared member that a segment asks for on a value that is no pointer. -/
def memberKey? (w : Value) : Segment → Option (Ty × String)
  | .index _ => none
  | .member name =>
    match w.info with
    | .struct info => if name ∈ info.names then some (info.type, name) else none
    | _ => none

/-- What the segment at a position of a path asks for, if the walk gets there. -/
def keyAt? (root : Value) (p : List Segment) (i : Nat) : Option (Ty × String) :=
  (root.behind? (p.take i)).bind fun w => p[i]?.bind w.memberKey?

section KeyAt
variable {v x : Value} {s : Segment} {slot : Slot} {rest : List Segment}

theorem behind?_nil (v : Value) : v.behind? [] = v.chainEnd? := behind?_of_find rfl

theorem behind?_cons (h : v.step .read s = .ok (slot, x)) (q : List Segment) : v.behind? (s :: q) = x.behind? q := by
  rw [behind?, behind?, getFrom_find, getFrom_find, find_ok (by rw [Mode.read_before]; exact h), find_shift]
  cases x.find .read 0 q <;> rfl

theorem behind?_error {cause : Cause} (h : v.step .read s = .error cause) (q : List Segment) :
    v.behind? (s :: q) = none := by
  rw [behind?, getFrom_find, find_error (by rw [Mode.read_before]; exact h)]
  rfl

theorem keyAt?_zero (v : Value) (s : Segment) (rest : List Segment) :
    v.keyAt? (s :: rest) 0 = v.chainEnd?.bind (·.memberKey? s) := by
  rw [keyAt?, List.take_zero, behind?_nil]
  rfl

theorem keyAt?_succ (h : v.step .read s = .ok (slot, x)) (i : Nat) :
    v.keyAt? (s :: rest) (i + 1) = x.keyAt? rest i := by
  rw [keyAt?, List.take_succ_cons, behind?_cons h, List.getElem?_cons_succ, keyAt?]

/-- Behind a failure nothing is asked for. -/
theorem keyAt?_error {cause : Cause} (h : v.step .read s = .error cause) (i : Nat) :
    v.keyAt? (s :: rest) (i + 1) = none := by
  rw [keyAt?, List.take_succ_cons, behind?_error h]
  rfl

theorem lt_of_keyAt? {p : List Segment} {i : Nat} {key : Ty × String} (h : v.keyAt? p i = some key) : i < p.length := by
  obtain ⟨w, -, hkey⟩ := Option.bind_eq_some_iff.1 h
  obtain ⟨s, hs, -⟩ := Option.bind_eq_some_iff.1 hkey
  exact (List.getElem?_eq_some_iff.1 hs).1

/-- What a segment asks for does not depend on those behind it. -/
theorem keyAt?_append {p q : List Segment} {i : Nat} (hi : i < p.length) : v.keyAt? (p ++ q) i = v.keyAt? p i := by
  rw [keyAt?, keyAt?, List.take_append_of_le_length hi.le, List.getElem?_append_left hi]

/-- A walk that fails on the way does not get to the segments behind. -/
theorem behind?_of_failure {p : List Segment} {e : PathError} (h : (getFrom .direct 0 v p ()).result = .error e)
    (q : List Segment) : v.behind? (p ++ q) = none := by
  by_cases hq : q = []
  · rw [hq, List.append_nil, behind?, h]
  · rw [getFrom_find] at h
    rw [behind?, getFrom_find, find_append .read 0 v p hq, map_eq_error h]
    rfl

theorem keyAt?_of_failure {p q : List Segment} {i : Nat} {e : PathError}
    (h : (getFrom .direct 0 v p ()).result = .error e) (hi : p.length ≤ i) : v.keyAt? (p ++ q) i = none := by
  rw [keyAt?, List.take_append, List.take_of_length_le hi, behind?_of_failure h]
  rfl

end KeyAt

end Value

/-! ## Keys that are new -/

/-- A key that is not held yet. -/
def newKey? (keys : List (Ty × String)) (key : Option (Ty × String)) : Option (Ty × String) :=
  key.filter fun k => k ∉ keys

theorem mem_append_newKey? {keys : List (Ty × String)} {key : Option (Ty × String)} {k : Ty × String} :
    k ∈ keys ++ (newKey? keys key).toList ↔ k ∈ keys ∨ key = some k := by
  rw [List.mem_append, Option.mem_toList, newKey?, Option.filter_eq_some_iff, decide_eq_true_eq]
  by_cases hk : k ∈ keys <;> simp [hk]

/-- The key that a segment adds to those that are held. -/
def Value.addedKey? (keys : List (Ty × String)) (v : Value) (s : Segment) : Option (Ty × String) :=
  newKey? keys (v.chainEnd?.bind (·.memberKey? s))

/-- The key that the segment at a position adds to those that are held before the walk. -/
def Value.newKeyAt? (keys : List (Ty × String)) (root : Value) (p : List Segment) (i : Nat) : Option (Ty × String) :=
  (root.keyAt? p i).filter fun k => k ∉ keys ∧ ∀ j < i, root.keyAt? p j ≠ some k

/-- The keys that a walk adds, in order. -/
def Value.newKeys (keys : List (Ty × String)) (root : Value) (p : List Segment) : List (Ty × String) :=
  (List.range p.length).filterMap (root.newKeyAt? keys p)

namespace Value
variable {keys : List (Ty × String)} {v x : Value} {s : Segment} {slot : Slot} {rest : List Segment}

/-- Which keys are new does not depend on the order of those that are held. -/
theorem newKeyAt?_perm {keys' : List (Ty × String)} (h : keys.Perm keys') : newKeyAt? keys = newKeyAt? keys' := by
  funext root p i
  simp only [newKeyAt?, h.mem_iff]

theorem newKeys_perm {keys' : List (Ty × String)} (h : keys.Perm keys') : newKeys keys = newKeys keys' := by
  funext root p
  rw [newKeys, newKeyAt?_perm h, newKeys]

theorem newKeyAt?_zero (keys : List (Ty × String)) (v : Value) (s : Segment) (rest : List Segment) :
    newKeyAt? keys v (s :: rest) 0 = v.addedKey? keys s := by
  simp [newKeyAt?, addedKey?, newKey?, keyAt?_zero]

/-- What the first segment has added is held when the others are used. -/
theorem newKeyAt?_succ (h : v.step .read s = .ok (slot, x)) (i : Nat) :
    newKeyAt? keys v (s :: rest) (i + 1) = newKeyAt? (keys ++ (v.addedKey? keys s).toList) x rest i := by
  rw [newKeyAt?, newKeyAt?, keyAt?_succ h]
  congr 1
  funext k
  rw [decide_eq_decide, addedKey?, mem_append_newKey?, Nat.forall_lt_succ_left, keyAt?_zero, not_or, and_assoc]
  simp only [keyAt?_succ h, ne_eq]

theorem newKeyAt?_error {cause : Cause} (h : v.step .read s = .error cause) (i : Nat) :
    newKeyAt? keys v (s :: rest) (i + 1) = none := by
  rw [newKeyAt?, keyAt?_error h]
  rfl

/-- A key is held after a walk if it was held before or a segment has asked for it. -/
theorem mem_append_newKeys {keys : List (Ty × String)} {root : Value} {p : List Segment} {k : Ty × String} :
    k ∈ keys ++ newKeys keys root p ↔ k ∈ keys ∨ ∃ i, root.keyAt? p i = some k := by
  rw [List.mem_append, newKeys, List.mem_filterMap]
  constructor
  · rintro (hk | ⟨i, -, hi⟩)
    · exact .inl hk
    · exact .inr ⟨i, (Option.filter_eq_some_iff.1 hi).1⟩
  · rintro (hk | hasked)
    · exact .inl hk
    · by_cases hk : k ∈ keys
      · exact .inl hk
      · -- The first segment that asks for the key adds it.
        have hfirst := Nat.find_spec hasked
        refine .inr ⟨Nat.find hasked, List.mem_range.2 (lt_of_keyAt? hfirst), ?_⟩
        rw [newKeyAt?, Option.filter_eq_some_iff, decide_eq_true_eq]
        exact ⟨hfirst, hk, fun j hj => Nat.find_min hasked hj⟩

theorem newKeys_nil (keys : List (Ty × String)) (v : Value) : newKeys keys v [] = [] := rfl

theorem newKeys_cons (keys : List (Ty × String)) (v : Value) (s : Segment) (rest : List Segment) :
    newKeys keys v (s :: rest) =
      (v.addedKey? keys s).toList ++
        (List.range rest.length).filterMap fun i => newKeyAt? keys v (s :: rest) (i + 1) := by
  rw [newKeys, List.length_cons, List.range_succ_eq_map, List.filterMap_cons, List.filterMap_map, newKeyAt?_zero]
  cases v.addedKey? keys s <;> rfl

theorem newKeys_cons_ok (h : v.step .read s = .ok (slot, x)) :
    newKeys keys v (s :: rest) = (v.addedKey? keys s).toList ++ newKeys (keys ++ (v.addedKey? keys s).toList) x rest := by
  rw [newKeys_cons, newKeys]
  simp only [newKeyAt?_succ h]

theorem newKeys_cons_error {cause : Cause} (h : v.step .read s = .error cause) :
    newKeys keys v (s :: rest) = (v.addedKey? keys s).toList := by
  rw [newKeys_cons]
  simp [newKeyAt?_error h]

theorem newKeys_singleton (keys : List (Ty × String)) (v : Value) (s : Segment) :
    newKeys keys v [s] = (v.addedKey? keys s).toList := by
  rw [newKeys_cons]
  exact List.append_nil _

end Value

/-! ## Looking through the cache -/

namespace MemberCache

/-- What is held, type by type. -/
def keys (cache : MemberCache) : List (Ty × String) :=
  cache.members.entries.flatMap fun (id, names) => names.entries.map fun (name, _) => (id.type, name)

theorem keys_nodup (cache : MemberCache) : cache.keys.Nodup := by
  rw [keys, List.nodup_flatMap]
  constructor
  · rintro ⟨id, names⟩ -
    exact List.Nodup.of_map Prod.snd (by simpa [List.map_map, Function.comp_def] using names.keys_nodup)
  · -- The names of two types are held under different types.
    refine (List.pairwise_map.1 cache.members.keys_nodup).imp ?_
    rintro ⟨id, names⟩ ⟨id', names'⟩ hne key hkey hkey'
    obtain ⟨_, -, rfl⟩ := List.mem_map.1 hkey
    obtain ⟨_, -, heq⟩ := List.mem_map.1 hkey'
    exact hne (congrArg TypeId.of (congrArg Prod.fst heq).symm)

theorem size_eq (cache : MemberCache) : cache.size = cache.keys.length := by
  rw [size, keys, KeyMap.values, List.foldr_map]
  induction cache.members.entries with
  | nil => rfl
  | cons e entries ih => rw [List.foldr_cons, ih, List.flatMap_cons, List.length_append, List.length_map, KeyMap.size]

theorem mem_keys_iff {cache : MemberCache} {t : Ty} {name : String} :
    (t, name) ∈ cache.keys ↔ ∃ m, cache.get? t name = some m := by
  simp only [keys, List.mem_flatMap, List.mem_map, get?, TypeMap.getType?, Option.bind_eq_some_iff, Prod.exists,
    KeyMap.get?_eq_some_iff, Prod.mk.injEq]
  constructor
  · rintro ⟨id, names, hnames, _, m, hm, rfl, rfl⟩
    exact ⟨m, names, hnames, hm⟩
  · rintro ⟨m, names, hnames, hm⟩
    exact ⟨_, names, hnames, name, m, hm, rfl, rfl⟩

/-- The event of a member that is added to the cache. -/
def added (key : Ty × String) : Event := .cached key.2 key.1.path

theorem keys_hold {cache : MemberCache} {t : Ty} {name : String} (m : MemberInfo) (h : (t, name) ∉ cache.keys) :
    (cache.hold t name m).keys.Perm (cache.keys ++ [(t, name)]) := by
  have hnodup : (cache.keys ++ [(t, name)]).Nodup := by
    rw [List.nodup_append_comm, List.singleton_append, List.nodup_cons]
    exact ⟨h, cache.keys_nodup⟩
  rw [List.perm_ext_iff_of_nodup (keys_nodup _) hnodup]
  rintro ⟨t', name'⟩
  rw [List.mem_append, mem_keys_iff, mem_keys_iff, List.mem_singleton, get?_hold, Prod.mk.injEq]
  by_cases hkey : t' = t ∧ name' = name <;> simp [hkey]

/-- What is asked for is added unless it is held, and nothing else is. -/
theorem keys_find (info : StructInfo) (name : String) (cache : MemberCache) :
    let found := cache.find info name
    let new := newKey? cache.keys (if name ∈ info.names then some (info.type, name) else none)
    found.2.1.keys.Perm (cache.keys ++ new.toList) ∧ found.2.2 = new.toList.map added := by
  intro found new
  have hfound : found = cache.find info name := rfl
  rw [find] at hfound
  cases hget : cache.get? info.type name with
  | some m =>
    have hheld : (info.type, name) ∈ cache.keys := mem_keys_iff.2 ⟨m, hget⟩
    have hnew : new = none := by simp [new, newKey?, apply_ite (Option.filter _), hheld]
    simp only [hget] at hfound
    simp [hfound, hnew]
  | none =>
    have hnot : (info.type, name) ∉ cache.keys := by simp [mem_keys_iff, hget]
    cases hm : info.member? name with
    | none =>
      have hnew : new = none := by simp [new, newKey?, StructInfo.member?_eq_none_iff.1 hm]
      simp only [hget, hm] at hfound
      simp [hfound, hnew]
    | some m =>
      have hname : name ∈ info.names := by
        by_contra hnone
        cases hm.symm.trans (StructInfo.member?_eq_none_iff.2 hnone)
      have hnew : new = some (info.type, name) := by simp [new, newKey?, hname, hnot]
      simp only [hget, hm] at hfound
      rw [hfound, hnew]
      exact ⟨keys_hold m hnot, rfl⟩

end MemberCache

theorem keys_enter (mode : Mode) (v : Value) (s : Segment) (cache : MemberCache) :
    let step := enter .cached mode v s cache
    let new := v.addedKey? cache.keys s
    step.memory.keys.Perm (cache.keys ++ new.toList) ∧ step.log = new.toList.map MemberCache.added := by
  have hnone : newKey? cache.keys none = none := rfl
  unfold enter Value.addedKey?
  cases v.chainEnd? with
  | none => simp [hnone]
  | some w =>
    cases s with
    | index i => simp [locate, Value.memberKey?, hnone]
    | member name =>
      simp only [locate, findMember, Option.bind_some, Value.memberKey?]
      cases w.info with
      | struct info => exact MemberCache.keys_find info name cache
      | _ => simp [hnone]

/-- A walk adds what its segments ask for, be the last of them read or written. -/
theorem keys_seek {U : Universe} {v : Value} {cache : MemberCache} (mode : Mode) (position : Nat) (path : List Segment)
    (hv : v.DeclaredIn U) (hcache : cache.Faithful U) :
    (seek .cached mode position v path cache).2.keys.Perm (cache.keys ++ v.newKeys cache.keys path) := by
  induction path generalizing position v cache with
  | nil => simp [seek, Value.newKeys_nil]
  | cons s rest ih =>
    obtain ⟨hresult, hinv⟩ := enter_agrees (MemberCache.agrees U) (mode.before rest) s hv hcache
    obtain ⟨hkeys, -⟩ := keys_enter (mode.before rest) v s cache
    cases hstep : v.step (mode.before rest) s with
    | error cause =>
      rw [seek_error (hresult.trans hstep)]
      cases rest with
      | nil => rwa [Value.newKeys_singleton]
      | cons t rest =>
        have hread : v.step .read s = .error cause := hstep
        rwa [Value.newKeys_cons_error hread]
    | ok found =>
      obtain ⟨slot, x⟩ := found
      obtain ⟨w, hw, hc⟩ := Value.child?_of_enter hstep
      have hx : x.DeclaredIn U := Value.declaredIn_child? (Value.declaredIn_chainEnd? hv hw) hc
      rw [seek_ok (hresult.trans hstep)]
      -- What the rest adds is new beside what the first segment has left, in whatever order that is held.
      have hrest := ih (position + 1) hx hinv
      rw [Value.newKeys_perm hkeys] at hrest
      refine (hrest.trans (hkeys.append_right _)).trans ?_
      rw [List.append_assoc]
      cases rest with
      | nil => rw [Value.newKeys_singleton, Value.newKeys_nil, List.append_nil]
      | cons t rest =>
        have hread : v.step .read s = .ok (slot, x) := hstep
        rw [Value.newKeys_cons_ok hread]

end Reflection
