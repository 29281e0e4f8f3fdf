import Mathlib.Algebra.BigOperators.Group.List.Lemmas
import Mathlib.Data.List.DropRight
import Mathlib.Data.Set.Card
import Reflection.Proofs.CacheKeys
/-!
# What a member cache holds

After a run of calls a member cache holds what has been asked for since it was last cleared, and nothing else
(`cache_contents`): whatever became of a call, it adds the members that it has asked for, and these alone
(`Call.keys_run`). So the cache has at most as many entries as the visited types have names.
-/

namespace Reflection

/-! ## Calls -/

namespace Call

/-- The root of a call and the segments that it follows. -/
def walk? : Call → Option (Value × List Segment)
  | .get root route | .edit root route _ | .assign root route _ => route.segments.toOption.map (root, ·)
  | .clear => none

/-- A call asks for a member of a type if it uses the name of the member on a value, no pointer, whose struct
type declares the name. -/
def Asks (call : Call) (t : Ty) (name : String) : Prop :=
  ∃ root p i w info, call.walk? = some (root, p) ∧ p[i]? = some (.member name) ∧ root.behind? (p.take i) = some w ∧
    w.info = .struct info ∧ info.type = t ∧ name ∈ info.names

/-- The infos of the structs that the segments of a call are used on. -/
def visited (call : Call) : List StructInfo :=
  match call.walk? with
  | none => []
  | some (root, p) => (List.range p.length).filterMap fun i =>
    (root.behind? (p.take i)).bind fun w => match w.info with
      | .struct info => some info
      | _ => none

def isClear : Call → Bool
  | .clear => true
  | _ => false

/-- The calls behind the last clear. -/
def sinceClear (calls : List Call) : List Call := calls.rtakeWhile (!·.isClear)

variable {U : Universe} {call : Call} {calls : List Call} {cache : MemberCache} {t : Ty} {name : String}

theorem asks_iff : call.Asks t name ↔ ∃ root p i, call.walk? = some (root, p) ∧ root.keyAt? p i = some (t, name) := by
  constructor
  · rintro ⟨root, p, i, w, info, hwalk, hs, hw, hinfo, rfl, hname⟩
    refine ⟨root, p, i, hwalk, ?_⟩
    simp [Value.keyAt?, hw, hs, Value.memberKey?, hinfo, hname]
  · rintro ⟨root, p, i, hwalk, hkey⟩
    obtain ⟨w, hw, hkey⟩ := Option.bind_eq_some_iff.1 hkey
    obtain ⟨s, hs, hkey⟩ := Option.bind_eq_some_iff.1 hkey
    cases s with
    | index j => cases hkey
    | member name' =>
      rw [Value.memberKey?] at hkey
      split at hkey
      · rename_i info hinfo
        split at hkey
        · cases hkey
          exact ⟨root, p, i, w, info, hwalk, hs, hw, hinfo, rfl, ‹_›⟩
        · cases hkey
      · cases hkey

/-- A call without segments leaves the memory as it is, any other one leaves it as a walk along them does. -/
theorem memory_run {σ : Type} (lookup : Lookup σ) (fresh memory : σ) (hclear : call.isClear = false) :
    (call.walk? = none ∧ (call.run lookup fresh memory).2 = memory) ∨
    ∃ root p mode, call.walk? = some (root, p) ∧
      (call.run lookup fresh memory).2 = (seek lookup mode 0 root p memory).2 := by
  cases call with
  | get root route =>
    simp only [walk?, run, get_eq]
    cases route.segments with
    | error e => exact .inl ⟨rfl, rfl⟩
    | ok p => exact .inr ⟨root, p, .read, rfl, (getFrom_seek lookup 0 root p memory).2⟩
  | edit root route f =>
    simp only [walk?, run]
    cases hroute : route.segments with
    | error e => exact .inl ⟨rfl, by simp only [edit_eq, hroute]⟩
    | ok p => exact .inr ⟨root, p, .read, rfl, (edit_seek lookup root hroute _ memory).2⟩
  | assign root route x =>
    simp only [walk?, run]
    cases hroute : route.segments with
    | error e => exact .inl ⟨rfl, by simp only [assign_eq, hroute]⟩
    | ok p =>
      refine .inr ⟨root, p, .write, rfl, ?_⟩
      by_cases hne : p = []
      · subst hne
        simp only [assign_eq, hroute, assignFrom_nil]
        rfl
      · exact (assign_seek lookup root x hroute hne memory).2
  | clear => cases hclear

theorem declaredIn_walk {root : Value} {p : List Segment} (hcall : call.DeclaredIn U) (h : call.walk? = some (root, p)) :
    root.DeclaredIn U := by
  cases call with
  | clear => cases h
  | _ =>
    obtain ⟨q, -, hq⟩ := Option.map_eq_some_iff.1 h
    cases hq
    exact hcall

/-- A call other than a clear adds the keys that it asks for. -/
theorem keys_run (hcall : call.DeclaredIn U) (hcache : cache.Faithful U) (hclear : call.isClear = false) :
    ∃ new, (call.run .cached .empty cache).2.keys.Perm (cache.keys ++ new) ∧
      ∀ t name, (t, name) ∈ cache.keys ++ new ↔ (t, name) ∈ cache.keys ∨ call.Asks t name := by
  rcases memory_run .cached .empty cache hclear with ⟨hwalk, hmemory⟩ | ⟨root, p, mode, hwalk, hmemory⟩
  · refine ⟨[], by rw [hmemory, List.append_nil], fun t name => ?_⟩
    simp [asks_iff, hwalk]
  · refine ⟨root.newKeys cache.keys p, ?_, fun t name => ?_⟩
    · rw [hmemory]
      exact keys_seek mode 0 p (declaredIn_walk hcall hwalk) hcache
    · rw [Value.mem_append_newKeys]
      simp [asks_iff, hwalk]

theorem runAll_concat {σ : Type} (lookup : Lookup σ) (fresh memory : σ) (calls : List Call) (call : Call) :
    (runAll lookup fresh memory (calls ++ [call])).2 = (call.run lookup fresh (runAll lookup fresh memory calls).2).2 := by
  induction calls generalizing memory with
  | nil => rfl
  | cons first calls ih => exact ih (first.run lookup fresh memory).2

/-- What is held after a run has been asked for since the last clear. -/
theorem mem_keys_runAll (hcalls : ∀ call ∈ calls, call.DeclaredIn U) :
    (t, name) ∈ (runAll .cached .empty .empty calls).2.keys ↔ ∃ call ∈ sinceClear calls, call.Asks t name := by
  induction calls using List.reverseRecOn with
  | nil => simp [runAll, sinceClear, MemberCache.empty, MemberCache.keys, KeyMap.empty]
  | append_singleton calls call ih =>
    have hbefore : ∀ c ∈ calls, c.DeclaredIn U := fun c hc => hcalls c (List.mem_append_left _ hc)
    have hcall : call.DeclaredIn U := hcalls call (List.mem_append_right _ (List.mem_singleton_self call))
    have hempty := MemberCache.faithful_empty U
    have hcache := (runAll_agrees (MemberCache.agrees U) hempty hbefore hempty).2
    rw [runAll_concat]
    cases hclear : call.isClear with
    | true =>
      have hsince : sinceClear (calls ++ [call]) = [] := List.rtakeWhile_concat_neg _ _ _ (by simp [hclear])
      cases call with
      | clear => simp [hsince, run, MemberCache.empty, MemberCache.keys, KeyMap.empty]
      | _ => cases hclear
    | false =>
      have hsince : sinceClear (calls ++ [call]) = sinceClear calls ++ [call] :=
        List.rtakeWhile_concat_pos _ _ _ (by simp [hclear])
      obtain ⟨new, hkeys, hmem⟩ := keys_run hcall hcache hclear
      rw [hkeys.mem_iff, hmem, ih hbefore, hsince]
      simp [or_and_right, exists_or]

/-- A member that is asked for is declared in one of the visited infos. -/
theorem visited_of_asks (h : call.Asks t name) : ∃ info ∈ call.visited, info.type = t ∧ name ∈ info.names := by
  obtain ⟨root, p, i, w, info, hwalk, hs, hw, hinfo, ht, hname⟩ := h
  refine ⟨info, ?_, ht, hname⟩
  have hi : i < p.length := (List.getElem?_eq_some_iff.1 hs).1
  rw [visited, hwalk, List.mem_filterMap]
  exact ⟨i, List.mem_range.2 hi, by simp [hw, hinfo]⟩

/-- Segments behind a failure ask for nothing. -/
theorem asks_of_failure {call' : Call} {root : Value} {p q : List Segment} {e : PathError}
    (hcall : call.walk? = some (root, p ++ q)) (hcall' : call'.walk? = some (root, p))
    (hfail : (getFrom .direct 0 root p ()).result = .error e) : call.Asks t name ↔ call'.Asks t name := by
  rw [asks_iff, asks_iff]
  simp only [hcall, hcall', Option.some.injEq, Prod.mk.injEq]
  constructor
  · rintro ⟨_, _, i, ⟨rfl, rfl⟩, hkey⟩
    refine ⟨root, p, i, ⟨rfl, rfl⟩, ?_⟩
    rcases Nat.lt_or_ge i p.length with hi | hi
    · rwa [Value.keyAt?_append hi] at hkey
    · rw [Value.keyAt?_of_failure hfail hi] at hkey
      cases hkey
  · rintro ⟨_, _, i, ⟨rfl, rfl⟩, hkey⟩
    refine ⟨root, p ++ q, i, ⟨rfl, rfl⟩, ?_⟩
    rwa [Value.keyAt?_append (Value.lt_of_keyAt? hkey)]

end Call

/-- The contents of a cache after a run of calls: the members that were asked for since the last clear. Their
number never shrinks but by a clear, and the names that the visited types declare bound it. -/
theorem cache_contents (U : Universe) (calls : List Call) (h : ∀ call ∈ calls, call.DeclaredIn U) :
    let cache := (Call.runAll .cached .empty .empty calls).2
    let since := Call.sinceClear calls
    (∀ t name, (t, name) ∈ cache.keys ↔ ∃ call ∈ since, call.Asks t name) ∧
    cache.size = {key : Ty × String | ∃ call ∈ since, call.Asks key.1 key.2}.ncard ∧
    cache.size = ((cache.keys.map Prod.fst).dedup.map ((cache.keys.map Prod.fst).count ·)).sum ∧
    cache.size ≤ ((since.flatMap Call.visited).dedup.map fun info => info.names.dedup.length).sum ∧
    (∀ call : Call, call.DeclaredIn U →
      let cache' := (call.run .cached .empty cache).2
      if call.isClear then cache'.size = 0
      else cache.size ≤ cache'.size ∧
        ∀ t name, (t, name) ∈ cache'.keys ↔ (t, name) ∈ cache.keys ∨ call.Asks t name) ∧
    ∀ (call call' : Call) (root : Value) (p q : List Segment) (e : PathError), call.walk? = some (root, p ++ q) →
      call'.walk? = some (root, p) → (getFrom .direct 0 root p ()).result = .error e →
        ∀ t name, call.Asks t name ↔ call'.Asks t name := by
  intro cache since
  have hmem : ∀ t name, (t, name) ∈ cache.keys ↔ ∃ call ∈ since, call.Asks t name :=
    fun t name => Call.mem_keys_runAll h
  have hempty := MemberCache.faithful_empty U
  have hcache : cache.Faithful U := (Call.runAll_agrees (MemberCache.agrees U) hempty h hempty).2
  refine ⟨hmem, ?_, ?_, ?_, fun call hcall => ?_, fun call call' root p q e hwalk hwalk' hfail t name =>
    Call.asks_of_failure hwalk hwalk' hfail⟩
  · have hset : {key : Ty × String | ∃ call ∈ since, call.Asks key.1 key.2} = ↑cache.keys.toFinset := by
      ext ⟨t, name⟩
      simp [hmem]
    rw [hset, Set.ncard_coe_finset, List.toFinset_card_of_nodup cache.keys_nodup, cache.size_eq]
  · rw [List.sum_map_count_dedup_eq_length, List.length_map, cache.size_eq]
  · -- Each key stands for one of the names of a visited type.
    have hsub : cache.keys ⊆ (since.flatMap Call.visited).dedup.flatMap fun info => info.names.dedup.map (info.type, ·) := by
      rintro ⟨t, name⟩ hkey
      obtain ⟨call, hcall, hasks⟩ := (hmem t name).1 hkey
      obtain ⟨info, hinfo, rfl, hname⟩ := Call.visited_of_asks hasks
      rw [List.mem_flatMap]
      refine ⟨info, List.mem_dedup.2 (List.mem_flatMap.2 ⟨call, hcall, hinfo⟩), ?_⟩
      exact List.mem_map.2 ⟨name, List.mem_dedup.2 hname, rfl⟩
    have hle := (cache.keys_nodup.subperm hsub).length_le
    simpa [List.length_flatMap, cache.size_eq] using hle
  · intro cache'
    cases hclear : call.isClear with
    | true =>
      cases call with
      | clear => rfl
      | _ => cases hclear
    | false =>
      obtain ⟨new, hkeys, hnew⟩ := Call.keys_run hcall hcache hclear
      have hkeys : cache'.keys.Perm (cache.keys ++ new) := hkeys
      refine ⟨?_, fun t name => by rw [hkeys.mem_iff, hnew]⟩
      rw [cache.size_eq, cache'.size_eq, hkeys.length_eq, List.length_append]
      exact Nat.le_add_right _ _

/-- A name that was asked for before the clear only, two that a write went through, and one that is not declared.
A read that is refused asks for its member all the same. -/
theorem cache_contents_sample :
    let root := Sample.valueA
    let single (name : String) : Route := .path ⟨[.member name], List.cons_ne_nil _ _⟩
    let refused := Call.get root (single "secret")
    let calls := [refused, .clear, .assign root (.path Sample.textOfB) (.scalar (.string "one")), .get root (single "c")]
    let since := Call.sinceClear calls
    let cache := (Call.runAll .cached .empty .empty calls).2
    cache.keys = [(Sample.tyA, "b"), (Sample.tyB, "text")] ∧
    {key : Ty × String | ∃ call ∈ since, call.Asks key.1 key.2}.ncard = 2 ∧
    (∃ call ∈ since, call.Asks Sample.tyB "text") ∧ (¬ ∃ call ∈ since, call.Asks Sample.tyA "secret") ∧
    refused.Asks Sample.tyA "secret" := by
  intro root single refused calls since cache
  have hroot : root.DeclaredIn Sample.types := Universe.declaredIn_default Sample.types_named 2 Sample.tyA
  have hcalls : ∀ call ∈ calls, call.DeclaredIn Sample.types := by simp [calls, refused, Call.DeclaredIn, hroot]
  obtain ⟨hmem, hcard, -, -, hnext, -⟩ := cache_contents Sample.types calls hcalls
  have hkeys : cache.keys = [(Sample.tyA, "b"), (Sample.tyB, "text")] := rfl
  have hrefused := (hnext refused hroot).2 Sample.tyA "secret"
  refine ⟨hkeys, hcard.symm.trans rfl, (hmem _ _).1 ?_, fun h => ?_, ?_⟩
  · rw [hkeys]
    decide
  · have hsecret := (hmem _ _).2 h
    rw [hkeys] at hsecret
    exact absurd hsecret (by decide)
  · rcases hrefused.1 (by decide) with hsecret | hasks
    · rw [hkeys] at hsecret
      exact absurd hsecret (by decide)
    · exact hasks

end Reflection
