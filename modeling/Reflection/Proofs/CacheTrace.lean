import Mathlib.Data.List.Basic
import Reflection.Access.Typed
import Reflection.Proofs.Agreement
import Reflection.Proofs.CacheKeys
import Reflection.Proofs.Trace
/-!
# What a log tells of a cache

Through a member cache an access logs what it logs without one, and each member that is added, in front of the
other lines of the segment that has asked for it (`interleaved`). So the whole log of any access is known from the
root, the route and what the cache holds (`log_tells_walk`).
-/

namespace Reflection

variable {σ α : Type}

/-! ## Accesses through a cache -/

/-- The lines of a log, one for each segment, with the members that are added to the cache: each in front of the
line of the segment that has asked for it. -/
def interleaved (keys : List (Ty × String)) (root : Value) (p : List Segment) (log : List Event) : List Event :=
  (List.range p.length).flatMap fun i => (root.newKeyAt? keys p i).toList.map MemberCache.added ++ log[i]?.toList

/-- What an access through a cache logs, after what it logs without one, and what it leaves in the cache. -/
structure LogsFills (root : Value) (p : List Segment) (cache cache' : MemberCache) (direct log : List Event) : Prop where
  keys_perm : cache'.keys.Perm (cache.keys ++ root.newKeys cache.keys p)
  log_eq : log = interleaved cache.keys root p direct
  others_eq : log.filter (!·.isCached) = direct
  fills_eq : log.filter Event.isCached = (root.newKeys cache.keys p).map MemberCache.added

section Interleaved
variable {keys : List (Ty × String)} {v x : Value} {s : Segment} {slot : Slot} {rest : List Segment}

theorem interleaved_cons (keys : List (Ty × String)) (v : Value) (s : Segment) (rest : List Segment) (log : List Event) :
    interleaved keys v (s :: rest) log =
      (v.addedKey? keys s).toList.map MemberCache.added ++ log[0]?.toList ++
        (List.range rest.length).flatMap fun i =>
          (v.newKeyAt? keys (s :: rest) (i + 1)).toList.map MemberCache.added ++ log[i + 1]?.toList := by
  rw [interleaved, List.length_cons, List.range_succ_eq_map, List.flatMap_cons, List.flatMap_map, Value.newKeyAt?_zero]

theorem interleaved_perm {keys' : List (Ty × String)} (h : keys.Perm keys') : interleaved keys = interleaved keys' := by
  funext root p log
  rw [interleaved, interleaved, Value.newKeyAt?_perm h]

theorem interleaved_ok (h : v.step .read s = .ok (slot, x)) (e : Event) (log : List Event) :
    let new := (v.addedKey? keys s).toList
    interleaved keys v (s :: rest) (e :: log) = new.map MemberCache.added ++ e :: interleaved (keys ++ new) x rest log := by
  intro new
  rw [interleaved_cons, interleaved]
  simp only [Value.newKeyAt?_succ h, List.getElem?_cons_zero, List.getElem?_cons_succ, Option.toList_some,
    List.append_assoc, List.singleton_append, new]

/-- Behind a failure nothing is asked for or logged. -/
theorem interleaved_error {cause : Cause} (h : v.step .read s = .error cause) (e : Event) :
    interleaved keys v (s :: rest) [e] = (v.addedKey? keys s).toList.map MemberCache.added ++ [e] := by
  rw [interleaved_cons]
  simp [Value.newKeyAt?_error h]

theorem interleaved_ending {β : Type} (keys : List (Ty × String)) (v : Value) (s : Segment)
    (result : Except PathError β) :
    interleaved keys v [s] (ending result) =
      (v.addedKey? keys s).toList.map MemberCache.added ++ ending result := by
  rw [interleaved_cons]
  cases result <;> simp [ending]

theorem flatMap_getElem? {β : Type} (l : List β) (n : Nat) :
    ((List.range n).flatMap fun i => l[i]?.toList) = l.take n := by
  induction n with
  | zero => rfl
  | succ n ih => rw [List.range_succ, List.flatMap_append, ih, List.flatMap_singleton, List.take_add_one]

end Interleaved

section Filter
variable {keys : List (Ty × String)} {root : Value} {p : List Segment} {log : List Event}

/-- Between the members that are added stand the lines of the log. -/
theorem others_interleaved (hlog : ∀ e ∈ log, e.isCached = false) (hlength : log.length ≤ p.length) :
    (interleaved keys root p log).filter (!·.isCached) = log := by
  have hline (i : Nat) : log[i]?.toList.filter (!·.isCached) = log[i]?.toList := by
    refine List.filter_eq_self.2 fun e he => ?_
    rw [hlog e (List.mem_of_getElem? (Option.mem_toList.1 he))]
    rfl
  have hnew (key : Option (Ty × String)) : (key.toList.map MemberCache.added).filter (!·.isCached) = [] := by
    cases key <;> rfl
  rw [interleaved, List.filter_flatMap]
  simp only [List.filter_append, hnew, hline, List.nil_append]
  rw [flatMap_getElem?, List.take_of_length_le hlength]

/-- Each member that is added has its line. -/
theorem fills_interleaved (hlog : ∀ e ∈ log, e.isCached = false) :
    (interleaved keys root p log).filter Event.isCached = (root.newKeys keys p).map MemberCache.added := by
  have hline (i : Nat) : log[i]?.toList.filter Event.isCached = [] := by
    refine List.filter_eq_nil_iff.2 fun e he => ?_
    rw [hlog e (List.mem_of_getElem? (Option.mem_toList.1 he))]
    exact Bool.false_ne_true
  have hnew (key : Option (Ty × String)) :
      (key.toList.map MemberCache.added).filter Event.isCached = (key.map MemberCache.added).toList := by
    cases key <;> rfl
  rw [interleaved, List.filter_flatMap, Value.newKeys, List.map_filterMap, List.filterMap_eq_flatMap_toList]
  simp only [List.filter_append, hnew, hline, List.append_nil]

/-- A log that tells of an access reports no member that is added, and has at most one line for each segment. -/
theorem Recounts.lines {β : Type} {n : Nat} {result : Except PathError β} (h : Recounts root p n result log)
    (hn : n ≤ p.length) : (∀ e ∈ log, e.isCached = false) ∧ log.length ≤ p.length := by
  cases result with
  | ok a =>
    have htold := h.ok a rfl
    exact ⟨htold.isCached, htold.length_eq.trans_le hn⟩
  | error e =>
    obtain ⟨k, told, -, hlt, htold, rfl⟩ := h.error e rfl
    refine ⟨fun e' he' => ?_, ?_⟩
    · rcases List.mem_append.1 he' with htold' | hlast
      · exact htold.isCached e' htold'
      · rw [List.mem_singleton.1 hlast]
        rfl
    · rw [List.length_append, htold.length_eq]
      exact hlt

end Filter

section Cached
variable {U : Universe} {v : Value} {cache : MemberCache}

/-- A segment logs the member that it adds, then what it logs without a cache. If what is behind it does the same,
with the cache that it leaves, so do all of them. -/
theorem segmentLog_cached {s : Segment} {rest : List Segment} (position : Nat) {later : Value → MemberCache → List Event}
    {later' : Value → Unit → List Event} (hv : v.DeclaredIn U) (hcache : cache.Faithful U)
    (hlater : ∀ x cache', x.DeclaredIn U → MemberCache.Faithful U cache' →
      later x cache' = interleaved cache'.keys x rest (later' x ())) :
    segmentLog .cached position v s later cache =
      interleaved cache.keys v (s :: rest) (segmentLog .direct position v s later' ()) := by
  obtain ⟨hresult, hinv⟩ := enter_agrees (MemberCache.agrees U) .read s hv hcache
  obtain ⟨hkeys, hlog⟩ := keys_enter .read v s cache
  have hdirect : (enter .direct .read v s ()).result = v.step .read s := rfl
  simp only [segmentLog, hresult, hdirect, hlog, log_enter_direct, List.nil_append]
  cases hstep : v.step .read s with
  | error cause => rw [interleaved_error hstep]
  | ok found =>
    obtain ⟨slot, x⟩ := found
    obtain ⟨w, hw, hc⟩ := Value.child?_of_enter hstep
    have hx : x.DeclaredIn U := Value.declaredIn_child? (Value.declaredIn_chainEnd? hv hw) hc
    simp only [interleaved_ok hstep, hlater x _ hx hinv, interleaved_perm hkeys]

theorem log_getFrom_cached (position : Nat) (path : List Segment) (hv : v.DeclaredIn U) (hcache : cache.Faithful U) :
    (getFrom .cached position v path cache).log =
      interleaved cache.keys v path (getFrom .direct position v path ()).log := by
  induction path generalizing position v cache with
  | nil =>
    rw [getFrom_nil]
    rfl
  | cons s rest ih =>
    rw [getFrom_cons, getFrom_cons, log_visit, log_visit]
    exact segmentLog_cached position hv hcache fun x cache' hx hinv => ih (position + 1) hx hinv

/-- The last segment of a write is used in another mode, but it asks for the same member. -/
theorem log_write_cached (s : Segment) (position : Nat) (x : Value) (hv : v.DeclaredIn U) (hcache : cache.Faithful U) :
    (write .cached s position x v cache).log =
      interleaved cache.keys v [s] (write .direct s position x v ()).log := by
  have hresult : (write .cached s position x v cache).result = (write .direct s position x v ()).result := by
    have hfound := (seek_agrees (MemberCache.agrees U) .write position [s] hv hcache).1
    have hcached := (write_seek .cached s position x v cache).1
    rw [hfound] at hcached
    exact congrArg Prod.fst (hcached.trans (write_seek .direct s position x v ()).1.symm)
  rw [(write_ending .direct s position x v ()).1, log_enter_direct, List.nil_append, interleaved_ending,
    (write_ending .cached s position x v cache).1, (keys_enter .write v s cache).2, hresult]

theorem log_assignFrom_cached (x : Value) (position : Nat) (path : List Segment) (hv : v.DeclaredIn U)
    (hcache : cache.Faithful U) :
    (assignFrom .cached x position v path cache).log =
      interleaved cache.keys v path (assignFrom .direct x position v path ()).log := by
  induction path generalizing position v cache with
  | nil =>
    rw [assignFrom_nil]
    rfl
  | cons s rest ih =>
    cases rest with
    | nil =>
      rw [assignFrom_cons, assignFrom_cons]
      exact log_write_cached s position x hv hcache
    | cons t rest =>
      have hahead : (SegmentSource.list (t :: rest)).next?.isSome = true := rfl
      rw [assignFrom_cons, assignFrom_cons, if_pos hahead, if_pos hahead, log_descend, log_descend]
      exact segmentLog_cached position hv hcache fun y cache' hy hinv => ih (position + 1) hy hinv

variable {root : Value} {route : Route} {p : List Segment}

theorem LogsFills.of_log {β : Type} {n : Nat} {result : Except PathError β} {cache' : MemberCache}
    {direct log : List Event} (hkeys : cache'.keys.Perm (cache.keys ++ root.newKeys cache.keys p))
    (hlog : log = interleaved cache.keys root p direct) (hdirect : Recounts root p n result direct)
    (hn : n ≤ p.length) :
    LogsFills root p cache cache' direct log := by
  obtain ⟨hcached, hlength⟩ := hdirect.lines hn
  refine ⟨hkeys, hlog, ?_, ?_⟩
  · rw [hlog, others_interleaved hcached hlength]
  · rw [hlog, fills_interleaved hcached]

theorem logsFills_get (hroute : route.segments = .ok p) (hv : root.DeclaredIn U) (hcache : cache.Faithful U) :
    let walk := get .cached root route cache
    LogsFills root p cache walk.memory (get .direct root route ()).log walk.log := by
  simp only [get_eq, hroute]
  refine .of_log ?_ (log_getFrom_cached 0 p hv hcache) (recounts_getFrom root p) le_rfl
  rw [(getFrom_seek .cached 0 root p cache).2]
  exact keys_seek .read 0 p hv hcache

theorem logsFills_assign (hroute : route.segments = .ok p) (x : Value) (hv : root.DeclaredIn U)
    (hcache : cache.Faithful U) :
    let done := assign .cached root route x cache
    LogsFills root p cache done.memory (assign .direct root route x ()).log done.log := by
  by_cases hne : p = []
  · subst hne
    simp only [assign_eq, hroute, assignFrom_nil]
    exact ⟨List.Perm.of_eq (List.append_nil _).symm, rfl, rfl, rfl⟩
  · have hlog : (assign .cached root route x cache).log =
        interleaved cache.keys root p (assign .direct root route x ()).log := by
      simp only [assign_eq, hroute]
      exact log_assignFrom_cached x 0 p hv hcache
    refine .of_log ?_ hlog (recounts_assign hroute hne x) (Nat.sub_le _ _)
    rw [(assign_seek .cached root x hroute hne cache).2]
    exact keys_seek .write 0 p hv hcache

end Cached

/-! ## Accesses -/

/-- An access that reports and remembers what a read does, and fails as that does. Where the read succeeds, all
that it can still miss is the type that is asked for. -/
structure Follows {β : Type} (walk : Walk σ (Except PathError Value)) (result : Except PathError β) (memory : σ)
    (log : List Event) : Prop where
  error : ∀ e, walk.result = .error e → result = .error e
  ok : ∀ v, walk.result = .ok v →
    (∃ a, result = .ok a) ∨ ∃ expected actual, result = .error (.invalidDowncast expected actual)
  memory_eq : memory = walk.memory
  log_eq : log = walk.log

section Follows
variable (lookup : Lookup σ) (root : Value) (route : Route) (t : Ty) (f : Value → Value × α) (memory : σ)

theorem follows_edit :
    let done := edit lookup root route f memory
    Follows (get lookup root route memory) done.result done.memory done.log := by
  obtain ⟨hresult, hmemory, hlog⟩ := edit_get lookup root route f memory
  refine ⟨fun e he => ?_, fun v hv => ?_, hmemory, hlog⟩
  · rw [hresult, he]
    rfl
  · rw [hresult, hv]
    exact .inl ⟨_, rfl⟩

theorem follows_getAs :
    let walk := getAs lookup root route t memory
    Follows (get lookup root route memory) walk.result walk.memory walk.log := by
  refine ⟨fun e he => ?_, fun v hv => ?_, rfl, rfl⟩
  · rw [getAs, he]
    rfl
  · simp only [getAs, hv, Except.bind]
    cases v.through? t with
    | none => exact .inr ⟨_, _, rfl⟩
    | some w => exact .inl ⟨w, rfl⟩

theorem follows_editAs :
    let done := editAs lookup root route t f memory
    Follows (get lookup root route memory) done.result done.memory done.log := by
  have h := follows_edit lookup root route (Value.editThrough t f) memory
  obtain ⟨hresult, -, -⟩ := edit_get lookup root route (Value.editThrough t f) memory
  refine ⟨fun e he => ?_, fun v hv => ?_, h.memory_eq, h.log_eq⟩
  · rw [editAs, h.error e he]
    rfl
  · simp only [editAs, hresult, hv, Except.map, Except.bind]
    cases hedit : (v.editThrough t f).2 with
    | ok a => exact .inl ⟨a, rfl⟩
    | error e => exact .inr ⟨_, _, congrArg Except.error (Value.error_of_editThrough hedit)⟩

end Follows

/-- What an access logs. A read or an edit reports each segment that it resolves, a write each in front of the last,
and any access its failure. A path that is invalid is not reported, nor is a value of another type than is asked for.
Through a cache the same is logged, and each member that is added, in front of the other lines of its segment. -/
theorem log_tells_walk (α : Type) (root : Value) (route : Route) :
    let read := get .direct root route ()
    (∀ e : PathError, (Event.failed e).level = "DEBUG" ∧ (Event.failed e).message = e.message) ∧
    (∀ event : Event, (∀ e, event ≠ .failed e) → event.level = "TRACE") ∧
    (∀ (σ : Type) (lookup : Lookup σ) (memory : σ),
      let walk := get lookup root route memory
      (∀ t,
        let typed := getAs lookup root route t memory
        Follows walk typed.result typed.memory typed.log) ∧
      (∀ f : Value → Value × α,
        let done := edit lookup root route f memory
        Follows walk done.result done.memory done.log) ∧
      (∀ (t : Ty) (f : Value → Value × α),
        let done := editAs lookup root route t f memory
        Follows walk done.result done.memory done.log) ∧
      ∀ invalid, route.segments = .error invalid → ∀ x,
        let done := assign lookup root route x memory
        walk.result = .error (.invalidPath invalid) ∧ walk.log = [] ∧
        done.result = .error (.invalidPath invalid) ∧ done.log = []) ∧
    ∀ p, route.segments = .ok p →
      Recounts root p p.length read.result read.log ∧
      (∀ x,
        let done := assign .direct root route x ()
        if p = [] then done.result = .error (.invalidPath ⟨""⟩) ∧ done.log = []
        else Recounts root p (p.length - 1) done.result done.log) ∧
      ∀ (U : Universe) (earlier : List Call), (∀ call ∈ earlier, call.DeclaredIn U) → root.DeclaredIn U →
        let cache := (Call.runAll .cached .empty .empty earlier).2
        let cached := get .cached root route cache
        LogsFills root p cache cached.memory read.log cached.log ∧
        ∀ x,
          let done := assign .cached root route x cache
          LogsFills root p cache done.memory (assign .direct root route x ()).log done.log := by
  intro read
  refine ⟨fun e => ⟨rfl, rfl⟩, fun event h => ?_, fun σ lookup memory => ?_, fun p hroute => ⟨?_, fun x => ?_, ?_⟩⟩
  · cases event with
    | failed e => exact absurd rfl (h e)
    | _ => rfl
  · refine ⟨fun t => follows_getAs lookup root route t memory, fun f => follows_edit lookup root route f memory,
      fun t f => follows_editAs lookup root route t f memory, fun invalid hroute x => ?_⟩
    have hread : get lookup root route memory = ⟨.error (.invalidPath invalid), memory, []⟩ := by rw [get_eq, hroute]
    have hwrite : assign lookup root route x memory = ⟨.error (.invalidPath invalid), root, memory, []⟩ := by
      rw [assign_eq, hroute]
    rw [hread, hwrite]
    exact ⟨rfl, rfl, rfl, rfl⟩
  · simp only [read, get_eq, hroute]
    exact recounts_getFrom root p
  · split
    · rename_i hnil
      have hwrite : assign .direct root route x () = ⟨.error (.invalidPath ⟨""⟩), root, (), []⟩ := by
        simp only [assign_eq, hroute, hnil, assignFrom_nil]
      rw [hwrite]
      exact ⟨rfl, rfl⟩
    · exact recounts_assign hroute ‹_› x
  · intro U earlier hearlier hroot cache cached
    have hempty := MemberCache.faithful_empty U
    have hcache : cache.Faithful U := (Call.runAll_agrees (MemberCache.agrees U) hempty hearlier hempty).2
    exact ⟨logsFills_get hroute hroot hcache, fun x => logsFills_assign hroute x hroot hcache⟩

/-- A text of B is read after `b` alone, and then refuses a flag. What stands for no path is not reported. -/
theorem log_tells_walk_textOfB :
    let root := Sample.valueA
    let route := Route.path Sample.textOfB
    let flag := Value.scalar (.bool true)
    let b : Path := ⟨[.member "b"], List.cons_ne_nil _ _⟩
    let cache := (Call.runAll .cached .empty .empty [.get root (.path b)]).2
    let read := get .cached root route cache
    let refused := assign .cached root route flag cache
    let e := PathError.assign ⟨.rejected flag.typePath (Value.scalar (.string "")).typePath, .member "text", 1⟩
    Told root Sample.textOfB.segments 2 (get .direct root route ()).log ∧
    read.log = [.resolved (.member "b") 0 Sample.tyB.path, .cached "text" Sample.tyB.path,
      .resolved (.member "text") 1 (Value.scalar (.string "")).typePath] ∧
    read.memory.keys.Perm (cache.keys ++ [(Sample.tyB, "text")]) ∧
    refused.log = [.resolved (.member "b") 0 Sample.tyB.path, .cached "text" Sample.tyB.path, .failed e] ∧
    (∃ k told, e.position? = some k ∧ Told root Sample.textOfB.segments k told ∧
      (assign .direct root route flag ()).log = told ++ [.failed e]) ∧
    (get .direct root (.text "..") ()).log = [] := by
  intro root route flag b cache read refused e
  have hroot : root.DeclaredIn Sample.types := Universe.declaredIn_default Sample.types_named 2 Sample.tyA
  have hearlier : ∀ call ∈ [Call.get root (.path b)], call.DeclaredIn Sample.types := by simp [Call.DeclaredIn, hroot]
  obtain ⟨-, -, -, hroute⟩ := log_tells_walk Unit root route
  obtain ⟨hread, hwrite, hcached⟩ := hroute Sample.textOfB.segments rfl
  obtain ⟨hgets, hassigns⟩ := hcached Sample.types [.get root (.path b)] hearlier hroot
  obtain ⟨-, -, hany, -⟩ := log_tells_walk Unit root (.text "..")
  have hdots : (Route.text "..").segments = .error ⟨".."⟩ := by
    rw [Route.segments_eq]
    rfl
  obtain ⟨-, hsilent, -⟩ := (hany Unit .direct ()).2.2.2 ⟨".."⟩ hdots flag
  have hdone := hwrite flag
  simp only [if_neg Sample.textOfB.segments_ne_nil] at hdone
  obtain ⟨k, told, hk, -, htold, hlog⟩ := hdone.error e rfl
  exact ⟨hread.ok _ rfl, hgets.log_eq.trans rfl, hgets.keys_perm, (hassigns flag).log_eq.trans rfl,
    ⟨k, told, hk, htold, hlog⟩, hsilent⟩

end Reflection
