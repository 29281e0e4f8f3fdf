import Reflection.Proofs.Find
import Reflection.Proofs.Universe
/-!
# A member cache cannot be seen

A walk that finds members through a memory gives what a walk without one gives, as long as the memory
is right. `Lookup.Agrees` is what that takes of a lookup: on the structs of a universe it finds what
they declare and keeps an invariant of its memory. The cache does, with the invariant that all it
remembers is declared (`MemberCache.agrees`), so over a run of calls every reply is the one that a
call without a cache gives (`cached_replies`).
-/

namespace Reflection

variable {σ : Type}

/-! ## Lookups that find what is declared -/

/-- On the structs of a universe a lookup finds what they declare, and keeps an invariant. -/
def Lookup.Agrees (lookup : Lookup σ) (U : Universe) (Inv : σ → Prop) : Prop :=
  ∀ info name memory, U.info? info.type = some (.struct info) → Inv memory →
    (lookup.find info name memory).1 = info.member? name ∧ Inv (lookup.find info name memory).2.1

/-- Holding a member changes what is under its type and name alone. -/
theorem MemberCache.get?_hold (cache : MemberCache) (t t' : Ty) (name name' : String) (m : MemberInfo) :
    (cache.hold t name m).get? t' name' = if t' = t ∧ name' = name then some m else cache.get? t' name' := by
  simp only [get?, hold, TypeMap.getType?, KeyMap.get?_modify, KeyMap.get?_getOrInsert, TypeId.of.injEq]
  by_cases ht : t' = t
  · subst ht
    by_cases hname : name' = name
    · simp [KeyMap.insert, KeyMap.get?_set, hname]
    · cases cache.members.get? (.of t') <;> simp [KeyMap.insert, KeyMap.get?_set, hname]
  · simp [ht]

/-- All that is remembered is declared. -/
def MemberCache.Faithful (U : Universe) (cache : MemberCache) : Prop :=
  ∀ t name m, cache.get? t name = some m → ∃ info, U.info? t = some (.struct info) ∧ info.member? name = some m

theorem MemberCache.faithful_empty (U : Universe) : MemberCache.empty.Faithful U := by
  intro t name m h
  cases h

theorem MemberCache.faithful_hold {U : Universe} {cache : MemberCache} {info : StructInfo} {name : String}
    {m : MemberInfo} (h : cache.Faithful U) (hU : U.info? info.type = some (.struct info))
    (hm : info.member? name = some m) : (cache.hold info.type name m).Faithful U := by
  intro t name' m' hget
  rw [get?_hold] at hget
  split at hget
  · rename_i hkey
    obtain ⟨rfl, rfl⟩ := hkey
    cases hget
    exact ⟨info, hU, hm⟩
  · exact h t name' m' hget

theorem MemberCache.agrees (U : Universe) : Lookup.cached.Agrees U (MemberCache.Faithful U) := by
  intro info name cache hU hcache
  simp only [Lookup.cached, MemberCache.find]
  cases hget : cache.get? info.type name with
  | some m =>
    -- What is remembered comes from the only declaration of the type.
    obtain ⟨info', hU', hm⟩ := hcache _ _ _ hget
    obtain rfl : info = info' := by rw [hU] at hU'; exact TypeInfo.struct.inj (Option.some.inj hU')
    exact ⟨hm.symm, hcache⟩
  | none =>
    cases hm : info.member? name with
    | none => exact ⟨rfl, hcache⟩
    | some m => exact ⟨rfl, MemberCache.faithful_hold hcache hU hm⟩

/-! ## Walks -/

section Walk
variable {lookup : Lookup σ} {U : Universe} {Inv : σ → Prop} (hl : lookup.Agrees U Inv)
include hl

theorem locate_agrees {v : Value} {memory : σ} (mode : Mode) (s : Segment) (hv : v.DeclaredIn U) (hm : Inv memory) :
    (locate lookup mode v s memory).result = (locate .direct mode v s ()).result ∧
      Inv (locate lookup mode v s memory).memory := by
  cases s with
  | index i => exact ⟨rfl, hm⟩
  | member name =>
    rw [Value.locate_result, Value.locate_result]
    simp only [Value.slotBy, locate, findMember]
    cases hinfo : v.info with
    | struct info =>
      obtain ⟨hfind, hinv⟩ := hl info name memory (Value.info?_of_declaredIn hv hinfo) hm
      refine ⟨?_, hinv⟩
      simp only [hfind]
      rfl
    | _ => exact ⟨rfl, hm⟩

theorem enter_agrees {v : Value} {memory : σ} (mode : Mode) (s : Segment) (hv : v.DeclaredIn U) (hm : Inv memory) :
    (enter lookup mode v s memory).result = v.step mode s ∧ Inv (enter lookup mode v s memory).memory := by
  unfold Value.step enter
  cases hw : v.chainEnd? with
  | none => exact ⟨rfl, hm⟩
  | some w => exact locate_agrees hl mode s (Value.declaredIn_chainEnd? hv hw) hm

theorem seek_agrees {v : Value} {memory : σ} (mode : Mode) (position : Nat) (path : List Segment)
    (hv : v.DeclaredIn U) (hm : Inv memory) :
    (seek lookup mode position v path memory).1 = v.find mode position path ∧
      Inv (seek lookup mode position v path memory).2 := by
  induction path generalizing position v memory with
  | nil => exact ⟨rfl, hm⟩
  | cons s rest ih =>
    obtain ⟨hstep, hinv⟩ := enter_agrees hl (mode.before rest) s hv hm
    cases h : v.step (mode.before rest) s with
    | error cause =>
      rw [seek_error (hstep.trans h), Value.find_error h]
      exact ⟨rfl, hinv⟩
    | ok found =>
      obtain ⟨slot, x⟩ := found
      obtain ⟨w, hw, hc⟩ := Value.child?_of_enter h
      have hx : x.DeclaredIn U := Value.declaredIn_child? (Value.declaredIn_chainEnd? hv hw) hc
      obtain ⟨hlater, hinv'⟩ := ih (position + 1) hx hinv
      rw [seek_ok (hstep.trans h), Value.find_ok h]
      exact ⟨congrArg (Except.map _) hlater, hinv'⟩

theorem get_agrees {root : Value} {memory : σ} (route : Route) (hv : root.DeclaredIn U) (hm : Inv memory) :
    (get lookup root route memory).result = (get .direct root route ()).result ∧
      Inv (get lookup root route memory).memory := by
  rw [get_eq, get_eq]
  cases route.segments with
  | error e => exact ⟨rfl, hm⟩
  | ok path =>
    obtain ⟨hfound, hinv⟩ := seek_agrees hl .read 0 path hv hm
    obtain ⟨hresult, hmemory⟩ := getFrom_seek lookup 0 root path memory
    simp only [hresult, hmemory, Value.getFrom_find, hfound]
    exact ⟨trivial, hinv⟩

theorem edit_agrees {α : Type} {root : Value} {memory : σ} (route : Route) (f : Value → Value × α)
    (hv : root.DeclaredIn U) (hm : Inv memory) :
    (edit lookup root route f memory).outcome = (edit .direct root route f ()).outcome ∧
      Inv (edit lookup root route f memory).memory := by
  cases h : route.segments with
  | error e =>
    simp only [edit_eq, h]
    exact ⟨rfl, hm⟩
  | ok path =>
    obtain ⟨hfound, hinv⟩ := seek_agrees hl .read 0 path hv hm
    obtain ⟨houtcome, hmemory⟩ := edit_seek lookup root h f memory
    rw [houtcome, (edit_seek .direct root h f ()).1, hmemory, hfound]
    exact ⟨rfl, hinv⟩

theorem assign_agrees {root : Value} {memory : σ} (route : Route) (x : Value) (hv : root.DeclaredIn U) (hm : Inv memory) :
    (assign lookup root route x memory).outcome = (assign .direct root route x ()).outcome ∧
      Inv (assign lookup root route x memory).memory := by
  cases h : route.segments with
  | error e =>
    simp only [assign_eq, h]
    exact ⟨rfl, hm⟩
  | ok path =>
    by_cases hne : path = []
    · subst hne
      simp only [assign_eq, h, assignFrom_nil]
      exact ⟨rfl, hm⟩
    · obtain ⟨hfound, hinv⟩ := seek_agrees hl .write 0 path hv hm
      obtain ⟨houtcome, hmemory⟩ := assign_seek lookup root x h hne memory
      rw [houtcome, (assign_seek .direct root x h hne ()).1, hmemory, hfound]
      exact ⟨rfl, hinv⟩

end Walk

/-! ## Runs of calls -/

/-- The place that a read leads to. -/
def readPlace? (lookup : Lookup σ) (root : Value) (route : Route) (memory : σ) : Option Value.Place :=
  match route.segments with
  | .error _ => none
  | .ok path => (seek lookup .read 0 root path memory).1.toOption.map Prod.fst

/-- A call, with the root as it is then. An edit hands out the value that it finds. -/
inductive Call
  | get (root : Value) (route : Route)
  | edit (root : Value) (route : Route) (f : Value → Value)
  | assign (root : Value) (route : Route) (x : Value)
  | clear

/-- What a call gives, and the root after it. -/
inductive Reply
  | found (result : Except PathError Value) (place : Option Value.Place)
  | edited (outcome : Except PathError Value × Value)
  | assigned (outcome : Except PathError Unit × Value)
  | cleared

namespace Call

/-- A call with a lookup, whose memory is `fresh` after a clear. -/
def run (lookup : Lookup σ) (fresh memory : σ) : Call → Reply × σ
  | .get root route =>
    let walk := Reflection.get lookup root route memory
    (.found walk.result (readPlace? lookup root route memory), walk.memory)
  | .edit root route f =>
    let done := Reflection.edit lookup root route (fun v => (f v, v)) memory
    (.edited done.outcome, done.memory)
  | .assign root route x =>
    let done := Reflection.assign lookup root route x memory
    (.assigned done.outcome, done.memory)
  | .clear => (.cleared, fresh)

/-- The replies to one call after the other, and the memory after them. -/
def runAll (lookup : Lookup σ) (fresh memory : σ) : List Call → List Reply × σ
  | [] => ([], memory)
  | call :: calls =>
    let first := call.run lookup fresh memory
    let later := runAll lookup fresh first.2 calls
    (first.1 :: later.1, later.2)

def DeclaredIn (U : Universe) : Call → Prop
  | .get root _ | .edit root _ _ | .assign root _ _ => root.DeclaredIn U
  | .clear => True

section Run
variable {lookup : Lookup σ} {U : Universe} {Inv : σ → Prop} {fresh memory : σ} (hl : lookup.Agrees U Inv)
  (hfresh : Inv fresh)
include hl hfresh

theorem run_agrees {call : Call} (hc : call.DeclaredIn U) (hm : Inv memory) :
    (call.run lookup fresh memory).1 = (call.run .direct () ()).1 ∧ Inv (call.run lookup fresh memory).2 := by
  cases call with
  | get root route =>
    obtain ⟨hresult, hinv⟩ := get_agrees hl route hc hm
    have hplace : readPlace? lookup root route memory = readPlace? .direct root route () := by
      unfold readPlace?
      cases route.segments with
      | error e => rfl
      | ok path => simp only [(seek_agrees hl .read 0 path hc hm).1, Value.find]
    simp only [run, hresult, hplace]
    exact ⟨trivial, hinv⟩
  | edit root route f =>
    obtain ⟨houtcome, hinv⟩ := edit_agrees hl route (fun v => (f v, v)) hc hm
    exact ⟨congrArg Reply.edited houtcome, hinv⟩
  | assign root route x =>
    obtain ⟨houtcome, hinv⟩ := assign_agrees hl route x hc hm
    exact ⟨congrArg Reply.assigned houtcome, hinv⟩
  | clear => exact ⟨rfl, hfresh⟩

theorem runAll_agrees {calls : List Call} (hc : ∀ call ∈ calls, call.DeclaredIn U) (hm : Inv memory) :
    (runAll lookup fresh memory calls).1 = calls.map (fun call => (call.run .direct () ()).1) ∧
      Inv (runAll lookup fresh memory calls).2 := by
  induction calls generalizing memory with
  | nil => exact ⟨rfl, hm⟩
  | cons call calls ih =>
    obtain ⟨hreply, hinv⟩ := run_agrees hl hfresh (hc call List.mem_cons_self) hm
    obtain ⟨hlater, hinv'⟩ := ih (fun c h => hc c (List.mem_cons_of_mem _ h)) hinv
    refine ⟨?_, hinv'⟩
    rw [runAll, List.map_cons, hreply, hlater]
end Run

end Call

/-- With a cache that earlier calls have left, each call gives what it gives without one. -/
theorem cached_replies (U : Universe) (earlier calls : List Call) (he : ∀ call ∈ earlier, call.DeclaredIn U)
    (hc : ∀ call ∈ calls, call.DeclaredIn U) :
    let cache := (Call.runAll .cached .empty .empty earlier).2
    (Call.runAll .cached .empty cache calls).1 = calls.map fun call => (call.run .direct () ()).1 := by
  intro cache
  have hempty := MemberCache.faithful_empty U
  have hcache : cache.Faithful U := (Call.runAll_agrees (MemberCache.agrees U) hempty he hempty).2
  exact (Call.runAll_agrees (MemberCache.agrees U) hempty hc hcache).1

/-- A refused read has left `secret` in the cache, and a write all that it went through. -/
theorem cached_replies_sample :
    let root := Sample.valueA
    let one := Value.scalar (.string "one")
    let secret : Path := ⟨[.member "secret"], List.cons_ne_nil _ _⟩
    let earlier := [Call.get root (.path secret), .assign root (.path Sample.textOfB) one]
    let calls := [Call.assign root (.path secret) one, .get root (.path secret), .clear, .edit root (.path Sample.textOfB) id]
    let cache := (Call.runAll .cached .empty .empty earlier).2
    cache.size = 3 ∧
    (Call.runAll .cached .empty cache calls).1 = calls.map fun call => (call.run .direct () ()).1 := by
  intro root one secret earlier calls cache
  have hroot : root.DeclaredIn Sample.types := Universe.declaredIn_default Sample.types_named 2 Sample.tyA
  refine ⟨by rfl, cached_replies Sample.types earlier calls ?_ ?_⟩
  · simp [earlier, Call.DeclaredIn, hroot]
  · simp [calls, Call.DeclaredIn, hroot]

end Reflection
