/-!
# Maps by key

A `KeyMap` holds one value under each of its keys. `get?` is its view: every operation is described
by what it does to `get?`.
-/

namespace Reflection

/-- Among entries with different keys, a key finds its own. -/
theorem lookup_eq_some_iff_mem {κ α : Type} [BEq κ] [LawfulBEq κ] {l : List (κ × α)} (h : (l.map Prod.fst).Nodup)
    {k : κ} {x : α} : l.lookup k = some x ↔ (k, x) ∈ l := by
  induction l with
  | nil => simp
  | cons e l ih =>
    obtain ⟨k', x'⟩ := e
    obtain ⟨hnew, hnodup⟩ := List.nodup_cons.1 h
    rw [List.lookup_cons, List.mem_cons, ← ih hnodup]
    by_cases hk : k = k'
    · subst hk
      have hother : l.lookup k ≠ some x := fun hx => hnew (List.mem_map.2 ⟨_, (ih hnodup).1 hx, rfl⟩)
      simp [hother, eq_comm]
    · simp [hk, beq_false_of_ne hk]

structure KeyMap (κ α : Type) where
  entries : List (κ × α)
  keys_nodup : (entries.map Prod.fst).Nodup

namespace KeyMap
variable {κ α : Type} [DecidableEq κ]

/-! ## Entries -/

/-- Replaces the value under a key where it stands, or adds the key at the end. -/
def put (k : κ) (x : α) : List (κ × α) → List (κ × α)
  | [] => [(k, x)]
  | (k', x') :: rest => if k = k' then (k, x) :: rest else (k', x') :: put k x rest

theorem keys_put (k : κ) (x : α) (l : List (κ × α)) :
    (put k x l).map Prod.fst = if k ∈ l.map Prod.fst then l.map Prod.fst else l.map Prod.fst ++ [k] := by
  induction l with
  | nil => rfl
  | cons e l ih =>
    obtain ⟨k', x'⟩ := e
    by_cases h : k = k'
    · simp [put, h]
    · by_cases hm : k ∈ l.map Prod.fst
      · rw [if_pos hm] at ih
        simp [put, h, ih, hm]
      · rw [if_neg hm] at ih
        simp [put, h, ih, hm]

theorem keys_put_nodup {k : κ} {x : α} {l : List (κ × α)} (h : (l.map Prod.fst).Nodup) :
    ((put k x l).map Prod.fst).Nodup := by
  rw [keys_put]
  split
  · exact h
  · rename_i hk
    rw [List.nodup_append]
    refine ⟨h, by simp, ?_⟩
    rintro a ha b hb rfl
    exact hk (List.mem_singleton.1 hb ▸ ha)

/-! ## Operations -/

def empty : KeyMap κ α := ⟨[], .nil⟩

def get? (m : KeyMap κ α) (k : κ) : Option α := m.entries.lookup k

def contains (m : KeyMap κ α) (k : κ) : Bool := (m.get? k).isSome

/-- The map with `x` under `k`. -/
def set (m : KeyMap κ α) (k : κ) (x : α) : KeyMap κ α := ⟨put k x m.entries, keys_put_nodup m.keys_nodup⟩

/-- The value that was under `k` before, and the map with `x` there. -/
def insert (m : KeyMap κ α) (k : κ) (x : α) : Option α × KeyMap κ α := (m.get? k, m.set k x)

/-- Changes the value under a key, if there is one, and gives the new one. -/
def modify (m : KeyMap κ α) (k : κ) (f : α → α) : Option α × KeyMap κ α :=
  match m.get? k with
  | none => (none, m)
  | some x => (some (f x), m.set k (f x))

/-- The value under a key. If there is none, the one that `init` makes is kept there; making it may change
a state. -/
def getOrMake {σ : Type} (m : KeyMap κ α) (k : κ) (init : σ → α × σ) (s : σ) : α × KeyMap κ α × σ :=
  match m.get? k with
  | some x => (x, m, s)
  | none =>
    let (x, s) := init s
    (x, m.set k x, s)

/-- The value under a key, made if there is none; the flag tells whether it was made. -/
def getOrInsert (m : KeyMap κ α) (k : κ) (init : Unit → α) : (α × Bool) × KeyMap κ α :=
  let (x, m, made) := m.getOrMake k (fun _ => (init (), true)) false
  ((x, made), m)

/-- The value that was under a key, and the map without the key. -/
def remove (m : KeyMap κ α) (k : κ) : Option α × KeyMap κ α :=
  (m.get? k, ⟨m.entries.filter (fun e => e.1 ≠ k),
    m.keys_nodup.sublist (List.filter_sublist.map Prod.fst)⟩)

/-- The map without all of its keys. -/
def clear (_ : KeyMap κ α) : KeyMap κ α := empty

def size (m : KeyMap κ α) : Nat := m.entries.length

def isEmpty (m : KeyMap κ α) : Bool := m.entries.isEmpty

def values (m : KeyMap κ α) : List α := m.entries.map Prod.snd

/-! ## What is under a key -/

theorem lookup_put (k k' : κ) (x : α) (l : List (κ × α)) :
    (put k x l).lookup k' = if k' = k then some x else l.lookup k' := by
  induction l with
  | nil =>
    by_cases h : k' = k
    · simp [put, h]
    · simp [put, List.lookup_cons, h, beq_false_of_ne h]
  | cons e l ih =>
    obtain ⟨k₀, x₀⟩ := e
    by_cases hk : k = k₀
    · subst hk
      by_cases h : k' = k
      · simp [put, h]
      · simp [put, List.lookup_cons, h, beq_false_of_ne h]
    · by_cases h : k' = k₀
      · subst h
        simp [put, hk, Ne.symm hk]
      · simp [put, List.lookup_cons, hk, beq_false_of_ne h, ih]

theorem lookup_filter_ne (k k' : κ) (l : List (κ × α)) :
    (l.filter (fun e => e.1 ≠ k)).lookup k' = if k' = k then none else l.lookup k' := by
  induction l with
  | nil => simp
  | cons e l ih =>
    obtain ⟨k₀, x₀⟩ := e
    by_cases hk : k₀ = k
    · subst hk
      by_cases h : k' = k₀
      · simpa [h] using ih
      · simpa [h, List.lookup_cons, beq_false_of_ne h] using ih
    · by_cases h : k' = k₀
      · subst h
        simp [hk]
      · simpa [hk, List.lookup_cons, beq_false_of_ne h] using ih

@[simp] theorem get?_empty (k : κ) : (empty : KeyMap κ α).get? k = none := rfl

theorem get?_set (m : KeyMap κ α) (k k' : κ) (x : α) :
    (m.set k x).get? k' = if k' = k then some x else m.get? k' :=
  lookup_put k k' x m.entries

theorem get?_remove (m : KeyMap κ α) (k k' : κ) :
    (m.remove k).2.get? k' = if k' = k then none else m.get? k' :=
  lookup_filter_ne k k' m.entries

theorem fst_modify (m : KeyMap κ α) (k : κ) (f : α → α) : (m.modify k f).1 = (m.get? k).map f := by
  unfold modify
  cases m.get? k <;> rfl

theorem get?_modify (m : KeyMap κ α) (k k' : κ) (f : α → α) :
    (m.modify k f).2.get? k' = if k' = k then (m.get? k).map f else m.get? k' := by
  unfold modify
  cases h : m.get? k with
  | some x => exact get?_set m k k' (f x)
  | none =>
    by_cases hk : k' = k
    · rw [if_pos hk, hk]
      exact h
    · rw [if_neg hk]

theorem get?_getOrInsert (m : KeyMap κ α) (k k' : κ) (init : Unit → α) :
    (m.getOrInsert k init).2.get? k' = if k' = k then some ((m.get? k).getD (init ())) else m.get? k' := by
  unfold getOrInsert getOrMake
  cases h : m.get? k with
  | some x =>
    by_cases hk : k' = k
    · rw [if_pos hk, hk]
      exact h
    · rw [if_neg hk]
  | none => exact get?_set m k k' (init ())

/-- The entries are the keys with their values. -/
theorem get?_eq_some_iff {m : KeyMap κ α} {k : κ} {x : α} : m.get? k = some x ↔ (k, x) ∈ m.entries :=
  lookup_eq_some_iff_mem m.keys_nodup

theorem get?_eq_none_iff {m : KeyMap κ α} {k : κ} : m.get? k = none ↔ k ∉ m.entries.map Prod.fst := by
  rw [Option.eq_none_iff_forall_ne_some]
  simp only [ne_eq, get?_eq_some_iff, List.mem_map, Prod.exists, exists_and_right, exists_eq_right, not_exists]

end KeyMap

end Reflection
