import Mathlib.Data.Finset.Card
import Mathlib.Logic.Function.Basic
import Reflection.Keyed.TypeMap
/-!
# Maps by type are partial functions

A map by type gives the answers of the partial function that it holds (`TypeMap.getType?`), whatever is done to it:
each operation changes this function at its own type alone, and clearing changes it everywhere (`perform_eq`). A value
is made only where there was none, which shows in the state that making values may change. The map has an entry for
each type at which the function has a value and no other, so its length and its values are those of the function
(`exists_keys`).
-/

namespace Reflection

/-- What is done to a map. `update` and `getOrInsert` hand out a value that is then changed in place. -/
inductive TypeMapOp (σ τ α : Type)
  | insert (id : TypeId τ) (x : α)
  | insertType (t : τ) (x : α)
  | get (id : TypeId τ)
  | getType (t : τ)
  | update (id : TypeId τ) (change : α → α)
  | getOrInsert (id : TypeId τ) (init : σ → α × σ) (change : α → α)
  | contains (id : TypeId τ)
  | containsType (t : τ)
  | remove (id : TypeId τ)
  | clear

inductive TypeMapAnswer (α : Type)
  | value (x : Option α)
  | found (b : Bool)
  | cleared
deriving DecidableEq

/-- The type of an operation. Clearing is for all types. -/
def TypeMapOp.type? {σ τ α : Type} : TypeMapOp σ τ α → Option τ
  | .insert id _ | .get id | .update id _ | .getOrInsert id _ _ | .contains id | .remove id => some id.type
  | .insertType t _ | .getType t | .containsType t => some t
  | .clear => none

section
variable {σ τ α : Type} [DecidableEq τ]

namespace TypeMap

/-- The answer to an operation, the map after it, and the state after making a value. -/
def perform (m : TypeMap τ α) (s : σ) : TypeMapOp σ τ α → TypeMapAnswer α × TypeMap τ α × σ
  | .insert id x =>
    let (old, m) := m.insert id x
    (.value old, m, s)
  | .insertType t x =>
    let (old, m) := m.insertType t x
    (.value old, m, s)
  | .get id => (.value (m.get? id), m, s)
  | .getType t => (.value (m.getType? t), m, s)
  | .update id change =>
    let (new, m) := m.modify id change
    (.value new, m, s)
  | .getOrInsert id init change =>
    let (x, m, s) := m.getOrMake id init s
    (.value (some x), (m.modify id change).2, s)
  | .contains id => (.found (m.contains id), m, s)
  | .containsType t => (.found (m.containsType t), m, s)
  | .remove id =>
    let (old, m) := m.remove id
    (.value old, m, s)
  | .clear => (.cleared, m.clear, s)

def performAll : TypeMap τ α → σ → List (TypeMapOp σ τ α) → List (TypeMapAnswer α) × TypeMap τ α × σ
  | m, s, [] => ([], m, s)
  | m, s, op :: ops =>
    let (answer, m, s) := m.perform s op
    let (answers, m, s) := performAll m s ops
    (answer :: answers, m, s)

end TypeMap

namespace TypeMapOp

/-- What an operation does to a partial function. -/
def onFunction (f : τ → Option α) (s : σ) : TypeMapOp σ τ α → TypeMapAnswer α × (τ → Option α) × σ
  | .insert ⟨t⟩ x | .insertType t x => (.value (f t), Function.update f t (some x), s)
  | .get ⟨t⟩ | .getType t => (.value (f t), f, s)
  | .update ⟨t⟩ change => (.value ((f t).map change), Function.update f t ((f t).map change), s)
  | .getOrInsert ⟨t⟩ init change =>
    match f t with
    | some x => (.value (some x), Function.update f t (some (change x)), s)
    | none => (.value (some (init s).1), Function.update f t (some (change (init s).1)), (init s).2)
  | .contains ⟨t⟩ | .containsType t => (.found (f t).isSome, f, s)
  | .remove ⟨t⟩ => (.value (f t), Function.update f t none, s)
  | .clear => (.cleared, fun _ => none, s)

def allOnFunction : (τ → Option α) → σ → List (TypeMapOp σ τ α) → List (TypeMapAnswer α) × (τ → Option α) × σ
  | f, s, [] => ([], f, s)
  | f, s, op :: ops =>
    let (answer, f, s) := op.onFunction f s
    let (answers, f, s) := allOnFunction f s ops
    (answer :: answers, f, s)

end TypeMapOp

namespace TypeMap

variable {m m' : TypeMap τ α}

/-! ## Each operation -/

/-- What is under one identity decides the function at its type. -/
theorem getType?_eq_update {t : τ} {x : Option α}
    (h : ∀ id, m'.get? id = if id = .of t then x else m.get? id) : m'.getType? = Function.update m.getType? t x := by
  funext t'
  simp only [Function.update_apply, getType?, h, TypeId.of.injEq]

theorem getType?_insert (m : TypeMap τ α) (t : τ) (x : α) :
    TypeMap.getType? (m.insert (.of t) x).2 = Function.update m.getType? t (some x) :=
  getType?_eq_update fun id => KeyMap.get?_set m (.of t) id x

theorem getType?_modify (m : TypeMap τ α) (t : τ) (change : α → α) :
    TypeMap.getType? (m.modify (.of t) change).2 = Function.update m.getType? t ((m.getType? t).map change) :=
  getType?_eq_update fun id => KeyMap.get?_modify m (.of t) id change

theorem getType?_remove (m : TypeMap τ α) (t : τ) :
    TypeMap.getType? (m.remove (.of t)).2 = Function.update m.getType? t none :=
  getType?_eq_update fun id => KeyMap.get?_remove m (.of t) id

/-- A map does what its function does, and gives the same answer. -/
theorem perform_eq (m : TypeMap τ α) (s : σ) (op : TypeMapOp σ τ α) :
    op.onFunction m.getType? s =
      ((m.perform s op).1, (m.perform s op).2.1.getType?, (m.perform s op).2.2) := by
  cases op with
  | insert id x => rw [perform, getType?_insert]; rfl
  | insertType t x => rw [perform, insertType, getType?_insert]; rfl
  | update id change =>
    rw [perform]
    dsimp only
    rw [getType?_modify, KeyMap.fst_modify]
    rfl
  | getOrInsert id init change =>
    obtain ⟨t⟩ := id
    simp only [perform, KeyMap.getOrMake, getType?_modify, TypeMapOp.onFunction]
    have hget : m.get? (.of t) = m.getType? t := rfl
    rw [hget]
    cases hkept : m.getType? t with
    | some x => simp only [hkept, Option.map_some]
    | none =>
      -- The value is kept first, and what is kept is changed.
      have hset : TypeMap.getType? (m.set (.of t) (init s).1) = Function.update m.getType? t (some (init s).1) :=
        getType?_insert m t (init s).1
      simp only [hset, Function.update_self, Function.update_idem, Option.map_some]
  | remove id => rw [perform, getType?_remove]; rfl
  | _ => rfl

theorem performAll_eq (m : TypeMap τ α) (s : σ) (ops : List (TypeMapOp σ τ α)) :
    TypeMapOp.allOnFunction m.getType? s ops =
      ((m.performAll s ops).1, (m.performAll s ops).2.1.getType?, (m.performAll s ops).2.2) := by
  induction ops generalizing m s with
  | nil => rfl
  | cons op ops ih =>
    simp only [TypeMapOp.allOnFunction, performAll, perform_eq, ih]

/-- Operations on other types leave a type's value alone. -/
theorem getType?_perform_of_ne (m : TypeMap τ α) (s : σ) {op : TypeMapOp σ τ α} {t t' : τ} (hop : op.type? = some t)
    (hne : t' ≠ t) : (m.perform s op).2.1.getType? t' = m.getType? t' := by
  have hfunction : (m.perform s op).2.1.getType? = (op.onFunction m.getType? s).2.1 := by rw [perform_eq]
  rw [hfunction]
  cases op with
  | insert _ x | insertType _ x | update _ change | remove _ =>
    cases hop
    exact Function.update_of_ne hne ..
  | getOrInsert id init change =>
    cases hop
    unfold TypeMapOp.onFunction
    dsimp only
    cases m.getType? id.type <;> exact Function.update_of_ne hne ..
  | clear => cases hop
  | _ => rfl

/-! ## Length and values -/

/-- The types that have a value, in the order of the entries. -/
def types (m : TypeMap τ α) : List τ := m.entries.map fun e => e.1.type

omit [DecidableEq τ] in
theorem nodup_types (m : TypeMap τ α) : m.types.Nodup := by
  have hinjective : Function.Injective (TypeId.type : TypeId τ → τ) := by
    rintro ⟨t⟩ ⟨t'⟩ rfl
    rfl
  have hkeys := m.keys_nodup.map hinjective
  rwa [List.map_map] at hkeys

theorem mem_types_iff {t : τ} : t ∈ m.types ↔ m.getType? t ≠ none := by
  rw [getType?, ne_eq, KeyMap.get?_eq_none_iff, not_not, types, List.mem_map, List.mem_map]
  constructor
  · rintro ⟨e, he, rfl⟩
    exact ⟨e, he, rfl⟩
  · rintro ⟨e, he, hid⟩
    exact ⟨e, he, congrArg TypeId.type hid⟩

theorem map_some_values (m : TypeMap τ α) : m.values.map some = m.types.map m.getType? := by
  rw [KeyMap.values, types, List.map_map, List.map_map]
  apply List.map_congr_left
  intro e he
  exact (KeyMap.get?_eq_some_iff.2 he).symm

/-- There is one entry for each type that has a value. -/
theorem exists_keys (m : TypeMap τ α) :
    ∃ keys : Finset τ, (∀ t, t ∈ keys ↔ m.getType? t ≠ none) ∧ m.size = keys.card ∧ (m.isEmpty = true ↔ keys = ∅) ∧
      (m.values : Multiset α).map some = keys.val.map m.getType? := by
  let keys : Finset τ := ⟨m.types, m.nodup_types⟩
  have hsize : m.size = keys.card := (List.length_map ..).symm
  refine ⟨keys, fun t => mem_types_iff, hsize, ?_, ?_⟩
  · rw [← Finset.card_eq_zero, ← hsize, KeyMap.isEmpty, KeyMap.size, List.isEmpty_iff, List.length_eq_zero_iff]
  · rw [Multiset.map_coe, map_some_values]
    rfl

end TypeMap

/-- From any map and any state, operations give the answers that they give on the partial function which the map holds,
and leave the state that they leave there, in which a value is made only for a type that has none. The map then holds
the function that they leave, with one entry for each type that has a value, and a new map holds nothing. An operation
on one type leaves the values of all others alone. -/
theorem typeMaps_refine_functions (m : TypeMap τ α) (s : σ) (ops : List (TypeMapOp σ τ α)) :
    let (answers, after, made) := m.performAll s ops
    let (answers', f, made') := TypeMapOp.allOnFunction m.getType? s ops
    (∀ t, TypeMap.getType? (KeyMap.empty : TypeMap τ α) t = none) ∧
    answers = answers' ∧ made = made' ∧ (∀ t, after.getType? t = f t) ∧
    (∃ keys : Finset τ, (∀ t, t ∈ keys ↔ f t ≠ none) ∧ after.size = keys.card ∧ (after.isEmpty = true ↔ keys = ∅) ∧
      (after.values : Multiset α).map some = keys.val.map f) ∧
    ∀ (op : TypeMapOp σ τ α) (t t' : τ), op.type? = some t → t' ≠ t →
      (after.perform made op).2.1.getType? t' = after.getType? t' := by
  rw [TypeMap.performAll_eq]
  obtain ⟨answers, after, made⟩ := m.performAll s ops
  refine ⟨fun _ => rfl, rfl, rfl, fun _ => rfl, after.exists_keys, ?_⟩
  intro op t t' hop hne
  exact after.getType?_perform_of_ne made hop hne

/-- Values are counted as they are made: of three requests only the first makes one, and each changes it. -/
theorem typeMaps_refine_functions_once :
    let count : TypeMapOp Nat String Nat := .getOrInsert (.of "str") (fun made => (5, made + 1)) (· + 1)
    let remove : TypeMapOp Nat String Nat := .remove (.of "u8")
    let (answers, after, made) := TypeMap.performAll KeyMap.empty 0 [count, count, count, .insertType "u8" 1]
    answers = [.value (some 5), .value (some 6), .value (some 7), .value none] ∧ made = 1 ∧
      remove.type? = some "u8" ∧ "str" ≠ "u8" ∧ (after.perform made remove).2.1.getType? "str" = some 8 := by
  intro count remove
  obtain ⟨-, hanswers, hmade, hfunction, -, hother⟩ :=
    typeMaps_refine_functions KeyMap.empty 0 [count, count, count, .insertType "u8" 1]
  have hne : "str" ≠ "u8" := by decide
  refine ⟨hanswers.trans rfl, hmade.trans rfl, rfl, hne, ?_⟩
  exact (hother remove "u8" "str" rfl hne).trans (hfunction "str")

end
end Reflection
