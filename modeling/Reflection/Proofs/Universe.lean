import Reflection.Path.Basic
import Reflection.Universe.Sample
import Reflection.Proofs.Place
/-!
# Values of a universe

A type has one declaration in a universe, and a value is `DeclaredIn` it if its structs carry theirs.
Whatever can be looked into from such a value is again one, and so are the defaults.
-/

namespace Reflection

namespace Value

mutual
/-- All structs that a walk can come to have the info that the universe has for their type. -/
def DeclaredIn (U : Universe) : Value → Prop
  | .list _ items | .array _ items => AllDeclaredIn U items
  | .pointer _ (some v) => v.DeclaredIn U
  | .struct decl members _ => U.info? decl.info.type = some (.struct decl.info) ∧ AllDeclaredIn U members
  | .facade _ x => x.DeclaredIn U
  | _ => True

def AllDeclaredIn (U : Universe) : List Value → Prop
  | [] => True
  | v :: vs => v.DeclaredIn U ∧ AllDeclaredIn U vs
end

variable {U : Universe} {v w c : Value}

theorem allDeclaredIn_iff {vs : List Value} : AllDeclaredIn U vs ↔ ∀ v ∈ vs, v.DeclaredIn U := by
  induction vs with
  | nil => simp [AllDeclaredIn]
  | cons v vs ih => simp [AllDeclaredIn, ih]

theorem declaredIn_child? {slot : Slot} (h : v.DeclaredIn U) (hc : v.child? slot = some c) : c.DeclaredIn U := by
  cases holds_of_child? hc with
  | listItem hc => rw [DeclaredIn, allDeclaredIn_iff] at h; exact h c (List.mem_of_getElem? hc)
  | arrayItem hc => rw [DeclaredIn, allDeclaredIn_iff] at h; exact h c (List.mem_of_getElem? hc)
  | target t c => rwa [DeclaredIn] at h
  | member hc => rw [DeclaredIn, allDeclaredIn_iff] at h; exact h.2 c (List.mem_of_getElem? hc)
  | ghost c => rwa [DeclaredIn] at h

theorem declaredIn_chainEnd? (h : v.DeclaredIn U) (hw : v.chainEnd? = some w) : w.DeclaredIn U := by
  fun_induction chainEnd? v with
  | case1 t v ih => rw [DeclaredIn] at h; exact ih h hw
  | case2 t => cases hw
  | case3 v hsome hnone => cases hw; exact h

theorem declaredIn_setChild {slot : Slot} {x : Value} (h : v.DeclaredIn U) (hc : v.child? slot = some c)
    (hx : x.DeclaredIn U) : (v.setChild slot x).DeclaredIn U := by
  have hset : ∀ {vs : List Value} {i : Nat}, AllDeclaredIn U vs → AllDeclaredIn U (vs.set i x) := by
    intro vs i hvs
    rw [allDeclaredIn_iff] at hvs ⊢
    intro w hw
    rcases List.mem_or_eq_of_mem_set hw with hw | rfl
    · exact hvs w hw
    · exact hx
  cases holds_of_child? hc with
  | listItem _ => rw [DeclaredIn] at h; exact hset h
  | arrayItem _ => rw [DeclaredIn] at h; exact hset h
  | target t c => exact hx
  | member _ => rw [DeclaredIn] at h; exact ⟨h.1, hset h.2⟩
  | ghost c => exact hx

theorem declaredIn_setAt {place : Place} {x : Value} (h : v.DeclaredIn U) (hc : v.at? place = some c)
    (hx : x.DeclaredIn U) : (v.setAt place x).DeclaredIn U := by
  induction place generalizing v with
  | nil => exact hx
  | cons slot place ih =>
    obtain ⟨d, hd, hc⟩ := at?_cons_eq_some hc
    rw [setAt_cons hd]
    exact declaredIn_setChild h hd (ih (declaredIn_child? h hd) hc)

theorem info?_of_declaredIn {info : StructInfo} (h : v.DeclaredIn U) (hinfo : v.info = .struct info) :
    U.info? info.type = some (.struct info) := by
  cases v with
  | struct decl members hidden =>
    cases hinfo
    rw [DeclaredIn] at h
    exact h.1
  | facade f x => cases hinfo; cases f <;> rfl
  | _ => cases hinfo

end Value

namespace Universe

/-- What is declared under a name and type arguments is the type of that name and arguments. -/
def Named (U : Universe) : Prop :=
  ∀ name args decl, U.decl? name args = some decl → decl.info.type = .struct name args

theorem declaredIn_default {U : Universe} (hU : U.Named) (depth : Nat) (t : Ty) : (U.default depth t).DeclaredIn U := by
  induction depth generalizing t with
  | zero =>
    cases t with
    | bespoke b => cases b <;> simp [default, Value.i32, Value.DeclaredIn, Value.AllDeclaredIn]
    | _ => simp [default, Value.DeclaredIn, Value.AllDeclaredIn]
  | succ depth ih =>
    cases t with
    | bespoke b => cases b <;> simp [default, Value.i32, Value.DeclaredIn, Value.AllDeclaredIn]
    | array t n =>
      rw [default, Value.DeclaredIn, Value.allDeclaredIn_iff]
      intro v hv
      rw [List.eq_of_mem_replicate hv]
      exact ih t
    | box t => rw [default, Value.DeclaredIn]; exact ih t
    | struct name args =>
      rw [default]
      cases hdecl : U.decl? name args with
      | none => simp only [Value.DeclaredIn]
      | some decl =>
        simp only [Value.DeclaredIn, Value.allDeclaredIn_iff]
        refine ⟨?_, ?_⟩
        · rw [hU name args decl hdecl, info?, hdecl]; rfl
        · intro v hv
          obtain ⟨m, -, rfl⟩ := List.mem_map.1 hv
          exact ih m.type
    | _ => simp [default, Value.DeclaredIn, Value.AllDeclaredIn]

end Universe

/-! ## The sample -/

theorem Sample.types_named : Sample.types.Named := by
  intro name args decl h
  simp only [types, decl?] at h
  split at h
  · obtain ⟨⟨docs, fields⟩, -, rfl⟩ := Option.map_eq_some_iff.1 h
    rfl
  · cases h

/-- A value of the sample, in which `b.text` leads to a text. -/
def Sample.valueA : Value := types.default 2 tyA

def Sample.textOfB : Path := ⟨[.member "b", .member "text"], List.cons_ne_nil _ _⟩

end Reflection
