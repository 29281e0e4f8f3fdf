import Mathlib.Data.List.Induction
import Reflection.Proofs.Typing
/-!
# What types say of a path

`Universe.forecast` walks along a path from type to type, by infos alone. A walk along values of
these types ends as it says, with a value of the type or with the failure that it has forecast,
unless it meets a `Gap` before: a pointer that is null, or an item that a list does not hold
(`read_forecast`).
-/

namespace Reflection

/-! ## The walk from type to type -/

/-- How a walk ends by the types alone. Nothing is known behind pointers that lead to no type. -/
inductive Forecast
  | reaches (t : Ty)
  | fails (e : AccessError)
  | unknown
deriving DecidableEq, Repr

namespace Universe

/-- Walks from a type on, where `position` segments lie behind. -/
def forecast (U : Universe) (position : Nat) (t : Ty) (path : List Segment) : Forecast :=
  match path with
  | [] => .reaches t
  | s :: rest =>
    match U.behind? t with
    | none => .unknown
    | some info =>
      match info.step s with
      | .ok u => U.forecast (position + 1) u rest
      | .error cause => .fails ⟨cause, s, position⟩

theorem forecast_append (U : Universe) (position : Nat) (t : Ty) (a b : List Segment) :
    U.forecast position t (a ++ b) =
      match U.forecast position t a with
      | .reaches u => U.forecast (position + a.length) u b
      | other => other := by
  induction a generalizing position t with
  | nil => rfl
  | cons s a ih =>
    rw [List.cons_append, List.length_cons, ← Nat.add_assoc, Nat.add_right_comm]
    simp only [forecast]
    cases U.behind? t with
    | none => rfl
    | some info =>
      cases hstep : info.step s with
      | error cause => simp only [hstep]
      | ok u =>
        simp only [hstep]
        exact ih (position + 1) u

theorem position_of_forecast_single {U : Universe} {position : Nat} {t : Ty} {s : Segment} {e : AccessError}
    (h : U.forecast position t [s] = .fails e) : e.position = position := by
  simp only [forecast] at h
  split at h
  · cases h
  · split at h
    · cases h
    · cases h
      rfl

end Universe

/-! ## Gaps -/

/-- A failure that the types do not tell: on the way a pointer that can be null is null, or a list
does not hold an item. -/
inductive Gap (U : Universe) (root : Value) (path : List Segment) : AccessError → Prop
  | null {a b : List Segment} {s : Segment} {v : Value} (hpath : path = a ++ s :: b)
    (hv : (getFrom .direct 0 root a ()).result = .ok v) (hnull : v.chainEnd? = none)
    (hnullable : U.MeetsNullable v.type) : Gap U root path ⟨.nullIntermediate, s, a.length⟩
  | item {a b : List Segment} {s : Segment} {w : Value} {cause : Cause} (hpath : path = a ++ s :: b)
    (hw : root.behind? a = some w) (hlacks : w.Lacks s cause) : Gap U root path ⟨cause, s, a.length⟩

namespace Gap
variable {U : Universe} {root : Value} {path : List Segment} {e : AccessError}

theorem append (h : Gap U root path e) (b : List Segment) : Gap U root (path ++ b) e := by
  cases h with
  | null hpath hv hnull hnullable => exact .null (by rw [hpath, List.append_assoc, List.cons_append]) hv hnull hnullable
  | item hpath hw hlacks => exact .item (by rw [hpath, List.append_assoc, List.cons_append]) hw hlacks

theorem position_lt (h : Gap U root path e) : e.position < path.length := by
  cases h with
  | null hpath => simp [hpath]
  | item hpath => simp [hpath]

end Gap

/-! ## The walk from value to value -/

namespace Value
variable {root v w x : Value} {a : List Segment} {s : Segment} {e : PathError}

theorem getFrom_concat_error (h : (getFrom .direct 0 root a ()).result = .error e) :
    (getFrom .direct 0 root (a ++ [s]) ()).result = .error e := by
  rw [getFrom_find] at h
  rw [getFrom_find, find_append .read 0 root a (List.cons_ne_nil s []), map_eq_error h]
  rfl

theorem getFrom_concat (h : (getFrom .direct 0 root a ()).result = .ok v) :
    (getFrom .direct 0 root (a ++ [s]) ()).result =
      match v.step .read s with
      | .ok (_, x) => .ok x
      | .error cause => .error (.lookup ⟨cause, s, a.length⟩) := by
  rw [getFrom_find] at h
  obtain ⟨⟨place, v'⟩, hfind, rfl⟩ := map_eq_ok h
  rw [getFrom_find, find_append .read 0 root a (List.cons_ne_nil s []), hfind, Nat.zero_add]
  cases hstep : v'.step .read s with
  | error cause =>
    simp only [Except.bind, find_error (by exact hstep : v'.step (Mode.read.before []) s = .error cause)]
    rfl
  | ok found =>
    simp only [Except.bind, find_ok (by exact hstep : v'.step (Mode.read.before []) s = .ok (found.1, found.2))]
    rfl

/-- A step on a typed value, after what the types say of the segment. -/
theorem step_forecast {U : Universe} {t : Ty} (h : v.HasType U t) (position : Nat) (s : Segment) :
    (∃ slot x u, v.step .read s = .ok (slot, x) ∧ x.HasType U u ∧ U.forecast position t [s] = .reaches u) ∨
    (∃ cause, v.step .read s = .error cause ∧ U.forecast position t [s] = .fails ⟨cause, s, position⟩) ∨
    (v.chainEnd? = none ∧ v.step .read s = .error .nullIntermediate) ∨
    ∃ w cause, v.chainEnd? = some w ∧ v.step .read s = .error cause ∧ w.Lacks s cause ∧
      ∀ e, U.forecast position t [s] ≠ .fails e := by
  cases hend : v.chainEnd? with
  | none => exact .inr (.inr (.inl ⟨rfl, step_null hend .read s⟩))
  | some w =>
    obtain ⟨u, hu, hbehind⟩ := behind?_of_chainEnd? h hend
    have hself : w.chainEnd? = some w := (chainEnd?_of_kind (kind_ne_of_chainEnd? hend)).1
    have hstep : v.step .read s = w.step .read s := (step_eq hend .read s).trans (step_eq hself .read s).symm
    simp only [Universe.forecast, hbehind, hstep]
    rcases step_of_hasType hu hself s with ⟨slot, x, t', hx, ht', htyped⟩ | ⟨cause, hx, hinfo⟩ |
      ⟨cause, hx, hlacks⟩
    · refine .inl ⟨slot, x, t', hx, htyped, ?_⟩
      rw [ht']
    · refine .inr (.inl ⟨cause, hx, ?_⟩)
      rw [hinfo]
    · refine .inr (.inr (.inr ⟨w, cause, rfl, hx, hlacks, ?_⟩))
      obtain ⟨list, item, i, hinfo, rfl, -, -⟩ := hlacks
      rw [hinfo]
      nofun

/-- What a walk along a typed value comes to: a value of the type that is forecast, the failure that is
forecast, or a gap before it. Only a null can stand at the segment of the failure itself, since that
segment is not used before the pointers in front of it are followed. -/
theorem read_forecast {U : Universe} {t : Ty} (h : root.HasType U t) (path : List Segment) :
    (∃ v u, (getFrom .direct 0 root path ()).result = .ok v ∧ v.HasType U u ∧ U.forecast 0 t path = .reaches u) ∨
    (∃ e, (getFrom .direct 0 root path ()).result = .error (.lookup e) ∧ U.forecast 0 t path = .fails e) ∨
    ∃ e, (getFrom .direct 0 root path ()).result = .error (.lookup e) ∧ Gap U root path e ∧
      ∀ e', U.forecast 0 t path = .fails e' →
        e.position < e'.position ∨ e.position = e'.position ∧ e.cause = .nullIntermediate := by
  -- From the end of the path, since what a walk has come to on the way is not moved by later segments.
  induction path using List.reverseRecOn with
  | nil => exact .inl ⟨root, t, rfl, h, rfl⟩
  | append_singleton a s ih =>
    rcases ih with ⟨v, u, hv, htyped, hforecast⟩ | ⟨e, he, hforecast⟩ | ⟨e, he, hgap, hfirst⟩
    · have hall : U.forecast 0 t (a ++ [s]) = U.forecast a.length u [s] := by
        rw [U.forecast_append, hforecast, Nat.zero_add]
      rw [getFrom_concat hv, hall]
      rcases step_forecast htyped a.length s with ⟨slot, x, t', hx, hx', ht'⟩ | ⟨cause, hx, hfails⟩ |
        ⟨hend, hx⟩ | ⟨w, cause, hend, hx, hlacks, hnever⟩
      · refine .inl ⟨x, t', ?_, hx', ht'⟩
        rw [hx]
      · refine .inr (.inl ⟨_, ?_, hfails⟩)
        rw [hx]
      · refine .inr (.inr ⟨⟨.nullIntermediate, s, a.length⟩, ?_, ?_, ?_⟩)
        · rw [hx]
        · refine .null rfl hv hend ?_
          rw [type_of_hasType htyped]
          exact meetsNullable_of_chainEnd? htyped hend
        · intro e' he'
          exact .inr ⟨(Universe.position_of_forecast_single he').symm, rfl⟩
      · refine .inr (.inr ⟨⟨cause, s, a.length⟩, ?_, ?_, ?_⟩)
        · rw [hx]
        · refine .item rfl ?_ hlacks
          rw [behind?, hv]
          exact hend
        · intro e' he'
          exact absurd he' (hnever e')
    · refine .inr (.inl ⟨e, getFrom_concat_error he, ?_⟩)
      rw [U.forecast_append, hforecast]
    · refine .inr (.inr ⟨e, getFrom_concat_error he, hgap.append [s], ?_⟩)
      intro e' he'
      rw [U.forecast_append] at he'
      cases hforecast : U.forecast 0 t a with
      | reaches u =>
        -- The types fail at the last segment, and the gap lies before it.
        rw [hforecast] at he'
        rw [Universe.position_of_forecast_single he', Nat.zero_add]
        exact .inl hgap.position_lt
      | fails e'' =>
        rw [hforecast] at he'
        cases he'
        exact hfirst e' hforecast
      | unknown =>
        rw [hforecast] at he'
        cases he'

end Value

/-! ## Reads of typed values -/

/-- Types are sound for reads. A read gives a value of the type that is forecast. Where a type is
forecast, a read fails at a gap only. Where a failure is forecast, a read fails with it, or at a gap
before it, or at a null in front of its segment. -/
theorem get_forecast {U : Universe} {root : Value} {t : Ty} (h : root.HasType U t) (p : Path) :
    (∀ v, (get .direct root (.path p) ()).result = .ok v → U.forecast 0 t p.segments = .reaches v.type) ∧
    (∀ u, U.forecast 0 t p.segments = .reaches u →
      (∃ v, (get .direct root (.path p) ()).result = .ok v ∧ v.HasType U u) ∨
      ∃ e, (get .direct root (.path p) ()).result = .error (.lookup e) ∧ Gap U root p.segments e) ∧
    (∀ e, U.forecast 0 t p.segments = .fails e →
      (get .direct root (.path p) ()).result = .error (.lookup e) ∨
      ∃ e', (get .direct root (.path p) ()).result = .error (.lookup e') ∧ Gap U root p.segments e' ∧
        (e'.position < e.position ∨ e'.position = e.position ∧ e'.cause = .nullIntermediate)) ∧
    (U.forecast 0 t p.segments = .unknown →
      ∃ e, (get .direct root (.path p) ()).result = .error (.lookup e) ∧ Gap U root p.segments e) := by
  have hread : (get .direct root (.path p) ()).result = (getFrom .direct 0 root p.segments ()).result := rfl
  rw [hread]
  rcases Value.read_forecast h p.segments with ⟨v, u, hv, htyped, hforecast⟩ | ⟨e, he, hforecast⟩ |
    ⟨e, he, hgap, hfirst⟩
  · rw [hv, hforecast]
    refine ⟨?_, ?_, nofun, nofun⟩
    · intro v' hv'
      cases hv'
      rw [Value.type_of_hasType htyped]
    · intro u' hu'
      cases hu'
      exact .inl ⟨v, rfl, htyped⟩
  · rw [he, hforecast]
    refine ⟨nofun, nofun, ?_, nofun⟩
    intro e' he'
    cases he'
    exact .inl rfl
  · rw [he]
    refine ⟨nofun, ?_, ?_, ?_⟩
    · exact fun u hu => .inr ⟨e, rfl, hgap⟩
    · exact fun e' he' => .inr ⟨e, rfl, hgap, hfirst e' he'⟩
    · exact fun hunknown => ⟨e, rfl, hgap⟩

/-- A text that is reached, and one that is forecast behind a null. -/
theorem get_forecast_text :
    let root := Sample.valueA
    let behindNull : Path := ⟨[.member "instanceB", .member "text"], List.cons_ne_nil _ _⟩
    root.HasType Sample.types Sample.tyA ∧
    Sample.types.forecast 0 Sample.tyA Sample.textOfB.segments = .reaches Sample.text ∧
    ∃ e, (get .direct root (.path behindNull) ()).result = .error (.lookup e) ∧
      Gap Sample.types root behindNull.segments e := by
  intro root behindNull
  obtain ⟨hreads, -, -, -⟩ := get_forecast Sample.valueA_hasType Sample.textOfB
  obtain ⟨-, hreaches, -, -⟩ := get_forecast Sample.valueA_hasType behindNull
  refine ⟨Sample.valueA_hasType, hreads (.scalar (.string "")) rfl, ?_⟩
  rcases hreaches Sample.text rfl with ⟨v, hv, -⟩ | hgap
  · cases hv
  · exact hgap

end Reflection
