import Reflection.Proofs.Find
import Reflection.Proofs.Universe
/-!
# How a write fails

A write walks like a read up to the value that the last segment is used on. If it does not arrive
there, it fails in the lookup just as the read does (`access_of_no_parent`). If it does, only the
last segment is left, which fails in the assignment (`assign_of_parent`), and for an index of the same
cause as in the read. `assign_stages` says of each failure when it occurs.
-/

namespace Reflection

namespace Path

/-- The segments in front of the last one. -/
def front (p : Path) : List Segment := p.segments.dropLast

def last (p : Path) : Segment := p.segments.getLast p.segments_ne_nil

theorem front_append_last (p : Path) : p.front ++ [p.last] = p.segments :=
  List.dropLast_concat_getLast p.segments_ne_nil

theorem length_front (p : Path) : p.front.length = p.length - 1 := List.length_dropLast

end Path

namespace Value

/-- What a write to a segment replaces: an item, or the member that is declared writable under a
name. -/
def writable? (v : Value) : Segment → Option Value
  | .index i => v.child? (.item i.toNat)
  | .member name =>
    match v.info with
    | .struct info => (info.writableMember? name).bind fun m => v.child? (.member m.index)
    | _ => none

theorem child?_item_of_not_indexable {v : Value} (h : v.kind.isIndexable = false) (i : Nat) :
    v.child? (.item i) = none := by
  unfold kind at h
  unfold child?
  cases hview : v.view with
  | list s => rw [hview] at h; cases h
  | array s => rw [hview] at h; cases h
  | _ => rfl

theorem snd_filled? (v : Value) (slot : Slot) : (v.filled? slot).map Prod.snd = v.child? slot := by
  rw [filled?, Option.map_map]
  exact Option.map_id'

theorem writable?_eq (v : Value) (s : Segment) :
    v.writable? s = ((v.slot? .write s).bind v.filled?).map Prod.snd := by
  cases s with
  | index i =>
    simp only [writable?, slot?, slotBy]
    split
    · rw [Option.bind_some, snd_filled?]
    · rename_i hkind
      rw [child?_item_of_not_indexable (by simpa using hkind)]
      rfl
  | member name =>
    simp only [writable?, slot?, slotBy]
    cases v.info with
    | struct info =>
      cases hm : info.member? name with
      | none => simp [StructInfo.writableMember?, hm]
      | some m =>
        by_cases hw : m.access.isWritable = true
        · simp [StructInfo.writableMember?, hm, Option.filter_some, Mode.allows, hw, snd_filled?]
        · simp [StructInfo.writableMember?, hm, Mode.allows, hw]
    | _ => rfl

theorem absent_eq_memberNotFound_iff {mode mode' : Mode} {v : Value} {s : Segment} {name type : String} :
    v.absent mode s = .memberNotFound name type mode' ↔ s = .member name ∧ mode' = mode ∧ v.typePath = type := by
  cases s with
  | index i =>
    rw [absent]
    split <;> simp
  | member name' => simp [absent, memberNotFound, eq_comm, and_comm]

/-! ## Where a walk fails -/

theorem position_lt_of_find {position : Nat} {v : Value} {path : List Segment} {e : AccessError}
    (h : v.find .read position path = .error (.lookup e)) : e.position < position + path.length := by
  induction path generalizing v position with
  | nil =>
    rw [find_nil] at h
    cases h
  | cons s rest ih =>
    rw [List.length_cons]
    cases hs : v.step (Mode.read.before rest) s with
    | error cause =>
      rw [find_error hs, Mode.read_before, Mode.read_failure] at h
      cases h
      show position < _
      omega
    | ok found =>
      obtain ⟨slot, x⟩ := found
      rw [find_ok hs] at h
      have hlt := ih (map_eq_error h)
      omega

/-- The value in the slot of the last segment, or why there is none. -/
theorem find_single {v w : Value} (h : v.chainEnd? = some w) (mode : Mode) (position : Nat) (s : Segment) :
    (v.find mode position [s]).map Prod.snd =
      ((w.slot? mode s).bind w.filled?).elim (.error (mode.failure ⟨w.absent mode s, s, position⟩)) (.ok ·.2) := by
  have hstep := step_eq h mode s
  cases hfilled : (w.slot? mode s).bind w.filled? with
  | none =>
    rw [hfilled, Option.elim_none] at hstep
    rw [find_error (by exact hstep)]
    rfl
  | some found =>
    rw [hfilled, Option.elim_some] at hstep
    rw [find_ok (by exact hstep)]
    rfl

end Value

section Access
variable {root w : Value} {p : Path}

/-- A walk that does not arrive at the value for the last segment fails, be it to read or to write. -/
theorem access_of_no_parent (h : root.behind? p.front = none) (x : Value) :
    ∃ e : AccessError, (e.position < p.length - 1 ∨ e.position = p.length - 1 ∧ e.cause = .nullIntermediate) ∧
      (get .direct root (.path p) ()).result = .error (.lookup e) ∧
      (assign .direct root (.path p) x ()).result = .error (.lookup e) := by
  have hget := get_find root p
  have hassign := congrArg Prod.fst (assign_find root x p)
  have hfind := fun mode => Value.find_append mode 0 root p.front (List.cons_ne_nil p.last [])
  simp only [p.front_append_last, Nat.zero_add, p.length_front] at hfind
  rw [hfind] at hget hassign
  cases hfront : root.find .read 0 p.front with
  | error e' =>
    rw [hfront] at hget hassign
    cases e' with
    | lookup e =>
      have hlt := Value.position_lt_of_find hfront
      rw [p.length_front, Nat.zero_add] at hlt
      exact ⟨e, .inl hlt, hget, hassign⟩
    | _ => cases Value.isLookup_of_find hfront
  | ok found =>
    obtain ⟨place, v⟩ := found
    rw [Value.behind?_of_find hfront] at h
    have hsingle : ∀ mode : Mode, v.find mode (p.length - 1) [p.last] =
        .error (.lookup ⟨.nullIntermediate, p.last, p.length - 1⟩) := by
      intro mode
      rw [Value.find_error (Value.step_null h _ _)]
      simp [Mode.failure]
    simp only [hfront, Except.bind, hsingle] at hget hassign
    exact ⟨_, .inr ⟨rfl, rfl⟩, hget, hassign⟩

theorem find_of_parent (h : root.behind? p.front = some w) (mode : Mode) :
    (root.find mode 0 p.segments).map Prod.snd =
      ((w.slot? mode p.last).bind w.filled?).elim
        (.error (mode.failure ⟨w.absent mode p.last, p.last, p.length - 1⟩)) (.ok ·.2) := by
  have hfind := Value.find_append mode 0 root p.front (List.cons_ne_nil p.last [])
  rw [p.front_append_last, Nat.zero_add, p.length_front] at hfind
  cases hfront : root.find .read 0 p.front with
  | error e =>
    simp [Value.behind?, Value.getFrom_find, hfront, Except.map] at h
  | ok found =>
    obtain ⟨place, v⟩ := found
    rw [Value.behind?_of_find hfront] at h
    rw [hfind, hfront, ← Value.find_single h mode (p.length - 1) p.last]
    simp only [Except.bind]
    cases v.find mode (p.length - 1) [p.last] <;> rfl

theorem get_of_parent (h : root.behind? p.front = some w) :
    (get .direct root (.path p) ()).result =
      ((w.slot? .read p.last).bind w.filled?).elim
        (.error (.lookup ⟨w.absent .read p.last, p.last, p.length - 1⟩)) (.ok ·.2) := by
  rw [get_find, find_of_parent h, Mode.read_failure]

theorem assign_of_parent (h : root.behind? p.front = some w) (x : Value) :
    (assign .direct root (.path p) x ()).result =
      (w.writable? p.last).elim (.error (.assign ⟨w.absent .write p.last, p.last, p.length - 1⟩)) fun old =>
        if x.type = old.type then .ok ()
        else .error (.assign ⟨.rejected x.typePath old.typePath, p.last, p.length - 1⟩) := by
  have hassign : (assign .direct root (.path p) x ()).result = _ := congrArg Prod.fst (assign_find root x p)
  rw [hassign, putFound_result, find_of_parent h, Value.writable?_eq]
  cases (w.slot? .write p.last).bind w.filled? with
  | none => simp [Mode.failure, Value.absent_ne_null, Except.bind]
  | some found => rfl

theorem get_eq_error_iff (h : root.behind? p.front = some w) (e : PathError) :
    (get .direct root (.path p) ()).result = .error e ↔
      (w.slot? .read p.last).bind w.filled? = none ∧ e = .lookup ⟨w.absent .read p.last, p.last, p.length - 1⟩ := by
  rw [get_of_parent h]
  cases (w.slot? .read p.last).bind w.filled? <;> simp [eq_comm]

theorem assign_eq_error_iff (h : root.behind? p.front = some w) (x : Value) (e : PathError) :
    (assign .direct root (.path p) x ()).result = .error e ↔
      (w.writable? p.last = none ∧ e = .assign ⟨w.absent .write p.last, p.last, p.length - 1⟩) ∨
      ∃ old, w.writable? p.last = some old ∧ x.type ≠ old.type ∧
        e = .assign ⟨.rejected x.typePath old.typePath, p.last, p.length - 1⟩ := by
  rw [assign_of_parent h]
  cases w.writable? p.last with
  | none => simp [eq_comm]
  | some old =>
    by_cases ht : x.type = old.type <;> simp [ht, eq_comm]

end Access

/-! ## Which failure it is -/

section Failures
variable {root x : Value} {p : Path}

/-- A write fails in the lookup as the read does, where the read does not get to the last slot. -/
theorem assign_eq_lookup_iff {e : AccessError} :
    (assign .direct root (.path p) x ()).result = .error (.lookup e) ↔
      (get .direct root (.path p) ()).result = .error (.lookup e) ∧
        (e.position < p.length - 1 ∨ e.position = p.length - 1 ∧ e.cause = .nullIntermediate) := by
  cases hparent : root.behind? p.front with
  | none =>
    obtain ⟨e', hearly, hread, hwritten⟩ := access_of_no_parent hparent x
    rw [hread, hwritten]
    constructor
    · rintro ⟨⟩
      exact ⟨rfl, hearly⟩
    · rintro ⟨⟨⟩, -⟩
      rfl
  | some parent =>
    -- Then the read fails at the last slot, if at all, and not because of a null.
    rw [get_eq_error_iff hparent, assign_eq_error_iff hparent]
    constructor
    · rintro (⟨-, ⟨⟩⟩ | ⟨old, -, -, ⟨⟩⟩)
    · rintro ⟨⟨-, ⟨⟩⟩, hlt | ⟨-, hcause⟩⟩
      · exact absurd hlt (Nat.lt_irrefl _)
      · exact absurd hcause (Value.absent_ne_null _ _ _)

/-- A failure in the assignment is one of the last segment, used on a value that is there. -/
theorem of_assign_eq_assign {e : AccessError} (h : (assign .direct root (.path p) x ()).result = .error (.assign e)) :
    e = ⟨e.cause, p.last, p.length - 1⟩ ∧ e.cause ≠ .nullIntermediate ∧ ∃ parent, root.behind? p.front = some parent := by
  cases hparent : root.behind? p.front with
  | none =>
    obtain ⟨e', -, -, hwritten⟩ := access_of_no_parent hparent x
    rw [hwritten] at h
    cases h
  | some parent =>
    rcases (assign_eq_error_iff hparent x (.assign e)).1 h with ⟨-, ⟨⟩⟩ | ⟨old, -, -, ⟨⟩⟩
    · exact ⟨rfl, Value.absent_ne_null _ _ _, parent, rfl⟩
    · exact ⟨rfl, nofun, parent, rfl⟩

/-- An index fails in a write as it fails in a read. -/
theorem assign_index_iff {cause : Cause} (hnull : cause ≠ .nullIntermediate)
    (hmember : ∀ name type mode, cause ≠ .memberNotFound name type mode) (hrejected : ∀ s t, cause ≠ .rejected s t) :
    (assign .direct root (.path p) x ()).result = .error (.assign ⟨cause, p.last, p.length - 1⟩) ↔
      (get .direct root (.path p) ()).result = .error (.lookup ⟨cause, p.last, p.length - 1⟩) := by
  cases hparent : root.behind? p.front with
  | none =>
    obtain ⟨e, hearly, hread, hwritten⟩ := access_of_no_parent hparent x
    rw [hread, hwritten]
    refine ⟨nofun, ?_⟩
    rintro ⟨⟩
    simp [hnull] at hearly
  | some parent =>
    rw [get_eq_error_iff hparent, assign_eq_error_iff hparent, Value.writable?_eq, Option.map_eq_none_iff]
    simp only [PathError.assign.injEq, PathError.lookup.injEq, AccessError.mk.injEq, and_true, hrejected, and_false,
      exists_false, or_false]
    cases p.last with
    | index i => exact Iff.rfl
    | member name => simp [Value.absent, Value.memberNotFound, hmember]

/-- A name is not found to be written if it stands for no slot that is declared writable. -/
theorem assign_memberNotFound_iff {name type : String} {mode : Mode} :
    (assign .direct root (.path p) x ()).result =
        .error (.assign ⟨.memberNotFound name type mode, p.last, p.length - 1⟩) ↔
      p.last = .member name ∧ mode = .write ∧
        ∃ parent, root.behind? p.front = some parent ∧ parent.writable? p.last = none ∧ parent.typePath = type := by
  cases hparent : root.behind? p.front with
  | none =>
    obtain ⟨e, -, -, hwritten⟩ := access_of_no_parent hparent x
    rw [hwritten]
    simp
  | some parent =>
    rw [assign_eq_error_iff hparent]
    constructor
    · rintro (⟨hnone, h⟩ | ⟨old, -, -, ⟨⟩⟩)
      obtain ⟨hcause, -, -⟩ := AccessError.mk.inj (PathError.assign.inj h)
      obtain ⟨hlast, hmode, htype⟩ := Value.absent_eq_memberNotFound_iff.1 hcause.symm
      exact ⟨hlast, hmode, parent, rfl, hnone, htype⟩
    · rintro ⟨hlast, hmode, parent', ⟨⟩, hnone, htype⟩
      have hcause := Value.absent_eq_memberNotFound_iff.2 ⟨hlast, hmode, htype⟩
      exact .inl ⟨hnone, by rw [hcause]⟩

end Failures

/-- When a write fails, how, and when it succeeds, beside a read along the same path. -/
theorem assign_stages (root x : Value) (p : Path) :
    let read := (get .direct root (.path p) ()).result
    let written := (assign .direct root (.path p) x ()).result
    let parent? := root.behind? p.front
    let failure (cause : Cause) : AccessError := ⟨cause, p.last, p.length - 1⟩
    (∀ e, written = .error (.lookup e) ↔ read = .error (.lookup e) ∧
      (e.position < p.length - 1 ∨ e.position = p.length - 1 ∧ e.cause = .nullIntermediate)) ∧
    (∀ e, written = .error (.assign e) →
      e = failure e.cause ∧ e.cause ≠ .nullIntermediate ∧ ∃ parent, parent? = some parent) ∧
    (∀ kind type, written = .error (.assign (failure (.notIndexable kind type))) ↔
      read = .error (.lookup (failure (.notIndexable kind type)))) ∧
    (∀ i len type, written = .error (.assign (failure (.indexOutOfRange i len type))) ↔
      read = .error (.lookup (failure (.indexOutOfRange i len type)))) ∧
    (∀ name type mode, written = .error (.assign (failure (.memberNotFound name type mode))) ↔
      p.last = .member name ∧ mode = .write ∧
        ∃ parent, parent? = some parent ∧ parent.writable? p.last = none ∧ parent.typePath = type) ∧
    (∀ parent old, parent? = some parent → parent.writable? p.last = some old →
      written = if x.type = old.type then .ok ()
        else .error (.assign (failure (.rejected x.typePath old.typePath)))) := by
  intro read written parent? failure
  refine ⟨fun e => assign_eq_lookup_iff, fun e => of_assign_eq_assign, ?_, ?_, ?_, ?_⟩
  · intro kind type
    exact assign_index_iff nofun nofun nofun
  · intro i len type
    exact assign_index_iff nofun nofun nofun
  · intro name type mode
    exact assign_memberNotFound_iff
  · intro parent old hparent hold
    have hwritten : written = _ := assign_of_parent hparent x
    rw [hwritten, hold]
    rfl

/-- A number is refused by a slot for text, while a read of the slot succeeds. -/
theorem assign_stages_text :
    let root := Sample.valueA
    let p := Sample.textOfB
    (get .direct root (.path p) ()).result = .ok (.scalar (.string "")) ∧
    (assign .direct root (.path p) (.i32 5) ()).result =
      .error (.assign ⟨.rejected "i32" "alloc::string::String", .member "text", 1⟩) := by
  intro root p
  obtain ⟨-, -, -, -, -, hslot⟩ := assign_stages root (.i32 5) p
  exact ⟨rfl, hslot _ _ rfl rfl⟩

end Reflection
