import Reflection.Proofs.Forecast
/-!
# What a log tells

The log of an access tells how far its walk came: the segments that were resolved, each with the type of what is
read along the path up to it (`Told`), and a failure, which is the last line (`Recounts`). A read tells of all its
segments (`recounts_getFrom`). A write ends on its last segment, and tells of those in front (`recounts_assignFrom`).
-/

namespace Reflection

variable {σ α : Type}

/-! ## One segment -/

/-- What a segment on the way logs, and then what is behind it. -/
def segmentLog (lookup : Lookup σ) (position : Nat) (v : Value) (s : Segment) (later : Value → σ → List Event)
    (memory : σ) : List Event :=
  let step := enter lookup .read v s memory
  step.log ++ match step.result with
    | .error cause => [.failed (.lookup ⟨cause, s, position⟩)]
    | .ok (_, x) => .resolved s position x.typePath :: later x step.memory

section SegmentLog
variable (lookup : Lookup σ) (position : Nat) (v : Value) (s : Segment) (memory : σ)

theorem log_visit (later : Value → σ → Walk σ (Except PathError Value)) :
    (visit lookup position v s later memory).log =
      segmentLog lookup position v s (fun x memory => (later x memory).log) memory := by
  cases h : (enter lookup .read v s memory).result with
  | error cause => simp only [segmentLog, visit_error h, h]
  | ok found =>
    obtain ⟨slot, x⟩ := found
    simp only [segmentLog, visit_ok h, h]

theorem log_descend (later : Value → σ → Edit σ α) :
    (descend lookup position v s later memory).log =
      segmentLog lookup position v s (fun x memory => (later x memory).log) memory := by
  cases h : (enter lookup .read v s memory).result with
  | error cause => simp only [segmentLog, descend_error h, h]
  | ok found =>
    obtain ⟨slot, x⟩ := found
    simp only [segmentLog, descend_ok h, h]

end SegmentLog

/-! ## Walks in two parts -/

/-- A walk along two paths logs what the walk along the first does, and then what it does from there on. -/
theorem log_append (lookup : Lookup σ) (position : Nat) (v : Value) (a b : List Segment) (memory : σ) :
    (getFrom lookup position v ↑(a ++ b) memory).log =
      let front := getFrom lookup position v a memory
      front.log ++ match front.result with
        | .ok w => (getFrom lookup (position + a.length) w b front.memory).log
        | .error _ => [] := by
  induction a generalizing position v memory with
  | nil =>
    rw [getFrom_nil]
    rfl
  | cons s a ih =>
    rw [List.cons_append, getFrom_cons, getFrom_cons]
    cases h : (enter lookup .read v s memory).result with
    | error cause =>
      rw [visit_error h, visit_error h]
      simp
    | ok found =>
      obtain ⟨slot, x⟩ := found
      rw [visit_ok h, visit_ok h]
      simp only [ih, List.length_cons, List.append_assoc, List.cons_append, Nat.add_right_comm, Nat.add_assoc]

/-- A walk that changes things goes as a read does, and ends with the change. -/
theorem editFrom_front (lookup : Lookup σ) (act : Value → σ → Edit σ α) (position : Nat) (v : Value)
    (path : List Segment) (memory : σ) :
    let front := getFrom lookup position v path memory
    let done := editFrom lookup act position v path memory
    (∀ w, front.result = .ok w →
      done.result = (act w front.memory).result ∧ done.log = front.log ++ (act w front.memory).log) ∧
    ∀ e, front.result = .error e → done.result = .error e ∧ done.log = front.log := by
  induction path generalizing position v memory with
  | nil =>
    rw [getFrom_nil, editFrom_end rfl]
    refine ⟨fun w hw => ?_, nofun⟩
    cases hw
    exact ⟨rfl, rfl⟩
  | cons s rest ih =>
    rw [getFrom_cons, editFrom_cons]
    cases h : (enter lookup .read v s memory).result with
    | error cause =>
      rw [visit_error h, descend_error h]
      refine ⟨nofun, fun e he => ?_⟩
      cases he
      exact ⟨rfl, rfl⟩
    | ok found =>
      obtain ⟨slot, x⟩ := found
      rw [visit_ok h, descend_ok h]
      obtain ⟨hok, herror⟩ := ih (position + 1) x (enter lookup .read v s memory).memory
      refine ⟨fun w hw => ?_, fun e he => ?_⟩
      · obtain ⟨hresult, hlog⟩ := hok w hw
        exact ⟨hresult, by simp only [hlog, List.append_assoc, List.cons_append]⟩
      · obtain ⟨hresult, hlog⟩ := herror e he
        exact ⟨hresult, by simp only [hlog]⟩

/-- The line by which a failure ends the log. -/
def ending {β : Type} : Except PathError β → List Event
  | .ok _ => []
  | .error e => [.failed e]

/-- The position of the segment that an error is about. -/
def PathError.position? : PathError → Option Nat
  | .lookup e | .assign e => some e.position
  | _ => none

/-- The last segment of a write logs how the write ends. A failure is about that segment. -/
theorem write_ending (lookup : Lookup σ) (s : Segment) (position : Nat) (x v : Value) (memory : σ) :
    let done := write lookup s position x v memory
    done.log = (enter lookup .write v s memory).log ++ ending done.result ∧
    ∀ e, done.result = .error e → e.position? = some position := by
  have hfail (e : PathError) (he : e.position? = some position) :
      let step := enter lookup .write v s memory
      let done : Edit σ Unit := ⟨.error e, v, step.memory, step.log ++ [.failed e]⟩
      done.log = step.log ++ ending done.result ∧ ∀ e, done.result = .error e → e.position? = some position := by
    refine ⟨rfl, fun e' he' => ?_⟩
    cases he'
    exact he
  rw [write_eq]
  cases h : (enter lookup .write v s memory).result with
  | error cause =>
    simp only [h]
    cases cause with
    | nullIntermediate => exact hfail _ rfl
    | _ => exact hfail _ rfl
  | ok found =>
    obtain ⟨slot, old⟩ := found
    cases hassign : old.assign x with
    | ok new =>
      simp only [h, hassign]
      exact ⟨(List.append_nil _).symm, nofun⟩
    | error refused =>
      simp only [h, hassign]
      exact hfail _ rfl

/-! ## Segments that are told of -/

def Event.isCached : Event → Bool
  | .cached .. => true
  | _ => false

/-- The log of the first `k` segments of a path: each with its number, and with the type of what is read along
the path up to it. -/
structure Told (root : Value) (p : List Segment) (k : Nat) (log : List Event) : Prop where
  length_eq : log.length = k
  event_eq : ∀ i < k, ∃ (s : Segment) (x : Value) (front : Path), p[i]? = some s ∧ front.segments = p.take (i + 1) ∧
    (get .direct root (.path front) ()).result = .ok x ∧ log[i]? = some (.resolved s i x.typePath)

section Direct
variable {root : Value} {p : List Segment} {k : Nat} {log : List Event}

theorem Told.zero (root : Value) (p : List Segment) : Told root p 0 [] := ⟨rfl, nofun⟩

theorem Told.append (h : Told root p k log) (q : List Segment) : Told root (p ++ q) k log := by
  refine ⟨h.length_eq, fun i hi => ?_⟩
  obtain ⟨s, x, front, hs, hfront, hget, hlog⟩ := h.event_eq i hi
  have hlt : i < p.length := (List.getElem?_eq_some_iff.1 hs).1
  refine ⟨s, x, front, ?_, ?_, hget, hlog⟩
  · rw [List.getElem?_append_left hlt, hs]
  · rw [hfront, List.take_append_of_le_length hlt]

theorem Told.isCached (h : Told root p k log) : ∀ e ∈ log, e.isCached = false := by
  intro e he
  obtain ⟨i, hi⟩ := List.mem_iff_getElem?.1 he
  have hlt : i < k := h.length_eq ▸ (List.getElem?_eq_some_iff.1 hi).1
  obtain ⟨s, x, front, -, -, -, hlog⟩ := h.event_eq i hlt
  obtain rfl : Event.resolved s i x.typePath = e := Option.some.inj (hlog.symm.trans hi)
  rfl

/-- One more segment that was resolved. -/
theorem Told.concat (h : Told root p p.length log) {s : Segment} {x : Value}
    (hread : (getFrom .direct 0 root ↑(p ++ [s]) ()).result = .ok x) :
    Told root (p ++ [s]) (p ++ [s]).length (log ++ [.resolved s p.length x.typePath]) := by
  refine ⟨by simp [h.length_eq], fun i hi => ?_⟩
  rcases Nat.lt_or_ge i p.length with hlt | hge
  · obtain ⟨t, y, front, ht, hfront, hget, hlog⟩ := (h.append [s]).event_eq i hlt
    exact ⟨t, y, front, ht, hfront, hget, by rw [List.getElem?_append_left (h.length_eq ▸ hlt), hlog]⟩
  · rw [List.length_append, List.length_singleton] at hi
    obtain rfl : i = p.length := by omega
    have htake : (p ++ [s]).take (p.length + 1) = p ++ [s] := List.take_of_length_le (by simp)
    refine ⟨s, x, ⟨p ++ [s], by simp⟩, by simp, htake.symm, hread, ?_⟩
    rw [← h.length_eq, List.getElem?_concat_length]

/-- A log that tells of a whole access along a path: of its first `n` segments if it succeeds, and else of those
in front of the one that it fails at, and then of the failure. -/
structure Recounts {β : Type} (root : Value) (p : List Segment) (n : Nat) (result : Except PathError β)
    (log : List Event) : Prop where
  ok : ∀ a, result = .ok a → Told root p n log
  error : ∀ e, result = .error e → ∃ k told, e.position? = some k ∧ k < p.length ∧ Told root p k told ∧
    log = told ++ [.failed e]

namespace Recounts
variable {β γ : Type} {n : Nat} {e : PathError} {told : List Event}

theorem of_ok {a : β} (h : Told root p n log) : Recounts root p n (.ok a : Except PathError β) log :=
  ⟨fun _ _ => h, nofun⟩

theorem of_error (h : Told root p k told) (hlt : k < p.length) (he : e.position? = some k) :
    Recounts root p n (.error e : Except PathError β) (told ++ [.failed e]) := by
  refine ⟨nofun, fun e' he' => ?_⟩
  cases he'
  exact ⟨k, told, he, hlt, h, rfl⟩

/-- A failure is told the same if segments are added that the walk does not come to. -/
theorem append_of_error (h : Recounts root p n (.error e : Except PathError β) log) (q : List Segment) (m : Nat) :
    Recounts root (p ++ q) m (.error e : Except PathError γ) log := by
  obtain ⟨k, told, he, hlt, htold, rfl⟩ := h.error e rfl
  refine of_error (htold.append q) ?_ he
  rw [List.length_append]
  omega

end Recounts

/-! ## Accesses without a cache -/

theorem log_enter_direct (mode : Mode) (v : Value) (s : Segment) : (enter .direct mode v s ()).log = [] := by
  unfold enter
  cases v.chainEnd? with
  | none => rfl
  | some w =>
    cases s with
    | index i => rfl
    | member name =>
      simp only [locate, findMember]
      cases w.info <;> rfl

/-- What the last segment of a read logs. -/
theorem log_concat {v : Value} (h : (getFrom .direct 0 root p ()).result = .ok v) (s : Segment) :
    (getFrom .direct 0 root ↑(p ++ [s]) ()).log =
      (getFrom .direct 0 root p ()).log ++ match v.step .read s with
        | .ok (_, x) => [.resolved s p.length x.typePath]
        | .error cause => [.failed (.lookup ⟨cause, s, p.length⟩)] := by
  rw [log_append]
  simp only [h, getFrom_cons, Nat.zero_add]
  cases hstep : v.step .read s with
  | error cause => simp only [visit_error hstep, log_enter_direct, List.nil_append]
  | ok found =>
    obtain ⟨slot, x⟩ := found
    simp only [visit_ok hstep, log_enter_direct, List.nil_append, getFrom_nil]

/-- A read tells of all its segments. -/
theorem recounts_getFrom (root : Value) (p : List Segment) :
    let walk := getFrom .direct 0 root p ()
    Recounts root p p.length walk.result walk.log := by
  -- From the last segment on: `Told` speaks of reads of the paths in front of it, from the root on.
  induction p using List.reverseRecOn with
  | nil =>
    rw [getFrom_nil]
    exact .of_ok (.zero root [])
  | append_singleton p s ih =>
    cases hfront : (getFrom .direct 0 root p ()).result with
    | error e =>
      have hlog : (getFrom .direct 0 root ↑(p ++ [s]) ()).log = (getFrom .direct 0 root p ()).log := by
        simp only [log_append, hfront, List.append_nil]
      simp only [hfront] at ih
      simp only [Value.getFrom_concat_error hfront, hlog]
      exact ih.append_of_error [s] _
    | ok v =>
      have htold := ih.ok v hfront
      have hresult := Value.getFrom_concat (s := s) hfront
      have hlog := log_concat hfront s
      cases hstep : v.step .read s with
      | error cause =>
        simp only [hstep] at hresult hlog
        simp only [hresult, hlog]
        exact .of_error (htold.append [s]) (by simp) rfl
      | ok found =>
        obtain ⟨slot, x⟩ := found
        simp only [hstep] at hresult hlog
        simp only [hlog]
        exact ⟨fun _ _ => htold.concat hresult, fun e he => nomatch hresult.symm.trans he⟩

/-- A write tells of all segments but the last. -/
theorem recounts_assignFrom (root x : Value) (front : List Segment) (last : Segment) :
    let done := assignFrom .direct x 0 root ↑(front ++ [last]) ()
    Recounts root (front ++ [last]) front.length done.result done.log := by
  have hread := recounts_getFrom root front
  obtain ⟨hok, herror⟩ := editFrom_front .direct (write .direct last (0 + front.length) x) 0 root front ()
  rw [assignFrom_concat]
  cases hfront : (getFrom .direct 0 root front ()).result with
  | error e =>
    obtain ⟨hresult, hlog⟩ := herror e hfront
    simp only [hfront] at hread
    simp only [hresult, hlog]
    exact hread.append_of_error [last] _
  | ok v =>
    obtain ⟨hresult, hlog⟩ := hok v hfront
    obtain ⟨hending, hposition⟩ := write_ending .direct last (0 + front.length) x v ()
    have htold := (hread.ok v hfront).append [last]
    rw [log_enter_direct, List.nil_append] at hending
    simp only [hresult, hlog, hending]
    cases hwrite : (write .direct last (0 + front.length) x v ()).result with
    | ok a =>
      rw [ending, List.append_nil]
      exact .of_ok htold
    | error e => exact .of_error htold (by simp) ((hposition e hwrite).trans (by rw [Nat.zero_add]))

theorem recounts_assign {route : Route} (hroute : route.segments = .ok p) (hne : p ≠ []) (x : Value) :
    let done := assign .direct root route x ()
    Recounts root p (p.length - 1) done.result done.log := by
  have h := recounts_assignFrom root x p.dropLast (p.getLast hne)
  rw [List.dropLast_concat_getLast, List.length_dropLast] at h
  simp only [assign_eq, hroute]
  exact h

end Direct

end Reflection
