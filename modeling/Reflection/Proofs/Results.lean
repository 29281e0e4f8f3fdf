/-!
# Results that may fail

`Ends` describes a run that makes checks one after the other: the first check that is violated ends it. Checks
that look at what has been checked before (`inTurn`) are passed if each element is valid by itself and goes with
every one before it (`passed_inTurn`).
-/

namespace Reflection

variable {ε α β : Type}

theorem map_eq_ok {r : Except ε α} {f : α → β} {b : β} (h : r.map f = .ok b) :
    ∃ a, r = .ok a ∧ f a = b := by
  cases r with
  | error e => cases h
  | ok a => cases h; exact ⟨a, rfl, rfl⟩

theorem map_eq_error {r : Except ε α} {f : α → β} {e : ε} (h : r.map f = .error e) : r = .error e := by
  cases r with
  | error e' => cases h; rfl
  | ok a => cases h

theorem bind_eq_ok {r : Except ε α} {f : α → Except ε β} {b : β} (h : r.bind f = .ok b) :
    ∃ a, r = .ok a ∧ f a = .ok b := by
  cases r with
  | error e => cases h
  | ok a => exact ⟨a, rfl, h⟩

theorem foldlM_invariant {P : α → Prop} {f : α → β → Except ε α} (hf : ∀ a b a', P a → f a b = .ok a' → P a')
    {a a' : α} {bs : List β} (ha : P a) (h : bs.foldlM f a = .ok a') : P a' := by
  induction bs generalizing a with
  | nil =>
    cases h
    exact ha
  | cons b bs ih =>
    rw [List.foldlM_cons] at h
    obtain ⟨a₁, ha₁, hrest⟩ := bind_eq_ok h
    exact ih (hf a b a₁ ha ha₁) hrest

/-! ## Checks -/

def violated (p : Prop) [Decidable p] (e : ε) : Option ε := if p then some e else none

@[simp] theorem violated_eq_none {p : Prop} [Decidable p] {e : ε} : violated p e = none ↔ ¬ p := by
  simp [violated]

/-- The checks of the elements of a list, where those of an element may look at the elements before it. -/
def inTurn (checks : List α → α → List (Option ε)) (earlier : List α) : List α → List (Option ε)
  | [] => []
  | a :: rest => checks earlier a ++ inTurn checks (earlier ++ [a]) rest

/-- No check is violated. -/
def Passed (checks : List (Option ε)) : Prop := ∀ c ∈ checks, c = none

@[simp] theorem passed_nil : Passed ([] : List (Option ε)) := nofun

@[simp] theorem passed_cons {c : Option ε} {cs : List (Option ε)} : Passed (c :: cs) ↔ c = none ∧ Passed cs :=
  List.forall_mem_cons

@[simp] theorem passed_append {cs ds : List (Option ε)} : Passed (cs ++ ds) ↔ Passed cs ∧ Passed ds :=
  List.forall_mem_append

/-- Checks in turn are passed if each element is valid and goes with every one before it. -/
theorem passed_inTurn {checks : List α → α → List (Option ε)} {Valid : α → Prop} {Goes : α → α → Prop}
    {as : List α} (h : ∀ a ∈ as, ∀ earlier, Passed (checks earlier a) ↔ Valid a ∧ ∀ b ∈ earlier, Goes b a)
    (earlier : List α) :
    Passed (inTurn checks earlier as) ↔
      (∀ a ∈ as, Valid a) ∧ as.Pairwise Goes ∧ ∀ b ∈ earlier, ∀ a ∈ as, Goes b a := by
  induction as generalizing earlier with
  | nil => simp [inTurn]
  | cons a as ih =>
    obtain ⟨ha, has⟩ := List.forall_mem_cons.1 h
    rw [inTurn, passed_append, ha, ih has, List.forall_mem_cons, List.pairwise_cons]
    simp only [List.forall_mem_append, List.forall_mem_singleton, List.forall_mem_cons]
    constructor
    · rintro ⟨⟨hvalid, hearlier⟩, hall, hpairs, hafter, hnext⟩
      exact ⟨⟨hvalid, hall⟩, ⟨hnext, hpairs⟩, fun b hb => ⟨hearlier b hb, hafter b hb⟩⟩
    · rintro ⟨⟨hvalid, hall⟩, ⟨hnext, hpairs⟩, hearlier⟩
      exact ⟨⟨hvalid, fun b hb => (hearlier b hb).1⟩, hall, hpairs, fun b hb => (hearlier b hb).2, hnext⟩

/-! ## Runs -/

/-- The first check that is violated ends a run with its error. If all are passed, the run has a result, and
`P` holds of it. -/
def Ends (x : Except ε α) (checks : List (Option ε)) (P : α → Prop) : Prop :=
  match checks.findSome? id with
  | some e => x = .error e
  | none => ∃ a, x = .ok a ∧ P a

section Ends
variable {x : Except ε α} {cs ds : List (Option ε)} {P : α → Prop} {Q : β → Prop}

theorem ends_ok {a : α} (h : P a) : Ends (.ok a : Except ε α) [] P := ⟨a, rfl, h⟩

theorem ends_error {e : ε} : Ends (.error e : Except ε α) [some e] P := rfl

theorem Ends.bind {f : α → Except ε β} (hx : Ends x cs P) (hf : ∀ a, P a → Ends (f a) ds Q) :
    Ends (x >>= f) (cs ++ ds) Q := by
  unfold Ends at hx ⊢
  rw [List.findSome?_append]
  cases hcs : cs.findSome? id with
  | some e =>
    rw [hcs] at hx
    rw [hx]
    rfl
  | none =>
    rw [hcs] at hx
    obtain ⟨a, rfl, ha⟩ := hx
    exact hf a ha

theorem Ends.bind_pure {f : α → β} (hx : Ends x cs P) (hf : ∀ a, P a → Q (f a)) :
    Ends (x >>= fun a => pure (f a)) cs Q := by
  have h : Ends (x >>= fun a => pure (f a)) (cs ++ []) Q := hx.bind fun a ha => ends_ok (hf a ha)
  rwa [List.append_nil] at h

theorem Ends.map {f : α → β} (hx : Ends x cs P) (hf : ∀ a, P a → Q (f a)) : Ends (x.map f) cs Q := by
  have hmap : x.map f = x >>= fun a => pure (f a) := by cases x <;> rfl
  rw [hmap]
  exact hx.bind_pure hf

/-- A check in front of a run. -/
theorem ends_guard {p : Prop} [Decidable p] {e : ε} (hx : ¬ p → Ends x cs P) :
    Ends (if p then .error e else x) (violated p e :: cs) P := by
  by_cases hp : p
  · simp only [if_pos hp, violated]
    rfl
  · simp only [if_neg hp, violated]
    exact hx hp

/-- A run along a list, where `R` relates what has been taken to what has come of it. -/
theorem Ends.foldlM {f : α → β → Except ε α} {checks : List β → β → List (Option ε)} {R : List β → α → Prop}
    (hstep : ∀ earlier a b, R earlier a → Ends (f a b) (checks earlier b) (R (earlier ++ [b])))
    {earlier : List β} {a : α} (h : R earlier a) (bs : List β) :
    Ends (bs.foldlM f a) (inTurn checks earlier bs) (R (earlier ++ bs)) := by
  induction bs generalizing earlier a with
  | nil => exact ends_ok (by simpa using h)
  | cons b bs ih =>
    rw [List.foldlM_cons, inTurn, List.append_cons earlier b bs]
    exact (hstep earlier a b h).bind fun a' ha' => ih ha'

theorem Ends.eq_error_iff (h : Ends x cs P) (e : ε) : x = .error e ↔ cs.findSome? id = some e := by
  unfold Ends at h
  cases hcs : cs.findSome? id with
  | some e' => simp_all
  | none =>
    rw [hcs] at h
    obtain ⟨a, rfl, -⟩ := h
    simp

theorem Ends.eq_ok_iff (h : Ends x cs P) : (∃ a, x = .ok a) ↔ Passed cs := by
  have hnone : cs.findSome? id = none ↔ Passed cs := List.findSome?_eq_none_iff
  rw [← hnone]
  unfold Ends at h
  cases hcs : cs.findSome? id with
  | some e => simp_all
  | none =>
    rw [hcs] at h
    obtain ⟨a, rfl, -⟩ := h
    simp

/-- What holds of each result that has passed the checks. -/
theorem Ends.of_eq_ok (h : Ends x cs P) {a : α} (ha : x = .ok a) : P a := by
  unfold Ends at h
  split at h
  · rw [h] at ha
    cases ha
  · obtain ⟨a', hx, hP⟩ := h
    cases hx.symm.trans ha
    exact hP

end Ends

end Reflection
