import Mathlib.Data.List.Nodup
import Mathlib.Data.List.Perm.Basic
import Mathlib.Data.List.Perm.Subperm
import Reflection.Proofs.Numbers
import Reflection.Value.Dump
/-!
# Coinciding dumps

Two dumps coincide if they differ in the order of members and in the representation of floating-point
numbers alone (`Dump.Coincides`). What the types are is not part of a dump, so a growable array and a
double-ended queue may coincide. Coinciding is symmetric and transitive, and a NaN coincides with nothing.
-/

namespace Reflection

/-! ## Scalars -/

namespace Scalar

/-- What the bits of a floating-point scalar stand for. -/
def number? : Scalar → Option BinaryNumber
  | .f32 bits => some (BinaryFormat.single.decode bits.toNat)
  | .f64 bits => some (BinaryFormat.double.decode bits.toNat)
  | _ => none

def IsNaN (s : Scalar) : Prop := s.number? = some .nan

/-- Whether two scalars are the same, floating-point scalars by the number they stand for. -/
inductive Coincides : Scalar → Scalar → Prop
  | same {s : Scalar} (h : s.number? = none) : Coincides s s
  | number {s s' : Scalar} {n n' : BinaryNumber} {r : ℚ ⊕ Bool} (htype : s.type = s'.type) (hs : s.number? = some n)
    (hs' : s'.number? = some n') (hn : n.value? = some r) (hn' : n'.value? = some r) : Coincides s s'

theorem equal_of_number?_eq_none {s : Scalar} (h : s.number? = none) (s' : Scalar) : s.equal s' = decide (s = s') := by
  cases s <;> cases s' <;> first | rfl | cases h

theorem equal_of_number?_eq_some {s s' : Scalar} {n n' : BinaryNumber} (htype : s.type = s'.type)
    (hs : s.number? = some n) (hs' : s'.number? = some n') :
    s.equal s' = true ↔ ∃ r, n.value? = some r ∧ n'.value? = some r := by
  cases s <;> cases hs <;> cases s' <;> cases hs' <;> cases htype
  · exact BinaryFormat.equal_decode_iff .single _ _
  · exact BinaryFormat.equal_decode_iff .double _ _

theorem number?_isSome {s s' : Scalar} (h : s.type = s'.type) : s.number?.isSome = s'.number?.isSome := by
  cases s <;> cases s' <;> first | rfl | cases h

theorem coincides_iff (s s' : Scalar) : s.Coincides s' ↔ s.type = s'.type ∧ s.equal s' = true := by
  constructor
  · rintro (h | ⟨htype, hs, hs', hn, hn'⟩)
    · exact ⟨rfl, by rw [equal_of_number?_eq_none h, decide_eq_true rfl]⟩
    · exact ⟨htype, (equal_of_number?_eq_some htype hs hs').2 ⟨_, hn, hn'⟩⟩
  · rintro ⟨htype, h⟩
    have hsome := number?_isSome htype
    cases hs : s.number? with
    | none =>
      rw [equal_of_number?_eq_none hs, decide_eq_true_eq] at h
      exact h ▸ .same hs
    | some n =>
      rw [hs] at hsome
      obtain ⟨n', hs'⟩ := Option.isSome_iff_exists.1 hsome.symm
      obtain ⟨r, hn, hn'⟩ := (equal_of_number?_eq_some htype hs hs').1 h
      exact .number htype hs hs' hn hn'

theorem Coincides.symm {s s' : Scalar} (h : s.Coincides s') : s'.Coincides s := by
  cases h with
  | same h => exact .same h
  | number htype hs hs' hn hn' => exact .number htype.symm hs' hs hn' hn

theorem Coincides.trans {s s' s'' : Scalar} (h : s.Coincides s') (h' : s'.Coincides s'') : s.Coincides s'' := by
  cases h with
  | same h => exact h'
  | number htype hs hs' hn hn' =>
    cases h' with
    | same h' => exact .number htype hs hs' hn hn'
    | number htype' ht ht' hm hm' =>
      cases hs'.symm.trans ht
      cases hn'.symm.trans hm
      exact .number (htype.trans htype') hs ht' hn hm'

theorem coincides_self_iff (s : Scalar) : s.Coincides s ↔ ¬ s.IsNaN := by
  constructor
  · rintro (h | ⟨-, hs, -, hn, -⟩) hnan
    · cases h.symm.trans hnan
    · cases hs.symm.trans hnan
      cases hn
  · intro h
    cases hs : s.number? with
    | none => exact .same hs
    | some n =>
      cases hn : n.value? with
      | none =>
        cases n with
        | nan => exact absurd hs h
        | _ => cases hn
      | some r => exact .number rfl hs hs hn hn

end Scalar

/-! ## Lists up to order -/

section Matched
variable {α β γ : Type} {R : α → β → Prop} {S : β → γ → Prop}

theorem forall₂_iff_getElem? {l : List α} {l' : List β} :
    List.Forall₂ R l l' ↔
      l.length = l'.length ∧ ∀ (i : Nat) (a : α) (b : β), l[i]? = some a → l'[i]? = some b → R a b := by
  rw [List.forall₂_iff_get]
  refine and_congr_right fun _ => ⟨fun h i a b ha hb => ?_, fun h i hi hi' => ?_⟩
  · obtain ⟨hi, rfl⟩ := List.getElem?_eq_some_iff.1 ha
    obtain ⟨hi', rfl⟩ := List.getElem?_eq_some_iff.1 hb
    exact h i hi hi'
  · exact h i _ _ (List.getElem?_eq_getElem hi) (List.getElem?_eq_getElem hi')

/-- The entries of two lists agree pair by pair once the second is put into order. -/
def Matched (R : α → β → Prop) (l : List α) (l' : List β) : Prop := ∃ l'', l'.Perm l'' ∧ List.Forall₂ R l l''

theorem Matched.symm {l : List α} {l' : List β} (h : Matched R l l') : Matched (flip R) l' l := by
  obtain ⟨l'', hperm, hl⟩ := h
  obtain ⟨l₁, hl₁, hperm₁⟩ := List.perm_comp_forall₂ hperm (r := flip R) (List.Forall₂.flip (R := flip R) hl)
  exact ⟨l₁, hperm₁.symm, hl₁⟩

theorem Matched.length_eq {l : List α} {l' : List β} (h : Matched R l l') : l.length = l'.length := by
  obtain ⟨l'', hperm, hl⟩ := h
  rw [hl.length_eq, hperm.length_eq]

theorem Matched.exists_of_mem {l : List α} {l' : List β} (h : Matched R l l') {b : β} (hb : b ∈ l') : ∃ a ∈ l, R a b := by
  obtain ⟨l'', hperm, hl⟩ := h
  obtain ⟨i, hi⟩ := List.mem_iff_getElem?.1 (hperm.mem_iff.1 hb)
  obtain ⟨hlen, hl⟩ := forall₂_iff_getElem?.1 hl
  have hlt : i < l.length := hlen ▸ (List.getElem?_eq_some_iff.1 hi).1
  exact ⟨l[i], List.getElem_mem hlt, hl i _ _ (List.getElem?_eq_getElem hlt) hi⟩

theorem forall₂_comp {l : List α} {l' : List β} {l'' : List γ} (h : List.Forall₂ R l l') (h' : List.Forall₂ S l' l'') :
    List.Forall₂ (Relation.Comp R S) l l'' := by
  induction h generalizing l'' with
  | nil => exact List.forall₂_nil_left_iff.2 (List.forall₂_nil_left_iff.1 h')
  | cons hR _ ih =>
    cases h' with
    | cons hS h' => exact .cons ⟨_, hR, hS⟩ (ih h')

theorem Matched.comp {l : List α} {l' : List β} {l'' : List γ} (h : Matched R l l') (h' : Matched S l' l'') :
    Matched (Relation.Comp R S) l l'' := by
  obtain ⟨l₁, hperm, hl⟩ := h
  obtain ⟨l₂, hperm', hl'⟩ := h'
  obtain ⟨l₃, hl₁, hperm₃⟩ := List.perm_comp_forall₂ hperm.symm hl'
  exact ⟨l₃, hperm'.trans hperm₃.symm, forall₂_comp hl hl₁⟩

theorem Matched.imp {R' : α → β → Prop} {l : List α} {l' : List β} (himp : ∀ a b, R a b → R' a b) (h : Matched R l l') :
    Matched R' l l' := by
  obtain ⟨l'', hperm, hl⟩ := h
  exact ⟨l'', hperm, hl.imp himp⟩

theorem matched_map_iff {α' β' : Type} {R : α' → β' → Prop} {f : α → α'} {g : β → β'} {l : List α} {l' : List β} :
    Matched R (l.map f) (l'.map g) ↔ Matched (fun a b => R (f a) (g b)) l l' := by
  constructor
  · intro h
    have hself : Matched (fun b b' => b = g b') (l'.map g) l' :=
      ⟨l', .rfl, List.forall₂_map_left_iff.2 (List.forall₂_same.2 fun _ _ => rfl)⟩
    obtain ⟨l'', hperm, hl⟩ := h.comp hself
    exact ⟨l'', hperm, (List.forall₂_map_left_iff.1 hl).imp fun a b ⟨_, hR, hb⟩ => hb ▸ hR⟩
  · rintro ⟨l'', hperm, h⟩
    exact ⟨l''.map g, hperm.map g, List.forall₂_map_left_iff.2 (List.forall₂_map_right_iff.2 h)⟩

/-- Among entries under distinct names only those of one name can agree, so it is enough to find a partner for
each entry of the second list. -/
theorem matched_entries_iff {R : α → β → Prop} {es : List (String × α)} {es' : List (String × β)}
    (hnodup : (es.map Prod.fst).Nodup) (hnodup' : (es'.map Prod.fst).Nodup) (hlen : es.length = es'.length) :
    Matched (fun p q => p.1 = q.1 ∧ R p.2 q.2) es es' ↔ ∀ q ∈ es', ∃ p ∈ es, p.1 = q.1 ∧ R p.2 q.2 := by
  constructor
  · exact fun h q hq => h.exists_of_mem hq
  intro h
  -- The names of both lists are the same, since there are equally many and none is missing.
  have hnames : (es.map Prod.fst).Perm (es'.map Prod.fst) := by
    have hsub : es'.map Prod.fst ⊆ es.map Prod.fst := by
      intro name hname
      obtain ⟨q, hq, rfl⟩ := List.mem_map.1 hname
      obtain ⟨p, hp, heq, -⟩ := h q hq
      exact heq ▸ List.mem_map_of_mem hp
    exact ((hnodup'.subperm hsub).perm_of_length_le (by simp [hlen])).symm
  have hself : List.Forall₂ (fun name (q : String × β) => name = q.1) (es'.map Prod.fst) es' :=
    List.forall₂_map_left_iff.2 (List.forall₂_same.2 fun _ _ => rfl)
  obtain ⟨es'', hes'', hperm⟩ := List.perm_comp_forall₂ hnames hself
  refine ⟨es'', hperm.symm, forall₂_iff_getElem?.2 ⟨?_, fun i p q hp hq => ?_⟩⟩
  · rw [← hes''.length_eq, List.length_map]
  · obtain ⟨-, hname⟩ := forall₂_iff_getElem?.1 hes''
    have hname : p.1 = q.1 := hname i _ _ (by rw [List.getElem?_map, hp, Option.map_some]) hq
    obtain ⟨p', hp', hname', hR⟩ := h q (hperm.mem_iff.1 (List.mem_of_getElem? hq))
    have hsame : p = p' :=
      List.inj_on_of_nodup_map hnodup (List.mem_of_getElem? hp) hp' (hname.trans hname'.symm)
    exact ⟨hname, hsame ▸ hR⟩

end Matched

/-! ## Dumps -/

namespace Dump

/-- Whether two dumps are the same up to the order of members and the representation of numbers. -/
inductive Coincides : Dump → Dump → Prop
  | atom {s s' : Scalar} (h : s.Coincides s') : Coincides (.atom (.scalar s)) (.atom (.scalar s'))
  | list {ds ds' : List Dump} (hlen : ds.length = ds'.length)
    (h : ∀ (i : Nat) (d d' : Dump), ds[i]? = some d → ds'[i]? = some d' → Coincides d d') :
    Coincides (.list ds) (.list ds')
  | array {ds ds' : List Dump} (hlen : ds.length = ds'.length)
    (h : ∀ (i : Nat) (d d' : Dump), ds[i]? = some d → ds'[i]? = some d' → Coincides d d') :
    Coincides (.array ds) (.array ds')
  | null : Coincides (.pointer none) (.pointer none)
  | pointer {d d' : Dump} (h : Coincides d d') : Coincides (.pointer (some d)) (.pointer (some d'))
  | struct {ms ms' ms'' : List (String × Dump)} (hperm : ms'.Perm ms'') (hnames : ms.map Prod.fst = ms''.map Prod.fst)
    (h : ∀ (i : Nat) (p q : String × Dump), ms[i]? = some p → ms''[i]? = some q → Coincides p.2 q.2) :
    Coincides (.struct ms) (.struct ms')

def kind : Dump → Kind
  | .struct _ => .struct
  | .list _ => .list
  | .array _ => .array
  | .pointer _ => .pointer
  | .atom _ => .atom

theorem Coincides.kind_eq {d d' : Dump} (h : d.Coincides d') : d.kind = d'.kind := by
  cases h <;> rfl

theorem coincides_atom_iff {s s' : Scalar} : (atom (.scalar s)).Coincides (atom (.scalar s')) ↔ s.Coincides s' := by
  constructor
  · rintro ⟨h⟩
    exact h
  · exact .atom

theorem coincides_pointer_iff {d d' : Dump} :
    (pointer (some d)).Coincides (pointer (some d')) ↔ d.Coincides d' := by
  constructor
  · rintro ⟨⟩
    assumption
  · exact .pointer

theorem coincides_list_iff {ds ds' : List Dump} :
    (list ds).Coincides (list ds') ↔ List.Forall₂ Coincides ds ds' := by
  rw [forall₂_iff_getElem?]
  constructor
  · rintro ⟨⟩
    exact ⟨‹_›, ‹_›⟩
  · exact fun ⟨hlen, h⟩ => .list hlen h

theorem coincides_array_iff {ds ds' : List Dump} :
    (array ds).Coincides (array ds') ↔ List.Forall₂ Coincides ds ds' := by
  rw [forall₂_iff_getElem?]
  constructor
  · rintro ⟨⟩
    exact ⟨‹_›, ‹_›⟩
  · exact fun ⟨hlen, h⟩ => .array hlen h

theorem forall₂_entries_iff {R : Dump → Dump → Prop} {ms ms' : List (String × Dump)} :
    List.Forall₂ (fun p q => p.1 = q.1 ∧ R p.2 q.2) ms ms' ↔
      ms.map Prod.fst = ms'.map Prod.fst ∧
        ∀ (i : Nat) (p q : String × Dump), ms[i]? = some p → ms'[i]? = some q → R p.2 q.2 := by
  rw [forall₂_iff_getElem?, ← List.forall₂_eq_eq_eq, List.forall₂_map_left_iff, List.forall₂_map_right_iff,
    forall₂_iff_getElem?]
  constructor
  · exact fun ⟨hlen, h⟩ => ⟨⟨hlen, fun i p q hp hq => (h i p q hp hq).1⟩, fun i p q hp hq => (h i p q hp hq).2⟩
  · exact fun ⟨⟨hlen, hnames⟩, h⟩ => ⟨hlen, fun i p q hp hq => ⟨hnames i p q hp hq, h i p q hp hq⟩⟩

theorem coincides_struct_iff {ms ms' : List (String × Dump)} :
    (struct ms).Coincides (struct ms') ↔ Matched (fun p q => p.1 = q.1 ∧ p.2.Coincides q.2) ms ms' := by
  constructor
  · rintro ⟨⟩
    exact ⟨_, ‹_›, forall₂_entries_iff.2 ⟨‹_›, ‹_›⟩⟩
  · rintro ⟨ms'', hperm, h⟩
    obtain ⟨hnames, h⟩ := forall₂_entries_iff.1 h
    exact .struct hperm hnames h

theorem Coincides.symm {d d' : Dump} (h : d.Coincides d') : d'.Coincides d := by
  induction h with
  | atom h => exact .atom h.symm
  | list hlen h ih => exact .list hlen.symm fun i c c' hc hc' => ih i c' c hc' hc
  | array hlen h ih => exact .array hlen.symm fun i c c' hc hc' => ih i c' c hc' hc
  | null => exact .null
  | pointer h ih => exact .pointer ih
  | struct hperm hnames h ih =>
    have hentries := forall₂_entries_iff (R := fun c c' => c'.Coincides c) |>.2 ⟨hnames, ih⟩
    have hmatched := Matched.symm ⟨_, hperm, hentries⟩
    exact coincides_struct_iff.2 (hmatched.imp fun p q ⟨hname, hpq⟩ => ⟨hname.symm, hpq⟩)

theorem Coincides.trans {d d' d'' : Dump} (h : d.Coincides d') (h' : d'.Coincides d'') : d.Coincides d'' := by
  induction h generalizing d'' with
  | atom h =>
    cases h' with
    | atom h' => exact .atom (h.trans h')
  | list hlen h ih =>
    cases h' with
    | list hlen' h' =>
      have hall := forall₂_comp (forall₂_iff_getElem?.2 ⟨hlen, @ih⟩) (forall₂_iff_getElem?.2 ⟨hlen', h'⟩)
      exact coincides_list_iff.2 (hall.imp fun c c'' ⟨c', hc, hc'⟩ => hc hc')
  | array hlen h ih =>
    cases h' with
    | array hlen' h' =>
      have hall := forall₂_comp (forall₂_iff_getElem?.2 ⟨hlen, @ih⟩) (forall₂_iff_getElem?.2 ⟨hlen', h'⟩)
      exact coincides_array_iff.2 (hall.imp fun c c'' ⟨c', hc, hc'⟩ => hc hc')
  | null => exact h'
  | pointer h ih =>
    cases h' with
    | pointer h' => exact .pointer (ih h')
  | struct hperm hnames h ih =>
    cases h' with
    | struct hperm' hnames' h' =>
      have hentries := forall₂_entries_iff (R := fun c c' => ∀ {c''}, c'.Coincides c'' → c.Coincides c'') |>.2 ⟨hnames, ih⟩
      have hmatched := Matched.comp ⟨_, hperm, hentries⟩ ⟨_, hperm', forall₂_entries_iff.2 ⟨hnames', h'⟩⟩
      exact coincides_struct_iff.2
        (hmatched.imp fun p r ⟨q, ⟨hpq, ih⟩, hqr, h'⟩ => ⟨hpq.trans hqr, ih h'⟩)

/-- A pointer is more than what it points to. -/
theorem not_coincides_target (d : Dump) : ¬ (pointer (some d)).Coincides d := by
  intro h
  cases h with
  | pointer h => exact not_coincides_target _ h

end Dump

end Reflection
