import Mathlib.Data.List.Lex
import Reflection.Path.Order
/-!
# The order of paths

The comparison of segments is a total order in which `Segment.Before` is the strict part, and the comparison of paths
is its lexicographic extension (`compareSegments_eq`), so that one path is before another exactly if it precedes it
(`compare_eq_lt_iff`). Of a list of paths there is one ascending list, whichever way it is sorted before the repeats are
left out (`Ascending.unique`, `path_order`).
-/

namespace Reflection

/-! ## Segments -/

/-- A member is before an index. Names are in the order of their bytes, indices in that of their numbers. -/
inductive Segment.Before : Segment → Segment → Prop
  | kind (name : String) (i : UInt64) : Before (.member name) (.index i)
  | name {a b : String} (h : List.Lex (fun x y => x.toNat < y.toNat) (nameBytes a) (nameBytes b)) :
    Before (.member a) (.member b)
  | number {i j : UInt64} (h : i.toNat < j.toNat) : Before (.index i) (.index j)

/-- In a lexicographic comparison the first place decides at which two sequences differ. -/
theorem compareLex_eq_lt_iff {α : Type} {cmp : α → α → Ordering} [Std.LawfulEqCmp cmp] {as bs : List α} :
    List.compareLex cmp as bs = .lt ↔ List.Lex (fun a b => cmp a b = .lt) as bs := by
  induction as generalizing bs with
  | nil =>
    cases bs with
    | nil => simp [List.compareLex_nil_nil]
    | cons b bs => simp [List.compareLex_nil_cons]
  | cons a as ih =>
    cases bs with
    | nil => simp [List.compareLex_cons_nil]
    | cons b bs =>
      rw [List.compareLex_cons_cons, Ordering.then_eq_lt, ih, List.cons_lex_cons_iff, Std.LawfulEqCmp.compare_eq_iff_eq]

theorem nameBytes_injective {a b : String} (h : nameBytes a = nameBytes b) : a = b := by
  unfold nameBytes at h
  apply String.toByteArray_inj.1
  exact ByteArray.ext (Array.toList_inj.1 h)

theorem compareNames_eq_lt_iff {a b : String} :
    compareNames a b = .lt ↔ List.Lex (fun x y => x.toNat < y.toNat) (nameBytes a) (nameBytes b) := by
  have hbyte : ∀ x y : UInt8, compare x y = .lt ↔ x.toNat < y.toNat := by
    intro x y
    simp [compare, compareOfLessAndEq_eq_lt, UInt8.lt_iff_toNat_lt]
  unfold compareNames
  rw [List.compare_eq_compareLex, compareLex_eq_lt_iff]
  simp only [hbyte]

namespace Segment

theorem compare_eq_lt_iff {s t : Segment} : s.compare t = .lt ↔ s.Before t := by
  cases s with
  | member a =>
    cases t with
    | member b =>
      rw [compare, compareNames_eq_lt_iff]
      exact ⟨.name, fun | .name h => h⟩
    | index i => simp [compare, Before.kind]
  | index i =>
    cases t with
    | member b =>
      have hno : ¬Before (.index i) (.member b) := by rintro ⟨⟩
      simp [compare, hno]
    | index j =>
      have hnumber : Ord.compare i j = .lt ↔ i.toNat < j.toNat := by
        simp [Ord.compare, compareOfLessAndEq_eq_lt, UInt64.lt_iff_toNat_lt]
      rw [compare, hnumber]
      exact ⟨.number, fun | .number h => h⟩

instance : Std.OrientedCmp compare where
  eq_swap {s t} := by
    cases s <;> cases t
    · exact Std.OrientedOrd.eq_swap
    · rfl
    · rfl
    · exact Std.OrientedOrd.eq_swap

instance : Std.TransCmp compare where
  isLE_trans {s t u} hst htu := by
    cases s with
    | member a =>
      cases u with
      | member c =>
        cases t with
        | member b => exact Std.TransOrd.isLE_trans (b := nameBytes b) hst htu
        | index j => simp [compare] at htu
      | index k => rfl
    | index i =>
      cases t with
      | member b => simp [compare] at hst
      | index j =>
        cases u with
        | member c => simp [compare] at htu
        | index k => exact Std.TransOrd.isLE_trans (b := j) hst htu

instance : Std.LawfulEqCmp compare where
  eq_of_compare {s t} h := by
    cases s <;> cases t
    · exact congrArg member (nameBytes_injective (Std.LawfulEqOrd.eq_of_compare h))
    · simp [compare] at h
    · simp [compare] at h
    · exact congrArg index (Std.LawfulEqOrd.eq_of_compare h)

end Segment

/-! ## Paths -/

namespace Path

/-- A path precedes its extensions. Of two others the first segment decides at which they differ. -/
def Precedes (p q : Path) : Prop := List.Lex Segment.Before p.segments q.segments

theorem compareSegments_eq (as bs : List Segment) : compareSegments as bs = List.compareLex Segment.compare as bs := by
  induction as generalizing bs with
  | nil => cases bs <;> rfl
  | cons a as ih =>
    cases bs with
    | nil => rfl
    | cons b bs => rw [compareSegments, ih, List.compareLex_cons_cons]

theorem compare_eq (p q : Path) : p.compare q = List.compareLex Segment.compare p.segments q.segments :=
  compareSegments_eq p.segments q.segments

instance : Std.TransCmp compare where
  eq_swap {p q} := by
    rw [compare_eq, compare_eq]
    exact Std.OrientedCmp.eq_swap
  isLE_trans {p q r} hpq hqr := by
    rw [compare_eq] at hpq hqr ⊢
    exact Std.TransCmp.isLE_trans hpq hqr

instance : Std.LawfulEqCmp compare where
  compare_self {p} := by
    rw [compare_eq]
    exact Std.ReflCmp.compare_self
  eq_of_compare {p q} h := by
    rw [compare_eq] at h
    have hsegments : p.segments = q.segments := Std.LawfulEqCmp.eq_of_compare h
    cases p
    cases q
    cases hsegments
    rfl

theorem compare_eq_lt_iff {p q : Path} : p.compare q = .lt ↔ p.Precedes q := by
  rw [compare_eq, compareLex_eq_lt_iff]
  simp only [Segment.compare_eq_lt_iff]
  rfl

theorem precedes_concat (p q : Path) : p.Precedes (p.concat q) := by
  unfold Precedes concat
  obtain ⟨s, rest, hq⟩ := List.exists_cons_of_ne_nil q.segments_ne_nil
  have hfirst : List.Lex Segment.Before [] q.segments := hq ▸ List.Lex.nil
  simpa using List.Lex.append_left Segment.Before hfirst p.segments

/-- What two sequences begin with alike has no part in their comparison. -/
theorem compareSegments_append (front as bs : List Segment) :
    compareSegments (front ++ as) (front ++ bs) = compareSegments as bs := by
  induction front with
  | nil => rfl
  | cons s front ih =>
    have hs : s.compare s = .eq := Std.ReflCmp.compare_self
    rw [List.cons_append, List.cons_append, compareSegments, hs, ih]
    rfl

theorem isLE_total (p q : Path) : (p.compare q).isLE = true ∨ (q.compare p).isLE = true := by
  have hswap : q.compare p = (p.compare q).swap := Std.OrientedCmp.eq_swap
  rw [hswap]
  cases p.compare q <;> simp

/-! ## Sorting -/

variable {p : Path} {ps qs : List Path}

/-- Each path comes before all that stand behind it. -/
def Ascending (ps : List Path) : Prop := ps.Pairwise fun p q => p.compare q = .lt

/-- No path comes before one that stands in front of it. -/
def Sorted (ps : List Path) : Prop := ps.Pairwise fun p q => (p.compare q).isLE = true

theorem mem_dropRepeats : p ∈ dropRepeats ps ↔ p ∈ ps := by
  fun_induction dropRepeats ps with
  | case1 q rest ih => simp [ih]
  | case2 q r rest hne ih => simp [ih]
  | case3 => rfl

/-- Of a sorted list an ascending one is left: equal paths stand side by side in it. -/
theorem ascending_dropRepeats (h : Sorted ps) : Ascending (dropRepeats ps) := by
  fun_induction dropRepeats ps with
  | case1 q rest ih => exact ih (List.pairwise_cons.1 h).2
  | case2 p q rest hne ih =>
    obtain ⟨hfirst, hrest⟩ := List.pairwise_cons.1 h
    obtain ⟨hsecond, -⟩ := List.pairwise_cons.1 hrest
    have hpq : p.compare q = .lt := by
      have hle := hfirst q List.mem_cons_self
      have hneq : p.compare q ≠ .eq := fun h => hne (Std.LawfulEqCmp.eq_of_compare h)
      cases hcompare : p.compare q <;> simp_all
    apply List.pairwise_cons.2
    refine ⟨fun r hr => ?_, ih hrest⟩
    rcases List.mem_cons.1 (mem_dropRepeats.1 hr) with rfl | hr
    · exact hpq
    · exact Std.TransCmp.lt_of_lt_of_isLE hpq (hsecond r hr)
  | case3 ps hshort =>
    cases ps with
    | nil => exact .nil
    | cons p ps =>
      cases ps with
      | nil => exact List.pairwise_singleton _ p
      | cons q ps => exact (hshort p q ps rfl).elim

theorem Ascending.nodup (h : Ascending ps) : ps.Nodup := by
  apply List.Pairwise.imp _ h
  rintro p q hlt rfl
  have heq : p.compare p = .eq := Std.ReflCmp.compare_self
  rw [heq] at hlt
  cases hlt

/-- The same paths make one ascending list only. -/
theorem Ascending.unique (hp : Ascending ps) (hq : Ascending qs) (h : ∀ p, p ∈ ps ↔ p ∈ qs) : ps = qs := by
  have hperm : ps.Perm qs := (List.perm_ext_iff_of_nodup hp.nodup hq.nodup).2 h
  refine hperm.eq_of_pairwise (fun a b _ _ hab hba => ?_) hp hq
  exact absurd hba (Std.OrientedCmp.not_lt_of_lt hab)

theorem sorted_mergeSort (ps : List Path) : Sorted (ps.mergeSort fun p q => (p.compare q).isLE) := by
  refine List.pairwise_mergeSort (fun a b c => Std.TransCmp.isLE_trans) (fun a b => ?_) ps
  simpa using isLE_total a b

theorem ascending_sortDistinct (ps : List Path) : Ascending (sortDistinct ps) :=
  ascending_dropRepeats (sorted_mergeSort ps)

theorem mem_sortDistinct : p ∈ sortDistinct ps ↔ p ∈ ps := by
  unfold sortDistinct
  rw [mem_dropRepeats]
  exact (List.mergeSort_perm ps _).mem_iff

/-- The comparison of paths is a total order with equality for equality, and the paths before a path are those that
precede it. It keeps to the structure of paths: an extension is behind the path, and a common front has no part in it.
Of any list of paths, sorted in any way, there remains one ascending list with each of its paths once. -/
theorem path_order :
    (∀ a b : Path, a.compare b = .eq ↔ a = b) ∧
    (∀ a b : Path, b.compare a = (a.compare b).swap) ∧
    (∀ a b : Path, (a.compare b).isLE ∨ (b.compare a).isLE) ∧
    (∀ a b : Path, (a.compare b).isLE → (b.compare a).isLE → a = b) ∧
    (∀ a b c : Path, (a.compare b).isLE → (b.compare c).isLE → (a.compare c).isLE) ∧
    (∀ a b : Path, a.compare b = .lt ↔ a.Precedes b) ∧
    (∀ a b : Path, a.compare (a.concat b) = .lt) ∧
    (∀ a b c : Path, (c.concat a).compare (c.concat b) = a.compare b) ∧
    (∀ ps : List Path, Ascending (sortDistinct ps) ∧ ∀ p, (sortDistinct ps).count p = if p ∈ ps then 1 else 0) ∧
    (∀ ps sorted : List Path, sorted.Perm ps → Sorted sorted → dropRepeats sorted = sortDistinct ps) ∧
    (∀ ps qs : List Path, (∀ p, p ∈ ps ↔ p ∈ qs) → sortDistinct ps = sortDistinct qs) := by
  refine ⟨fun a b => Std.LawfulEqCmp.compare_eq_iff_eq, fun a b => Std.OrientedCmp.eq_swap, isLE_total, ?_, ?_,
    fun a b => compare_eq_lt_iff, fun a b => compare_eq_lt_iff.2 (precedes_concat a b),
    fun a b c => compareSegments_append c.segments a.segments b.segments, ?_, ?_, ?_⟩
  · intro a b hab hba
    exact Std.LawfulEqCmp.eq_of_compare (Std.OrientedCmp.isLE_antisymm hab hba)
  · intro a b c hab hbc
    exact Std.TransCmp.isLE_trans hab hbc
  · intro ps
    refine ⟨ascending_sortDistinct ps, fun p => ?_⟩
    rw [(ascending_sortDistinct ps).nodup.count]
    simp only [mem_sortDistinct]
  · intro ps sorted hperm hsorted
    apply Ascending.unique (ascending_dropRepeats hsorted) (ascending_sortDistinct ps)
    intro p
    rw [mem_dropRepeats, mem_sortDistinct, hperm.mem_iff]
  · intro ps qs h
    apply Ascending.unique (ascending_sortDistinct ps) (ascending_sortDistinct qs)
    intro p
    rw [mem_sortDistinct, mem_sortDistinct, h]

/-- A name with a longer first character is behind, whatever the letters, and `10` is behind `9`. -/
theorem path_order_sample :
    let a : Path := ⟨[.member "a"], by simp⟩
    let az : Path := ⟨[.member "a", .member "z"], by simp⟩
    let ae : Path := ⟨[.member "a", .member "é"], by simp⟩
    let a9 : Path := ⟨[.member "a", .index 9], by simp⟩
    let a10 : Path := ⟨[.member "a", .index 10], by simp⟩
    sortDistinct [a10, ae, a, a9, az, a10, ae] = [a, az, ae, a9, a10] ∧
    sortDistinct [ae, a9, a10, a, az] = sortDistinct [a10, ae, a, a9, az, a10, ae] := by
  intro a az ae a9 a10
  obtain ⟨-, -, -, -, -, -, -, -, -, hsort, hsame⟩ := path_order
  constructor
  · have hperm : [a, az, ae, ae, a9, a10, a10].Perm [a10, ae, a, a9, az, a10, ae] := by decide +kernel
    have hsorted : Sorted [a, az, ae, ae, a9, a10, a10] := by
      unfold Sorted
      decide +kernel
    rw [← hsort _ _ hperm hsorted]
    decide +kernel
  · apply hsame
    intro p
    simp only [List.mem_cons, List.not_mem_nil, or_false]
    tauto

end Path

end Reflection
