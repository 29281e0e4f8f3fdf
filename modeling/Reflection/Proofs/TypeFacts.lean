import Reflection.Keyed.TypeMemo
import Reflection.Universe.Sample
/-!
# Remembered facts are the computed ones

A computation that uses a cell only by asking it for values may itself be what makes a value of the same cell, to any
depth and for any types, its own among them (`TypeCell.Asks`). Whatever it asks for, it leaves all entries as they are
and adds only entries for types that it asks for (`TypeCell.Asks.extends_run`, `TypeCell.Asks.get?_run`), and entries of
other types have no part in what it gives (`TypeCell.Asks.agree_run`). So once a type has a value, this is its value
for good, and what would make it is not run again (`TypeCell.Replaces.run_eq`). The value is the one that the plain
recursion gives, if it is made of such values in the same way: the invariant over requests is that a cell holds nothing
else (`TypeCell.Faithful`, `type_facts`).
-/

namespace Reflection

namespace TypeCell

variable {α β γ : Type} {cell cell' later : TypeCell α} {t t' : Ty} {x : α} {S : Ty → Prop}
  {init : TypeCell α → α × TypeCell α} {f : TypeCell α → β × TypeCell α}

/-! ## Asking for one type -/

/-- The cell with a value for a type, unless it has one. -/
def keep (cell : TypeCell α) (t : Ty) (x : α) : TypeCell α :=
  match cell.get? t with
  | some _ => cell
  | none => cell.set t x

theorem get?_keep (cell : TypeCell α) (t t' : Ty) (x : α) :
    (cell.keep t x).get? t' = if t' = t then some ((cell.get? t).getD x) else cell.get? t' := by
  unfold keep
  cases hkept : cell.get? t with
  | none => rw [KeyMap.get?_set, Option.getD_none]
  | some y =>
    by_cases ht : t' = t
    · rw [if_pos ht, ht, hkept, Option.getD_some]
    · rw [if_neg ht]

theorem getOrInsert_some (h : cell.get? t = some x) (init : TypeCell α → α × TypeCell α) :
    cell.getOrInsert t init = ((x, false), cell) := by
  simp [getOrInsert, h]

/-- The computation runs, and what it has put into the cell for its type wins. -/
theorem getOrInsert_none (h : cell.get? t = none) (init : TypeCell α → α × TypeCell α) :
    cell.getOrInsert t init =
      ((((init cell).2.get? t).getD (init cell).1, true), keep (init cell).2 t (init cell).1) := by
  unfold getOrInsert keep
  rw [h]
  cases hfirst : (init cell).2.get? t with
  | none => simp [hfirst, KeyMap.insert]
  | some first => simp [hfirst]

/-- What is given is what the cell has afterwards. -/
theorem get?_getOrInsert_self (cell : TypeCell α) (t : Ty) (init : TypeCell α → α × TypeCell α) :
    (cell.getOrInsert t init).2.get? t = some (cell.getOrInsert t init).1.1 := by
  cases h : cell.get? t with
  | some x => rw [getOrInsert_some h, h]
  | none => rw [getOrInsert_none h, get?_keep, if_pos rfl]

theorem made_eq (t : Ty) (make : β → α) (parts : TypeCell α → β × TypeCell α) (cell : TypeCell α) :
    made t make parts cell =
      ((cell.getOrInsert t fun cell => (make (parts cell).1, (parts cell).2)).1.1,
        (cell.getOrInsert t fun cell => (make (parts cell).1, (parts cell).2)).2) := rfl

/-! ## Computations that ask -/

/-- A computation that uses the cell by asking it for the values of some types, and in no other way. -/
inductive Asks (S : Ty → Prop) : {β : Type} → (TypeCell α → β × TypeCell α) → Prop
  | give {β : Type} (y : β) : Asks S fun cell => (y, cell)
  | ask {β : Type} {t : Ty} {init : TypeCell α → α × TypeCell α} {next : α → TypeCell α → β × TypeCell α}
      (ht : S t) (hinit : Asks S init) (hnext : ∀ x, Asks S (next x)) :
      Asks S fun cell => next (cell.getOrInsert t init).1.1 (cell.getOrInsert t init).2

/-- All entries of a cell are in a later one. -/
def Extends (later cell : TypeCell α) : Prop := ∀ t x, cell.get? t = some x → later.get? t = some x

/-- Two cells have the same entries for some types. -/
def Agree (S : Ty → Prop) (cell cell' : TypeCell α) : Prop := ∀ t, S t → cell.get? t = cell'.get? t

theorem Extends.refl (cell : TypeCell α) : Extends cell cell := fun _ _ h => h

theorem Extends.trans {last : TypeCell α} (h : Extends last later) (h' : Extends later cell) : Extends last cell :=
  fun t x hx => h t x (h' t x hx)

theorem extends_keep (cell : TypeCell α) (t : Ty) (x : α) : (cell.keep t x).Extends cell := by
  intro t' y hy
  rw [get?_keep]
  split
  · rename_i ht
    rw [← ht, hy, Option.getD_some]
  · exact hy

namespace Asks

theorem mono {S' : Ty → Prop} (hf : Asks S f) (h : ∀ t, S t → S' t) : Asks S' f := by
  induction hf with
  | give y => exact .give y
  | ask ht _ _ hinit hnext => exact .ask (h _ ht) hinit hnext

theorem bind {g : β → TypeCell α → γ × TypeCell α} (hf : Asks S f) (hg : ∀ y, Asks S (g y)) :
    Asks S fun cell => g (f cell).1 (f cell).2 := by
  induction hf with
  | give y => exact hg y
  | ask ht hinit _ _ hnext => exact .ask ht hinit fun x => hnext x hg

theorem made (ht : S t) (hf : Asks S f) (make : β → α) : Asks S (made t make f) :=
  .ask ht (hf.bind fun y => .give (make y)) .give

/-- No entry is lost or overwritten, not by what is asked for to make a value either. -/
theorem extends_run (hf : Asks S f) (cell : TypeCell α) : Extends (f cell).2 cell := by
  induction hf generalizing cell with
  | give y => exact .refl cell
  | @ask _ t init next _ _ _ hinit hnext =>
    refine (hnext _ _).trans ?_
    cases h : cell.get? t with
    | some x =>
      rw [getOrInsert_some h]
      exact .refl cell
    | none =>
      rw [getOrInsert_none h]
      exact (extends_keep _ t _).trans (hinit cell)

/-- Types that are not asked for get no entry. -/
theorem get?_run (hf : Asks S f) (cell : TypeCell α) (h' : ¬S t') : (f cell).2.get? t' = cell.get? t' := by
  induction hf generalizing cell with
  | give y => rfl
  | @ask _ t init next ht _ _ hinit hnext =>
    have hne : t' ≠ t := fun h => h' (h ▸ ht)
    rw [hnext]
    cases h : cell.get? t with
    | some x => rw [getOrInsert_some h]
    | none => rw [getOrInsert_none h, get?_keep, if_neg hne, hinit]

/-- Their entries have no part in what is given. -/
theorem agree_run (hf : Asks S f) (h : Agree S cell cell') :
    (f cell).1 = (f cell').1 ∧ Agree S (f cell).2 (f cell').2 := by
  induction hf generalizing cell cell' with
  | give y => exact ⟨rfl, h⟩
  | @ask _ t init next ht _ _ hinit hnext =>
    dsimp only
    cases hkept : cell.get? t with
    | some x =>
      rw [getOrInsert_some hkept, getOrInsert_some ((h t ht).symm.trans hkept)]
      exact hnext x h
    | none =>
      rw [getOrInsert_none hkept, getOrInsert_none ((h t ht).symm.trans hkept)]
      -- The initialiser has left the same entry for its own type in both cells, or none.
      obtain ⟨hvalue, hcells⟩ := hinit h
      rw [← hvalue, ← hcells t ht]
      apply hnext
      intro t' ht'
      rw [get?_keep, get?_keep, hcells t ht, hcells t' ht']

end Asks

/-- Two computations that ask for the same, but have other initialisers for some types. -/
inductive Replaces (K : Ty → Prop) :
    {β : Type} → (TypeCell α → β × TypeCell α) → (TypeCell α → β × TypeCell α) → Prop
  | give {β : Type} (y : β) : Replaces K (fun cell => (y, cell)) fun cell => (y, cell)
  | ask {β : Type} {t : Ty} {init init' : TypeCell α → α × TypeCell α} {next next' : α → TypeCell α → β × TypeCell α}
      (hinit : Replaces K init init') (hnext : ∀ x, Replaces K (next x) (next' x)) :
      Replaces K (fun cell => next (cell.getOrInsert t init).1.1 (cell.getOrInsert t init).2)
        fun cell => next' (cell.getOrInsert t init').1.1 (cell.getOrInsert t init').2
  | other {β : Type} {t : Ty} {init init' : TypeCell α → α × TypeCell α}
      {next next' : α → TypeCell α → β × TypeCell α} (ht : K t) (hnext : ∀ x, Replaces K (next x) (next' x)) :
      Replaces K (fun cell => next (cell.getOrInsert t init).1.1 (cell.getOrInsert t init).2)
        fun cell => next' (cell.getOrInsert t init').1.1 (cell.getOrInsert t init').2

/-- If these types have values, none of their initialisers is run, at any depth: the others do as well. -/
theorem Replaces.run_eq {K : Ty → Prop} {f' : TypeCell α → β × TypeCell α} (h : Replaces K f f')
    (hkept : ∀ t, K t → cell.get? t ≠ none) : f cell = f' cell ∧ ∀ t, K t → (f cell).2.get? t ≠ none := by
  induction h generalizing cell with
  | give y => exact ⟨rfl, hkept⟩
  | @ask _ t init init' next next' _ _ ihinit ihnext =>
    dsimp only
    cases hx : cell.get? t with
    | some x =>
      rw [getOrInsert_some hx, getOrInsert_some hx]
      exact ihnext x hkept
    | none =>
      obtain ⟨hinit, hlater⟩ := ihinit hkept
      rw [getOrInsert_none hx, getOrInsert_none hx, ← hinit]
      apply ihnext
      -- The initialiser has run here, but it has kept the entries that it found.
      intro t' ht'
      rw [get?_keep]
      split
      · simp
      · exact hlater t' ht'
  | @other _ t init init' next next' ht _ ihnext =>
    dsimp only
    obtain ⟨x, hx⟩ := Option.ne_none_iff_exists'.1 (hkept t ht)
    rw [getOrInsert_some hx, getOrInsert_some hx]
    exact ihnext x hkept

/-! ## Values by recursion -/

/-- A cell has no values but those of a function. -/
def Faithful (value : Ty → α) (cell : TypeCell α) : Prop := ∀ t x, cell.get? t = some x → x = value t

/-- On cells with the values of a function, a computation gives a result and leaves such a cell. -/
def Gives (value : Ty → α) (f : TypeCell α → β × TypeCell α) (y : β) : Prop :=
  ∀ cell, Faithful value cell → (f cell).1 = y ∧ Faithful value (f cell).2

variable {value : Ty → α} {y : β}

theorem faithful_empty (value : Ty → α) : Faithful value .empty := by
  intro t x h
  simp at h

theorem faithful_keep (h : Faithful value cell) (t : Ty) : Faithful value (cell.keep t (value t)) := by
  intro t' x hx
  rw [get?_keep] at hx
  split at hx
  · rename_i ht
    subst ht
    cases hkept : cell.get? t' with
    | none =>
      rw [hkept] at hx
      exact (Option.some.inj hx).symm
    | some y =>
      rw [hkept] at hx
      exact (Option.some.inj hx).symm.trans (h t' y hkept)
  · exact h t' x hx

theorem gives_const (value : Ty → α) (y : β) : Gives value (fun cell => (y, cell)) y := fun _ h => ⟨rfl, h⟩

/-- If the values of the parts make the value of the whole, it is given, whether the cell has it or not. -/
theorem Gives.made {make : β → α} (hf : Gives value f y) (hmake : make y = value t) :
    Gives value (made t make f) (value t) := by
  intro cell hcell
  rw [made_eq]
  cases h : cell.get? t with
  | some x =>
    rw [getOrInsert_some h]
    exact ⟨hcell t x h, hcell⟩
  | none =>
    obtain ⟨hy, hfaithful⟩ := hf cell hcell
    rw [getOrInsert_none h]
    simp only [hy, hmake]
    refine ⟨?_, faithful_keep hfaithful t⟩
    -- What the parts have put there for the whole has its value too.
    cases hfirst : (f cell).2.get? t with
    | none => rfl
    | some first => exact hfaithful t first hfirst

end TypeCell

/-! ## Texts of types -/

namespace Ty
open TypeCell

variable (qualified : Bool)

mutual
/-- A type, its arguments, and theirs. -/
def parts : Ty → List Ty
  | .vec t => .vec t :: t.parts
  | .deque t => .deque t :: t.parts
  | .array t n => .array t n :: t.parts
  | .option t => .option t :: t.parts
  | .box t => .box t :: t.parts
  | .struct n args => .struct n args :: partsOfAll args
  | t => [t]

def partsOfAll : List Ty → List Ty
  | [] => []
  | t :: ts => t.parts ++ partsOfAll ts
end

theorem asks_made {α β : Type} {t : Ty} {ps : List Ty} {f : TypeCell α → β × TypeCell α} (hf : Asks (· ∈ ps) f)
    (make : β → α) : Asks (· ∈ t :: ps) (made t make f) :=
  .made List.mem_cons_self (hf.mono fun _ => List.mem_cons_of_mem t) make

mutual
theorem gives_cachedText : ∀ t : Ty, Gives (Ty.text qualified) (t.cachedText qualified) (t.text qualified)
  | .scalar _ => gives_const _ _
  | .bespoke _ => gives_const _ _
  | .vec t => (gives_cachedText t).made rfl
  | .deque t => (gives_cachedText t).made rfl
  | .array t _ => (gives_cachedText t).made rfl
  | .option t => (gives_cachedText t).made rfl
  | .box t => (gives_cachedText t).made rfl
  | .struct n args => by
    rw [cachedText]
    split
    · rename_i hargs
      rw [List.isEmpty_iff.1 hargs]
      exact gives_const _ _
    · exact (gives_cachedTexts args).made rfl

theorem gives_cachedTexts : ∀ ts : List Ty, Gives (Ty.text qualified) (cachedTexts qualified ts) (texts qualified ts)
  | [] => gives_const _ _
  | t :: ts => by
    intro cell hcell
    obtain ⟨hfirst, hcell⟩ := gives_cachedText t cell hcell
    obtain ⟨hrest, hcell⟩ := gives_cachedTexts ts _ hcell
    simp only [cachedTexts, texts, hfirst, hrest]
    exact ⟨trivial, hcell⟩
end

mutual
/-- The text of a type asks for the texts of its parts only. -/
theorem asks_cachedText : ∀ t : Ty, Asks (· ∈ t.parts) (t.cachedText qualified)
  | .scalar _ => .give _
  | .bespoke _ => .give _
  | .vec t => asks_made (asks_cachedText t) _
  | .deque t => asks_made (asks_cachedText t) _
  | .array t _ => asks_made (asks_cachedText t) _
  | .option t => asks_made (asks_cachedText t) _
  | .box t => asks_made (asks_cachedText t) _
  | .struct n args => by
    rw [cachedText]
    split
    · exact .give _
    · exact asks_made (asks_cachedTexts args) _

theorem asks_cachedTexts : ∀ ts : List Ty, Asks (· ∈ partsOfAll ts) (cachedTexts qualified ts)
  | [] => .give _
  | t :: ts => by
    have hfirst := (asks_cachedText t).mono fun _ h => List.mem_append_left (partsOfAll ts) h
    have hrest := (asks_cachedTexts ts).mono fun _ h => List.mem_append_right t.parts h
    exact hfirst.bind fun text => hrest.bind fun texts => .give (text :: texts)
end

end Ty

/-! ## Requests -/

namespace TypeMemo
open TypeCell

variable {U : Universe} {memo : TypeMemo}

/-- The cells have no facts but the computed ones. -/
structure Faithful (U : Universe) (memo : TypeMemo) : Prop where
  paths : memo.paths.Faithful Ty.path
  names : memo.names.Faithful Ty.name
  infos : memo.infos.Faithful U.info?

/-- The cells have all entries of earlier ones. -/
structure Extends (later memo : TypeMemo) : Prop where
  paths : later.paths.Extends memo.paths
  names : later.names.Extends memo.names
  infos : later.infos.Extends memo.infos

theorem Extends.refl (memo : TypeMemo) : Extends memo memo := ⟨.refl _, .refl _, .refl _⟩

theorem Extends.trans {last later : TypeMemo} (h : Extends last later) (h' : Extends later memo) :
    Extends last memo :=
  ⟨h.paths.trans h'.paths, h.names.trans h'.names, h.infos.trans h'.infos⟩

theorem faithful_empty (U : Universe) : Faithful U empty :=
  ⟨TypeCell.faithful_empty _, TypeCell.faithful_empty _, TypeCell.faithful_empty _⟩

theorem answer_faithful (h : memo.Faithful U) (q : TypeQuery) :
    (memo.answer U q).1 = q.answer U ∧ (memo.answer U q).2.Faithful U := by
  cases q with
  | path t =>
    obtain ⟨htext, hpaths⟩ := Ty.gives_cachedText true t memo.paths h.paths
    exact ⟨congrArg TypeFact.text htext, ⟨hpaths, h.names, h.infos⟩⟩
  | name t =>
    obtain ⟨htext, hnames⟩ := Ty.gives_cachedText false t memo.names h.names
    exact ⟨congrArg TypeFact.text htext, ⟨h.paths, hnames, h.infos⟩⟩
  | info t =>
    have hgives : Gives U.info? (made t id fun cell => (U.info? t, cell)) (U.info? t) := (gives_const _ _).made rfl
    obtain ⟨hinfo, hinfos⟩ := hgives memo.infos h.infos
    exact ⟨congrArg TypeFact.info hinfo, ⟨h.paths, h.names, hinfos⟩⟩

theorem answers_faithful (h : memo.Faithful U) (queries : List TypeQuery) :
    (memo.answers U queries).1 = queries.map (·.answer U) ∧ (memo.answers U queries).2.Faithful U := by
  induction queries generalizing memo with
  | nil => exact ⟨rfl, h⟩
  | cons q queries ih =>
    obtain ⟨hfact, hmemo⟩ := answer_faithful h q
    obtain ⟨hfacts, hlater⟩ := ih hmemo
    simp only [answers, hfact, hfacts, List.map_cons]
    exact ⟨trivial, hlater⟩

/-- Requests only add entries, whatever there is. -/
theorem extends_answer (U : Universe) (memo : TypeMemo) (q : TypeQuery) : (memo.answer U q).2.Extends memo := by
  cases q with
  | path t => exact ⟨(Ty.asks_cachedText true t).extends_run memo.paths, .refl _, .refl _⟩
  | name t => exact ⟨.refl _, (Ty.asks_cachedText false t).extends_run memo.names, .refl _⟩
  | info t =>
    have hasks : Asks (· = t) (made t id fun cell => (U.info? t, cell)) := Asks.made (S := (· = t)) rfl (.give _) id
    exact ⟨.refl _, .refl _, hasks.extends_run memo.infos⟩

theorem extends_answers (U : Universe) (memo : TypeMemo) (queries : List TypeQuery) :
    (memo.answers U queries).2.Extends memo := by
  induction queries generalizing memo with
  | nil => exact .refl memo
  | cons q queries ih => exact (ih _).trans (extends_answer U memo q)

end TypeMemo

open TypeCell

/-- Requests in any order, after any others, are answered with the facts that the plain recursion gives, and entries
stay. Whatever asks a cell for values loses and overwrites none, neither adds entries of types that it does not ask for
nor depends on them, and the text of a type asks for its parts. What is given for a type is its entry, now and after
whatever is asked for in between. With an entry no initialiser runs, so that any other one does as well, at any depth,
and an entry that an initialiser makes itself for its type wins. -/
theorem type_facts :
    (∀ (U : Universe) (before queries : List TypeQuery),
      ((TypeMemo.empty.answers U before).2.answers U queries).1 = queries.map (·.answer U)) ∧
    (∀ (U : Universe) (memo : TypeMemo) (queries : List TypeQuery), (memo.answers U queries).2.Extends memo) ∧
    (∀ (α β : Type) (S : Ty → Prop) (f : TypeCell α → β × TypeCell α), Asks S f → ∀ cell : TypeCell α,
      (f cell).2.Extends cell ∧ (∀ t, ¬S t → (f cell).2.get? t = cell.get? t) ∧
      ∀ cell', Agree S cell cell' → (f cell).1 = (f cell').1 ∧ Agree S (f cell).2 (f cell').2) ∧
    (∀ (qualified : Bool) (t : Ty), Asks (· ∈ t.parts) (t.cachedText qualified)) ∧
    (∀ (α β : Type) (S : Ty → Prop) (f : TypeCell α → β × TypeCell α), Asks S f →
      ∀ (cell : TypeCell α) (t : Ty) (init late : TypeCell α → α × TypeCell α),
        let first := cell.getOrInsert t init
        first.2.get? t = some first.1.1 ∧
        (f first.2).2.getOrInsert t late = ((first.1.1, false), (f first.2).2)) ∧
    (∀ (α β : Type) (K : Ty → Prop) (f f' : TypeCell α → β × TypeCell α), Replaces K f f' →
      ∀ cell : TypeCell α, (∀ t, K t → cell.get? t ≠ none) → f cell = f' cell) ∧
    (∀ (α : Type) (cell : TypeCell α) (t : Ty) (init : TypeCell α → α × TypeCell α) (first : α),
      cell.get? t = none → (init cell).2.get? t = some first →
      cell.getOrInsert t init = ((first, true), (init cell).2)) := by
  refine ⟨?_, ?_, ?_, ?_, ?_, ?_, ?_⟩
  · intro U before queries
    have hmemo := (TypeMemo.answers_faithful (TypeMemo.faithful_empty U) before).2
    exact (TypeMemo.answers_faithful hmemo queries).1
  · exact TypeMemo.extends_answers
  · intro α β S f hf cell
    refine ⟨hf.extends_run cell, ?_, ?_⟩
    · intro t ht
      exact hf.get?_run cell ht
    · intro cell' h
      exact hf.agree_run h
  · exact Ty.asks_cachedText
  · intro α β S f hf cell t init late first
    have hfirst : first.2.get? t = some first.1.1 := get?_getOrInsert_self cell t init
    refine ⟨hfirst, ?_⟩
    apply getOrInsert_some
    exact hf.extends_run first.2 t first.1.1 hfirst
  · intro α β K f f' h cell hkept
    exact (h.run_eq hkept).1
  · intro α cell t init first hnone hown
    rw [getOrInsert_none hnone, hown, Option.getD_some]
    unfold keep
    rw [hown]

/-- Options of options are named level by level. An initialiser makes an entry for its own type, which stays: one that
would empty the cell is not run any more. -/
theorem type_facts_nested :
    let inner : Ty := .option Sample.u8
    let outer : Ty := .option inner
    let init : TypeCell String → String × TypeCell String := fun cell =>
      ("second", (cell.getOrInsert outer fun cell => ("first", cell)).2)
    let asked := TypeCell.getOrInsert .empty outer init
    let later := (outer.cachedText true asked.2).2
    let given (t : Ty) (init : TypeCell String → String × TypeCell String) (cell : TypeCell String) :=
      ((cell.getOrInsert t init).1.1, (cell.getOrInsert t init).2)
    (TypeMemo.empty.answers Sample.types [.path outer, .name outer, .path inner, .path outer]).1 =
      [.text "core::option::Option<core::option::Option<u8>>", .text "Option<Option<u8>>",
        .text "core::option::Option<u8>", .text "core::option::Option<core::option::Option<u8>>"] ∧
    asked.1 = ("first", true) ∧
    later.getOrInsert outer init = (("first", false), later) ∧
    given (.box outer) (given outer init) asked.2 =
      given (.box outer) (given outer fun _ => ("third", .empty)) asked.2 ∧
    asked.2.get? inner = none ∧
    (inner.cachedText true asked.2).1 = (inner.cachedText true .empty).1 := by
  intro inner outer init asked later given
  obtain ⟨hanswers, -, hasks, hparts, hkept, hreplaced, hown⟩ := type_facts
  have hfirst : asked = (("first", true), (init .empty).2) := hown String .empty outer init "first" rfl rfl
  have hinit : Asks (· = outer) init :=
    @Asks.ask _ _ _ outer _ (fun _ cell => ("second", cell)) rfl (.give "first") fun _ => .give "second"
  have hframe : ∀ t, t ≠ outer → asked.2.get? t = none := by
    intro t ht
    rw [hfirst]
    exact (hasks _ _ _ init hinit .empty).2.1 t ht
  have hvalue : asked.1.1 = "first" := by rw [hfirst]
  refine ⟨?_, ?_, ?_, ?_, ?_, ?_⟩
  · exact (hanswers Sample.types [] _).trans (by decide +kernel)
  · rw [hfirst]
  · rw [← hvalue]
    exact (hkept _ _ _ _ (hparts true outer) .empty outer init init).2
  · apply hreplaced _ _ (· = outer)
    · have hgiven : Replaces (· = outer) (given outer init) (given outer fun _ => ("third", .empty)) :=
        @Replaces.other _ _ _ outer _ _ (fun x cell => (x, cell)) (fun x cell => (x, cell)) rfl .give
      exact @Replaces.ask _ _ _ (.box outer) _ _ (fun x cell => (x, cell)) (fun x cell => (x, cell)) hgiven .give
    · rintro t ht
      rw [ht, (hkept _ _ _ _ (hparts true outer) .empty outer init init).1]
      simp
  · exact hframe inner (by decide)
  · apply ((hasks _ _ _ _ (hparts true inner) asked.2).2.2 .empty ?_).1
    intro t ht
    apply hframe
    rintro rfl
    exact absurd ht (by decide)

end Reflection
