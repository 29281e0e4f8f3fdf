import Reflection.Proofs.Acceptance
import Reflection.Proofs.ExposedNames
/-!
# Entries in any order

What the entries of a field come to does not depend on their order, nor on the attributes that they are spread over
(`entries_unordered`). Whether a mark is set is told from whether there is an entry for it, and whether entries are
accepted from which entries there are: each is valid by itself, and is refused because of another one wherever that
one stands.
-/

namespace Reflection.Derive

/-! ## Marks -/

/-- What an entry says of a field, apart from its docs. -/
inductive FieldMark
  | skip
  | readOnly
  | writeOnly
  | rename (name : String)
deriving DecidableEq, Repr

namespace FieldMark

def entry : FieldMark → Entry
  | skip => ⟨"skip", .nothing⟩
  | readOnly => ⟨"readonly", .nothing⟩
  | writeOnly => ⟨"writeonly", .nothing⟩
  | rename name => ⟨"rename", .value (.text name)⟩

def isRename : FieldMark → Bool
  | rename _ => true
  | _ => false

theorem validForField_entry (m : FieldMark) :
    m.entry.ValidForField ↔ ∀ name, m = .rename name → PlainName name := by
  cases m <;> simp [entry, Entry.ValidForField]

theorem entry_injective : Function.Injective entry := by
  intro m m' h
  cases m <;> cases m' <;> simp_all [entry]

theorem isRename_iff {m : FieldMark} : m.entry.key = "rename" ↔ m.isRename = true := by
  cases m <;> simp [entry, isRename]

end FieldMark

/-- What attributes say of a field, apart from its docs. -/
def FieldAttributes.marks (attrs : FieldAttributes) : Bool × Access × Option String :=
  (attrs.skip, attrs.access, attrs.rename)

/-! ## Entries that are permuted -/

section Entries
variable {entries entries' : List Entry}

theorem hasKey_perm (h : entries.Perm entries') (key : String) : hasKey key entries = hasKey key entries' := by
  rw [Bool.eq_iff_iff, hasKey_iff, hasKey_iff]
  simp only [h.mem_iff]

theorem Entry.chosenName?_eq_some {e : Entry} {name : String} :
    e.chosenName? = some name ↔ e = FieldMark.entry (.rename name) := by
  obtain ⟨key, assigned⟩ := e
  unfold Entry.chosenName? FieldMark.entry
  split
  · rename_i name' hassigned
    obtain rfl : assigned = .value (.text name') := hassigned
    by_cases hkey : key = "rename" <;> simp [hkey]
  · rename_i hother
    refine iff_of_false nofun fun heq => ?_
    exact hother name (congrArg Entry.assigned heq)

/-- Of names that are chosen once at most, the chosen one is any that an entry chooses. -/
theorem chosenName?_eq_some {name : String} (honce : entries.countP (·.key == "rename") ≤ 1) :
    chosenName? entries = some name ↔ FieldMark.entry (.rename name) ∈ entries := by
  have hpairs := countP_le_one_iff.1 honce
  have hsymm : Std.Symm fun a b : Entry => ¬ a.Repeats "rename" b := ⟨fun _ _ hab hba => hab hba.symm⟩
  constructor
  · intro h
    obtain ⟨e, he, hname⟩ := List.exists_of_findSome?_eq_some h
    exact Entry.chosenName?_eq_some.1 hname ▸ he
  · intro h
    cases hchosen : chosenName? entries with
    | none =>
      have hnone := List.findSome?_eq_none_iff.1 hchosen _ h
      rw [Entry.chosenName?_eq_some.2 rfl] at hnone
      cases hnone
    | some name' =>
      obtain ⟨e, he, hname⟩ := List.exists_of_findSome?_eq_some hchosen
      obtain rfl := Entry.chosenName?_eq_some.1 hname
      -- Two different entries would choose a name twice.
      have hsame : FieldMark.entry (.rename name') = FieldMark.entry (.rename name) :=
        Classical.byContradiction fun hne => hpairs.forall he h hne ⟨rfl, rfl⟩
      cases FieldMark.entry_injective hsame
      rfl

end Entries

section Attributes
variable {collect : Bool} {attrs attrs' : List Attribute} (hplain : ∀ attr ∈ attrs, attr.Plain)
include hplain

theorem fieldAttributes_accepted_iff :
    (∃ a, FieldAttributes.ofAttributes collect attrs = .ok a) ↔
      (∀ e ∈ entriesOf attrs, e.ValidForField) ∧ (entriesOf attrs).countP (·.key == "rename") ≤ 1 ∧
        ¬ (hasKey "readonly" (entriesOf attrs) = true ∧ hasKey "writeonly" (entriesOf attrs) = true) := by
  rw [(ends_fieldAttributes attrs).eq_ok_iff, passed_fieldAttributes (f := ⟨"", [], attrs⟩) hplain]
  exact ⟨fun h => ⟨h.entries, h.renameOnce, h.oneAccess⟩, fun ⟨hvalid, honce, haccess⟩ => ⟨hvalid, honce, haccess⟩⟩

theorem rename_eq_some_iff {a : FieldAttributes} (ha : FieldAttributes.ofAttributes collect attrs = .ok a)
    {name : String} :
    a.rename = some name ↔ FieldMark.entry (.rename name) ∈ entriesOf attrs := by
  obtain ⟨-, honce, -⟩ := (fieldAttributes_accepted_iff hplain).1 ⟨a, ha⟩
  rw [((ends_fieldAttributes attrs).of_eq_ok ha).rename, chosenName?_eq_some honce]

/-- Attributes with the same entries are accepted too, and mark the field in the same way. -/
theorem marks_of_perm (hplain' : ∀ attr ∈ attrs', attr.Plain) (hperm : (entriesOf attrs).Perm (entriesOf attrs'))
    {a : FieldAttributes} (ha : FieldAttributes.ofAttributes collect attrs = .ok a) :
    ∃ a', FieldAttributes.ofAttributes collect attrs' = .ok a' ∧ a'.marks = a.marks := by
  obtain ⟨hvalid, honce, haccess⟩ := (fieldAttributes_accepted_iff hplain).1 ⟨a, ha⟩
  obtain ⟨a', ha'⟩ : ∃ a', FieldAttributes.ofAttributes collect attrs' = .ok a' := by
    refine (fieldAttributes_accepted_iff hplain').2 ⟨fun e he => hvalid e (hperm.mem_iff.2 he), ?_, ?_⟩
    · rwa [← hperm.countP_eq]
    · rwa [← hasKey_perm hperm, ← hasKey_perm hperm]
  have hreads := (ends_fieldAttributes attrs).of_eq_ok ha
  have hreads' := (ends_fieldAttributes attrs').of_eq_ok ha'
  have hskip : a'.skip = a.skip := by rw [hreads.skip, hreads'.skip, hasKey_perm hperm]
  have hreadOnly : a'.access = .readOnly ↔ a.access = .readOnly := by
    rw [hreads.readOnly, hreads'.readOnly, hasKey_perm hperm]
  have hwriteOnly : a'.access = .writeOnly ↔ a.access = .writeOnly := by
    rw [hreads.writeOnly, hreads'.writeOnly, hasKey_perm hperm]
  have hsame : a'.access = a.access := by
    cases h : a.access <;> cases h' : a'.access <;> simp_all
  have hrename : a'.rename = a.rename := by
    ext name
    rw [rename_eq_some_iff hplain ha, rename_eq_some_iff hplain' ha', hperm.mem_iff]
  exact ⟨a', ha', by rw [FieldAttributes.marks, hskip, hsame, hrename]; rfl⟩

end Attributes

/-! ## Entries that are marks -/

section Marks
variable {entries : List Entry} {marks : List FieldMark} (hperm : entries.Perm (marks.map FieldMark.entry))
include hperm

theorem hasKey_marks (key : String) (m : FieldMark) (hkey : ∀ m' : FieldMark, m'.entry.key = key ↔ m' = m) :
    hasKey key entries = true ↔ m ∈ marks := by
  rw [hasKey_perm hperm, hasKey_iff]
  simp only [List.mem_map, exists_exists_and_eq_and, hkey, exists_eq_right]

theorem countP_marks : entries.countP (·.key == "rename") = marks.countP FieldMark.isRename := by
  rw [hperm.countP_eq, List.countP_map]
  congr 1
  funext m
  rw [Bool.eq_iff_iff, Function.comp_apply, beq_iff_eq, FieldMark.isRename_iff]

theorem validForField_marks :
    (∀ e ∈ entries, e.ValidForField) ↔ ∀ name, FieldMark.rename name ∈ marks → PlainName name := by
  simp only [hperm.mem_iff, List.forall_mem_map, FieldMark.validForField_entry]
  exact ⟨fun h name hname => h _ hname name rfl, fun h m hm name hname => h name (hname ▸ hm)⟩

theorem mem_marks (m : FieldMark) : m.entry ∈ entries ↔ m ∈ marks := by
  rw [hperm.mem_iff, List.mem_map_of_injective FieldMark.entry_injective]

end Marks

/-- The entries of a field may be put in any order and spread over any attributes: whether they are accepted and what
they mark the field with stays the same, even if entries for docs are among them. Marks are accepted if at most one
access is restricted and at most one name is chosen, which is read as one member; a mark may be repeated. Each is
then set if it is among them. -/
theorem entries_unordered (collect : Bool) {attrs : List Attribute} (hplain : ∀ attr ∈ attrs, attr.Plain) :
    (∀ attrs' : List Attribute, (∀ attr ∈ attrs', attr.Plain) → (entriesOf attrs).Perm (entriesOf attrs') →
      (FieldAttributes.ofAttributes collect attrs).toOption.map FieldAttributes.marks =
        (FieldAttributes.ofAttributes collect attrs').toOption.map FieldAttributes.marks) ∧
    ∀ marks : List FieldMark, (entriesOf attrs).Perm (marks.map FieldMark.entry) →
      ((∃ a, FieldAttributes.ofAttributes collect attrs = .ok a) ↔
        ¬ (.readOnly ∈ marks ∧ .writeOnly ∈ marks) ∧ marks.countP FieldMark.isRename ≤ 1 ∧
          ∀ name, .rename name ∈ marks → (Path.parse name).map Path.segments = .ok [.member name]) ∧
      ∀ a, FieldAttributes.ofAttributes collect attrs = .ok a →
        (a.skip = true ↔ .skip ∈ marks) ∧ (a.access = .readOnly ↔ .readOnly ∈ marks) ∧
          (a.access = .writeOnly ↔ .writeOnly ∈ marks) ∧ ∀ name, a.rename = some name ↔ .rename name ∈ marks := by
  constructor
  · intro attrs' hplain' hperm
    cases ha : FieldAttributes.ofAttributes collect attrs with
    | ok a =>
      obtain ⟨a', ha', hmarks⟩ := marks_of_perm hplain hplain' hperm ha
      rw [ha']
      exact congrArg some hmarks.symm
    | error e =>
      cases ha' : FieldAttributes.ofAttributes collect attrs' with
      | ok a' =>
        obtain ⟨a, hok, -⟩ := marks_of_perm hplain' hplain hperm.symm ha'
        cases ha.symm.trans hok
      | error e' => rfl
  · intro marks hperm
    have hskip := hasKey_marks hperm "skip" .skip fun m => by cases m <;> simp [FieldMark.entry]
    have hreadOnly := hasKey_marks hperm "readonly" .readOnly fun m => by cases m <;> simp [FieldMark.entry]
    have hwriteOnly := hasKey_marks hperm "writeonly" .writeOnly fun m => by cases m <;> simp [FieldMark.entry]
    constructor
    · rw [fieldAttributes_accepted_iff hplain, validForField_marks hperm, countP_marks hperm, hreadOnly, hwriteOnly]
      simp only [plainName_iff_parse]
      exact ⟨fun ⟨hnames, honce, haccess⟩ => ⟨haccess, honce, hnames⟩,
        fun ⟨haccess, honce, hnames⟩ => ⟨hnames, honce, haccess⟩⟩
    · intro a ha
      have hreads := (ends_fieldAttributes attrs).of_eq_ok ha
      refine ⟨?_, hreads.readOnly.trans hreadOnly, hreads.writeOnly.trans hwriteOnly, fun name => ?_⟩
      · rw [hreads.skip, hskip]
      · rw [rename_eq_some_iff hplain ha, mem_marks hperm]

/-- Four entries of one attribute, two of them equal, in another order over three attributes. -/
theorem entries_unordered_spread :
    let e (m : FieldMark) : Entry := m.entry
    let together : List Attribute := [.reflect [e .readOnly, e (.rename "hitPoints"), e .skip, e .readOnly]]
    let spread : List Attribute :=
      [.reflect [e .readOnly], .other, .reflect [], .reflect [e .skip, e .readOnly], .reflect [e (.rename "hitPoints")]]
    (∃ a, FieldAttributes.ofAttributes false together = .ok a ∧ a.rename = some "hitPoints") ∧
    (FieldAttributes.ofAttributes false together).toOption.map FieldAttributes.marks =
      (FieldAttributes.ofAttributes false spread).toOption.map FieldAttributes.marks := by
  intro e together spread
  have hplain : ∀ attr ∈ together, attr.Plain := by simp [together, Attribute.Plain]
  have hplain' : ∀ attr ∈ spread, attr.Plain := by simp [spread, Attribute.Plain]
  have hperm : (entriesOf together).Perm (entriesOf spread) := by decide
  obtain ⟨hsame, hmarks⟩ := entries_unordered false hplain
  obtain ⟨haccepted, hset⟩ := hmarks [.readOnly, .rename "hitPoints", .skip, .readOnly] (.refl _)
  have hname : (Path.parse "hitPoints").map Path.segments = .ok [.member "hitPoints"] :=
    plainName_iff_parse.1 (Code.plainName_of_isIdentifier (by decide +kernel))
  obtain ⟨a, ha⟩ := haccepted.2 ⟨by decide, by decide, by simpa using hname⟩
  obtain ⟨-, -, -, hrename⟩ := hset a ha
  exact ⟨⟨a, ha, (hrename "hitPoints").2 (by decide)⟩, hsame spread hplain' hperm⟩

end Reflection.Derive
