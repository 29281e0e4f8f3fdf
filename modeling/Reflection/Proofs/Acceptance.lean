import Mathlib.Data.List.Pairwise
import Reflection.Derive.Expansion
import Reflection.Proofs.Canonical
import Reflection.Proofs.Checks
import Reflection.Proofs.Tables
/-!
# What is accepted

Code is derived for an item exactly if its entries are known and have proper values, none of them contradicts
another, and its members differ in their names (`Item.Acceptable`). Any other item is refused with the error of
the first check that it violates (`derive_accepts`).
-/

namespace Reflection.Derive

/-! ## Entries -/

section Entries
variable {e : Entry}

theorem flagCheck_eq_none : e.flagCheck = none ↔ e.assigned = .nothing := by
  simp [Entry.flagCheck]

theorem passed_textChecks {checks : String → List Check} :
    Passed (e.textChecks checks) ↔ ∃ s, e.assigned = .value (.text s) ∧ Passed (checks s) := by
  unfold Entry.textChecks
  rcases e.assigned with _ | l | _
  · simp
  · cases l <;> simp
  · simp

theorem passed_memberNameChecks {name : String} : Passed (Entry.memberNameChecks name) ↔ PlainName name := by
  simp only [Entry.memberNameChecks, passed_cons, passed_nil, violated_eq_none, and_true]
  constructor
  · rintro ⟨hne, hseparator, hdigits⟩
    refine ⟨hne, ?_, ?_⟩
    · simpa using hseparator
    · simpa [isIndexPiece] using hdigits
  · rintro ⟨hne, hseparator, hdigits⟩
    refine ⟨hne, ?_, ?_⟩
    · simpa using hseparator
    · simpa [isIndexPiece] using hdigits

/-- A path that a type may be given. -/
def IsTypePath (text : String) : Prop :=
  ∃ path, Code.ItemPath.parse text = .ok path ∧ path.absolute = false ∧ path.hasArguments = false

theorem passed_typePathChecks {text : String} : Passed (Entry.typePathChecks text) ↔ IsTypePath text := by
  unfold Entry.typePathChecks IsTypePath
  cases Code.ItemPath.parse text <;> simp

/-- What an entry for docs has for a value. -/
def Assigned.IsDocs (assigned : Assigned) : Prop :=
  (∃ line, assigned = .value (.text line)) ∨ assigned = .value (.bool false)

theorem passed_docChecks : Passed e.docChecks ↔ e.assigned.IsDocs := by
  unfold Entry.docChecks Assigned.IsDocs
  rcases e.assigned with _ | l | _
  · simp
  · rcases l with s | b | text
    · simp
    · cases b <;> simp
    · simp
  · simp

/-- An entry that a type may have. -/
def Entry.ValidForType (e : Entry) : Prop :=
  (e.key = "type_path" ∧ ∃ text, e.assigned = .value (.text text) ∧ IsTypePath text) ∨
  (e.key = "doc" ∧ e.assigned.IsDocs)

/-- An entry that a field may have. -/
def Entry.ValidForField (e : Entry) : Prop :=
  (e.key ∈ ["skip", "readonly", "writeonly"] ∧ e.assigned = .nothing) ∨
  (e.key = "rename" ∧ ∃ name, e.assigned = .value (.text name) ∧ PlainName name) ∨
  (e.key = "doc" ∧ e.assigned.IsDocs)

/-- Two entries of one key. -/
def Entry.Repeats (key : String) (a b : Entry) : Prop := a.key = key ∧ b.key = key

/-- Entries for both of two opposite accesses. -/
def Entry.Contradicts (a b : Entry) : Prop :=
  (a.key = "readonly" ∧ b.key = "writeonly") ∨ (a.key = "writeonly" ∧ b.key = "readonly")

theorem hasKey_eq_false {key : String} {entries : List Entry} :
    hasKey key entries = false ↔ ∀ e ∈ entries, e.key ≠ key := by
  simp [hasKey]

theorem passed_typeChecks (earlier : List Entry) (e : Entry) :
    Passed (e.typeChecks earlier) ↔ e.ValidForType ∧ ∀ b ∈ earlier, ¬ b.Repeats "type_path" e := by
  unfold Entry.typeChecks Entry.ValidForType Entry.Repeats
  by_cases hpath : e.key = "type_path"
  · rw [if_pos hpath, passed_textChecks]
    simp [hpath, passed_typePathChecks, hasKey_eq_false, ← and_assoc, and_right_comm]
  rw [if_neg hpath]
  by_cases hdoc : e.key = "doc"
  · simp [hdoc, passed_docChecks]
  rw [if_neg hdoc]
  split <;> simp [hpath, hdoc]

theorem passed_fieldChecks (earlier : List Entry) (e : Entry) :
    Passed (e.fieldChecks earlier) ↔
      e.ValidForField ∧ ∀ b ∈ earlier, ¬ b.Repeats "rename" e ∧ ¬ b.Contradicts e := by
  unfold Entry.fieldChecks Entry.ValidForField Entry.Repeats Entry.Contradicts
  by_cases hskip : e.key = "skip"
  · simp [hskip, flagCheck_eq_none]
  rw [if_neg hskip]
  by_cases hreadOnly : e.key = "readonly"
  · simp [hreadOnly, flagCheck_eq_none, hasKey_eq_false, and_comm]
  rw [if_neg hreadOnly]
  by_cases hwriteOnly : e.key = "writeonly"
  · simp [hwriteOnly, flagCheck_eq_none, hasKey_eq_false, and_comm]
  rw [if_neg hwriteOnly]
  by_cases hrename : e.key = "rename"
  · rw [if_pos hrename, passed_textChecks]
    simp [hrename, passed_memberNameChecks, hasKey_eq_false, ← and_assoc]
  rw [if_neg hrename]
  by_cases hdoc : e.key = "doc"
  · simp [hdoc, passed_docChecks]
  rw [if_neg hdoc]
  split <;> simp [hskip, hreadOnly, hwriteOnly, hrename, hdoc]

end Entries

/-! ## Attributes -/

/-- An attribute that is well-formed by itself: a doc attribute has a text, and one that is read has entries. -/
def Attribute.Plain : Attribute → Prop
  | .doc (.text _) | .reflect _ | .other => True
  | _ => False

/-- Of plain attributes only the entries are checked. -/
theorem passed_attributeChecks {collect : Bool} {entryChecks : List Entry → Entry → List Check} {attrs : List Attribute}
    (h : ∀ attr ∈ attrs, attr.Plain) :
    Passed (attributeChecks collect entryChecks attrs) ↔ Passed (inTurn entryChecks [] (entriesOf attrs)) := by
  have hplain : ∀ d ∈ directivesOf attrs, (∃ line, d = .docs (.text line)) ∨ ∃ e, d = .entry e := by
    intro d hd
    obtain ⟨attr, hattr, hd⟩ := List.mem_flatMap.1 hd
    have hattr := h attr hattr
    cases attr with
    | doc value =>
      cases value with
      | text line => exact .inl ⟨line, List.mem_singleton.1 hd⟩
      | bool b => exact hattr.elim
      | number text => exact hattr.elim
    | reflect entries =>
      obtain ⟨e, -, rfl⟩ := List.mem_map.1 hd
      exact .inr ⟨e, rfl⟩
    | other => cases hd
    | docList => exact hattr.elim
    | bare => exact hattr.elim
  have hchecks : ∀ ds earlier, (∀ d ∈ ds, (∃ line, d = .docs (.text line)) ∨ ∃ e, d = .entry e) →
      inTurn (Directive.checks collect entryChecks) earlier ds =
        inTurn entryChecks (entriesIn earlier) (entriesIn ds) := by
    intro ds
    induction ds with
    | nil => exact fun _ _ => rfl
    | cons d ds ih =>
      intro earlier hds
      obtain ⟨hd, hds⟩ := List.forall_mem_cons.1 hds
      rw [inTurn, ih _ hds, entriesIn_append]
      obtain ⟨line, rfl⟩ | ⟨e, rfl⟩ := hd
      · rw [show entriesIn [.docs (.text line)] = [] from rfl, List.append_nil]
        rfl
      · rfl
  rw [attributeChecks, hchecks _ _ hplain]
  rfl

/-! ## Items -/

/-- A field whose entries are valid, with one name and one access at most. -/
structure ItemField.Acceptable (f : ItemField) : Prop where
  entries : ∀ e ∈ entriesOf f.attrs, e.ValidForField
  renameOnce : (entriesOf f.attrs).countP (·.key == "rename") ≤ 1
  oneAccess : ¬ (hasKey "readonly" (entriesOf f.attrs) = true ∧ hasKey "writeonly" (entriesOf f.attrs) = true)

/-- An item of which code can be derived. -/
structure Item.Acceptable (item : Item) : Prop where
  noConst : ∀ p ∈ item.params, isConst p = false
  named : item.shape = .named
  entries : ∀ e ∈ entriesOf item.attrs, e.ValidForType
  typePathOnce : (entriesOf item.attrs).countP (·.key == "type_path") ≤ 1
  fields : ∀ f ∈ item.fields, f.Acceptable
  names : (exposedNames item.fields).Nodup

/-- An item whose attributes are plain. -/
def Item.Plain (item : Item) : Prop :=
  (∀ attr ∈ item.attrs, attr.Plain) ∧ ∀ f ∈ item.fields, ∀ attr ∈ f.attrs, attr.Plain

theorem countP_le_one_iff {key : String} {entries : List Entry} :
    entries.countP (·.key == key) ≤ 1 ↔ entries.Pairwise fun a b => ¬ a.Repeats key b := by
  induction entries with
  | nil => simp
  | cons e entries ih =>
    rw [List.pairwise_cons, List.countP_cons]
    by_cases he : e.key = key
    · have hnone : entries.countP (·.key == key) = 0 ↔ ∀ b ∈ entries, b.key ≠ key := by
        simp [List.countP_eq_zero]
      rw [if_pos (beq_iff_eq.2 he), Nat.add_le_add_iff_right, Nat.le_zero, hnone]
      constructor
      · intro h
        exact ⟨fun b hb hrepeats => h b hb hrepeats.2, ih.1 (hnone.2 h ▸ Nat.zero_le 1)⟩
      · exact fun h b hb hkey => h.1 b hb ⟨he, hkey⟩
    · rw [if_neg (by simpa using he), Nat.add_zero, ih]
      exact ⟨fun h => ⟨fun b _ hrepeats => he hrepeats.1, h⟩, And.right⟩

theorem oneAccess_iff {entries : List Entry} :
    ¬ (hasKey "readonly" entries = true ∧ hasKey "writeonly" entries = true) ↔
      entries.Pairwise fun a b => ¬ a.Contradicts b := by
  rw [hasKey_iff, hasKey_iff]
  constructor
  · intro h
    refine List.pairwise_iff_forall_sublist.2 fun {a b} hab hcontra => h ?_
    have ha : a ∈ entries := hab.subset (by simp)
    have hb : b ∈ entries := hab.subset (by simp)
    obtain ⟨hra, hwb⟩ | ⟨hwa, hrb⟩ := hcontra
    · exact ⟨⟨a, ha, hra⟩, b, hb, hwb⟩
    · exact ⟨⟨b, hb, hrb⟩, a, ha, hwa⟩
  · rintro h ⟨⟨a, ha, hra⟩, b, hb, hwb⟩
    have hsymm : Std.Symm fun a b : Entry => ¬ a.Contradicts b :=
      ⟨fun _ _ hab hba => hab (hba.symm.imp And.symm And.symm)⟩
    have hself : ∀ e ∈ entries, ¬ e.Contradicts e := by
      rintro e - (⟨hr, hw⟩ | ⟨hw, hr⟩) <;> exact absurd (hr.symm.trans hw) (by decide)
    exact h.forall_of_forall hself ha hb (.inl ⟨hra, hwb⟩)

/-- Two members of one name. -/
def ItemField.Collides (f g : ItemField) : Prop :=
  f.isSkipped = false ∧ g.isSkipped = false ∧ f.exposedName = g.exposedName

theorem nodup_exposedNames_iff {fields : List ItemField} :
    (exposedNames fields).Nodup ↔ fields.Pairwise fun f g => ¬ f.Collides g := by
  simp only [exposedNames, List.Nodup, List.pairwise_map, List.pairwise_filter, ItemField.Collides, ne_eq,
    Bool.not_eq_true', not_and]

theorem passed_itemField (collect : Bool) (f : ItemField) (earlier : List ItemField) :
    Passed (f.checks collect earlier) ↔
      Passed (attributeChecks collect Entry.fieldChecks f.attrs) ∧ ∀ g ∈ earlier, ¬ g.Collides f := by
  have hname : ¬ (f.isSkipped = false ∧ f.exposedName ∈ exposedNames earlier) ↔ ∀ g ∈ earlier, ¬ g.Collides f := by
    simp only [exposedNames, List.mem_map, List.mem_filter, Bool.not_eq_true', ItemField.Collides]
    grind
  rw [ItemField.checks, passed_append, passed_cons, violated_eq_none, hname]
  exact and_congr_right fun _ => and_iff_left passed_nil

theorem passed_fieldAttributes {collect : Bool} {f : ItemField} (h : ∀ attr ∈ f.attrs, attr.Plain) :
    Passed (attributeChecks collect Entry.fieldChecks f.attrs) ↔ f.Acceptable := by
  have hentries := passed_inTurn (fun e (_ : e ∈ entriesOf f.attrs) before => passed_fieldChecks before e) []
  rw [passed_attributeChecks h, hentries, List.pairwise_and_iff, ← countP_le_one_iff, ← oneAccess_iff]
  constructor
  · rintro ⟨hvalid, ⟨honce, haccess⟩, -⟩
    exact ⟨hvalid, honce, haccess⟩
  · rintro ⟨hvalid, honce, haccess⟩
    exact ⟨hvalid, ⟨honce, haccess⟩, nofun⟩

theorem passed_checks {collect : Bool} {item : Item} (h : item.Plain) :
    Passed (item.checks collect) ↔ item.Acceptable := by
  have hentries := passed_inTurn (fun e (_ : e ∈ entriesOf item.attrs) before => passed_typeChecks before e) []
  have hfields := passed_inTurn (fun f (_ : f ∈ item.fields) before => passed_itemField collect f before) []
  have hacceptable : (∀ f ∈ item.fields, Passed (attributeChecks collect Entry.fieldChecks f.attrs)) ↔
      ∀ f ∈ item.fields, f.Acceptable := forall₂_congr fun f hf => passed_fieldAttributes (h.2 f hf)
  have hconst : ¬ (∃ p ∈ item.params, isConst p = true) ↔ ∀ p ∈ item.params, isConst p = false := by simp
  rw [Item.checks, passed_cons, passed_cons, violated_eq_none, violated_eq_none, hconst, not_not, passed_append,
    passed_attributeChecks h.1, hentries, hfields, hacceptable, ← countP_le_one_iff, ← nodup_exposedNames_iff]
  constructor
  · rintro ⟨hconst, hshape, ⟨hvalid, honce, -⟩, hfields, hnames, -⟩
    exact ⟨hconst, hshape, hvalid, honce, hfields, hnames⟩
  · rintro ⟨hconst, hshape, hvalid, honce, hfields, hnames⟩
    exact ⟨hconst, hshape, ⟨hvalid, honce, nofun⟩, hfields, hnames, nofun⟩

/-- Which items code is derived for, and which error others are refused with: that of the first violated check, where
the parameters are checked first, then the shape, the attributes of the type in order, and field by field the
attributes of the field in order and its name. -/
theorem derive_accepts (setup : Setup) (item : Item) :
    (item.Plain → ((∃ code, derive setup item = .ok code) ↔ item.Acceptable)) ∧
    ∀ e, derive setup item = .error e ↔
      ∃ passed later, item.checks setup.collect = passed ++ some e :: later ∧ ∀ c ∈ passed, c = none := by
  have hends : Ends (derive setup item) (item.checks setup.collect) fun _ => True :=
    (ends_ofItem item).map fun _ _ => trivial
  constructor
  · intro h
    exact hends.eq_ok_iff.trans (passed_checks h)
  · intro e
    rw [hends.eq_error_iff, List.findSome?_eq_some_iff]
    constructor
    · rintro ⟨passed, c, later, hchecks, rfl, hpassed⟩
      exact ⟨passed, later, hchecks, hpassed⟩
    · rintro ⟨passed, later, hchecks, hpassed⟩
      exact ⟨passed, _, later, hchecks, rfl, hpassed⟩

/-- A field that is skipped may have the name of a member. If it is not, the later of the two is refused. -/
theorem derive_accepts_shadowed :
    let shadow (entries : List Entry) : ItemField :=
      ⟨"old_name", [.ident "String"], [.doc (.text " Old."), .reflect (⟨"rename", .value (.text "name")⟩ :: entries)]⟩
    let item (entries : List Entry) : Item := { Item.player with fields := shadow entries :: Item.player.fields }
    let skipped := item [⟨"skip", .nothing⟩]
    skipped.Plain ∧ skipped.Acceptable ∧ derive .usual (item []) = .error (.duplicateMember "name") := by
  intro shadow item skipped
  have hplain : skipped.Plain := by simp [skipped, item, shadow, Item.Plain, Item.player, Attribute.Plain]
  refine ⟨hplain, ((derive_accepts .usual skipped).1 hplain).1 ⟨_, rfl⟩, ?_⟩
  -- Parameters, shape, the four checks of the chosen name, and that it is new.
  exact ((derive_accepts .usual (item [])).2 _).2 ⟨List.replicate 7 none, _, rfl, fun _ => List.eq_of_mem_replicate⟩

end Reflection.Derive
