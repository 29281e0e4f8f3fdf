import Reflection.Proofs.Acceptance
import Reflection.Proofs.WrittenTypes
/-!
# Skipped fields

No derived code tells whether an item has skipped fields, or which: what is derived depends on the members
(`Plan.expansion_eq`), and an item has the members that it has without its skipped fields
(`skipped_fields_unseen`).
-/

namespace Reflection.Derive

/-! ## What the code depends on -/

namespace Plan

/-- Two plans that differ at most in fields that are no members. -/
structure SameMembers (p q : Plan) : Prop where
  ident : p.ident = q.ident
  customPath : p.customPath = q.customPath
  docs : p.docs = q.docs
  params : p.params = q.params
  predicates : p.predicates = q.predicates
  members : p.members = q.members

section Code
variable {p q : Plan} (library : Code.ItemPath) (h : p.SameMembers q)
include h

theorem typeParams_eq : p.typeParams = q.typeParams := by
  rw [typeParams, typeParams, h.params]

theorem isGeneric_eq : p.isGeneric = q.isGeneric := by
  rw [isGeneric, isGeneric, typeParams_eq h]

theorem boundTypes_eq : p.boundTypes = q.boundTypes := by
  have hmentions : p.mentionsParam = q.mentionsParam := by
    funext type
    rw [mentionsParam, mentionsParam, typeParams_eq h]
  rw [boundTypes, boundTypes, isGeneric_eq h, hmentions, h.members]

theorem selfPredicates_eq : p.selfPredicates = q.selfPredicates := by
  rw [selfPredicates, selfPredicates, isGeneric_eq h, lifetimes, lifetimes, h.params]

theorem namePredicates_eq : p.namePredicates = q.namePredicates := by
  rw [namePredicates, namePredicates, selfPredicates_eq h, typeParams_eq h, h.predicates]

theorem reflectPredicates_eq : p.reflectPredicates = q.reflectPredicates := by
  rw [reflectPredicates, reflectPredicates, selfPredicates_eq h, typeParams_eq h, boundTypes_eq h, h.predicates]

theorem infoTokens_eq : p.infoTokens library = q.infoTokens library := by
  rw [infoTokens, infoTokens, h.members, h.docs]

theorem columns_eq : p.accessors = q.accessors := by
  rw [accessors, accessors, h.members]

theorem implementation_eq : p.implementation library = q.implementation library := by
  funext item predicates body
  rw [implementation, implementation, h.params, h.ident]

theorem namesImplementation_eq : p.namesImplementation library = q.namesImplementation library := by
  simp only [namesImplementation, typePath, typeName, typeIdent, modulePath, pathCode, nameCode, withArguments, baseCode,
    identText, moduleCode, implementation_eq library h, isGeneric_eq h, typeParams_eq h, namePredicates_eq h,
    h.customPath, h.ident]

theorem infoImplementation_eq : p.infoImplementation library = q.infoImplementation library := by
  simp only [infoImplementation, implementation_eq library h, isGeneric_eq h, infoTokens_eq library h,
    reflectPredicates_eq h]

/-- All tables of the accessors are made from the columns. -/
theorem structImplementation_eq : p.structImplementation library = q.structImplementation library := by
  simp only [structImplementation, nameArms, nameArmsMut, indexArms, indexArmsMut, nameChoices, namesByIndex, count,
    implementation_eq library h, columns_eq h, reflectPredicates_eq h]

theorem reflectImplementation_eq : p.reflectImplementation library = q.reflectImplementation library := by
  simp only [reflectImplementation, implementation_eq library h, reflectPredicates_eq h]

/-- The code depends on the members alone. -/
theorem expansion_eq : p.expansion library = q.expansion library := by
  rw [expansion, expansion, namesImplementation_eq library h, infoImplementation_eq library h,
    structImplementation_eq library h, reflectImplementation_eq library h]

end Code

end Plan

/-! ## Items without their skipped fields -/

variable {collect : Bool}

namespace Item

/-- The item as if its skipped fields were not there. -/
def withoutSkipped (item : Item) : Item := { item with fields := item.fields.filter (!·.isSkipped) }

theorem shown?_of_isSkipped {f : ItemField} (h : f.isSkipped = true) : f.shown? collect = none := by
  unfold ItemField.shown?
  split
  · rename_i attrs hattrs
    have hskip : attrs.skip = f.isSkipped := ((ends_fieldAttributes f.attrs).of_eq_ok hattrs).skip
    rw [hskip, h, if_pos rfl]
  · rfl

theorem of_mem_shown {item : Item} {f : ShownField} (h : f ∈ item.shown collect) :
    f.field ∈ item.fields ∧ f.field.isSkipped = false := by
  obtain ⟨g, hg, hshown⟩ := List.mem_filterMap.1 h
  obtain ⟨rfl, -⟩ := attributes_of_shown hshown
  refine ⟨hg, Bool.eq_false_iff.2 fun hskipped => ?_⟩
  rw [shown?_of_isSkipped hskipped] at hshown
  cases hshown

theorem shown_withoutSkipped (item : Item) : item.withoutSkipped.shown collect = item.shown collect := by
  unfold shown withoutSkipped
  induction item.fields with
  | nil => rfl
  | cons f fields ih =>
    cases hf : f.isSkipped with
    | true => rw [List.filter_cons_of_neg (by simp [hf]), List.filterMap_cons_none (shown?_of_isSkipped hf), ih]
    | false =>
      rw [List.filter_cons_of_pos (by simp [hf])]
      simp only [List.filterMap_cons, ih]

theorem withoutSkipped_withoutSkipped (item : Item) : item.withoutSkipped.withoutSkipped = item.withoutSkipped := by
  simp [withoutSkipped]

/-- An item that is accepted is accepted without its skipped fields. -/
theorem passed_withoutSkipped {item : Item} (h : Passed (item.checks collect)) :
    Passed (item.withoutSkipped.checks collect) := by
  have hfields (fields : List ItemField) :=
    passed_inTurn (fun f (_ : f ∈ fields) before => passed_itemField collect f before) []
  rw [checks, passed_cons, passed_cons, passed_append, hfields] at h ⊢
  obtain ⟨hconst, hshape, hattrs, hvalid, hnames, -⟩ := h
  refine ⟨hconst, hshape, hattrs, fun f hf => hvalid f (List.mem_of_mem_filter hf), hnames.filter _, by simp⟩

end Item

theorem mem_of_mem_distinct {t : List Code.Token} {ts : List (List Code.Token)} (h : t ∈ distinct ts) : t ∈ ts := by
  induction ts with
  | nil => exact h
  | cons u us ih =>
    obtain rfl | h := List.mem_cons.1 h
    · exact List.mem_cons_self
    · exact List.mem_cons_of_mem u (ih (List.mem_of_mem_filter h))

namespace Plan
variable {item : Item} {plan : Plan}

theorem sameMembers_of_ofItem {item' : Item} {plan' : Plan} (h : ofItem collect item = .ok plan)
    (h' : ofItem collect item' = .ok plan') (heq : item.withoutSkipped = item'.withoutSkipped) :
    plan.SameMembers plan' := by
  obtain ⟨attrs, hattrs, -, hplan⟩ := ofItem_eq_ok h
  obtain ⟨attrs', hattrs', -, hplan'⟩ := ofItem_eq_ok h'
  have hmembers : plan.members = plan'.members := by
    rw [members_eq h, members_eq h', ← item.shown_withoutSkipped, heq, item'.shown_withoutSkipped]
  simp only [Item.withoutSkipped, Item.mk.injEq] at heq
  obtain ⟨hident, -, hparams, hpredicates, hsource, -⟩ := heq
  obtain rfl : attrs = attrs' := Except.ok.inj (hattrs.symm.trans (hsource ▸ hattrs'))
  rw [hplan, hplan'] at hmembers ⊢
  exact ⟨hident, rfl, rfl, hparams, hpredicates, hmembers⟩

/-- A bound is on a type parameter, or on the type of a field that is not skipped and mentions one. -/
theorem of_reflected_mem (h : ofItem collect item = .ok plan) {type : List Code.Token}
    (ht : .reflected type ∈ plan.reflectPredicates) :
    (∃ name ∈ plan.typeParams, type = [.ident name]) ∨
      ∃ f ∈ item.fields, f.isSkipped = false ∧ f.type = type ∧ Code.Token.mentionsIn plan.typeParams type = true := by
  have hself : .reflected type ∉ plan.selfPredicates := by
    unfold selfPredicates
    split
    · simp
    · split <;> simp
  simp only [reflectPredicates, List.mem_append, List.mem_map, hself, false_or, reduceCtorEq, and_false, exists_false,
    Predicate.reflected.injEq, exists_eq_right] at ht
  obtain ⟨name, hname, rfl⟩ | htype := ht
  · exact .inl ⟨name, hname, rfl⟩
  right
  unfold boundTypes at htype
  split at htype
  · obtain ⟨hmem, hmentions⟩ := List.mem_filter.1 (mem_of_mem_distinct htype)
    obtain ⟨m, hm, rfl⟩ := List.mem_map.1 hmem
    rw [members_eq h] at hm
    obtain ⟨⟨f, i⟩, hf, rfl⟩ := List.mem_map.1 hm
    obtain ⟨hsource, hskipped⟩ := Item.of_mem_shown (List.fst_mem_of_mem_zipIdx hf)
    exact ⟨f.field, hsource, hskipped, rfl, (Code.mentionsIn_orderArguments _ _).symm.trans hmentions⟩
  · cases htype

end Plan

/-- What is derived for an item does not depend on its skipped fields: two items that are accepted and are the same
without them have the same code, and so has the item without them, which is accepted too. No bound is there for
the type of a skipped field. -/
theorem skipped_fields_unseen {setup : Setup} {item item' : Item} {code code' : List Code.Token}
    (h : derive setup item = .ok code) (h' : derive setup item' = .ok code')
    (heq : item.withoutSkipped = item'.withoutSkipped) :
    code = code' ∧ derive setup item.withoutSkipped = .ok code ∧
    ∃ plan, Plan.ofItem setup.collect item = .ok plan ∧ plan.expansion setup.library = code ∧
      ∀ type, .reflected type ∈ plan.reflectPredicates →
        (∃ name ∈ plan.typeParams, type = [.ident name]) ∨
          ∃ f ∈ item.fields, f.isSkipped = false ∧ f.type = type ∧
            Code.Token.mentionsIn plan.typeParams type = true := by
  obtain ⟨plan, hplan, rfl⟩ := map_eq_ok h
  obtain ⟨plan', hplan', rfl⟩ := map_eq_ok h'
  refine ⟨Plan.expansion_eq setup.library (Plan.sameMembers_of_ofItem hplan hplan' heq), ?_, plan, hplan, rfl,
    fun type => Plan.of_reflected_mem hplan⟩
  obtain ⟨plan₀, hplan₀⟩ := (ends_ofItem item.withoutSkipped).eq_ok_iff.2
    (Item.passed_withoutSkipped ((ends_ofItem item).eq_ok_iff.1 ⟨plan, hplan⟩))
  have hsame := Plan.sameMembers_of_ofItem hplan₀ hplan item.withoutSkipped_withoutSkipped
  rw [derive, hplan₀, ← Plan.expansion_eq setup.library hsame]
  rfl

/-- A skipped field of a generic type, with the name of a member. -/
theorem skipped_fields_unseen_generic :
    let value : ItemField := ⟨"value", [.ident "u8"], []⟩
    let cache : ItemField :=
      ⟨"cache", Code.template "Vec<T>", [.reflect [⟨"rename", .value (.text "value")⟩, ⟨"readonly", .nothing⟩],
        .reflect [⟨"skip", .nothing⟩]]⟩
    let item (fields : List ItemField) : Item := { Item.player with params := [.type "T" []], fields }
    ∃ code, derive .usual (item [cache, value]) = .ok code ∧ derive .usual (item [value]) = .ok code := by
  intro value cache item
  obtain ⟨code, h⟩ : ∃ code, derive .usual (item [cache, value]) = .ok code := ⟨_, rfl⟩
  obtain ⟨code', h'⟩ : ∃ code, derive .usual (item [value]) = .ok code := ⟨_, rfl⟩
  have heq : (item [cache, value]).withoutSkipped = (item [value]).withoutSkipped := rfl
  obtain ⟨rfl, -, -⟩ := skipped_fields_unseen h h' heq
  exact ⟨code, h, h'⟩

end Reflection.Derive
