import Reflection.Proofs.CollectedDocs
/-!
# Doc attributes that are lists

A doc attribute that is a list has no text. It is passed over behind an entry for docs, and refused before the first
one, unless no docs are collected (`foldAttributes_docList`). So an item goes on to be accepted, with the same code,
exactly if docs are settled by what stands before the place where such an attribute is put, be it a place of the type
or of one of its fields (`docList_outcome`).
-/

namespace Reflection.Derive

/-! ## One more attribute -/

section Attributes
variable {α : Type} {docs : α → Docs} {setDocs : α → Docs → α} {entry : α → Entry → Except DeriveError α} {start : α}

theorem foldAttributes_append (before after : List Attribute) :
    foldAttributes docs setDocs entry start (before ++ after) =
      foldAttributes docs setDocs entry start before >>= fun a => foldAttributes docs setDocs entry a after :=
  List.foldlM_append

/-- A doc attribute that is a list is passed over once docs are settled, and refused before. -/
theorem foldAttributes_docList (hk : KeepsDocs docs setDocs entry) (a : α) (after : List Attribute) :
    foldAttributes docs setDocs entry a (.docList :: after) =
      if (docs a).settled then foldAttributes docs setDocs entry a after else .error .noValue := by
  have hlist : (docs a).addList = if (docs a).settled then .ok (docs a) else .error .noValue := by
    unfold Docs.addList Docs.settled
    cases (docs a).enabled && !(docs a).custom <;> rfl
  have hcons : foldAttributes docs setDocs entry a (.docList :: after) =
      (docs a).addList.map (setDocs a) >>= fun a => foldAttributes docs setDocs entry a after := List.foldlM_cons
  rw [hcons, hlist]
  cases (docs a).settled with
  | true =>
    show foldAttributes docs setDocs entry (setDocs a (docs a)) after = _
    rw [hk.setDocs_docs]
    rfl
  | false => rfl

/-- What an attribute list comes to with one more attribute. Before the place nothing changes, and what has been
taken there tells whether docs are settled. -/
theorem foldAttributes_insert (hk : KeepsDocs docs setDocs entry) {before : List Attribute} {settled : Bool}
    (hsettled : ∀ a, foldAttributes docs setDocs entry start before = .ok a → (docs a).settled = settled)
    (after : List Attribute) :
    (settled = true → foldAttributes docs setDocs entry start (before ++ .docList :: after) =
      foldAttributes docs setDocs entry start (before ++ after)) ∧
    (settled = false → ∀ a, foldAttributes docs setDocs entry start (before ++ after) = .ok a →
      foldAttributes docs setDocs entry start (before ++ .docList :: after) = .error .noValue) := by
  rw [foldAttributes_append, foldAttributes_append]
  cases hbefore : foldAttributes docs setDocs entry start before with
  | error e => exact ⟨fun _ => rfl, fun _ a h => nomatch h⟩
  | ok a =>
    have hlist := foldAttributes_docList hk a after
    rw [hsettled a hbefore] at hlist
    constructor
    · rintro rfl
      exact hlist
    · rintro rfl _ _
      exact hlist

end Attributes

variable {collect : Bool}

/-- Puts a doc attribute that is a list among others. -/
def withDocList (before after : List Attribute) : List Attribute := before ++ .docList :: after

section Places
variable (before after : List Attribute)

theorem typeAttributes_docList :
    (docsSettled collect (entriesOf before) = true → TypeAttributes.ofAttributes collect (withDocList before after) =
      TypeAttributes.ofAttributes collect (before ++ after)) ∧
    (docsSettled collect (entriesOf before) = false → ∀ a,
      TypeAttributes.ofAttributes collect (before ++ after) = .ok a →
      TypeAttributes.ofAttributes collect (withDocList before after) = .error .noValue) :=
  foldAttributes_insert TypeAttributes.keepsDocs (fun _ h => ((ends_typeAttributes before).of_eq_ok h).docs) after

theorem fieldAttributes_docList :
    (docsSettled collect (entriesOf before) = true → FieldAttributes.ofAttributes collect (withDocList before after) =
      FieldAttributes.ofAttributes collect (before ++ after)) ∧
    (docsSettled collect (entriesOf before) = false → ∀ a,
      FieldAttributes.ofAttributes collect (before ++ after) = .ok a →
      FieldAttributes.ofAttributes collect (withDocList before after) = .error .noValue) :=
  foldAttributes_insert FieldAttributes.keepsDocs (fun _ h => ((ends_fieldAttributes before).of_eq_ok h).docs) after

end Places

/-! ## One field with other attributes -/

/-- A field ends the planning, or it goes on from what that field has made of it. -/
theorem planFields_first (earlier : List PlannedField) (next : Nat) (f : ItemField) :
    (∃ e, ∀ rest, planFields collect earlier next (f :: rest) = .error e) ∨
      ∃ planned next', ∀ rest, planFields collect earlier next (f :: rest) = planFields collect planned next' rest := by
  simp only [planFields]
  cases FieldAttributes.ofAttributes collect f.attrs with
  | error e => exact .inl ⟨e, fun _ => rfl⟩
  | ok attrs =>
    simp only [bind, Except.bind]
    generalize hindex : (if attrs.skip then none else some next) = index
    by_cases hcollides : (index.isSome &&
        earlier.any fun other => other.index.isSome && other.name == attrs.rename.getD f.ident) = true
    · simp only [if_pos hcollides]
      exact .inl ⟨_, fun _ => rfl⟩
    · simp only [if_neg hcollides]
      exact .inr ⟨_, _, fun _ => rfl⟩

theorem planFields_append (earlier : List PlannedField) (next : Nat) (fields : List ItemField) :
    (∃ e, ∀ rest, planFields collect earlier next (fields ++ rest) = .error e) ∨
      ∃ planned next', ∀ rest,
        planFields collect earlier next (fields ++ rest) = planFields collect planned next' rest := by
  induction fields generalizing earlier next with
  | nil => exact .inr ⟨earlier, next, fun _ => rfl⟩
  | cons f fields ih =>
    obtain ⟨e, hend⟩ | ⟨planned, next', hgo⟩ := planFields_first earlier next f
    · exact .inl ⟨e, fun rest => hend (fields ++ rest)⟩
    · simp only [List.cons_append, hgo]
      exact ih planned next'

section Field
variable {earlier : List PlannedField} {next : Nat} {f g : ItemField} (fields rest : List ItemField)

/-- Of a field's attributes the planning looks at what they come to. -/
theorem planFields_congr (hident : f.ident = g.ident) (htype : f.type = g.type)
    (hattrs : FieldAttributes.ofAttributes collect f.attrs = FieldAttributes.ofAttributes collect g.attrs) :
    planFields collect earlier next (fields ++ f :: rest) = planFields collect earlier next (fields ++ g :: rest) := by
  obtain ⟨e, h⟩ | ⟨planned, next', h⟩ := planFields_append earlier next fields
  · rw [h, h]
  · rw [h, h, planFields, planFields, hident, htype, hattrs]

/-- If only the attributes of one field are refused, the planning ends with their error. -/
theorem planFields_error {all : List PlannedField} {e : DeriveError}
    (h : planFields collect earlier next (fields ++ f :: rest) = .ok all)
    (he : FieldAttributes.ofAttributes collect g.attrs = .error e) :
    planFields collect earlier next (fields ++ g :: rest) = .error e := by
  obtain ⟨e', hend⟩ | ⟨planned, next', hgo⟩ := planFields_append earlier next fields
  · cases (hend _).symm.trans h
  · rw [hgo, planFields, he]
    rfl

end Field

/-! ## Items -/

/-- If an item is accepted, other attributes and fields are all that it can be refused for. -/
theorem Plan.ofItem_of_ofItem {item : Item} {plan : Plan} (h : ofItem collect item = .ok plan) (attrs : List Attribute)
    (fields : List ItemField) :
    ofItem collect { item with attrs, fields } = (do
      let typeAttrs ← TypeAttributes.ofAttributes collect attrs
      let planned ← planFields collect [] 0 fields
      return ⟨item.ident, typeAttrs.typePath, typeAttrs.docs.text?, item.params, item.predicates, planned⟩) := by
  simp only [ofItem, bind, Except.bind] at h ⊢
  split at h
  · cases h
  rename_i hconst
  split at h
  · cases h
  rename_i hshape
  rw [if_neg hconst, if_neg hshape]

section Items
variable {setup : Setup} {item : Item} {code : List Code.Token} (h : derive setup item = .ok code)
include h

theorem derive_typeDocList {before after : List Attribute} (hattrs : item.attrs = before ++ after) :
    derive setup { item with attrs := withDocList before after } =
      if docsSettled setup.collect (entriesOf before) then .ok code else .error .noValue := by
  obtain ⟨plan, hplan, -⟩ := map_eq_ok h
  obtain ⟨hsame, herror⟩ := typeAttributes_docList before after
  obtain ⟨attrs, ha, -, -⟩ := Plan.ofItem_eq_ok hplan
  have hmarked := Plan.ofItem_of_ofItem hplan (withDocList before after) item.fields
  cases hdoc : docsSettled setup.collect (entriesOf before) with
  | true =>
    have hitem := Plan.ofItem_of_ofItem hplan item.attrs item.fields
    rw [derive, hmarked, hsame hdoc, ← hattrs, ← hitem]
    exact h
  | false =>
    rw [derive, hmarked, herror hdoc attrs (hattrs ▸ ha)]
    rfl

theorem derive_fieldDocList {fields rest : List ItemField} {f : ItemField} {before after : List Attribute}
    (hfields : item.fields = fields ++ f :: rest) (hattrs : f.attrs = before ++ after) :
    derive setup { item with fields := fields ++ { f with attrs := withDocList before after } :: rest } =
      if docsSettled setup.collect (entriesOf before) then .ok code else .error .noValue := by
  obtain ⟨plan, hplan, -⟩ := map_eq_ok h
  obtain ⟨hsame, herror⟩ := fieldAttributes_docList before after
  obtain ⟨typeAttrs, htype, hplanned, -⟩ := Plan.ofItem_eq_ok hplan
  have hmarked := Plan.ofItem_of_ofItem hplan item.attrs (fields ++ { f with attrs := withDocList before after } :: rest)
  cases hdoc : docsSettled setup.collect (entriesOf before) with
  | true =>
    have hitem := Plan.ofItem_of_ofItem hplan item.attrs item.fields
    have hcongr : planFields setup.collect [] 0 (fields ++ { f with attrs := withDocList before after } :: rest) =
        planFields setup.collect [] 0 (fields ++ f :: rest) :=
      planFields_congr fields rest rfl rfl (hattrs ▸ hsame hdoc)
    rw [derive, hmarked, hcongr, ← hfields, ← hitem]
    exact h
  | false =>
    obtain ⟨attrs, ha⟩ := Plan.attributes_of_ofItem hplan f (by simp [hfields])
    have hrefused := planFields_error (g := { f with attrs := withDocList before after }) fields rest
      (hfields ▸ hplanned) (herror hdoc attrs (hattrs ▸ ha))
    rw [derive, hmarked, htype, hrefused]
    rfl

end Items

/-- What comes of one more doc attribute that is a list, at any place of the attributes of a type or a field that are
accepted. Behind an entry for docs it changes nothing, and before the first one it is refused if docs are collected. -/
theorem docList_outcome {setup : Setup} {item : Item} {code : List Code.Token} (h : derive setup item = .ok code) :
    (∀ before after, item.attrs = before ++ after →
      derive setup { item with attrs := withDocList before after } =
        if docsSettled setup.collect (entriesOf before) then .ok code else .error .noValue) ∧
    ∀ fields f rest, item.fields = fields ++ f :: rest → ∀ before after, f.attrs = before ++ after →
      derive setup { item with fields := fields ++ { f with attrs := withDocList before after } :: rest } =
        if docsSettled setup.collect (entriesOf before) then .ok code else .error .noValue :=
  ⟨fun _ _ => derive_typeDocList h, fun _ _ _ hfields _ _ => derive_fieldDocList h hfields⟩

/-- Two places of one field, and one of the type. -/
theorem docList_outcome_places :
    let setup : Setup := { Setup.usual with collect := true }
    let custom : Attribute := .reflect [⟨"doc", .value (.text "Custom.")⟩]
    let level (attrs : List Attribute) : ItemField := ⟨"level", [.ident "u8"], attrs⟩
    let item (attrs fieldAttrs : List Attribute) : Item := { Item.player with attrs, fields := [level fieldAttrs] }
    ∃ code, derive setup (item [.doc (.text "Text.")] [custom]) = .ok code ∧
      derive setup (item [.doc (.text "Text.")] [custom, .docList]) = .ok code ∧
      derive setup (item [.doc (.text "Text.")] [.docList, custom]) = .error .noValue ∧
      derive setup (item [.doc (.text "Text."), .docList] [custom]) = .error .noValue := by
  intro setup custom level item
  obtain ⟨code, h⟩ : ∃ code, derive setup (item [.doc (.text "Text.")] [custom]) = .ok code := ⟨_, rfl⟩
  obtain ⟨htype, hfield⟩ := docList_outcome h
  exact ⟨code, h, hfield [] _ [] rfl [custom] [] rfl, hfield [] _ [] rfl [] [custom] rfl,
    htype [.doc (.text "Text.")] [] rfl⟩

/-- Whether a field is accepted depends on which side of its entry for docs the list stands. -/
theorem docList_refused :
    let setup : Setup := { Setup.usual with collect := true }
    let custom : Attribute := .reflect [⟨"doc", .value (.text "Custom.")⟩]
    let item (attrs : List Attribute) : Item := { Item.player with fields := [⟨"level", [.ident "u8"], attrs⟩] }
    ∃ code, derive setup (item [custom]) = .ok code ∧ derive setup (item [custom, .docList]) = .ok code ∧
      derive setup (item [.docList, custom]) = .error .noValue :=
  ⟨_, rfl, rfl, rfl⟩

end Reflection.Derive
